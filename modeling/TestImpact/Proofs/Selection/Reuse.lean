import TestImpact.Proofs.Diff.Sections
import TestImpact.Proofs.Project

/-
  One index and many questions.

  Between two questions to an index the files may change in any way, so each
  question brings the files as they are when it is asked. The index reads its
  project for the first question that needs it, from the files of that question;
  a reading that fails leaves it as it was, and the next question that needs the
  project tries again (`reader?`). From then on the files are not looked at.

  What is proved:
    1. what one question does to an index that has its project (`ask_read`) and
       to one that does not (`ask_unread`, `ask_unread_of_none`), and when the
       answer tells of a reading (`tellsOfReading_ask_unread`);
    2. that an index after any questions knows the project of their reader
       (`after_unread`), by one more question at a time (`knowing_ask`);
    3. that its next answer is the one of an index that is asked for the first
       time, with the files of the reader (`ask_reads_once`).
-/

namespace TestImpact

/-- A question to an index: a diff, what decides, and the files as they are when it is asked. -/
structure Question where
  files : FileTree
  criteria : Criteria
  diff : String

namespace Question

/-- Whether the project is needed: the diff can be read, and a file of it has one of the
endings. -/
def needsProject (q : Question) : Bool :=
  match Diff.read q.diff with
  | .ok (diff, _) => !(diff.restrict q.criteria.extensions).isEmpty
  | .error _ => false

/-- The project that the files of a question hold, if it can be read. -/
def project? (spec : ProjectSpec) (q : Question) : Option Project :=
  (Project.read spec q.files).toOption.map (·.1)

/-- The first of some questions that needs the project of a place and finds it readable. -/
def reader? (spec : ProjectSpec) (qs : List Question) : Option Question :=
  qs.find? fun q => q.needsProject && (project? spec q).isSome

/-- What is to be answered if the project is known. -/
def answerFrom (q : Question) (p : Project) : Except SelectionError Selection :=
  match Diff.read q.diff with
  | .ok (diff, _) => .ok (p.selection q.criteria diff)
  | .error fault => .error (.diff fault)

end Question

abbrev Answer := Except SelectionError (Selection × List Note)

/-- The answer says that the project was read for it: it has the note of a reading, or a source
file has ended the reading with a fault. -/
def Answer.TellsOfReading : Answer → Prop
  | .ok (_, notes) => ∃ functions edges, Note.indexed functions edges ∈ notes
  | .error (.source _) => True
  | .error (.diff _) => False

namespace Index

/-- The index after a question, and the answer. -/
def ask (i : Index) (q : Question) : Index × Answer :=
  match i.select q.files q.criteria q.diff with
  | .ok (j, selection, notes) => (j, .ok (selection, notes))
  | .error fault => (i, .error fault)

def after (i : Index) (qs : List Question) : Index := qs.foldl (fun i q => (i.ask q).1) i

end Index

/-! ### Notes of a reading -/

section Notes

variable {functions edges : Nat}

theorem Diff.Reading.indexed_notMem_step {r next : Diff.Reading} {line : List Char}
    (h : r.step line = .ok next) (hr : Note.indexed functions edges ∉ r.notes) :
    Note.indexed functions edges ∉ next.notes := by
  unfold Diff.Reading.step at h
  split at h
  case h_1 => cases h; exact hr
  case h_2 => cases h; exact hr
  case h_3 => cases h; simpa using hr
  case h_4 header _ =>
    split at h
    · cases h; simpa using hr
    · split at h
      · cases h
      · cases h; exact hr
      · cases h; exact hr

theorem Diff.Reading.indexed_notMem_run {r last : Diff.Reading} {lines : List (List Char)}
    (h : r.run lines = .ok last) (hr : Note.indexed functions edges ∉ r.notes) :
    Note.indexed functions edges ∉ last.notes := by
  induction lines generalizing r with
  | nil =>
    obtain rfl : r = last := Except.ok.inj h
    exact hr
  | cons line rest ih =>
    unfold Diff.Reading.run at h
    cases hstep : r.step line with
    | error fault =>
      rw [hstep] at h
      cases h
    | ok next =>
      rw [hstep] at h
      exact ih h (indexed_notMem_step hstep hr)

theorem Diff.indexed_notMem_read {text : String} {diff : Diff} {notes : List Note}
    (h : Diff.read text = .ok (diff, notes)) : Note.indexed functions edges ∉ notes := by
  obtain ⟨last, hrun, -, rfl⟩ := Diff.read_eq_ok.mp h
  simpa using Diff.Reading.indexed_notMem_run hrun (by simp)

theorem Project.indexed_mem_read {spec : ProjectSpec} {t : FileTree} {p : Project}
    {notes : List Note} (h : Project.read spec t = .ok (p, notes)) :
    Note.indexed p.functions.length p.edges.length ∈ notes := by
  obtain ⟨o, fileNotes, -, -, rfl⟩ := exists_outline h
  simp

end Notes

/-! ### One question -/

namespace Index

variable {i j : Index} {q : Question}

theorem ask_of_force {p : Project} {projectNotes : List Note} (hneeds : q.needsProject = true)
    (hforce : i.force q.files = .ok (j, p, projectNotes)) :
    (i.ask q).1 = j ∧ (i.ask q).2.map (·.1) = q.answerFrom p ∧
      ((i.ask q).2.TellsOfReading ↔
        ∃ functions edges, Note.indexed functions edges ∈ projectNotes) := by
  unfold Question.needsProject at hneeds
  cases hdiff : Diff.read q.diff with
  | error fault => simp [hdiff] at hneeds
  | ok result =>
    obtain ⟨diff, diffNotes⟩ := result
    have hkept : ¬ (diff.restrict q.criteria.extensions).isEmpty = true := by
      simpa [hdiff] using hneeds
    obtain ⟨paths, more, hselect, hmore⟩ := select_of_kept hforce hdiff hkept
    refine ⟨by simp only [ask, hselect], ?_, ?_⟩
    · simp only [ask, hselect, Question.answerFrom, hdiff]
      rfl
    · have hdiffNotes : ∀ functions edges, Note.indexed functions edges ∉ diffNotes :=
        fun _ _ => Diff.indexed_notMem_read hdiff
      simp [ask, hselect, Answer.TellsOfReading, hmore, hdiffNotes]

theorem ask_of_fault {fault : SourceError} (hneeds : q.needsProject = true)
    (hforce : i.force q.files = .error fault) : i.ask q = (i, .error (.source fault)) := by
  unfold Question.needsProject at hneeds
  cases hdiff : Diff.read q.diff with
  | error fault => simp [hdiff] at hneeds
  | ok result =>
    have hkept : (result.1.restrict q.criteria.extensions).isEmpty = false := by
      simpa [hdiff] using hneeds
    simp [ask, select, changedBy, hdiff, hkept, hforce]

theorem ask_of_not_needs (hneeds : q.needsProject = false) :
    (i.ask q).1 = i ∧ (∀ p, (i.ask q).2.map (·.1) = q.answerFrom p) ∧
      ¬ (i.ask q).2.TellsOfReading := by
  unfold Question.needsProject at hneeds
  cases hdiff : Diff.read q.diff with
  | error fault =>
    have hask : i.ask q = (i, .error (.diff fault)) := by simp [ask, select, changedBy, hdiff]
    refine ⟨by rw [hask], fun p => ?_, by simp [hask, Answer.TellsOfReading]⟩
    simp only [hask, Question.answerFrom, hdiff]
    rfl
  | ok result =>
    obtain ⟨diff, diffNotes⟩ := result
    have hempty : (diff.restrict q.criteria.extensions).isEmpty = true := by
      simpa [hdiff] using hneeds
    have hask : i.ask q = (i, .ok (⟨[], []⟩, diffNotes ++ [.noChangedFiles])) := by
      simp only [ask, select_of_isEmpty hdiff hempty]
    refine ⟨by rw [hask], fun p => ?_, ?_⟩
    · simp only [hask, Question.answerFrom, hdiff, Project.selection_of_isEmpty hempty]
      rfl
    · have hdiffNotes : ∀ functions edges, Note.indexed functions edges ∉ diffNotes :=
        fun _ _ => Diff.indexed_notMem_read hdiff
      simp [hask, Answer.TellsOfReading, hdiffNotes]

variable {spec : ProjectSpec}

/-- An index that has its project answers from it, whatever has become of the files. -/
theorem ask_read (spec : ProjectSpec) (p : Project) (q : Question) :
    let i : Index := ⟨spec, some p⟩
    (i.ask q).1 = i ∧ (i.ask q).2.map (·.1) = q.answerFrom p ∧ ¬ (i.ask q).2.TellsOfReading := by
  intro i
  cases hneeds : q.needsProject with
  | true =>
    obtain ⟨hindex, hanswer, htells⟩ := ask_of_force (i := i) hneeds rfl
    exact ⟨hindex, hanswer, by simpa using htells⟩
  | false =>
    obtain ⟨hindex, hanswer, htells⟩ := ask_of_not_needs (i := i) hneeds
    exact ⟨hindex, hanswer p, htells⟩

/-- An index without its project answers from the files of the question, and keeps what it has
read of them if the question needs the project. -/
theorem ask_unread {p : Project} (hproject : Question.project? spec q = some p) :
    ((unread spec).ask q).1 = ⟨spec, if q.needsProject then some p else none⟩ ∧
      ((unread spec).ask q).2.map (·.1) = q.answerFrom p := by
  unfold Question.project? at hproject
  cases hread : Project.read spec q.files with
  | error fault => simp [hread, Except.toOption] at hproject
  | ok result =>
    obtain rfl : result.1 = p := by simpa [hread, Except.toOption] using hproject
    cases hneeds : q.needsProject with
    | true =>
      obtain ⟨hindex, hanswer, -⟩ := ask_of_force hneeds (force_of_read hread)
      exact ⟨hindex, hanswer⟩
    | false =>
      obtain ⟨hindex, hanswer, -⟩ := ask_of_not_needs (i := unread spec) hneeds
      exact ⟨hindex, hanswer result.1⟩

theorem ask_unread_of_none (hproject : Question.project? spec q = none) :
    ((unread spec).ask q).1 = unread spec := by
  unfold Question.project? at hproject
  cases hread : Project.read spec q.files with
  | ok result => simp [hread, Except.toOption] at hproject
  | error fault =>
    cases hneeds : q.needsProject with
    | true => rw [ask_of_fault hneeds (force_of_fault hread)]
    | false => exact (ask_of_not_needs hneeds).1

/-- An index without its project reads it if and only if the question needs it. -/
theorem tellsOfReading_ask_unread (spec : ProjectSpec) (q : Question) :
    ((unread spec).ask q).2.TellsOfReading ↔ q.needsProject = true := by
  cases hneeds : q.needsProject with
  | false => simpa using (ask_of_not_needs hneeds).2.2
  | true =>
    refine iff_of_true ?_ rfl
    cases hread : Project.read spec q.files with
    | error fault =>
      rw [ask_of_fault hneeds (force_of_fault hread)]
      trivial
    | ok result =>
      obtain ⟨-, -, htells⟩ := ask_of_force hneeds (force_of_read hread)
      exact htells.mpr ⟨_, _, Project.indexed_mem_read hread⟩

/-! ### Many questions -/

/-- The index that knows the project of its reader. -/
def knowing (spec : ProjectSpec) (reader : Option Question) : Index :=
  ⟨spec, reader.bind (Question.project? spec)⟩

theorem after_append (i : Index) (asked : List Question) (q : Question) :
    i.after (asked ++ [q]) = ((i.after asked).ask q).1 := by
  simp [after, List.foldl_append]

theorem knowing_none : knowing spec none = unread spec := rfl

theorem exists_project {asked : List Question} {r : Question}
    (h : Question.reader? spec asked = some r) :
    ∃ p, Question.project? spec r = some p ∧ knowing spec (some r) = ⟨spec, some p⟩ := by
  have hr := List.find?_some h
  obtain ⟨-, hsome⟩ : r.needsProject = true ∧ (Question.project? spec r).isSome = true := by
    simpa using hr
  obtain ⟨p, hp⟩ := Option.isSome_iff_exists.mp hsome
  exact ⟨p, hp, by simp [knowing, hp]⟩

/-- One more question: the index that knows the project of a reader keeps it, and the index that
knows none reads for the question if that is a reader. -/
theorem knowing_ask (asked : List Question) (q : Question) :
    ((knowing spec (Question.reader? spec asked)).ask q).1
      = knowing spec (Question.reader? spec (asked ++ [q])) := by
  cases hreader : Question.reader? spec asked with
  | some r =>
    have hlater : Question.reader? spec (asked ++ [q]) = some r := by
      rw [Question.reader?, List.find?_append, ← Question.reader?, hreader, Option.some_or]
    obtain ⟨p, -, hknows⟩ := exists_project hreader
    rw [hlater, hknows]
    exact (ask_read spec p q).1
  | none =>
    have hlater : Question.reader? spec (asked ++ [q]) = Question.reader? spec [q] := by
      rw [Question.reader?, List.find?_append, ← Question.reader?, hreader, Option.none_or]
      rfl
    rw [hlater, knowing_none]
    cases hproject : Question.project? spec q with
    | none =>
      rw [ask_unread_of_none hproject]
      simp [Question.reader?, hproject, knowing, unread]
    | some p =>
      rw [(ask_unread hproject).1]
      cases hneeds : q.needsProject with
      | true => simp [Question.reader?, hproject, hneeds, knowing]
      | false => simp [Question.reader?, hneeds, knowing]

/-- After any questions, the index knows the project of their reader. -/
theorem after_unread (spec : ProjectSpec) (asked : List Question) :
    (unread spec).after asked = knowing spec (Question.reader? spec asked) := by
  -- The last question is taken off, because the reader is the first of those before it.
  induction asked using List.reverseRecOn with
  | nil => rfl
  | append_singleton asked q ih => rw [after_append, ih, knowing_ask]

/-- **An index reads its project once.** Its questions come with the files as they are when they
are asked. After any of them, the index knows the functions and the edges of one reading, the
first that was needed and had no fault, and knows nothing if there was none. So the next question
makes it read if and only if it needs the project and no reading before has been kept; and its
answer is that of an index asked for the first time, with the files of that reading. -/
theorem ask_reads_once (spec : ProjectSpec) (asked : List Question) (q : Question) :
    let i := (unread spec).after asked
    i = ⟨spec, (Question.reader? spec asked).bind (Question.project? spec)⟩ ∧
    ((i.ask q).2.TellsOfReading ↔
      q.needsProject = true ∧ Question.reader? spec asked = none) ∧
    (i.ask q).2.map (·.1) =
      ((unread spec).ask { q with files :=
        ((Question.reader? spec asked).map (·.files)).getD q.files }).2.map (·.1) := by
  intro i
  have hi : i = knowing spec (Question.reader? spec asked) := after_unread spec asked
  refine ⟨hi, ?_⟩
  rw [hi]
  cases hreader : Question.reader? spec asked with
  | none => exact ⟨by simpa [knowing_none] using tellsOfReading_ask_unread spec q, rfl⟩
  | some r =>
    obtain ⟨p, hp, hknows⟩ := exists_project hreader
    obtain ⟨-, hanswer, htells⟩ := ask_read spec p q
    rw [hknows]
    refine ⟨iff_of_false htells (by simp), ?_⟩
    -- The project is that of the files of the reader, so the answer does not depend on who asks.
    let first : Question := { q with files := r.files }
    have hfirst : Question.project? spec first = some p := hp
    calc (ask ⟨spec, some p⟩ q).2.map (·.1)
        = q.answerFrom p := hanswer
      _ = first.answerFrom p := rfl
      _ = ((unread spec).ask first).2.map (·.1) := (ask_unread hfirst).2.symm

end Index

end TestImpact
