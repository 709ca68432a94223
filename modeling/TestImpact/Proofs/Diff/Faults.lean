import TestImpact.Proofs.Diff.Sections

/-
  When a diff text cannot be read.

  A hunk header is faulty if its start or its count has too many digits, or if
  it has lines and starts at 0 (`IsFaulty`); which fault counts, if there are
  several, is the order of `Fault`. Only a hunk header after the first file
  header is looked at so closely.

  1. One line: reading it fails if and only if a file is open and the line is a
     faulty hunk header (`Reading.step_eq_error_iff`).
  2. A run: it fails at the first such line, with its fault
     (`Reading.run_eq_error_iff`), and goes through if there is none
     (`Reading.run_eq_ok_iff`).
  3. A text: `read_fails_exactly`. All other texts are read.
-/

namespace TestImpact.Diff

open TestImpact.Text

namespace HunkHeader

variable {h : HunkHeader}

/-- The start or the count has too many digits, or the hunk has lines and starts at 0. -/
def IsFaulty (h : HunkHeader) : Prop :=
  digitLimit < h.start.length ∨ (∃ digits ∈ h.count, digitLimit < digits.length) ∨
    (h.newCount ≠ 0 ∧ numberOf h.start = 0)

/-- What is wrong with a hunk header: the digits of the start are counted first, then those of
the count, and then the start has to be a line. -/
inductive Fault (h : HunkHeader) : ReadError → Prop
  | longStart (hstart : digitLimit < h.start.length) : Fault h (.tooManyDigits h.start.length)
  | longCount {digits : List Char} (hstart : h.start.length ≤ digitLimit)
      (hcount : h.count = some digits) (hlong : digitLimit < digits.length) :
      Fault h (.tooManyDigits digits.length)
  | startsAtZero (hstart : h.start.length ≤ digitLimit)
      (hcount : ∀ digits ∈ h.count, digits.length ≤ digitLimit) (hlines : h.newCount ≠ 0)
      (hzero : numberOf h.start = 0) : Fault h (.badRange (.startBelowOne 0))

/-! ## One hunk header -/

theorem Fault.isFaulty {e : ReadError} (hfault : h.Fault e) : h.IsFaulty := by
  cases hfault with
  | longStart hstart => exact .inl hstart
  | longCount _ hcount hlong => exact .inr (.inl ⟨_, hcount, hlong⟩)
  | startsAtZero _ _ hlines hzero => exact .inr (.inr ⟨hlines, hzero⟩)

theorem linesFrom?_zero {count : Nat} (h : count ≠ 0) :
    linesFrom? 0 count = .error (.badRange (.startBelowOne 0)) := by
  rw [linesFrom?, if_neg h]
  rfl

theorem exists_linesFrom?_eq_ok {start count : Nat} (h : ¬(count ≠ 0 ∧ start = 0)) :
    ∃ range?, linesFrom? start count = .ok range? := by
  unfold linesFrom?
  split
  · exact ⟨none, rfl⟩
  · rw [LineRange.make, dif_neg (by omega), dif_neg (by omega)]
    exact ⟨_, rfl⟩

theorem lines?_of_isFaulty (hfaulty : h.IsFaulty) : ∃ e, h.Fault e ∧ h.lines? = .error e := by
  by_cases hstart : digitLimit < h.start.length
  · refine ⟨_, .longStart hstart, ?_⟩
    rw [lines?, readNumber, if_pos hstart]
    rfl
  · rw [Nat.not_lt] at hstart
    by_cases hlong : ∃ digits ∈ h.count, digitLimit < digits.length
    · obtain ⟨digits, hcount, hdigits⟩ := hlong
      refine ⟨_, .longCount hstart hcount hdigits, ?_⟩
      rw [lines?, readNumber_of_le hstart, Option.mem_def.mp hcount]
      simp only [readNumber, if_pos hdigits]
      rfl
    · have hcount : ∀ digits ∈ h.count, digits.length ≤ digitLimit := fun digits hdigits =>
        Nat.not_lt.mp fun hlt => hlong ⟨digits, hdigits, hlt⟩
      obtain hlt | hdigits | ⟨hlines, hzero⟩ := hfaulty
      · omega
      · exact absurd hdigits hlong
      · refine ⟨_, .startsAtZero hstart hcount hlines hzero, ?_⟩
        rw [lines?_eq_linesFrom? hstart hcount, hzero, linesFrom?_zero hlines]

theorem exists_lines?_eq_ok (hsound : ¬h.IsFaulty) : ∃ range?, h.lines? = .ok range? := by
  have hstart : h.start.length ≤ digitLimit := Nat.not_lt.mp fun hlt => hsound (.inl hlt)
  have hcount : ∀ digits ∈ h.count, digits.length ≤ digitLimit := fun digits hdigits =>
    Nat.not_lt.mp fun hlt => hsound (.inr (.inl ⟨digits, hdigits, hlt⟩))
  rw [lines?_eq_linesFrom? hstart hcount]
  exact exists_linesFrom?_eq_ok fun hzero => hsound (.inr (.inr hzero))

/-- A hunk header has at most one fault that counts. -/
theorem Fault.unique {e e' : ReadError} (hfault : h.Fault e) (hfault' : h.Fault e') : e = e' := by
  cases hfault with
  | longStart hstart =>
    cases hfault' with
    | longStart => rfl
    | longCount hstart' => omega
    | startsAtZero hstart' => omega
  | longCount hstart hcount hlong =>
    cases hfault' with
    | longStart hstart' => omega
    | longCount _ hcount' =>
      obtain rfl := Option.some.inj (hcount.symm.trans hcount')
      rfl
    | startsAtZero _ hcount' => exact absurd (hcount' _ hcount) (Nat.not_le.mpr hlong)
  | startsAtZero hstart hcount =>
    cases hfault' with
    | longStart hstart' => omega
    | longCount _ hcount' hlong => exact absurd (hcount _ hcount') (Nat.not_le.mpr hlong)
    | startsAtZero => rfl

theorem lines?_eq_error_iff {e : ReadError} : h.lines? = .error e ↔ h.Fault e := by
  constructor
  · intro hread
    by_cases hfaulty : h.IsFaulty
    · obtain ⟨e', hfault, hread'⟩ := lines?_of_isFaulty hfaulty
      obtain rfl : e' = e := by simpa [hread'] using hread
      exact hfault
    · obtain ⟨range?, hread'⟩ := exists_lines?_eq_ok hfaulty
      simp [hread'] at hread
  · intro hfault
    obtain ⟨e', hfault', hread⟩ := lines?_of_isFaulty hfault.isFaulty
    rw [hread, hfault'.unique hfault]

end HunkHeader

namespace Reading

variable {r next : Reading} {e : ReadError}

/-! ## One line -/

/-- A line ends the reading if it is a faulty hunk header of an open file. -/
theorem step_eq_error_iff {line : List Char} :
    r.step line = .error e ↔ r.current ≠ none ∧ ∃ h, IsHunk line h ∧ h.Fault e := by
  have hother : (∀ h, Line.read line ≠ .hunk h) → ¬∃ h, IsHunk line h ∧ h.Fault e := by
    intro hread hgiven
    obtain ⟨h, hhunk, -⟩ := hgiven
    exact hread h (read_eq_hunk.mpr hhunk)
  cases hread : Line.read line with
  | fileHeader path => simp [step, hread, hother (by simp [hread])]
  | content => simp [step, hread, hother (by simp [hread])]
  | malformed text => simp [step, hread, hother (by simp [hread])]
  | hunk h =>
    have hhunk := read_eq_hunk.mp hread
    cases hcurrent : r.current with
    | none => simp [step, hread, hcurrent]
    | some d =>
      have hfault : (∃ h, IsHunk line h ∧ h.Fault e) ↔ h.Fault e := by
        constructor
        · intro hgiven
          obtain ⟨h', hhunk', hfault⟩ := hgiven
          exact hhunk.unique hhunk' ▸ hfault
        · exact fun hfault => ⟨h, hhunk, hfault⟩
      rw [hfault, ← HunkHeader.lines?_eq_error_iff, step_hunk hhunk hcurrent]
      cases h.lines? with
      | error fault => simp [Except.map]
      | ok range? => simp [Except.map]

theorem step_opens {line : List Char} (h : r.step line = .ok next) :
    next.current ≠ none ↔ r.current ≠ none ∨ ∃ path, IsHeader line path := by
  rcases step_cases h with ⟨path, hheader, -, hcurrent⟩ |
    ⟨hline, ⟨d, range, hopen, -, -, hcurrent⟩ | ⟨-, -, hcurrent⟩⟩
  · simp only [hcurrent, ne_eq, reduceCtorEq, not_false_eq_true, true_iff]
    exact .inr ⟨path, hheader⟩
  · simp [hcurrent, hopen]
  · have hnone : ¬∃ path, IsHeader line path := by
      intro hgiven
      obtain ⟨path, ⟨old, hcut⟩, -⟩ := hgiven
      exact hline old path hcut
    simp [hcurrent, hnone]

/-! ## A run of lines -/

theorem run_opens {lines : List (List Char)} (h : r.run lines = .ok next) :
    next.current ≠ none ↔ r.current ≠ none ∨ ∃ header ∈ lines, ∃ path, IsHeader header path := by
  induction lines generalizing r with
  | nil =>
    obtain rfl : r = next := by simpa [run] using h
    simp
  | cons line rest ih =>
    obtain ⟨stepped, hstep, hrest⟩ := run_cons_eq_ok.mp h
    rw [ih hrest, step_opens hstep, or_assoc]
    simp only [List.exists_mem_cons_iff]

/-- A run that fails does so at one line, which the lines before it lead to. -/
theorem exists_of_run_eq_error {lines : List (List Char)} (h : r.run lines = .error e) :
    ∃ before line after next, lines = before ++ line :: after ∧ r.run before = .ok next ∧
      next.step line = .error e := by
  induction lines generalizing r with
  | nil => simp [run] at h
  | cons line rest ih =>
    unfold run at h
    cases hstep : r.step line with
    | error fault =>
      obtain rfl : fault = e := by simpa [hstep] using h
      exact ⟨[], line, rest, r, rfl, rfl, hstep⟩
    | ok stepped =>
      rw [hstep] at h
      obtain ⟨before, line', after, last, hlines, hrun, hfail⟩ := ih h
      exact ⟨line :: before, line', after, last, by rw [hlines]; rfl,
        by rw [run, hstep]; exact hrun, hfail⟩

theorem exists_run_of_append {before after : List (List Char)} {last : Reading}
    (h : r.run (before ++ after) = .ok last) :
    ∃ next, r.run before = .ok next ∧ next.run after = .ok last := by
  induction before generalizing r with
  | nil => exact ⟨r, rfl, h⟩
  | cons line rest ih =>
    obtain ⟨stepped, hstep, hrest⟩ := run_cons_eq_ok.mp h
    obtain ⟨next, hbefore, hafter⟩ := ih hrest
    exact ⟨next, run_cons_eq_ok.mpr ⟨stepped, hstep, hbefore⟩, hafter⟩

end Reading

/-- A faulty hunk header among some lines, behind the lines `before`, one of which is a file
header. -/
def FaultAt (lines before : List (List Char)) (h : HunkHeader) : Prop :=
  (∃ line after, lines = before ++ line :: after ∧ IsHunk line h) ∧
    (∃ header ∈ before, ∃ path, IsHeader header path) ∧ h.IsFaulty

namespace Reading

variable {r : Reading} {lines : List (List Char)}

/-- The same for the lines that a reading has still before it: a file may be open already. -/
structure FaultAhead (r : Reading) (lines before : List (List Char)) (h : HunkHeader) : Prop where
  reached : ∃ line after, lines = before ++ line :: after ∧ IsHunk line h
  opened : r.current ≠ none ∨ ∃ header ∈ before, ∃ path, IsHeader header path
  faulty : h.IsFaulty

theorem not_faultAhead_of_run {last : Reading} (hrun : r.run lines = .ok last)
    (before : List (List Char)) (h : HunkHeader) : ¬r.FaultAhead lines before h := by
  intro hgiven
  obtain ⟨⟨line, after, rfl, hhunk⟩, hopened, hfaulty⟩ := hgiven
  obtain ⟨next, hbefore, hafter⟩ := exists_run_of_append hrun
  obtain ⟨e, hfault, -⟩ := HunkHeader.lines?_of_isFaulty hfaulty
  have hstep : next.step line = .error e :=
    step_eq_error_iff.mpr ⟨(run_opens hbefore).mpr hopened, h, hhunk, hfault⟩
  obtain ⟨stepped, hstepped, -⟩ := run_cons_eq_ok.mp hafter
  rw [hstep] at hstepped
  cases hstepped

/-- A run that fails does so with the fault of the first faulty hunk header. -/
theorem faultAhead_of_run {e : ReadError} (hrun : r.run lines = .error e) :
    ∃ before h, r.FaultAhead lines before h ∧ h.Fault e ∧
      ∀ before' h', r.FaultAhead lines before' h' →
        before.length ≤ before'.length := by
  obtain ⟨before, line, after, next, rfl, hbefore, hstep⟩ := exists_of_run_eq_error hrun
  obtain ⟨hopen, h, hhunk, hfault⟩ := step_eq_error_iff.mp hstep
  refine ⟨before, h, ⟨⟨line, after, rfl, hhunk⟩, (run_opens hbefore).mp hopen, hfault.isFaulty⟩,
    hfault, fun before' h' hgiven => Nat.not_lt.mp fun hlt => ?_⟩
  -- An earlier one would be among the lines that are read.
  obtain ⟨⟨line', after', hlines, hhunk'⟩, hopened', hfaulty'⟩ := hgiven
  have hreached : before' ++ [line'] <+: before ++ line :: after :=
    ⟨after', by rw [hlines]; simp⟩
  have hshort : before' ++ [line'] <+: before :=
    List.prefix_of_prefix_length_le hreached (List.prefix_append _ _)
      (by simpa using Nat.succ_le_of_lt hlt)
  obtain ⟨between, hbetween⟩ := hshort
  refine not_faultAhead_of_run hbefore before' h' ⟨⟨line', between, ?_, hhunk'⟩, hopened', hfaulty'⟩
  rw [← hbetween]
  simp

theorem run_eq_ok_iff : (∃ last, r.run lines = .ok last) ↔
    ¬∃ before h, r.FaultAhead lines before h := by
  constructor
  · intro hgiven hfault
    obtain ⟨last, hrun⟩ := hgiven
    obtain ⟨before, h, hfault⟩ := hfault
    exact not_faultAhead_of_run hrun before h hfault
  · intro hnone
    cases hrun : r.run lines with
    | ok last => exact ⟨last, rfl⟩
    | error e =>
      obtain ⟨before, h, hfault, -⟩ := faultAhead_of_run hrun
      exact absurd ⟨before, h, hfault⟩ hnone

theorem run_eq_error_iff {e : ReadError} : r.run lines = .error e ↔
    ∃ before h, r.FaultAhead lines before h ∧ h.Fault e ∧
      ∀ before' h', r.FaultAhead lines before' h' →
        before.length ≤ before'.length := by
  refine ⟨faultAhead_of_run, fun hgiven => ?_⟩
  obtain ⟨before, h, hat, hfault, hfirst⟩ := hgiven
  cases hrun : r.run lines with
  | ok last => exact absurd hat (not_faultAhead_of_run hrun before h)
  | error e' =>
    obtain ⟨before', h', hat', hfault', hfirst'⟩ := faultAhead_of_run hrun
    have hlength : before.length = before'.length :=
      Nat.le_antisymm (hfirst before' h' hat') (hfirst' before h hat)
    obtain ⟨line, after, hlines, hhunk⟩ := hat.reached
    obtain ⟨line', after', hlines', hhunk'⟩ := hat'.reached
    obtain ⟨-, hrest⟩ := List.append_inj (hlines.symm.trans hlines') hlength
    obtain ⟨rfl, -⟩ := List.cons.inj hrest
    obtain rfl := hhunk.unique hhunk'
    rw [hfault'.unique hfault]

end Reading

theorem faultAhead_start_iff {lines before : List (List Char)} {h : HunkHeader} :
    Reading.FaultAhead ⟨[], none, []⟩ lines before h ↔ FaultAt lines before h := by
  constructor
  · intro hgiven
    obtain ⟨hreached, hopened, hfaulty⟩ := hgiven
    exact ⟨hreached, hopened.resolve_left (by simp), hfaulty⟩
  · intro hgiven
    obtain ⟨hreached, hopened, hfaulty⟩ := hgiven
    exact ⟨hreached, .inr hopened, hfaulty⟩

theorem read_eq_error_iff {text : String} {e : ReadError} : read text = .error e ↔
    ∃ before h, FaultAt (lines text.toList) before h ∧ h.Fault e ∧
      ∀ before' h', FaultAt (lines text.toList) before' h' → before.length ≤ before'.length := by
  rw [read_eq_error, Reading.run_eq_error_iff]
  simp only [faultAhead_start_iff]

theorem read_eq_ok_iff {text : String} : (∃ diff notes, read text = .ok (diff, notes)) ↔
    ¬∃ before h, FaultAt (lines text.toList) before h := by
  have hrun : (∃ diff notes, read text = .ok (diff, notes)) ↔
      ∃ last, Reading.run ⟨[], none, []⟩ (lines text.toList) = .ok last := by
    simp [read_eq_ok]
  rw [hrun, Reading.run_eq_ok_iff]
  simp only [faultAhead_start_iff]

/-- **When reading fails.** A text is not read if and only if a hunk header after the first file
header is faulty, and then for the fault of the first of them; every other text is read, and every
range of the answer holds a line. -/
theorem read_fails_exactly (text : String) :
    ((∃ e, read text = .error e) ↔ ∃ before h, FaultAt (lines text.toList) before h) ∧
    (∀ e, read text = .error e ↔
      ∃ before h, FaultAt (lines text.toList) before h ∧ h.Fault e ∧
        ∀ before' h', FaultAt (lines text.toList) before' h' →
          before.length ≤ before'.length) ∧
    ((¬∃ before h, FaultAt (lines text.toList) before h) →
      ∃ diff notes, read text = .ok (diff, notes)) ∧
    ∀ diff notes, read text = .ok (diff, notes) →
      ∀ d ∈ diff, ∀ range ∈ d.ranges, 1 ≤ range.first ∧ range.first ≤ range.last := by
  refine ⟨⟨fun hgiven => ?_, fun hgiven => ?_⟩, fun e => read_eq_error_iff, read_eq_ok_iff.mpr,
    fun diff notes _ d _ range _ => ⟨range.one_le_first, range.first_le_last⟩⟩
  · obtain ⟨e, he⟩ := hgiven
    obtain ⟨before, h, hat, -⟩ := read_eq_error_iff.mp he
    exact ⟨before, h, hat⟩
  · cases hread : read text with
    | error e => exact ⟨e, rfl⟩
    | ok answer => exact absurd hgiven (read_eq_ok_iff.mp ⟨answer.1, answer.2, hread⟩)

/-- The orphan and the deletion at 0 do no harm; the first faulty header of the open file does. -/
example : read ("@@ -1 +0 @@\ndiff --git a/x b/x\n@@ -1 +0,0 @@\n@@ -1 +x @@\n" ++
    "@@ -1 +0,2 @@\n@@ -1 +0 @@\n") = .error (.badRange (.startBelowOne 0)) ∧
    (ReadError.badRange (.startBelowOne 0)).message = "start must be >= 1, but was 0" := by
  decide +kernel

end TestImpact.Diff
