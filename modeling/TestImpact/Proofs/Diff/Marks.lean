import TestImpact.Proofs.Diff.Faults

/-
  The lines of a diff text that count.

  What a text tells of is decided by few of its lines: the file headers, and
  the hunk headers that add lines or are faulty (`Counts`). Two texts that have
  these lines in common are read alike, up to the notes
  (`readChanges_eq_of_filter`).

  The file that is open behind some lines is the one of the last file header
  among them (`Reading.run_path`).
-/

namespace TestImpact.Diff

open TestImpact.Text

/-- The changes that a diff text tells of, without the notes. -/
def readChanges (text : String) : Except ReadError Diff := (read text).map (·.1)

/-- The line is a file header, or a hunk header that adds lines or is faulty. -/
def Counts (line : List Char) : Prop :=
  (∃ path, IsHeader line path) ∨ ∃ h, IsHunk line h ∧ (h.newCount ≠ 0 ∨ h.IsFaulty)

def counts (line : List Char) : Bool :=
  match Line.read line with
  | .fileHeader _ => true
  | .hunk h => decide (h.lines? ≠ .ok none)
  | .malformed _ => false
  | .content => false

/-- A hunk header is passed over only if it is sound and has no lines. -/
theorem HunkHeader.lines?_ne_none_iff {h : HunkHeader} :
    h.lines? ≠ .ok none ↔ h.newCount ≠ 0 ∨ h.IsFaulty := by
  by_cases hfaulty : h.IsFaulty
  · obtain ⟨e, -, hread⟩ := lines?_of_isFaulty hfaulty
    simp [hread, hfaulty]
  · obtain ⟨range?, hread⟩ := exists_lines?_eq_ok hfaulty
    rcases linesFrom?_eq_ok (linesFrom?_of_lines? hread) with ⟨rfl, hzero⟩ | ⟨range, rfl, hcount, -⟩
    · simp [hread, hfaulty, hzero]
    · simp [hread, hcount]

theorem counts_iff {line : List Char} : counts line = true ↔ Counts line := by
  have hheader : (∃ path, IsHeader line path) ↔ ∃ path, Line.read line = .fileHeader path := by
    simp only [read_eq_fileHeader]
  have hhunk : ∀ h, IsHunk line h ↔ Line.read line = .hunk h := fun h => read_eq_hunk.symm
  simp only [Counts, hheader, hhunk, counts]
  cases Line.read line with
  | fileHeader path => simp
  | content => simp
  | malformed text => simp
  | hunk h => simp [← HunkHeader.lines?_ne_none_iff]

/-- The path of the last file header among some lines. -/
def lastHeader? (lines : List (List Char)) : Option (List Char) :=
  (lines.filterMap headerPath?).getLast?

theorem lastHeader?_cons (line : List Char) (rest : List (List Char)) :
    lastHeader? (line :: rest) = (lastHeader? rest).or (headerPath? line) := by
  unfold lastHeader?
  cases hpath : headerPath? line with
  | none => simp [hpath]
  | some path =>
    rw [List.filterMap_cons_some hpath, List.getLast?_cons]
    cases (rest.filterMap headerPath?).getLast? <;> rfl

theorem lastHeader?_append (before after : List (List Char)) :
    lastHeader? (before ++ after) = (lastHeader? after).or (lastHeader? before) := by
  rw [lastHeader?, List.filterMap_append, List.getLast?_append]
  rfl

theorem lastHeader?_eq_none {lines : List (List Char)}
    (h : ∀ line ∈ lines, headerPath? line = none) :
    lastHeader? lines = none := by
  rw [lastHeader?, List.filterMap_eq_nil_iff.mpr h]
  rfl

namespace Reading

variable {r r' next last : Reading}

/-- What a reading has found, without the notes. -/
def files (r : Reading) : Diff × Option FileDiff := (r.filed, r.current)

theorem flushed_eq_of_files (h : r.files = r'.files) : r.flushed = r'.flushed := by
  obtain ⟨hfiled, hcurrent⟩ := Prod.mk.inj h
  rw [flushed, flushed, hfiled, hcurrent]

/-- A line that does not count leaves a note at most. -/
theorem step_of_not_counts {line : List Char} (h : counts line = false) (r : Reading) :
    ∃ next, r.step line = .ok next ∧ next.files = r.files := by
  unfold counts at h
  unfold step
  cases hread : Line.read line with
  | fileHeader path => simp [hread] at h
  | content => exact ⟨r, rfl, rfl⟩
  | malformed text => exact ⟨_, rfl, rfl⟩
  | hunk header =>
    have hlines : header.lines? = .ok none := by simpa [hread] using h
    cases hcurrent : r.current with
    | none => exact ⟨_, rfl, by simp [files, hcurrent]⟩
    | some d => exact ⟨r, by simp [hlines], rfl⟩

theorem map_files_step (h : r.files = r'.files) (line : List Char) :
    (r.step line).map files = (r'.step line).map files := by
  have hflushed := flushed_eq_of_files h
  obtain ⟨hfiled, hcurrent⟩ := Prod.mk.inj h
  cases hread : Line.read line with
  | fileHeader path =>
    have hheader := read_eq_fileHeader.mp hread
    simp only [step_header hheader, Except.map, files, hflushed]
  | content => simp only [step, hread, Except.map, h]
  | malformed text => simp only [step, hread, Except.map, files, hfiled, hcurrent]
  | hunk header =>
    cases hopen : r'.current with
    | none => simp only [step, hread, hcurrent, hopen, Except.map, files, hfiled]
    | some d =>
      have hhunk := read_eq_hunk.mp hread
      rw [step_hunk hhunk (hcurrent.trans hopen), step_hunk hhunk hopen]
      cases header.lines? with
      | error fault => rfl
      | ok range? => simp only [Except.map, files, hfiled]

/-- Only the lines that count are needed. -/
theorem map_files_run (h : r.files = r'.files) (lines : List (List Char)) :
    (r.run lines).map files = (r'.run (lines.filter counts)).map files := by
  induction lines generalizing r r' with
  | nil => simp only [List.filter_nil, run, Except.map, h]
  | cons line rest ih =>
    cases hcounts : counts line with
    | true =>
      rw [List.filter_cons_of_pos hcounts, run, run]
      have hstep := map_files_step h line
      cases hr : r.step line with
      | error fault =>
        cases hr' : r'.step line with
        | error fault' => simpa [hr, hr', Except.map] using hstep
        | ok next' => simp [hr, hr', Except.map] at hstep
      | ok next =>
        cases hr' : r'.step line with
        | error fault' => simp [hr, hr', Except.map] at hstep
        | ok next' =>
          have hnext : next.files = next'.files := by simpa [hr, hr', Except.map] using hstep
          exact ih hnext
    | false =>
      obtain ⟨next, hstep, hnext⟩ := step_of_not_counts hcounts r
      rw [List.filter_cons_of_neg (by simp [hcounts]), run, hstep]
      exact ih (hnext.trans h)

theorem run_path {lines : List (List Char)} (h : r.run lines = .ok last) :
    last.current.map (·.path)
      = ((lastHeader? lines).map String.ofList).or (r.current.map (·.path)) := by
  induction lines generalizing r with
  | nil =>
    obtain rfl : r = last := by simpa [run] using h
    rfl
  | cons line rest ih =>
    obtain ⟨next, hstep, hrest⟩ := run_cons_eq_ok.mp h
    have hpath : next.current.map (·.path)
        = ((headerPath? line).map String.ofList).or (r.current.map (·.path)) := by
      rcases step_cases hstep with ⟨path, hheader, -, hcurrent⟩ |
        ⟨hline, ⟨d, range, hopen, -, -, hcurrent⟩ | ⟨-, -, hcurrent⟩⟩
      · rw [headerPath?_eq_some.mpr hheader, hcurrent]
        rfl
      · rw [headerPath?_eq_none_iff.mpr hline, hcurrent, hopen]
        rfl
      · rw [headerPath?_eq_none_iff.mpr hline, hcurrent]
        rfl
    rw [ih hrest, hpath, lastHeader?_cons]
    cases lastHeader? rest <;> rfl

end Reading

theorem readChanges_eq (text : String) :
    readChanges text = (Reading.run ⟨[], none, []⟩ (lines text.toList)).map Reading.flushed := by
  rw [readChanges, read]
  cases Reading.run ⟨[], none, []⟩ (lines text.toList) <;> rfl

theorem readChanges_eq_filter (text : String) :
    readChanges text
      = (Reading.run ⟨[], none, []⟩ ((lines text.toList).filter counts)).map
          Reading.flushed := by
  have hfiles := Reading.map_files_run (r := ⟨[], none, []⟩) rfl (lines text.toList)
  rw [readChanges_eq]
  cases hrun : Reading.run ⟨[], none, []⟩ (lines text.toList) with
  | error fault =>
    cases hrun' : Reading.run ⟨[], none, []⟩ ((lines text.toList).filter counts) with
    | error fault' => simpa [hrun, hrun', Except.map] using hfiles
    | ok last' => simp [hrun, hrun', Except.map] at hfiles
  | ok last =>
    cases hrun' : Reading.run ⟨[], none, []⟩ ((lines text.toList).filter counts) with
    | error fault' => simp [hrun, hrun', Except.map] at hfiles
    | ok last' =>
      have hlast : last.files = last'.files := by simpa [hrun, hrun', Except.map] using hfiles
      simp only [Except.map, Reading.flushed_eq_of_files hlast]

/-- Two texts with the same lines that count tell of the same changes, or fail in the same way. -/
theorem readChanges_eq_of_filter {text text' : String}
    (h : (lines text.toList).filter counts = (lines text'.toList).filter counts) :
    readChanges text = readChanges text' := by
  rw [readChanges_eq_filter, h, ← readChanges_eq_filter]

end TestImpact.Diff
