import TestImpact.Proofs.Diff.Sections
import TestImpact.Proofs.Text.Lines

/-
  Two diff texts, one after the other.

  A reading that has files in front of those it finds itself (`Reading.behind`)
  goes on as it would without them, as long as it finds none of them again
  (`Reading.run_behind`). A file header closes whatever file is open, so what is
  read from one on depends on nothing before it (`read_joined`).
-/

namespace TestImpact.Diff

open TestImpact.Text

/-! ## Files in front of others -/

theorem file_append {d : FileDiff} {front : Diff} (h : d.path ∉ front.paths) (diff : Diff) :
    file d (front ++ diff) = front ++ file d diff := by
  induction front with
  | nil => rfl
  | cons e rest ih =>
    obtain ⟨hne, hrest⟩ : d.path ≠ e.path ∧ d.path ∉ paths rest := by simpa [paths] using h
    rw [List.cons_append, file, if_neg (Ne.symm hne), ih hrest, List.cons_append]

theorem find?_append (front diff : Diff) (path : String) :
    find? (front ++ diff) path = (front.find? path).or (diff.find? path) :=
  List.find?_append

theorem mem_paths_of_find? {diff : Diff} {path : String} {d : FileDiff}
    (h : diff.find? path = some d) : path ∈ diff.paths := by
  have hpath : d.path = path := by simpa using List.find?_some h
  exact List.mem_map.mpr ⟨d, List.mem_of_find?_eq_some h, hpath⟩

namespace Reading

/-- The reading with files in front of its own and notes before its own. -/
def behind (r : Reading) (front : Diff) (notes : List Note) : Reading :=
  ⟨front ++ r.filed, r.current, r.notes ++ notes⟩

variable {r next last : Reading} {front : Diff} {notes : List Note}

theorem flushed_behind (h : ∀ path ∈ r.flushed.paths, path ∉ front.paths) :
    (r.behind front notes).flushed = front ++ r.flushed := by
  obtain ⟨filed, current, own⟩ := r
  cases current with
  | none => rfl
  | some d =>
    by_cases hnil : d.ranges.isEmpty = true
    · simp only [behind, flushed, hnil, if_true]
    · have hmem : d.path ∈ (flushed ⟨filed, some d, own⟩).paths := by
        simp only [flushed, if_neg hnil, paths_file]
        split
        · assumption
        · simp
      simp only [behind, flushed, if_neg hnil]
      exact file_append (h d.path hmem) filed

theorem mem_paths_step {line : List Char} (h : r.step line = .ok next) {path : String}
    (hpath : path ∈ r.flushed.paths) : path ∈ next.flushed.paths := by
  rcases step_cases h with ⟨_, -, hfiled, hcurrent⟩ |
    ⟨-, ⟨d, range, hopen, -, hfiled, hcurrent⟩ | ⟨-, hfiled, hcurrent⟩⟩
  · simpa [flushed, hcurrent, hfiled] using hpath
  · have hkept : path ∈ r.filed.paths ∨ path = d.path := by
      simp only [flushed, hopen] at hpath
      split at hpath
      · exact .inl hpath
      · rw [paths_file] at hpath
        split at hpath
        · exact .inl hpath
        · simpa using hpath
    rw [flushed, hcurrent, hfiled]
    dsimp only
    rw [if_neg (by simp), paths_file]
    split
    · rename_i hknown
      exact hkept.elim id fun heq => heq ▸ hknown
    · simpa using hkept
  · simpa [flushed, hcurrent, hfiled] using hpath

theorem mem_paths_run {lines : List (List Char)} (h : r.run lines = .ok last) {path : String}
    (hpath : path ∈ r.flushed.paths) : path ∈ last.flushed.paths := by
  induction lines generalizing r with
  | nil =>
    obtain rfl : r = last := by simpa [run] using h
    exact hpath
  | cons line rest ih =>
    obtain ⟨next, hstep, hrest⟩ := run_cons_eq_ok.mp h
    exact ih hrest (mem_paths_step hstep hpath)

theorem step_behind {line : List Char} (h : r.step line = .ok next)
    (hnew : ∀ path ∈ r.flushed.paths, path ∉ front.paths) :
    (r.behind front notes).step line = .ok (next.behind front notes) := by
  have hflushed : (r.behind front notes).flushed = front ++ r.flushed := flushed_behind hnew
  unfold step at h ⊢
  cases hread : Line.read line with
  | fileHeader path =>
    obtain rfl : _ = next := by simpa [hread] using h
    simp only [hflushed]
    rfl
  | content =>
    obtain rfl : _ = next := by simpa [hread] using h
    rfl
  | malformed text =>
    obtain rfl : _ = next := by simpa [hread] using h
    rfl
  | hunk header =>
    rw [hread] at h
    rw [show (r.behind front notes).current = r.current from rfl]
    cases hcurrent : r.current with
    | none =>
      obtain rfl : _ = next := by simpa [hcurrent] using h
      simp [behind, hcurrent]
    | some d =>
      rw [hcurrent] at h
      dsimp only at h ⊢
      cases hlines : header.lines? with
      | error fault => simp [hlines] at h
      | ok range? =>
        rw [hlines] at h
        cases range? with
        | none =>
          obtain rfl : r = next := by simpa using h
          rfl
        | some range =>
          obtain rfl : _ = next := by simpa using h
          rfl

/-- What was read before is not touched by reading on, if none of its files comes again. -/
theorem run_behind {lines : List (List Char)} (h : r.run lines = .ok last)
    (hnew : ∀ path ∈ last.flushed.paths, path ∉ front.paths) :
    (r.behind front notes).run lines = .ok (last.behind front notes) := by
  induction lines generalizing r with
  | nil =>
    obtain rfl : r = last := by simpa [run] using h
    rfl
  | cons line rest ih =>
    have hr : ∀ path ∈ r.flushed.paths, path ∉ front.paths := fun path hpath =>
      hnew path (mem_paths_run h hpath)
    obtain ⟨next, hstep, hrest⟩ := run_cons_eq_ok.mp h
    exact run_cons_eq_ok.mpr ⟨_, step_behind hstep hr, ih hrest⟩

theorem run_cons {line : List Char} (h : r.step line = .ok next) (rest : List (List Char)) :
    r.run (line :: rest) = next.run rest := by
  rw [run, h]

theorem run_content {lines : List (List Char)} (h : ∀ line ∈ lines, Line.read line = .content) :
    r.run lines = .ok r := by
  induction lines with
  | nil => rfl
  | cons line rest ih =>
    have hstep : r.step line = .ok r := by rw [step, h line List.mem_cons_self]
    rw [run_cons hstep, ih fun l hl => h l (List.mem_cons_of_mem line hl)]

theorem run_append {lines more : List (List Char)} (h : r.run lines = .ok next) :
    r.run (lines ++ more) = next.run more := by
  induction lines generalizing r with
  | nil =>
    obtain rfl : r = next := by simpa [run] using h
    rfl
  | cons line rest ih =>
    obtain ⟨stepped, hstep, hrest⟩ := run_cons_eq_ok.mp h
    rw [List.cons_append, run_cons hstep, ih hrest]

end Reading

/-- The first line of a text is a file header. -/
def BeginsWithHeader (text : String) : Prop :=
  ∃ header path, (lines text.toList).head? = some header ∧ IsHeader header path

theorem BeginsWithHeader.head?_ne {text : String} (h : BeginsWithHeader text) :
    text.toList.head? ≠ some '\n' := by
  intro hhead
  obtain ⟨header, path, hfirst, ⟨old, -, -, hcut⟩, -⟩ := h
  obtain ⟨rest, hrest⟩ := List.head?_eq_some_iff.mp hhead
  rw [hrest, lines_cons (by simp), if_pos (by rfl)] at hfirst
  obtain rfl : [] = header := by simpa using hfirst
  simp at hcut

/-- What is read from a file header on stands behind what was read before it. -/
theorem read_joined {first second : String} {diff diff' : Diff} {notes notes' : List Note}
    (hread : read first = .ok (diff, notes)) (hread' : read second = .ok (diff', notes'))
    (hended : IsEnded first.toList) (hheader : BeginsWithHeader second)
    (hnew : ∀ path ∈ diff'.paths, path ∉ diff.paths) :
    read (first ++ second) = .ok (diff ++ diff', notes ++ notes') := by
  have hlines : lines (first ++ second).toList = lines first.toList ++ lines second.toList := by
    rw [String.toList_append, lines_append hended hheader.head?_ne]
  obtain ⟨before, hrun, rfl, rfl⟩ := read_eq_ok.mp hread
  obtain ⟨last, hrun', rfl, rfl⟩ := read_eq_ok.mp hread'
  -- The header closes the file that the first text has left open.
  have hseam : before.run (lines second.toList)
      = (Reading.behind ⟨[], none, []⟩ before.flushed before.notes).run (lines second.toList) := by
    obtain ⟨header, path, hfirst, hpath⟩ := hheader
    obtain ⟨rest, hrest⟩ := List.head?_eq_some_iff.mp hfirst
    rw [hrest, Reading.run_cons (Reading.step_header hpath _),
      Reading.run_cons (Reading.step_header hpath _)]
    simp [Reading.behind, Reading.flushed]
  refine read_eq_ok.mpr ⟨last.behind before.flushed before.notes, ?_, ?_, ?_⟩
  · rw [hlines, Reading.run_append hrun, hseam, Reading.run_behind hrun' hnew]
  · exact Reading.flushed_behind hnew
  · simp [Reading.behind]

end TestImpact.Diff
