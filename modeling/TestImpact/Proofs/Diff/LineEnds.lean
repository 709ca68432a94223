import TestImpact.Proofs.Diff.Contents

/-
  The kind of line ends makes no difference.

  A text whose lines are ended in different ways need not have the lines that
  were written: a carriage return and the line feed of an empty line behind it
  make one boundary, and the empty line is lost. It has the filled ones among
  them, though (`Text.filled_lines`), and a reading passes empty lines over:
  they change neither what it has found nor what it has noted
  (`Reading.run_filled`, `Reading.noted_filled`).

  `noted` are the notes of a reading also if a fault ends it. A reading that goes
  through answers them (`noted_of_read`).
-/

namespace TestImpact.Diff

open TestImpact.Text

namespace Reading

/-- The notes that a reading leaves of some lines, up to the first fault. -/
def noted (r : Reading) : List (List Char) → List Note
  | [] => r.notes.reverse
  | line :: rest =>
    match r.step line with
    | .error _ => r.notes.reverse
    | .ok next => next.noted rest

variable {r last : Reading}

theorem noted_of_run {lines : List (List Char)} (h : r.run lines = .ok last) :
    r.noted lines = last.notes.reverse := by
  induction lines generalizing r with
  | nil =>
    obtain rfl : r = last := by simpa [run] using h
    rfl
  | cons line rest ih =>
    obtain ⟨next, hstep, hrest⟩ := run_cons_eq_ok.mp h
    rw [noted, hstep]
    exact ih hrest

theorem step_nil (r : Reading) : r.step [] = .ok r := rfl

/-- What goes through lines one after the other and past the empty ones sees the filled ones
only. -/
theorem eq_of_passing {β : Type} {f : Reading → List (List Char) → β}
    (hnil : ∀ r rest, f r ([] :: rest) = f r rest)
    (hcons : ∀ r line rest rest', (∀ next, f next rest = f next rest') →
      f r (line :: rest) = f r (line :: rest'))
    (r : Reading) (lines : List (List Char)) : f r (filled lines) = f r lines := by
  induction lines generalizing r with
  | nil => rfl
  | cons line rest ih =>
    cases line with
    | nil => rw [filled_nil_cons, ih, hnil]
    | cons c cs =>
      rw [filled_cons]
      exact hcons r (c :: cs) _ _ ih

theorem run_filled (r : Reading) (lines : List (List Char)) :
    r.run (filled lines) = r.run lines := by
  refine eq_of_passing (fun r rest => run_cons (step_nil r) rest)
    (fun r line rest rest' h => ?_) r lines
  rw [run, run]
  cases r.step line with
  | error fault => rfl
  | ok next => exact h next

theorem noted_filled (r : Reading) (lines : List (List Char)) :
    r.noted (filled lines) = r.noted lines := by
  refine eq_of_passing (fun r rest => ?_) (fun r line rest rest' h => ?_) r lines
  · rw [noted, step_nil]
  · rw [noted, noted]
    cases r.step line with
    | error fault => rfl
    | ok next => exact h next

end Reading

/-- What is noted while a text is read, up to the first fault. -/
def noted (text : String) : List Note := Reading.noted ⟨[], none, []⟩ (lines text.toList)

theorem noted_of_read {text : String} {diff : Diff} {notes : List Note}
    (h : read text = .ok (diff, notes)) : noted text = notes := by
  obtain ⟨last, hrun, -, rfl⟩ := read_eq_ok.mp h
  exact Reading.noted_of_run hrun

theorem read_eq_of_filled {text text' : String}
    (h : filled (lines text.toList) = filled (lines text'.toList)) :
    read text = read text' ∧ noted text = noted text' := by
  constructor
  · rw [read, ← Reading.run_filled, h, Reading.run_filled, read]
  · rw [noted, ← Reading.noted_filled, h, Reading.noted_filled, noted]

/-- **The kind of line ends makes no difference.** A text in which each line is ended in a way of
its own, and the last one perhaps not at all, is read as with line feeds in place of them, with
the last line ended or not: the files and the fault are the same, and so is what is noted. -/
theorem read_any_line_ends (ls : List EndedLine) {last : List Char} (hlast : IsLine last) :
    let text := String.ofList (endedText ls last)
    let fed := ofLines (ls.map (·.line) ++ [last])
    let unended := String.ofList (endedText (ls.map EndedLine.fed) last)
    (read text = read fed ∧ noted text = noted fed) ∧
      read text = read unended ∧ noted text = noted unended := by
  intro text fed unended
  have htext : filled (lines text.toList) = filled (ls.map (·.line) ++ [last]) := by
    rw [String.toList_ofList, filled_lines ls hlast]
  have hfed : lines fed.toList = ls.map (·.line) ++ [last] := by
    rw [show fed = String.ofList _ from rfl, String.toList_ofList]
    apply lines_ended
    intro line hline
    rcases List.mem_append.mp hline with hline | hline
    · obtain ⟨l, -, rfl⟩ := List.mem_map.mp hline
      exact l.isLine
    · exact List.mem_singleton.mp hline ▸ hlast
  have hunended : filled (lines unended.toList) = filled (ls.map (·.line) ++ [last]) := by
    rw [String.toList_ofList, filled_lines _ hlast, List.map_map]
    rfl
  exact ⟨read_eq_of_filled (by rw [htext, hfed]), read_eq_of_filled (by rw [htext, hunended])⟩

/-- The carriage return and the line feed of the empty line make one boundary, so a line is lost;
what is noted before the fault, and the fault, are as they would be. -/
theorem read_any_line_ends_merged :
    let ls : List EndedLine :=
      [⟨"diff --git a/x b/x".toList, ['\r'], by decide, by decide⟩,
        ⟨[], ['\n'], by decide, by decide⟩,
        ⟨"@@ bad".toList, ['\u2028'], by decide, by decide⟩,
        ⟨"@@ -1 +0 @@".toList, ['\r', '\n'], by decide, by decide⟩]
    let last := "@@ -1 +2 @@".toList
    let text := String.ofList (endedText ls last)
    IsLine last ∧ (lines text.toList).length < (ls.map (·.line) ++ [last]).length ∧
      read text = .error (.badRange (.startBelowOne 0)) ∧
      noted text = [.malformedHunk "@@ bad"] := by
  intro ls last text
  have hlast : IsLine last := by decide
  obtain ⟨⟨hread, hnoted⟩, -⟩ := read_any_line_ends ls hlast
  exact ⟨hlast, by decide +kernel, hread.trans (by decide +kernel),
    hnoted.trans (by decide +kernel)⟩

end TestImpact.Diff
