import TestImpact.Proofs.Diff.Rendered

/-
  Files that keep their path.

  The header of such a file writes one path on both sides of ` b/`. If the path
  holds this mark itself, the header has more than one cut, and the last one
  lies within the path: then the hunks are filed under the end of the path
  (`Key`). A mark that ends the path does no harm, for nothing is left behind it.

  `read_unrenamed` says where the hunks of a file go, for every path and behind
  every text. Only a path that does not hold the mark keeps its name; the end of
  any other may be the name of another file, which then loses its own ranges
  (`read_unrenamed_over_other`).
-/

namespace TestImpact.Diff

open TestImpact.Text

/-- What the hunks of an unrenamed file are filed under: its path, or what stands behind the last
mark in it that something stands behind. -/
inductive Key : List Char → List Char → Prop
  | whole {path : List Char} (hnot : ¬HoldsMark path) : Key path path
  | cut {front key : List Char} (hne : key ≠ []) (hnot : ¬HoldsMark key) :
      Key (front ++ " b/".toList ++ key) key

namespace Key

variable {path key : List Char}

/-- Every path has a key: as long as something stands behind a mark, the path is cut there. -/
theorem exists_key (path : List Char) : ∃ key, Key path key := by
  induction hlength : path.length using Nat.strong_induction_on generalizing path with
  | _ n ih =>
    by_cases hholds : HoldsMark path
    · obtain ⟨front, back, hne, rfl⟩ := hholds
      have hshorter : back.length < n := by
        rw [← hlength]
        simp
        omega
      obtain ⟨key, hkey⟩ := ih back.length hshorter back rfl
      cases hkey with
      | whole hnot => exact ⟨back, cut hne hnot⟩
      | @cut front' key hne' hnot =>
        refine ⟨key, ?_⟩
        have hcut : front ++ " b/".toList ++ (front' ++ " b/".toList ++ key)
            = (front ++ " b/".toList ++ front') ++ " b/".toList ++ key := by
          simp only [List.append_assoc]
        rw [hcut]
        exact cut hne' hnot
    · exact ⟨path, whole hholds⟩

/-- A path is its own key unless it holds the mark. -/
theorem eq_path_iff (h : Key path key) : key = path ↔ ¬HoldsMark path := by
  cases h with
  | whole hnot => simp [hnot]
  | @cut front key hne hnot =>
    have hholds : HoldsMark (front ++ " b/".toList ++ key) := ⟨front, key, hne, rfl⟩
    have hlonger : key ≠ front ++ " b/".toList ++ key := fun heq => by
      have hlength := congrArg List.length heq
      simp at hlength
      omega
    exact iff_of_false hlonger (not_not_intro hholds)

end Key

/-- A file that is not renamed: its path, the lines below the header, and the hunks. -/
structure UnrenamedFile where
  path : List Char
  extended : List (List Char)
  hunks : List WrittenHunk
  path_ne_nil : path ≠ []
  isLine_path : IsLine path
  isLine_extended : ∀ line ∈ extended, IsLine line
  plain_extended : ∀ line ∈ extended, ¬"@@".toList <+: line ∧ ¬"diff --git".toList <+: line

namespace UnrenamedFile

def header (f : UnrenamedFile) : List Char :=
  "diff --git a/".toList ++ f.path ++ " b/".toList ++ f.path

def lines (f : UnrenamedFile) : List (List Char) :=
  f.header :: f.extended ++ f.hunks.flatMap WrittenHunk.lines

/-- The lines, each with a line feed. -/
def text (f : UnrenamedFile) : String := String.ofList (f.lines.flatMap (· ++ ['\n']))

def ranges (f : UnrenamedFile) : List LineRange := f.hunks.filterMap WrittenHunk.newLines?

/-- A diff in which the hunks of the file are filed under a path; without new lines there is
nothing to file. -/
def filedUnder (f : UnrenamedFile) (path : List Char) (diff : Diff) : Diff :=
  if f.ranges = [] then diff else file ⟨String.ofList path, f.ranges⟩ diff

/-- The key of the path is the path that the header names. -/
theorem isHeader (f : UnrenamedFile) {key : List Char} (h : Key f.path key) :
    IsHeader f.header key := by
  have hcut : HeaderCut f.header f.path f.path := ⟨f.path_ne_nil, f.path_ne_nil, rfl⟩
  generalize f.header = header at hcut ⊢
  generalize f.path = path at h hcut
  cases h with
  | whole hnot => exact isHeader_iff.mpr ⟨⟨key, hcut⟩, hnot⟩
  | @cut front key hne hnot =>
    obtain ⟨-, -, hline⟩ := hcut
    -- The mark between the two paths and everything up to the last one stand before the last cut.
    let old := front ++ " b/".toList ++ key ++ " b/".toList ++ front
    have hlater : header = "diff --git a/".toList ++ old ++ " b/".toList ++ key := by
      rw [hline]
      simp only [old, List.append_assoc]
    exact isHeader_iff.mpr ⟨⟨old, by simp [old], hne, hlater⟩, hnot⟩

theorem isLine_of_mem {f : UnrenamedFile} {line : List Char} (hline : line ∈ f.lines) :
    IsLine line :=
  isLine_of_mem_section (isLine_fileHeader f.isLine_path f.isLine_path) f.isLine_extended hline

/-- The lines of the file stand behind those of the text before it. -/
theorem lines_behind {first : String} (hended : IsEnded first.toList) (f : UnrenamedFile) :
    Text.lines (first ++ f.text).toList = Text.lines first.toList ++ f.lines := by
  have hlines : Text.lines f.text.toList = f.lines := by
    rw [text, String.toList_ofList]
    exact lines_ended fun line hline => isLine_of_mem hline
  have hbegins : BeginsWithHeader f.text := by
    obtain ⟨key, hkey⟩ := Key.exists_key f.path
    exact ⟨f.header, key, by rw [hlines]; rfl, f.isHeader hkey⟩
  rw [String.toList_append, lines_append hended hbegins.head?_ne, hlines]

end UnrenamedFile

/-- **Where an unrenamed file is filed.** Behind any text that can be read and does not end within
a line, the hunks of a file with one path on both sides of its header are filed under the one key of
this path, and nothing else changes. So the file keeps its name exactly if its path does not hold
the mark ` b/` with something behind it. -/
theorem read_unrenamed {first : String} {diff : Diff} {notes : List Note}
    (hread : read first = .ok (diff, notes)) (hended : IsEnded first.toList) (f : UnrenamedFile) :
    ∃ key, (∀ other, Key f.path other ↔ other = key) ∧ (key = f.path ↔ ¬HoldsMark f.path) ∧
      read (first ++ f.text) = .ok (f.filedUnder key diff, notes) := by
  obtain ⟨key, hkey⟩ := Key.exists_key f.path
  obtain ⟨before, hrun, rfl, rfl⟩ := read_eq_ok.mp hread
  let last : Reading := ⟨before.flushed, some ⟨String.ofList key, f.ranges⟩, before.notes⟩
  have hsection : before.run f.lines = .ok last :=
    Reading.run_section (f.isHeader hkey) f.plain_extended f.hunks before
  have hflushed : last.flushed = f.filedUnder key before.flushed := by
    unfold UnrenamedFile.filedUnder
    rw [Reading.flushed]
    simp only [last, List.isEmpty_iff]
  refine ⟨key, fun other => ⟨fun hother => ?_, fun hother => hother ▸ hkey⟩, hkey.eq_path_iff,
    read_eq_ok.mpr ⟨last, ?_, hflushed, rfl⟩⟩
  · exact (f.isHeader hother).path_unique (f.isHeader hkey)
  · rw [f.lines_behind hended, Reading.run_append hrun, hsection]

/-- The path `x b/y.py` ends in the path of another file, whose own lines are lost. -/
theorem read_unrenamed_over_other :
    let hunk : WrittenHunk :=
      { oldStart := ⟨0, 1⟩, oldCount := none, start := ⟨0, 1⟩, count := none
        heading := [], body := []
        length_start := by decide, length_count := by simp, one_le_start := by decide
        isLine_heading := by decide, isLine_body := by simp, marked_body := by simp }
    let f : UnrenamedFile :=
      { path := "x b/y.py".toList, extended := ["index 1..2 100644".toList], hunks := [hunk]
        path_ne_nil := by decide, isLine_path := by decide
        isLine_extended := by decide, plain_extended := by decide }
    let first := "diff --git a/y.py b/y.py\n@@ -5 +5 @@\n"
    read first = .ok ([⟨"y.py", [⟨5, 5, by decide, by decide⟩]⟩], []) ∧ IsEnded first.toList ∧
      f.text = "diff --git a/x b/y.py b/x b/y.py\nindex 1..2 100644\n@@ -1 +1 @@\n" ∧
      read (first ++ f.text) = .ok ([⟨"y.py", [⟨1, 1, by decide, by decide⟩]⟩], []) := by
  intro hunk f first
  have hread : read first = .ok ([⟨"y.py", [⟨5, 5, by decide, by decide⟩]⟩], []) := by
    decide +kernel
  have hended : IsEnded first.toList := by decide
  refine ⟨hread, hended, by decide +kernel, ?_⟩
  obtain ⟨key, hkeys, -, hboth⟩ := read_unrenamed hread hended f
  have hnot : ¬HoldsMark "y.py".toList := fun hgiven => by
    obtain ⟨front, back, -, hcut⟩ := hgiven
    exact (by decide : ¬" b/".toList <:+: "y.py".toList) ⟨front, back, hcut.symm⟩
  have hcut : Key f.path "y.py".toList := @Key.cut "x".toList "y.py".toList (by decide) hnot
  obtain rfl := (hkeys _).mp hcut
  exact hboth

/-- A header writes the path `x b/y.py` on both sides, and the hunk is filed under `y.py`. -/
theorem read_mark_in_path :
    let path := "x b/y.py".toList
    path ≠ [] ∧ IsLine path ∧
      read (String.ofList ("diff --git a/".toList ++ path ++ " b/".toList ++ path)
          ++ "\n@@ -1 +1 @@\n")
        = .ok ([⟨"y.py", [⟨1, 1, by decide, by decide⟩]⟩], []) := by
  intro path
  exact ⟨by decide, by decide, by decide +kernel⟩

end TestImpact.Diff
