import TestImpact.Proofs.Diff.Joined

/-
  A diff that is written down is read back.

  `WrittenFile` and `WrittenHunk` hold what is written about a file: the two
  paths of the header, the lines below it, and for each hunk its four numbers,
  the heading behind them and the body. What such parts must be like is part of
  the types, so everything that can be written is a diff text (`render`).

  `read_render` says that nothing of it is lost: every new path with a hunk that
  adds lines has the ranges of these hunks, in order, and nothing else is
  there. The heading of a hunk, the lines below a header and the bodies may look
  like anything that their first characters allow.
-/

namespace TestImpact.Diff

open TestImpact.Text

/-! ## Numbers -/

/-- A number as it is written: in decimal digits, maybe with zeros in front. -/
structure Numeral where
  zeros : Nat
  value : Nat

def Numeral.text (n : Numeral) : List Char :=
  List.replicate n.zeros '0' ++ Nat.toDigits 10 n.value

theorem digitValue?_eq_some {c : Char} (h : c.isDigit = true) :
    digitValue? c = some (c.toNat - '0'.toNat) := by
  have hascii : c.toNat < 128 := by
    have hle : c.toNat ≤ 57 := by
      simp only [Char.isDigit, Bool.and_eq_true, decide_eq_true_eq] at h
      exact h.2
    omega
  rw [digitValue?, if_pos hascii, if_pos h]
  rfl

theorem numberOf_eq_ofDigitChars {cs : List Char} (h : ∀ c ∈ cs, c.isDigit = true) :
    numberOf cs = Nat.ofDigitChars 10 cs 0 := by
  unfold numberOf Nat.ofDigitChars
  refine List.foldl_ext _ _ _ fun n c hc => ?_
  rw [digitValue?_eq_some (h c hc), Option.getD_some]

namespace Numeral

theorem isDigit_of_mem_text {n : Numeral} {c : Char} (h : c ∈ n.text) : c.isDigit = true := by
  rcases List.mem_append.mp h with hzero | hdigit
  · obtain rfl := List.eq_of_mem_replicate hzero
    rfl
  · exact Nat.isDigit_of_mem_toDigits (by decide) (by decide) hdigit

theorem isNumber_text (n : Numeral) : IsNumber n.text := by
  refine ⟨fun hnil => ?_, fun c hc => ?_⟩
  · exact Nat.toDigits_ne_nil (List.append_eq_nil_iff.mp hnil).2
  · rw [isDigit, digitValue?_eq_some (isDigit_of_mem_text hc)]
    rfl

theorem numberOf_text (n : Numeral) : numberOf n.text = n.value := by
  have hzeros : ∀ k, Nat.ofDigitChars 10 (List.replicate k '0') 0 = 0 := by
    intro k
    induction k with
    | zero => rfl
    | succ k ih => exact ih
  rw [numberOf_eq_ofDigitChars fun c => isDigit_of_mem_text, text, Nat.ofDigitChars_append, hzeros]
  exact Nat.ofDigitChars_toDigits (by decide) (by decide)

end Numeral

/-! ## What is written -/

/-- A hunk: where its lines are in the old and in the new file, and how many; a missing count
stands for 1. The body holds what is removed, added and kept, and remarks. -/
structure WrittenHunk where
  oldStart : Numeral
  oldCount : Option Numeral
  start : Numeral
  count : Option Numeral
  heading : List Char
  body : List (List Char)
  length_start : start.text.length ≤ digitLimit
  length_count : ∀ n ∈ count, n.text.length ≤ digitLimit
  one_le_start : (count.map (·.value)).getD 1 ≠ 0 → 1 ≤ start.value
  isLine_heading : IsLine heading
  isLine_body : ∀ line ∈ body, IsLine line
  marked_body : ∀ line ∈ body, ∃ mark rest, line = mark :: rest ∧ mark ∈ ['+', '-', ' ', '\\']

namespace WrittenHunk

def newCount (h : WrittenHunk) : Nat := (h.count.map (·.value)).getD 1

def newLines? (h : WrittenHunk) : Option LineRange :=
  if hc : h.newCount = 0 then none
  else some
    { first := h.start.value
      last := h.start.value + h.newCount - 1
      one_le_first := by exact_mod_cast h.one_le_start hc
      first_le_last := by omega }

def header (h : WrittenHunk) : List Char :=
  "@@ -".toList ++ h.oldStart.text ++ commaText (h.oldCount.map Numeral.text)
    ++ " +".toList ++ h.start.text ++ commaText (h.count.map Numeral.text)
    ++ " @@".toList ++ h.heading

def lines (h : WrittenHunk) : List (List Char) := h.header :: h.body

end WrittenHunk

/-- A file: its old and its new path, the lines below the header, and the hunks. The new path
does not hold the mark between the two. -/
structure WrittenFile where
  old : List Char
  new : List Char
  extended : List (List Char)
  hunks : List WrittenHunk
  old_ne_nil : old ≠ []
  new_ne_nil : new ≠ []
  isLine_old : IsLine old
  isLine_new : IsLine new
  not_mark_infix : ¬" b/".toList <:+: new
  isLine_extended : ∀ line ∈ extended, IsLine line
  plain_extended : ∀ line ∈ extended, ¬"@@".toList <+: line ∧ ¬"diff --git".toList <+: line

namespace WrittenFile

def header (f : WrittenFile) : List Char :=
  "diff --git a/".toList ++ f.old ++ " b/".toList ++ f.new

def lines (f : WrittenFile) : List (List Char) :=
  f.header :: f.extended ++ f.hunks.flatMap WrittenHunk.lines

/-- The ranges of new lines, hunk by hunk. -/
def ranges (f : WrittenFile) : List LineRange := f.hunks.filterMap WrittenHunk.newLines?

/-- What the file changes, if it gets any lines. -/
def change? (f : WrittenFile) : Option FileDiff :=
  if f.ranges = [] then none else some ⟨String.ofList f.new, f.ranges⟩

end WrittenFile

/-- The text of a diff: its lines, each with a line feed. -/
def render (files : List WrittenFile) : String :=
  String.ofList ((files.flatMap WrittenFile.lines).flatMap (· ++ ['\n']))

/-! ## The lines of a rendered text -/

theorem Numeral.isLine_text (n : Numeral) : IsLine n.text := by
  intro c hc
  have hdigit := isDigit_of_mem_text hc
  cases hboundary : isLineBoundary c with
  | false => rfl
  | true =>
    simp only [isLineBoundary, Bool.or_eq_true, beq_iff_eq] at hboundary
    rcases hboundary with ((((((((rfl | rfl) | rfl) | rfl) | rfl) | rfl) | rfl) | rfl) | rfl) | rfl
    all_goals cases hdigit

theorem isLine_commaText (count : Option Numeral) :
    IsLine (commaText (count.map Numeral.text)) := by
  cases count with
  | none =>
    intro c hc
    cases hc
  | some n =>
    intro c hc
    rcases List.mem_cons.mp hc with rfl | hc
    · rfl
    · exact n.isLine_text c hc

theorem WrittenHunk.isLine_of_mem {h : WrittenHunk} {line : List Char} (hline : line ∈ h.lines) :
    IsLine line := by
  rcases List.mem_cons.mp hline with rfl | hbody
  · have hfixed : IsLine "@@ -".toList ∧ IsLine " +".toList ∧ IsLine " @@".toList := by
      simp [IsLine, isLineBoundary]
    obtain ⟨hfront, hsign, hend⟩ := hfixed
    exact ((((((hfront.append h.oldStart.isLine_text).append (isLine_commaText _)).append
      hsign).append h.start.isLine_text).append (isLine_commaText _)).append hend).append
      h.isLine_heading
  · exact h.isLine_body line hbody

theorem isLine_fileHeader {old new : List Char} (hold : IsLine old) (hnew : IsLine new) :
    IsLine ("diff --git a/".toList ++ old ++ " b/".toList ++ new) := by
  have hfixed : IsLine "diff --git a/".toList ∧ IsLine " b/".toList := by
    simp [IsLine, isLineBoundary]
  exact ((hfixed.1.append hold).append hfixed.2).append hnew

theorem isLine_of_mem_section {header line : List Char} {extended : List (List Char)}
    {hunks : List WrittenHunk} (hheader : IsLine header) (hextended : ∀ l ∈ extended, IsLine l)
    (hline : line ∈ header :: extended ++ hunks.flatMap WrittenHunk.lines) : IsLine line := by
  rcases List.mem_append.mp hline with hfront | hhunk
  · rcases List.mem_cons.mp hfront with rfl | hbelow
    · exact hheader
    · exact hextended line hbelow
  · obtain ⟨h, -, hline⟩ := List.mem_flatMap.mp hhunk
    exact WrittenHunk.isLine_of_mem hline

theorem WrittenFile.isLine_of_mem {f : WrittenFile} {line : List Char} (hline : line ∈ f.lines) :
    IsLine line :=
  isLine_of_mem_section (isLine_fileHeader f.isLine_old f.isLine_new) f.isLine_extended hline

theorem lines_render (files : List WrittenFile) :
    lines (render files).toList = files.flatMap WrittenFile.lines := by
  rw [render, String.toList_ofList]
  refine lines_ended fun line hline => ?_
  obtain ⟨f, -, hline⟩ := List.mem_flatMap.mp hline
  exact WrittenFile.isLine_of_mem hline

/-! ## What each line is -/

/-- A new path that does not hold the mark is what the last cut leaves. -/
theorem WrittenFile.isHeader (f : WrittenFile) : IsHeader f.header f.new := by
  refine isHeader_iff.mpr ⟨⟨f.old, f.old_ne_nil, f.new_ne_nil, rfl⟩, fun hgiven => ?_⟩
  obtain ⟨front, back, -, hcut⟩ := hgiven
  exact f.not_mark_infix ⟨front, back, hcut.symm⟩

theorem WrittenHunk.isHunk (h : WrittenHunk) :
    IsHunk h.header ⟨h.start.text, h.count.map Numeral.text⟩ := by
  have hcount : ∀ count : Option Numeral, ∀ digits ∈ count.map Numeral.text, IsNumber digits := by
    intro count digits hdigits
    obtain ⟨n, -, rfl⟩ := Option.map_eq_some_iff.mp hdigits
    exact n.isNumber_text
  exact ⟨h.oldStart.text, h.oldCount.map Numeral.text, h.heading, h.oldStart.isNumber_text,
    hcount _, h.start.isNumber_text, hcount _, rfl⟩

theorem WrittenHunk.lines?_eq (h : WrittenHunk) :
    HunkHeader.lines? ⟨h.start.text, h.count.map Numeral.text⟩ = .ok h.newLines? := by
  have hlength : ∀ digits ∈ h.count.map Numeral.text, digits.length ≤ digitLimit := by
    intro digits hdigits
    obtain ⟨n, hn, rfl⟩ := Option.map_eq_some_iff.mp hdigits
    exact h.length_count n hn
  have hcount : HunkHeader.newCount ⟨h.start.text, h.count.map Numeral.text⟩ = h.newCount := by
    rw [newCount]
    cases h.count with
    | none => rfl
    | some n => exact n.numberOf_text
  rw [HunkHeader.lines?_eq_linesFrom? h.length_start hlength, hcount, h.start.numberOf_text,
    linesFrom?, newLines?]
  split
  · rfl
  · rename_i hne
    have hfirst : 1 ≤ h.start.value := h.one_le_start hne
    rw [LineRange.make, dif_neg (by omega), dif_neg (by omega)]

/-! ## What a reading makes of them -/

namespace Reading

/-- A hunk adds its new lines to the open file; its body does nothing. -/
theorem run_hunk (h : WrittenHunk) (filed : Diff) (d : FileDiff) (notes : List Note) :
    run ⟨filed, some d, notes⟩ h.lines
      = .ok ⟨filed, some { d with ranges := d.ranges ++ h.newLines?.toList }, notes⟩ := by
  have hbody : ∀ line ∈ h.body, Line.read line = .content := by
    intro line hline
    obtain ⟨mark, rest, rfl, hmark⟩ := h.marked_body line hline
    exact read_cons_eq_content (by rintro rfl; simp at hmark) (by rintro rfl; simp at hmark) rest
  have hstep : step ⟨filed, some d, notes⟩ h.header
      = .ok ⟨filed, some { d with ranges := d.ranges ++ h.newLines?.toList }, notes⟩ := by
    rw [step_hunk h.isHunk rfl, h.lines?_eq]
    rfl
  rw [WrittenHunk.lines, run_cons hstep, run_content hbody]

theorem run_hunks (hunks : List WrittenHunk) (filed : Diff) (d : FileDiff) (notes : List Note) :
    run ⟨filed, some d, notes⟩ (hunks.flatMap WrittenHunk.lines)
      = .ok ⟨filed, some { d with ranges := d.ranges ++ hunks.filterMap WrittenHunk.newLines? },
          notes⟩ := by
  induction hunks generalizing d with
  | nil => simp [run]
  | cons h rest ih =>
    rw [List.flatMap_cons, run_append (run_hunk h filed d notes), ih]
    cases hlines : h.newLines? with
    | none => simp [hlines]
    | some range => simp [hlines]

/-- A header closes the file before it and opens its own, which gets the ranges of the hunks. -/
theorem run_section {header path : List Char} (hheader : IsHeader header path)
    {extended : List (List Char)}
    (hplain : ∀ line ∈ extended, ¬"@@".toList <+: line ∧ ¬"diff --git".toList <+: line)
    (hunks : List WrittenHunk) (r : Reading) :
    r.run (header :: extended ++ hunks.flatMap WrittenHunk.lines)
      = .ok ⟨r.flushed, some ⟨String.ofList path, hunks.filterMap WrittenHunk.newLines?⟩,
          r.notes⟩ := by
  have hextended : ∀ line ∈ extended, Line.read line = .content := fun line hline =>
    read_eq_content (hplain line hline).1 (hplain line hline).2
  rw [List.cons_append, run_cons (step_header hheader r), run_append (run_content hextended),
    run_hunks]
  rfl

theorem run_file (r : Reading) (f : WrittenFile) :
    r.run f.lines = .ok ⟨r.flushed, some ⟨String.ofList f.new, f.ranges⟩, r.notes⟩ :=
  run_section f.isHeader f.plain_extended f.hunks r

/-- After a file, what it changes comes last, if its path is a new one. -/
theorem flushed_file {filed : Diff} {f : WrittenFile} (h : String.ofList f.new ∉ filed.paths)
    (notes : List Note) :
    flushed ⟨filed, some ⟨String.ofList f.new, f.ranges⟩, notes⟩ = filed ++ f.change?.toList := by
  unfold flushed WrittenFile.change?
  by_cases hranges : f.ranges = []
  · simp [hranges]
  · have hfile : file ⟨String.ofList f.new, f.ranges⟩ (filed ++ [])
        = filed ++ [⟨String.ofList f.new, f.ranges⟩] := file_append h []
    rw [List.append_nil] at hfile
    simp [hranges, hfile]

theorem run_files {r : Reading} {files : List WrittenFile} (hnodup : (files.map (·.new)).Nodup)
    (hnew : ∀ f ∈ files, String.ofList f.new ∉ r.flushed.paths) :
    ∃ last, r.run (files.flatMap WrittenFile.lines) = .ok last ∧
      last.flushed = r.flushed ++ files.filterMap WrittenFile.change? ∧ last.notes = r.notes := by
  induction files generalizing r with
  | nil => exact ⟨r, rfl, by simp, rfl⟩
  | cons f rest ih =>
    obtain ⟨hfresh, hrest⟩ := List.nodup_cons.mp hnodup
    let next : Reading := ⟨r.flushed, some ⟨String.ofList f.new, f.ranges⟩, r.notes⟩
    have hflushed : next.flushed = r.flushed ++ f.change?.toList :=
      flushed_file (hnew f List.mem_cons_self) r.notes
    have hnext : ∀ g ∈ rest, String.ofList g.new ∉ next.flushed.paths := by
      intro g hg hmem
      rw [hflushed, paths, List.map_append, List.mem_append] at hmem
      rcases hmem with hbefore | hthis
      · exact hnew g (List.mem_cons_of_mem f hg) hbefore
      · obtain ⟨d, hd, hpath⟩ := List.mem_map.mp hthis
        simp only [WrittenFile.change?, Option.mem_toList] at hd
        split at hd
        · cases hd
        · obtain rfl := Option.some.inj hd
          have hsame : f.new = g.new := String.ofList_injective hpath
          exact hfresh (List.mem_map.mpr ⟨g, hg, hsame.symm⟩)
    obtain ⟨last, hrun, hlast, hnotes⟩ := ih hrest hnext
    refine ⟨last, ?_, ?_, hnotes⟩
    · rw [List.flatMap_cons, run_append (run_file r f)]
      exact hrun
    · rw [hlast, hflushed, List.append_assoc]
      cases hchange : f.change? with
      | none => simp [hchange]
      | some d => simp [hchange]

end Reading

/-- **What is written is read back.** From a rendered diff, in which no two files have the same
new path, exactly the files with new lines are read, in their order, each with the ranges of its
hunks; and no line is remarkable. -/
theorem read_render (files : List WrittenFile) (h : (files.map (·.new)).Nodup) :
    read (render files) = .ok (files.filterMap WrittenFile.change?, []) := by
  obtain ⟨last, hrun, hflushed, hnotes⟩ :=
    Reading.run_files (r := ⟨[], none, []⟩) h (by simp [Reading.flushed, paths])
  rw [read, lines_render, hrun]
  dsimp only
  rw [hflushed, hnotes]
  rfl

/-- The old path holds a mark, the heading and a removed line look like hunk headers, the count
of the first hunk is left out and its start has a zero in front; the second hunk only deletes, and
so does the second file. -/
theorem read_render_renamed :
    let changed : WrittenHunk :=
      { oldStart := ⟨0, 1⟩, oldCount := some ⟨0, 2⟩, start := ⟨1, 3⟩, count := none
        heading := " @@ -9 +9 @@".toList
        body := ["-@@ -1 +1 @@".toList, "+x".toList, "\\ No newline".toList]
        length_start := by decide, length_count := by simp, one_le_start := by decide
        isLine_heading := by decide, isLine_body := by decide
        marked_body := by simp }
    let deleted : WrittenHunk :=
      { oldStart := ⟨0, 10⟩, oldCount := none, start := ⟨0, 0⟩, count := some ⟨0, 0⟩
        heading := [], body := ["-y".toList]
        length_start := by decide, length_count := by decide, one_le_start := by decide
        isLine_heading := by decide, isLine_body := by decide
        marked_body := by simp }
    let renamed : WrittenFile :=
      { old := "x b/y".toList, new := "m.py".toList, extended := ["rename to m.py".toList]
        hunks := [changed, deleted]
        old_ne_nil := by decide, isLine_old := by decide
        new_ne_nil := by decide, isLine_new := by decide, not_mark_infix := by decide
        isLine_extended := by decide, plain_extended := by decide }
    let emptied : WrittenFile :=
      { renamed with
        new := "n.py".toList, hunks := [deleted]
        new_ne_nil := by decide, isLine_new := by decide, not_mark_infix := by decide }
    ([renamed, emptied].map (·.new)).Nodup ∧
      render [renamed, emptied] = "diff --git a/x b/y b/m.py\nrename to m.py\n" ++
        "@@ -1,2 +03 @@ @@ -9 +9 @@\n-@@ -1 +1 @@\n+x\n\\ No newline\n@@ -10 +0,0 @@\n-y\n" ++
        "diff --git a/x b/y b/n.py\nrename to m.py\n@@ -10 +0,0 @@\n-y\n" ∧
      read (render [renamed, emptied])
        = .ok ([⟨"m.py", [⟨3, 3, by decide, by decide⟩]⟩], []) := by
  intro changed deleted renamed emptied
  have hnodup : ([renamed, emptied].map (·.new)).Nodup := by decide
  exact ⟨hnodup, by decide +kernel, read_render [renamed, emptied] hnodup⟩

end TestImpact.Diff
