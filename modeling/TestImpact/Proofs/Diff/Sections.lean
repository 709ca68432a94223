import TestImpact.Diff.Read
import TestImpact.Proofs.Diff.Filing
import TestImpact.Proofs.Diff.Grammar

/-
  What a diff text says, section by section.

  The lines of a text are a preamble without file headers and a list of
  sections: a file header, and the lines up to the next one. A line of a
  section adds lines to the file if it is a hunk header whose count is not 0
  (`Adds`); all other lines add nothing. There is only one way to cut a text so
  (`Sectioned.unique`).

  `read_sections` says what reading answers: the files are the paths of the
  sections that add something, in the order of the first such section of each,
  and a file has the ranges of the last such section of its path.
-/

namespace TestImpact.Diff

open TestImpact.Text

/-- The new count of a hunk; a missing one is 1. -/
def HunkHeader.newCount (h : HunkHeader) : Nat :=
  match h.count with
  | none => 1
  | some digits => numberOf digits

/-- The line adds the lines from `first` to `last` to its section: it is a hunk header whose
count is not 0. -/
def Adds (line : List Char) (first last : Int) : Prop :=
  ∃ h, IsHunk line h ∧ h.newCount ≠ 0 ∧
    first = numberOf h.start ∧ last = numberOf h.start + h.newCount - 1

/-- The ranges that the lines of a section add, one after the other. -/
inductive Ranges : List (List Char) → List LineRange → Prop
  | nil : Ranges [] []
  | adds {line : List Char} {range : LineRange} {body : List (List Char)} {ranges : List LineRange}
      (h : Adds line range.first range.last) (hbody : Ranges body ranges) :
      Ranges (line :: body) (range :: ranges)
  | other {line : List Char} {body : List (List Char)} {ranges : List LineRange}
      (h : ∀ first last, ¬Adds line first last) (hbody : Ranges body ranges) :
      Ranges (line :: body) ranges

/-- A part of a diff text that is about one file. -/
structure Section where
  header : List Char
  path : List Char
  body : List (List Char)
  ranges : List LineRange

namespace Section

def file (s : Section) : FileDiff := ⟨String.ofList s.path, s.ranges⟩

/-- The section is what it seems to be: a header with this path, lines that are no headers, and
the ranges that they add. -/
structure WellFormed (s : Section) : Prop where
  header : IsHeader s.header s.path
  body : ∀ line ∈ s.body, ∀ old path, ¬HeaderCut line old path
  ranges : Ranges s.body s.ranges

end Section

/-- The lines are these sections, after a preamble without headers. -/
def Sectioned (lines : List (List Char)) (sections : List Section) : Prop :=
  ∃ preamble, (∀ line ∈ preamble, ∀ old path, ¬HeaderCut line old path) ∧
    (∀ s ∈ sections, s.WellFormed) ∧
    lines = preamble ++ sections.flatMap fun s => s.header :: s.body

/-! ## There is one way to cut a text into sections -/

theorem Adds.unique {line : List Char} {first last first' last' : Int} (h : Adds line first last)
    (h' : Adds line first' last') : first = first' ∧ last = last' := by
  obtain ⟨hunk, hline, -, rfl, rfl⟩ := h
  obtain ⟨hunk', hline', -, rfl, rfl⟩ := h'
  obtain rfl := hline.unique hline'
  exact ⟨rfl, rfl⟩

theorem Ranges.unique {body : List (List Char)} {ranges ranges' : List LineRange}
    (h : Ranges body ranges) (h' : Ranges body ranges') : ranges = ranges' := by
  induction h generalizing ranges' with
  | nil => cases h'; rfl
  | @adds line range body ranges hadds _ ih =>
    cases h' with
    | @adds _ range' _ ranges' hadds' hbody' =>
      obtain ⟨hfirst, hlast⟩ := hadds.unique hadds'
      have hrange : range = range' := by
        cases range
        cases range'
        simp_all
      rw [hrange, ih hbody']
    | other h' _ => exact absurd hadds (h' _ _)
  | other h _ ih =>
    cases h' with
    | adds hadds' _ => exact absurd hadds' (h _ _)
    | other _ hbody' => exact ih hbody'

/-- Where the lines before the first header end is told by the lines alone. -/
theorem preamble_unique {before before' after after' : List (List Char)}
    (hbefore : ∀ line ∈ before, ∀ old path, ¬HeaderCut line old path)
    (hbefore' : ∀ line ∈ before', ∀ old path, ¬HeaderCut line old path)
    (hafter : ∀ line ∈ after.head?, ∃ path, IsHeader line path)
    (hafter' : ∀ line ∈ after'.head?, ∃ path, IsHeader line path)
    (h : before ++ after = before' ++ after') : before = before' ∧ after = after' := by
  have hno : ∀ {line : List Char} {rest : List (List Char)}, line ∈ rest →
      (∀ line ∈ rest, ∀ old path, ¬HeaderCut line old path) → ¬∃ path, IsHeader line path := by
    intro line rest hline hrest hgiven
    obtain ⟨path, ⟨old, hcut⟩, -⟩ := hgiven
    exact hrest line hline old path hcut
  -- The preambles end together: the first line after one of them is a header, and no line of
  -- the other one is.
  induction before generalizing before' with
  | nil =>
    cases before' with
    | nil => exact ⟨rfl, h⟩
    | cons line rest =>
      have hhead : line ∈ after.head? := by
        rw [List.nil_append] at h
        simp [h]
      exact absurd (hafter line hhead) (hno List.mem_cons_self hbefore')
  | cons line rest ih =>
    cases before' with
    | nil =>
      have hhead : line ∈ after'.head? := by
        rw [List.nil_append] at h
        simp [← h]
      exact absurd (hafter' line hhead) (hno List.mem_cons_self hbefore)
    | cons line' rest' =>
      obtain ⟨rfl, hrest⟩ := List.cons.inj h
      obtain ⟨rfl, hafter⟩ := ih (fun l hl => hbefore l (List.mem_cons_of_mem _ hl))
        (fun l hl => hbefore' l (List.mem_cons_of_mem _ hl)) hrest
      exact ⟨rfl, hafter⟩

theorem head?_sections {sections : List Section} (h : ∀ s ∈ sections, s.WellFormed) :
    ∀ line ∈ (sections.flatMap fun s => s.header :: s.body).head?, ∃ path, IsHeader line path := by
  cases sections with
  | nil => simp
  | cons s rest =>
    intro line hline
    obtain rfl : s.header = line := by simpa using hline
    exact ⟨s.path, (h s List.mem_cons_self).header⟩

theorem sections_unique {sections sections' : List Section} (h : ∀ s ∈ sections, s.WellFormed)
    (h' : ∀ s ∈ sections', s.WellFormed)
    (heq : (sections.flatMap fun s => s.header :: s.body)
      = sections'.flatMap fun s => s.header :: s.body) : sections = sections' := by
  induction sections generalizing sections' with
  | nil =>
    cases sections' with
    | nil => rfl
    | cons s rest => simp at heq
  | cons s rest ih =>
    cases sections' with
    | nil => simp at heq
    | cons s' rest' =>
      have hs := h s List.mem_cons_self
      have hs' := h' s' List.mem_cons_self
      have hrest : ∀ s ∈ rest, s.WellFormed := fun x hx => h x (List.mem_cons_of_mem s hx)
      have hrest' : ∀ s ∈ rest', s.WellFormed := fun x hx => h' x (List.mem_cons_of_mem s' hx)
      simp only [List.flatMap_cons, List.cons_append] at heq
      obtain ⟨hheader, hlines⟩ := List.cons.inj heq
      obtain ⟨hbody, hafter⟩ := preamble_unique hs.body hs'.body (head?_sections hrest)
        (head?_sections hrest') hlines
      have hpath : s.path = s'.path := hs.header.path_unique (hheader ▸ hs'.header)
      have hranges : s.ranges = s'.ranges := hs.ranges.unique (hbody ▸ hs'.ranges)
      have hsection : s = s' := by
        cases s
        cases s'
        simp_all
      rw [hsection, ih hrest hrest' hafter]

theorem Sectioned.unique {lines : List (List Char)} {sections sections' : List Section}
    (h : Sectioned lines sections) (h' : Sectioned lines sections') : sections = sections' := by
  obtain ⟨preamble, hpreamble, hs, hlines⟩ := h
  obtain ⟨preamble', hpreamble', hs', hlines'⟩ := h'
  obtain ⟨-, hafter⟩ := preamble_unique hpreamble hpreamble' (head?_sections hs)
    (head?_sections hs') (hlines.symm.trans hlines')
  exact sections_unique hs hs' hafter

/-! ## What a reading files -/

theorem readNumber_eq_ok {digits : List Char} {n : Nat} (h : readNumber digits = .ok n) :
    n = numberOf digits := by
  unfold readNumber at h
  split at h
  · cases h
  · exact (Except.ok.inj h).symm

theorem make_eq_ok {first last : Int} {range : LineRange}
    (h : LineRange.make first last = .ok range) : range.first = first ∧ range.last = last := by
  unfold LineRange.make at h
  split at h
  · cases h
  · split at h
    · cases h
    · obtain rfl := Except.ok.inj h
      exact ⟨rfl, rfl⟩

/-- The lines of a hunk whose numbers are read. -/
def linesFrom? (start count : Nat) : Except ReadError (Option LineRange) :=
  if count = 0 then .ok none
  else match LineRange.make start (start + count - 1) with
    | .ok range => .ok (some range)
    | .error fault => .error (.badRange fault)

theorem linesFrom?_eq_ok {start count : Nat} {range? : Option LineRange}
    (h : linesFrom? start count = .ok range?) :
    (range? = none ∧ count = 0) ∨
      ∃ range, range? = some range ∧ count ≠ 0 ∧ range.first = start ∧
        range.last = start + count - 1 := by
  unfold linesFrom? at h
  split at h
  · rename_i hzero
    exact .inl ⟨(Except.ok.inj h).symm, hzero⟩
  · rename_i hzero
    split at h
    · rename_i range hmake
      obtain ⟨hfirst, hlast⟩ := make_eq_ok hmake
      exact .inr ⟨range, (Except.ok.inj h).symm, hzero, hfirst, hlast⟩
    · cases h

theorem HunkHeader.linesFrom?_of_lines? {h : HunkHeader} {range? : Option LineRange}
    (hread : h.lines? = .ok range?) :
    linesFrom? (numberOf h.start) h.newCount = .ok range? := by
  obtain ⟨start, count⟩ := h
  unfold lines? at hread
  cases hstart : readNumber start with
  | error fault =>
    rw [hstart] at hread
    cases hread
  | ok first =>
    obtain rfl := readNumber_eq_ok hstart
    rw [hstart] at hread
    cases count with
    | none => exact hread
    | some digits =>
      cases hdigits : readNumber digits with
      | error fault =>
        simp only [hdigits] at hread
        cases hread
      | ok n =>
        obtain rfl := readNumber_eq_ok hdigits
        simp only [hdigits] at hread
        exact hread

theorem readNumber_of_le {digits : List Char} (h : digits.length ≤ digitLimit) :
    readNumber digits = .ok (numberOf digits) := by
  rw [readNumber, if_neg (Nat.not_lt.mpr h)]

/-- If there are not too many digits, the two numbers alone decide. -/
theorem HunkHeader.lines?_eq_linesFrom? {h : HunkHeader} (hstart : h.start.length ≤ digitLimit)
    (hcount : ∀ digits ∈ h.count, digits.length ≤ digitLimit) :
    h.lines? = linesFrom? (numberOf h.start) h.newCount := by
  obtain ⟨start, count⟩ := h
  rw [lines?, readNumber_of_le hstart]
  cases count with
  | none => rfl
  | some digits =>
    simp only [readNumber_of_le (hcount digits rfl)]
    rfl

/-- The file of every section that adds lines, with these lines. -/
def added (sections : List Section) : List FileDiff :=
  (sections.map Section.file).filter fun d => d.ranges ≠ []

theorem added_cons (s : Section) (sections : List Section) :
    added (s :: sections) = if s.ranges = [] then added sections else s.file :: added sections := by
  unfold added
  rw [List.map_cons, List.filter_cons]
  by_cases h : s.ranges = []
  · simp [Section.file, h]
  · simp [Section.file, h]

namespace Reading

theorem step_header {line path : List Char} (h : IsHeader line path) (r : Reading) :
    r.step line
      = .ok { r with filed := r.flushed, current := some ⟨String.ofList path, []⟩ } := by
  rw [step, read_eq_fileHeader.mpr h]

theorem step_hunk {line : List Char} {h : HunkHeader} (hhunk : IsHunk line h) {r : Reading}
    {d : FileDiff} (hopen : r.current = some d) :
    r.step line = h.lines?.map fun range? =>
      { r with current := some { d with ranges := d.ranges ++ range?.toList } } := by
  obtain ⟨filed, current, notes⟩ := r
  obtain rfl : current = some d := hopen
  rw [step, read_eq_hunk.mpr hhunk]
  dsimp only
  cases h.lines? with
  | error fault => rfl
  | ok range? =>
    cases range? with
    | none => simp [Except.map]
    | some range => rfl

/-- What one line does: it opens a file, adds lines to the open one, or does neither. -/
theorem step_cases {r next : Reading} {line : List Char} (h : r.step line = .ok next) :
    (∃ path, IsHeader line path ∧ next.filed = r.flushed ∧
      next.current = some ⟨String.ofList path, []⟩) ∨
    (∀ old path, ¬HeaderCut line old path) ∧
      ((∃ d range, r.current = some d ∧ Adds line range.first range.last ∧ next.filed = r.filed ∧
        next.current = some { d with ranges := d.ranges ++ [range] }) ∨
      (r.current = none ∨ ∀ first last, ¬Adds line first last) ∧
        next.filed = r.filed ∧ next.current = r.current) := by
  have hnone : (∀ hunk, Line.read line ≠ .hunk hunk) → ∀ first last, ¬Adds line first last := by
    intro hread first last hgiven
    obtain ⟨hunk, hhunk, -⟩ := hgiven
    exact hread hunk (read_eq_hunk.mpr hhunk)
  unfold step at h
  cases hread : Line.read line with
  | fileHeader path =>
    obtain rfl : _ = next := by simpa [hread] using h
    exact .inl ⟨path, read_eq_fileHeader.mp hread, rfl, rfl⟩
  | content =>
    obtain rfl : _ = next := by simpa [hread] using h
    refine .inr ⟨not_headerCut (by simp [hread]), .inr ⟨.inr (hnone (by simp [hread])), rfl, rfl⟩⟩
  | malformed text =>
    obtain rfl : _ = next := by simpa [hread] using h
    refine .inr ⟨not_headerCut (by simp [hread]), .inr ⟨.inr (hnone (by simp [hread])), rfl, rfl⟩⟩
  | hunk header =>
    have hhunk := read_eq_hunk.mp hread
    refine .inr ⟨not_headerCut (by simp [hread]), ?_⟩
    rw [hread] at h
    cases hcurrent : r.current with
    | none =>
      obtain rfl : _ = next := by simpa [hcurrent] using h
      exact .inr ⟨.inl rfl, rfl, rfl⟩
    | some d =>
      cases hlines : header.lines? with
      | error fault => simp [hcurrent, hlines] at h
      | ok range? =>
        rcases linesFrom?_eq_ok (HunkHeader.linesFrom?_of_lines? hlines) with
          ⟨rfl, hcount⟩ | ⟨range, rfl, hcount, hrange⟩
        · obtain rfl : r = next := by simpa [hcurrent, hlines] using h
          refine .inr ⟨.inr ?_, rfl, hcurrent⟩
          intro first last hgiven
          obtain ⟨header', hhunk', hcount', -⟩ := hgiven
          obtain rfl := hhunk.unique hhunk'
          exact hcount' hcount
        · obtain rfl : _ = next := by simpa [hcurrent, hlines] using h
          exact .inl ⟨d, range, rfl, ⟨header, hhunk, hcount, hrange⟩, rfl, rfl⟩

/-- What will be filed if the open file gets these ranges too and is then closed. -/
def flushedWith (r : Reading) (ranges : List LineRange) : Diff :=
  flushed { r with current := r.current.map fun d => { d with ranges := d.ranges ++ ranges } }

theorem flushedWith_nil (r : Reading) : r.flushedWith [] = r.flushed := by
  simp [flushedWith]

theorem run_cons_eq_ok {r last : Reading} {line : List Char} {rest : List (List Char)} :
    r.run (line :: rest) = .ok last ↔
      ∃ next, r.step line = .ok next ∧ next.run rest = .ok last := by
  rw [run]
  cases r.step line with
  | error fault => simp
  | ok next => simp

/-- The lines up to the next header belong to the file that is open, if one is; after them come
sections, which are filed one after the other. -/
theorem run_eq_ok {r last : Reading} {lines : List (List Char)} (h : r.run lines = .ok last) :
    ∃ body ranges sections, (∀ line ∈ body, ∀ old path, ¬HeaderCut line old path) ∧
      (r.current ≠ none → Ranges body ranges) ∧ (∀ s ∈ sections, s.WellFormed) ∧
      lines = body ++ sections.flatMap (fun s => s.header :: s.body) ∧
      last.flushed = fileAll (added sections) (r.flushedWith ranges) := by
  induction lines generalizing r with
  | nil =>
    obtain rfl : r = last := by simpa [run] using h
    exact ⟨[], [], [], by simp, fun _ => .nil, by simp, rfl, (flushedWith_nil r).symm⟩
  | cons line rest ih =>
    obtain ⟨next, hstep, hrest⟩ := run_cons_eq_ok.mp h
    obtain ⟨body, ranges, sections, hbody, hranges, hsections, rfl, hlast⟩ := ih hrest
    have hcons : (∀ old path, ¬HeaderCut line old path) →
        ∀ l ∈ line :: body, ∀ old path, ¬HeaderCut l old path := by
      intro hline l hl
      rcases List.mem_cons.mp hl with rfl | hl
      · exact hline
      · exact hbody l hl
    rcases step_cases hstep with ⟨path, hheader, hfiled, hcurrent⟩ |
      ⟨hline, ⟨d, range, hopen, hadds, hfiled, hcurrent⟩ | ⟨hother, hfiled, hcurrent⟩⟩
    · -- The body read so far becomes the body of the section that the header opens.
      have hopen : Ranges body ranges := hranges (by simp [hcurrent])
      refine ⟨[], [], ⟨line, path, body, ranges⟩ :: sections, by simp, fun _ => .nil, ?_, by simp,
        ?_⟩
      · intro s hs
        rcases List.mem_cons.mp hs with rfl | hs
        · exact ⟨hheader, hbody, hopen⟩
        · exact hsections s hs
      · rw [hlast, flushedWith_nil, added_cons]
        cases ranges <;> simp [flushedWith, flushed, hcurrent, hfiled, Section.file, fileAll]
    · -- The open file gets this range before those of the body.
      refine ⟨line :: body, range :: ranges, sections, hcons hline,
        fun _ => .adds hadds (hranges (by simp [hcurrent])), hsections, by simp, ?_⟩
      rw [hlast]
      simp [flushedWith, hcurrent, hopen, flushed, hfiled]
    · refine ⟨line :: body, ranges, sections, hcons hline, fun hopen => ?_, hsections,
        by simp, ?_⟩
      · exact .other (hother.resolve_left hopen) (hranges (hcurrent ▸ hopen))
      · rw [hlast]
        simp [flushedWith, flushed, hcurrent, hfiled]

end Reading

/-! ## Texts -/

theorem read_eq_ok {text : String} {diff : Diff} {notes : List Note} :
    read text = .ok (diff, notes) ↔
      ∃ last, Reading.run ⟨[], none, []⟩ (lines text.toList) = .ok last ∧
        last.flushed = diff ∧ last.notes.reverse = notes := by
  unfold read
  cases Reading.run ⟨[], none, []⟩ (lines text.toList) with
  | error fault => simp
  | ok last => simp

theorem read_eq_error {text : String} {e : ReadError} :
    read text = .error e ↔ Reading.run ⟨[], none, []⟩ (lines text.toList) = .error e := by
  unfold read
  cases Reading.run ⟨[], none, []⟩ (lines text.toList) with
  | error fault => simp
  | ok last => simp

/-- Reading answers what the sections of the text say: the files are the paths of the sections that
add lines, in the order of the first such section of each, and each file has the lines that the
last such section of its path adds. -/
theorem read_sections {text : String} {diff : Diff} {notes : List Note}
    (h : read text = .ok (diff, notes)) :
    ∃ sections, Sectioned (lines text.toList) sections ∧
      (∀ others, Sectioned (lines text.toList) others → others = sections) ∧
      diff.paths = distinct ((added sections).map (·.path)) ∧
      ∀ d ∈ diff, ((added sections).filter (·.path = d.path)).getLast? = some d := by
  unfold read at h
  cases hrun : Reading.run ⟨[], none, []⟩ (lines text.toList) with
  | error fault => simp [hrun] at h
  | ok last =>
    obtain ⟨rfl, -⟩ : last.flushed = diff ∧ _ := by simpa [hrun] using h
    obtain ⟨preamble, ranges, sections, hpreamble, -, hsections, hlines, hfiled⟩ :=
      Reading.run_eq_ok hrun
    have hdiff : last.flushed = fileAll (added sections) [] := hfiled
    have hsectioned : Sectioned (lines text.toList) sections :=
      ⟨preamble, hpreamble, hsections, hlines⟩
    have hpaths : last.flushed.paths = distinct ((added sections).map (·.path)) := by
      rw [hdiff, paths_fileAll]
    refine ⟨sections, hsectioned, fun others h => h.unique hsectioned, hpaths, fun d hd => ?_⟩
    have hnodup : last.flushed.paths.Nodup := hpaths ▸ nodup_distinct _
    rw [← find?_fileAll, ← hdiff]
    exact find?_of_mem hnodup hd

/-- The first header has two cuts, the second section only deletes, the path of the first comes
again, and no line feed ends the last line. -/
theorem read_repeated_path :
    ∃ sections, Sectioned (lines ("diff --git a/x b/y b/m.py\n@@ -1 +2,3 @@\n@@ bad\n" ++
        "diff --git a/n b/n\n@@ -4,2 +3,0 @@\ndiff --git a/m.py b/m.py\n@@ -9 +7 @@").toList)
        sections ∧
      distinct ((added sections).map (·.path)) = ["m.py"] ∧
      ((added sections).filter (·.path = "m.py")).getLast?
        = some ⟨"m.py", [⟨7, 7, by decide, by decide⟩]⟩ := by
  have hread : read ("diff --git a/x b/y b/m.py\n@@ -1 +2,3 @@\n@@ bad\n" ++
        "diff --git a/n b/n\n@@ -4,2 +3,0 @@\ndiff --git a/m.py b/m.py\n@@ -9 +7 @@")
      = .ok ([⟨"m.py", [⟨7, 7, by decide, by decide⟩]⟩], [.malformedHunk "@@ bad"]) := by
    decide +kernel
  obtain ⟨sections, hsectioned, -, hpaths, hlast⟩ := read_sections hread
  exact ⟨sections, hsectioned, hpaths.symm, hlast ⟨"m.py", _⟩ List.mem_cons_self⟩

end TestImpact.Diff
