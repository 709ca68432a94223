import TestImpact.Proofs.Diff.Joined
import TestImpact.Proofs.Diff.Marks

/-
  Where a hunk lands.

  Two readings agree at a path (`Reading.AgreeAt`) if they have filed the same
  there and have the same file open, or neither has this path open. A hunk
  header touches the open file alone (`Reading.agreeAt_of_hunk`), and readings
  that agree at a path go on to do so (`Reading.AgreeAt.run`); so a hunk
  changes nothing at any path but that of the last file header before it.

  `readChanges_without_hunk` says what this means for the nearest line that
  begins with `diff --git`. If it is a file header, the hunk lands on its file
  and on no other. If it is not, because its paths are quoted, say, the line is
  passed over like any content: the hunk lands on the file of a header further
  up, if there is one. `quoted_header_moves_hunk` shows that it really does.
-/

namespace TestImpact.Diff

open TestImpact.Text

namespace Reading

variable {r r' next next' last last' : Reading} {path : String}

/-- The readings hold the same at a path. -/
structure AgreeAt (path : String) (r r' : Reading) : Prop where
  filed : r.filed.find? path = r'.filed.find? path
  current : r.current = r'.current ∨
    ∃ d d', r.current = some d ∧ r'.current = some d' ∧ d.path ≠ path ∧ d'.path ≠ path

theorem find?_flushed (r : Reading) (path : String) :
    r.flushed.find? path = if ∃ d ∈ r.current, d.ranges ≠ [] ∧ d.path = path then r.current
      else r.filed.find? path := by
  unfold flushed
  cases r.current with
  | none => simp
  | some d =>
    by_cases hranges : d.ranges = []
    · simp [hranges]
    · simp [hranges, find?_file]

theorem find?_flushed_of_ne {d : FileDiff} (hopen : r.current = some d) (hne : d.path ≠ path) :
    r.flushed.find? path = r.filed.find? path := by
  rw [find?_flushed, if_neg]
  intro hgiven
  obtain ⟨d', hd', -, hpath⟩ := hgiven
  obtain rfl : d = d' := Option.some.inj (hopen.symm.trans hd')
  exact hne hpath

namespace AgreeAt

theorem flushed (h : AgreeAt path r r') : r.flushed.find? path = r'.flushed.find? path := by
  rcases h.current with hsame | ⟨d, d', hopen, hopen', hne, hne'⟩
  · rw [find?_flushed, find?_flushed, hsame, h.filed]
  · rw [find?_flushed_of_ne hopen hne, find?_flushed_of_ne hopen' hne', h.filed]

/-- One more line, read by both, keeps the agreement. -/
theorem step (h : AgreeAt path r r') {line : List Char} (hstep : r.step line = .ok next)
    (hstep' : r'.step line = .ok next') : AgreeAt path next next' := by
  cases hread : Line.read line with
  | fileHeader opened =>
    have hheader := read_eq_fileHeader.mp hread
    obtain rfl := Except.ok.inj ((step_header hheader r).symm.trans hstep)
    obtain rfl := Except.ok.inj ((step_header hheader r').symm.trans hstep')
    exact ⟨h.flushed, .inl rfl⟩
  | content =>
    obtain rfl : r = next := by simpa [Reading.step, hread] using hstep
    obtain rfl : r' = next' := by simpa [Reading.step, hread] using hstep'
    exact h
  | malformed text =>
    obtain rfl : _ = next := by simpa [Reading.step, hread] using hstep
    obtain rfl : _ = next' := by simpa [Reading.step, hread] using hstep'
    exact ⟨h.filed, h.current⟩
  | hunk header =>
    have hhunk := read_eq_hunk.mp hread
    rcases h.current with hsame | ⟨d, d', hopen, hopen', hne, hne'⟩
    · cases hopen : r'.current with
      | none =>
        obtain rfl : _ = next := by simpa [Reading.step, hread, hsame, hopen] using hstep
        obtain rfl : _ = next' := by simpa [Reading.step, hread, hopen] using hstep'
        exact ⟨h.filed, .inl rfl⟩
      | some d =>
        rw [step_hunk hhunk (hsame.trans hopen)] at hstep
        rw [step_hunk hhunk hopen] at hstep'
        cases hlines : header.lines? with
        | error fault => simp [hlines, Except.map] at hstep
        | ok range? =>
          obtain rfl : _ = next := by simpa [hlines, Except.map] using hstep
          obtain rfl : _ = next' := by simpa [hlines, Except.map] using hstep'
          exact ⟨h.filed, .inl rfl⟩
    · -- Both add the same lines, each to its own open file.
      rw [step_hunk hhunk hopen] at hstep
      rw [step_hunk hhunk hopen'] at hstep'
      cases hlines : header.lines? with
      | error fault => simp [hlines, Except.map] at hstep
      | ok range? =>
        obtain rfl : _ = next := by simpa [hlines, Except.map] using hstep
        obtain rfl : _ = next' := by simpa [hlines, Except.map] using hstep'
        exact ⟨h.filed, .inr ⟨_, _, rfl, rfl, hne, hne'⟩⟩

theorem run (h : AgreeAt path r r') {lines : List (List Char)} (hrun : r.run lines = .ok last)
    (hrun' : r'.run lines = .ok last') : AgreeAt path last last' := by
  induction lines generalizing r r' with
  | nil =>
    obtain rfl : r = last := by simpa [Reading.run] using hrun
    obtain rfl : r' = last' := by simpa [Reading.run] using hrun'
    exact h
  | cons line rest ih =>
    obtain ⟨next, hstep, hrest⟩ := run_cons_eq_ok.mp hrun
    obtain ⟨next', hstep', hrest'⟩ := run_cons_eq_ok.mp hrun'
    exact ih (h.step hstep hstep') hrest hrest'

end AgreeAt

/-- A hunk header changes nothing away from the open file. -/
theorem agreeAt_of_hunk {line : List Char} {h : HunkHeader} (hhunk : IsHunk line h)
    (hstep : r.step line = .ok next) (hopen : r.current.map (·.path) ≠ some path) :
    AgreeAt path next r := by
  rcases step_cases hstep with ⟨_, ⟨⟨old, hcut⟩, -⟩, -, -⟩ |
    ⟨-, ⟨d, range, hcurrent, -, hfiled, hnext⟩ | ⟨-, hfiled, hnext⟩⟩
  · exact absurd hcut (hhunk.not_headerCut _ _)
  · have hne : d.path ≠ path := by simpa [hcurrent] using hopen
    exact ⟨by rw [hfiled], .inr ⟨_, d, hnext, hcurrent, hne, hne⟩⟩
  · exact ⟨by rw [hfiled], .inl hnext⟩

/-- Without one of its hunk headers, a run goes through as well, and ends with the same at every
path but that of the last file header before it. -/
theorem run_without_hunk {before after : List (List Char)} {line : List Char} {h : HunkHeader}
    (hhunk : IsHunk line h) (hrun : r.run (before ++ line :: after) = .ok last) :
    ∃ last', r.run (before ++ after) = .ok last' ∧
      ∀ path, ((lastHeader? before).map String.ofList).or (r.current.map (·.path)) ≠ some path →
        last.flushed.find? path = last'.flushed.find? path := by
  obtain ⟨mid, hmid, hback⟩ := exists_run_of_append hrun
  obtain ⟨next, hstep, hrest⟩ := run_cons_eq_ok.mp hback
  -- The hunk header opens no file, so the lines after it are as sound as they were.
  have hsame : next.current ≠ none ↔ mid.current ≠ none := by
    rw [step_opens hstep, or_iff_left]
    intro hgiven
    obtain ⟨path, ⟨old, hcut⟩, -⟩ := hgiven
    exact hhunk.not_headerCut old path hcut
  have hsound : ¬∃ before h, mid.FaultAhead after before h := by
    intro hgiven
    obtain ⟨front, h', hreached, hopened, hfaulty⟩ := hgiven
    exact run_eq_ok_iff.mp ⟨last, hrest⟩
      ⟨front, h', hreached, hopened.imp_left hsame.mpr, hfaulty⟩
  obtain ⟨last', hlast'⟩ := run_eq_ok_iff.mpr hsound
  refine ⟨last', by rw [run_append hmid, hlast'], fun path hpath => ?_⟩
  rw [← run_path hmid] at hpath
  exact ((agreeAt_of_hunk hhunk hstep hpath).run hrest hlast').flushed

end Reading

theorem headerPath?_eq_none_of_front {line : List Char} (h : ¬"diff --git ".toList <+: line) :
    headerPath? line = none := by
  refine headerPath?_eq_none_iff.mpr fun old path hcut => h ?_
  obtain ⟨-, -, hline⟩ := hcut
  exact ⟨"a/".toList ++ old ++ " b/".toList ++ path, by rw [hline]; simp⟩

/-- A line that begins with `diff --git` counts only as a file header. -/
theorem counts_eq_false_of_front {line : List Char} (hfront : "diff --git ".toList <+: line)
    (hheader : ∀ path, ¬IsHeader line path) : counts line = false := by
  rw [← Bool.not_eq_true, counts_iff]
  intro hgiven
  rcases hgiven with ⟨path, hpath⟩ | ⟨h, ⟨_, _, _, -, -, -, -, hline⟩, -⟩
  · exact hheader path hpath
  · obtain ⟨rest, hrest⟩ := hfront
    simp [hline] at hrest

/-- **Where a hunk lands.** Take a hunk header and the nearest line before it that begins with
`diff --git`. If this is a file header, the hunk changes its file alone. If it is not, it might as
well not be there: the hunk changes at most the file of the last file header before it. -/
theorem readChanges_without_hunk {text text' : String} {before body after : List (List Char)}
    {header hunk : List Char} {h : HunkHeader} {diff : Diff}
    (hlines : lines text.toList = before ++ header :: body ++ hunk :: after)
    (hlines' : lines text'.toList = before ++ header :: body ++ after)
    (hfront : "diff --git ".toList <+: header)
    (hbody : ∀ line ∈ body, ¬"diff --git ".toList <+: line) (hhunk : IsHunk hunk h)
    (hread : readChanges text = .ok diff) :
    ∃ diff', readChanges text' = .ok diff' ∧
      (∀ path, IsHeader header path →
        ∀ other, other ≠ String.ofList path → diff.find? other = diff'.find? other) ∧
      ((∀ path, ¬IsHeader header path) →
        (∀ other, (lastHeader? before).map String.ofList ≠ some other →
          diff.find? other = diff'.find? other) ∧
        ∀ passed : String, lines passed.toList = before ++ body ++ hunk :: after →
          readChanges passed = .ok diff) := by
  rw [readChanges_eq, hlines] at hread
  cases hrun : Reading.run ⟨[], none, []⟩ (before ++ header :: body ++ hunk :: after) with
  | error fault =>
    rw [hrun] at hread
    cases hread
  | ok last =>
    rw [hrun] at hread
    obtain rfl : last.flushed = diff := Except.ok.inj hread
    obtain ⟨last', hrun', hsame⟩ := Reading.run_without_hunk hhunk hrun
    have hnone : lastHeader? body = none :=
      lastHeader?_eq_none fun line hline => headerPath?_eq_none_of_front (hbody line hline)
    have hlast : lastHeader? (before ++ header :: body)
        = (headerPath? header).or (lastHeader? before) := by
      rw [lastHeader?_append, lastHeader?_cons, hnone]
      rfl
    simp only [hlast, Option.map_none, Option.or_none] at hsame
    refine ⟨last'.flushed, by rw [readChanges_eq, hlines', hrun']; rfl, fun path hpath other hne =>
      ?_, fun hplain => ⟨fun other hother => ?_, fun passed hpassed => ?_⟩⟩
    · refine hsame other fun heq => hne ?_
      rw [headerPath?_eq_some.mpr hpath] at heq
      exact (Option.some.inj heq).symm
    · refine hsame other ?_
      have hpath : headerPath? header = none := by
        cases hpath : headerPath? header with
        | none => rfl
        | some path => exact absurd (headerPath?_eq_some.mp hpath) (hplain path)
      rwa [hpath]
    · have hcounts := counts_eq_false_of_front hfront hplain
      have hfilter : (lines passed.toList).filter counts = (lines text.toList).filter counts := by
        rw [hpassed, hlines]
        simp [hcounts]
      rw [readChanges_eq_of_filter hfilter, readChanges_eq, hlines, hrun]
      rfl

/-- The hunk at line 7 is one of `n.py`: without it, `m.py` has the same lines as with it. -/
theorem readChanges_without_hunk_second :
    let before := ["diff --git a/m.py b/m.py".toList, "@@ -1 +1 @@".toList]
    let header := "diff --git a/n.py b/n.py".toList
    let hunk := "@@ -7 +7 @@".toList
    let text := "diff --git a/m.py b/m.py\n@@ -1 +1 @@\ndiff --git a/n.py b/n.py\n" ++
      "--- a/n.py\n@@ -7 +7 @@\n@@ -9 +8 @@\n"
    let text' := "diff --git a/m.py b/m.py\n@@ -1 +1 @@\ndiff --git a/n.py b/n.py\n" ++
      "--- a/n.py\n@@ -9 +8 @@\n"
    lines text.toList
        = before ++ header :: ["--- a/n.py".toList] ++ hunk :: ["@@ -9 +8 @@".toList] ∧
      lines text'.toList = before ++ header :: ["--- a/n.py".toList] ++ ["@@ -9 +8 @@".toList] ∧
      "diff --git ".toList <+: header ∧
      (∀ line ∈ ["--- a/n.py".toList], ¬"diff --git ".toList <+: line) ∧
      IsHunk hunk ⟨['7'], none⟩ ∧ IsHeader header "n.py".toList ∧
      ∃ diff diff', readChanges text = .ok diff ∧ readChanges text' = .ok diff' ∧
        diff.find? "n.py" ≠ diff'.find? "n.py" ∧ diff.find? "m.py" = diff'.find? "m.py" := by
  intro before header hunk text text'
  have hlines : lines text.toList
      = before ++ header :: ["--- a/n.py".toList] ++ hunk :: ["@@ -9 +8 @@".toList] := by
    decide +kernel
  have hlines' : lines text'.toList
      = before ++ header :: ["--- a/n.py".toList] ++ ["@@ -9 +8 @@".toList] := by
    decide +kernel
  have hfront : "diff --git ".toList <+: header := by decide
  have hbody : ∀ line ∈ ["--- a/n.py".toList], ¬"diff --git ".toList <+: line := by decide
  have hhunk : IsHunk hunk ⟨['7'], none⟩ := hunkHeader?_eq_some.mp (by decide +kernel)
  have hheader : IsHeader header "n.py".toList := headerPath?_eq_some.mp (by decide +kernel)
  have hread : readChanges text = .ok [⟨"m.py", [⟨1, 1, by decide, by decide⟩]⟩,
      ⟨"n.py", [⟨7, 7, by decide, by decide⟩, ⟨8, 8, by decide, by decide⟩]⟩] := by
    rw [readChanges_eq, hlines]
    decide +kernel
  have hread' : readChanges text' = .ok [⟨"m.py", [⟨1, 1, by decide, by decide⟩]⟩,
      ⟨"n.py", [⟨8, 8, by decide, by decide⟩]⟩] := by
    rw [readChanges_eq, hlines']
    decide +kernel
  obtain ⟨diff', hdiff', hplain, -⟩ :=
    readChanges_without_hunk hlines hlines' hfront hbody hhunk hread
  obtain rfl := Except.ok.inj (hread'.symm.trans hdiff')
  exact ⟨hlines, hlines', hfront, hbody, hhunk, hheader, _, _, hread, hread', by decide,
    hplain _ hheader "m.py" (by decide)⟩

/-- A header with quoted paths is passed over, and the hunk behind it lands on the file before:
`m.py` has the line 7 with it, and has it not without it. -/
theorem quoted_header_moves_hunk :
    let before := ["diff --git a/m.py b/m.py".toList, "@@ -1 +1 @@".toList]
    let header := "diff --git \"a/\\303\\244.py\" \"b/\\303\\244.py\"".toList
    let hunk := "@@ -7 +7 @@".toList
    let text := "diff --git a/m.py b/m.py\n@@ -1 +1 @@\n" ++
      "diff --git \"a/\\303\\244.py\" \"b/\\303\\244.py\"\n@@ -7 +7 @@\n"
    let text' := "diff --git a/m.py b/m.py\n@@ -1 +1 @@\n" ++
      "diff --git \"a/\\303\\244.py\" \"b/\\303\\244.py\"\n"
    lines text.toList = before ++ header :: [] ++ hunk :: [] ∧
      lines text'.toList = before ++ header :: [] ++ [] ∧
      "diff --git ".toList <+: header ∧ IsHunk hunk ⟨['7'], none⟩ ∧
      IsHeader "diff --git a/m.py b/m.py".toList "m.py".toList ∧
      readChanges text = .ok [⟨"m.py",
        [⟨1, 1, by decide, by decide⟩, ⟨7, 7, by decide, by decide⟩]⟩] ∧
      readChanges text' = .ok [⟨"m.py", [⟨1, 1, by decide, by decide⟩]⟩] :=
  ⟨by decide +kernel, by decide +kernel, by decide, hunkHeader?_eq_some.mp (by decide +kernel),
    headerPath?_eq_some.mp (by decide +kernel), by decide +kernel, by decide +kernel⟩

end TestImpact.Diff
