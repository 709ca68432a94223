import TestImpact.Proofs.Diff.Landing

/-
  What the contents of a diff can do to its reading.

  A diff is written as lines that are ended by line feeds: file headers, hunk
  headers, and body lines, which have a mark and behind it text of the files
  (`IsDiffLine`). Two diffs are alike if they differ only in the texts behind
  the marks (`Alike`).

  A text is cut at more boundaries than line feeds, though. A body line with a
  form feed or a carriage return in it is read as several lines, and only the
  first of them is told by the mark. Its text is quiet if none of the others
  counts (`IsQuiet`); a text without boundaries always is (`isQuiet_of_isLine`).

  1. Diffs that are alike tell of the same changes, or fail in the same way, if
     the texts in which they differ are quiet (`readChanges_of_alike`).
  2. A text that is not quiet steers the reading of some diff: with it and
     without it, other changes are told (`exists_steered`).

  So texts of some kind do not steer if and only if all of them are quiet
  (`contents_do_not_steer`). Texts without line feeds do (`form_feed_steers`).
-/

namespace TestImpact.Diff

open TestImpact.Text

/-- The text of some lines, each with a line feed. -/
def ofLines (ls : List (List Char)) : String := String.ofList (ls.flatMap (· ++ ['\n']))

/-- What added, removed and kept lines begin with. -/
def bodyMarks : List Char := ['+', '-', ' ']

/-- The lines of a diff: headers, and marks with text behind them. -/
inductive IsDiffLine : List Char → Prop
  | header {line path : List Char} (hfeed : '\n' ∉ line) (h : IsHeader line path) : IsDiffLine line
  | hunk {line : List Char} {header : HunkHeader} (hfeed : '\n' ∉ line) (h : IsHunk line header) :
      IsDiffLine line
  | body {mark : Char} (hmark : mark ∈ bodyMarks) (content : List Char) :
      IsDiffLine (mark :: content)

/-- The lines are the same, or have the same mark and texts of a kind behind it. -/
inductive Alike (P : List Char → Prop) : List Char → List Char → Prop
  | same (line : List Char) : Alike P line line
  | body {mark : Char} {content content' : List Char} (hmark : mark ∈ bodyMarks)
      (h : P content) (h' : P content') : Alike P (mark :: content) (mark :: content')

/-- No line that counts begins inside the text. -/
def IsQuiet (content : List Char) : Prop :=
  ∀ piece ∈ (lines (content ++ ['\n'])).tail, ¬Counts piece

/-- The lines that count and begin inside the text. -/
def hidden (content : List Char) : List (List Char) :=
  (lines (content ++ ['\n'])).tail.filter counts

theorem hidden_nil : hidden [] = [] := rfl

theorem hidden_eq_nil_iff {content : List Char} : hidden content = [] ↔ IsQuiet content := by
  simp only [hidden, List.filter_eq_nil_iff, IsQuiet, counts_iff]

instance (content : List Char) : Decidable (IsQuiet content) :=
  decidable_of_iff _ hidden_eq_nil_iff

theorem isQuiet_of_isLine {content : List Char} (h : IsLine content) : IsQuiet content := by
  have hlines : lines (content ++ ['\n']) = [content] := lines_line_append h []
  intro piece hpiece
  simp [hlines] at hpiece

/-! ## The lines of a diff that count -/

theorem filter_body {mark : Char} (hmark : mark ∈ bodyMarks) (content : List Char) :
    (lines (mark :: content ++ ['\n'])).filter counts = hidden content := by
  have hplain : isLineBoundary mark = false ∧ mark ≠ '@' ∧ mark ≠ 'd' := by
    simp only [bodyMarks, List.mem_cons, List.not_mem_nil, or_false] at hmark
    rcases hmark with rfl | rfl | rfl <;> decide
  obtain ⟨hboundary, hhunk, hfile⟩ := hplain
  obtain ⟨c, more, hcontent⟩ : ∃ c more, content ++ ['\n'] = c :: more :=
    List.exists_cons_of_ne_nil (by simp)
  obtain ⟨first, rest, hlines⟩ : ∃ first rest, lines (content ++ ['\n']) = first :: rest :=
    List.exists_cons_of_ne_nil (hcontent ▸ lines_ne_nil)
  have hfirst : counts (mark :: first) = false := by
    rw [counts, read_cons_eq_content hhunk hfile]
  rw [List.cons_append, lines_cons_plain hboundary, hidden, hlines]
  exact List.filter_cons_of_neg (by simp [hfirst])

theorem filter_ofLines (ls : List (List Char)) :
    (lines (ofLines ls).toList).filter counts
      = ls.flatMap fun line => (lines (line ++ ['\n'])).filter counts := by
  rw [ofLines, String.toList_ofList, lines_flatMap_feed, List.filter_flatMap]

/-! ## Quiet texts do not steer -/

theorem readChanges_of_alike {P : List Char → Prop}
    (hquiet : ∀ content, P content → IsQuiet content)
    {ls ls' : List (List Char)} (h : List.Forall₂ (Alike P) ls ls') :
    readChanges (ofLines ls) = readChanges (ofLines ls') := by
  refine readChanges_eq_of_filter ?_
  rw [filter_ofLines, filter_ofLines]
  induction h with
  | nil => rfl
  | @cons line line' rest rest' halike _ ih =>
    have hsame : (lines (line ++ ['\n'])).filter counts
        = (lines (line' ++ ['\n'])).filter counts := by
      cases halike with
      | same => rfl
      | @body mark content content' hmark h h' =>
        rw [filter_body hmark, filter_body hmark, hidden_eq_nil_iff.mpr (hquiet content h),
          hidden_eq_nil_iff.mpr (hquiet content' h')]
    rw [List.flatMap_cons, List.flatMap_cons, hsame, ih]

/-! ## Other texts do -/

theorem flatMap_filter_eq_self {ls : List (List Char)}
    (h : ∀ line ∈ ls, IsLine line ∧ Counts line) :
    (ls.flatMap fun line => (lines (line ++ ['\n'])).filter counts) = ls := by
  induction ls with
  | nil => rfl
  | cons line rest ih =>
    obtain ⟨⟨hline, hcounts⟩, hrest⟩ := List.forall_mem_cons.mp h
    have hlines : lines (line ++ ['\n']) = [line] := lines_line_append hline []
    rw [List.flatMap_cons, ih hrest, hlines, List.filter_cons_of_pos (counts_iff.mpr hcounts)]
    rfl

namespace Reading

theorem run_header {line path : List Char} (hheader : IsHeader line path)
    (rest : List (List Char)) :
    run ⟨[], none, []⟩ (line :: rest) = run ⟨[], some ⟨String.ofList path, []⟩, []⟩ rest :=
  run_cons (step_header hheader _) rest

/-- A hunk header that counts gives the open file a range, if it can be read. -/
theorem path_mem_of_step {r next : Reading} {line : List Char} {h : HunkHeader} {d : FileDiff}
    (hhunk : IsHunk line h) (hcounts : h.newCount ≠ 0 ∨ h.IsFaulty) (hopen : r.current = some d)
    (hstep : r.step line = .ok next) : d.path ∈ next.flushed.paths := by
  rcases step_cases hstep with ⟨_, ⟨⟨old, hcut⟩, -⟩, -, -⟩ |
    ⟨-, ⟨d', range, hcurrent, -, hfiled, hnext⟩ | ⟨hnothing, -, -⟩⟩
  · exact absurd hcut (hhunk.not_headerCut _ _)
  · obtain rfl : d' = d := Option.some.inj (hcurrent.symm.trans hopen)
    refine mem_paths_of_find? (d := { d' with ranges := d'.ranges ++ [range] }) ?_
    rw [find?_flushed, hnext, if_pos ⟨_, rfl, by simp, rfl⟩]
  · rcases hnothing with hnone | hnothing
    · simp [hopen] at hnone
    · rcases hcounts with hlines | hfaulty
      · exact absurd ⟨h, hhunk, hlines, rfl, rfl⟩ (hnothing _ _)
      · obtain ⟨e, hfault, -⟩ := HunkHeader.lines?_of_isFaulty hfaulty
        have herror : r.step line = .error e :=
          step_eq_error_iff.mpr ⟨by simp [hopen], h, hhunk, hfault⟩
        rw [hstep] at herror
        cases herror

end Reading

section Steered

variable {mark : Char} {content : List Char}

/-- A body line among headers adds to them the lines that are hidden in it. -/
theorem readChanges_framed (hmark : mark ∈ bodyMarks) (content : List Char)
    {before after : List (List Char)}
    (hframe : ∀ other ∈ before ++ after, IsLine other ∧ Counts other) :
    readChanges (ofLines (before ++ (mark :: content) :: after))
      = (Reading.run ⟨[], none, []⟩ (before ++ (hidden content ++ after))).map
          Reading.flushed := by
  obtain ⟨hbefore, hafter⟩ := List.forall_mem_append.mp hframe
  rw [readChanges_eq_filter, filter_ofLines, List.flatMap_append, List.flatMap_cons,
    flatMap_filter_eq_self hbefore, flatMap_filter_eq_self hafter, filter_body hmark]

/-- A hidden hunk header adds lines to the file that is open. -/
theorem exists_steered_of_hunk (hmark : mark ∈ bodyMarks) {piece : List Char}
    {pieces : List (List Char)} (hpieces : hidden content = piece :: pieces) {h : HunkHeader}
    (hhunk : IsHunk piece h) (hcounts : h.newCount ≠ 0 ∨ h.IsFaulty) :
    ∃ before after, (∀ other ∈ before ++ after, IsLine other ∧ Counts other) ∧
      readChanges (ofLines (before ++ (mark :: content) :: after))
        ≠ readChanges (ofLines (before ++ [mark] :: after)) := by
  let header := "diff --git a/x b/x".toList
  have hheader : IsHeader header ['x'] := headerPath?_eq_some.mp (by decide +kernel)
  have hframe : ∀ other ∈ [header] ++ [], IsLine other ∧ Counts other := by
    intro other hother
    obtain rfl : other = header := by simpa using hother
    exact ⟨by decide, .inl ⟨['x'], hheader⟩⟩
  -- With the line there is a range for the file, or a fault; without it there is nothing.
  refine ⟨[header], [], hframe, fun hsame => ?_⟩
  rw [readChanges_framed hmark content hframe, readChanges_framed hmark [] hframe, hpieces,
    hidden_nil, List.append_nil, List.append_nil, List.append_nil, List.singleton_append,
    Reading.run_header hheader, Reading.run_header hheader] at hsame
  cases hrun : Reading.run ⟨[], some ⟨String.ofList ['x'], []⟩, []⟩ (piece :: pieces) with
  | error fault =>
    rw [hrun] at hsame
    cases hsame
  | ok last =>
    rw [hrun] at hsame
    have hempty : last.flushed = [] := Except.ok.inj hsame
    obtain ⟨next, hstep, hrest⟩ := Reading.run_cons_eq_ok.mp hrun
    have hmem := Reading.mem_paths_run hrest (Reading.path_mem_of_step hhunk hcounts rfl hstep)
    simp [hempty, paths] at hmem

/-- A hidden file header takes the hunks that follow. -/
theorem exists_steered_of_header (hmark : mark ∈ bodyMarks) {path : List Char}
    (hpath : lastHeader? (hidden content) = some path) :
    ∃ before after, (∀ other ∈ before ++ after, IsLine other ∧ Counts other) ∧
      readChanges (ofLines (before ++ (mark :: content) :: after))
        ≠ readChanges (ofLines (before ++ [mark] :: after)) := by
  let hunk := "@@ -1 +1 @@".toList
  let range : LineRange := ⟨1, 1, by decide, by decide⟩
  -- The file before the line is another one, and has the hunk if the line is not there.
  obtain ⟨header, name, hheader, hline, hne⟩ : ∃ header name, IsHeader header name ∧
      IsLine header ∧ name ≠ path := by
    by_cases hx : path = ['x']
    · exact ⟨"diff --git a/y b/y".toList, ['y'], headerPath?_eq_some.mp (by decide +kernel),
        by decide, by simp [hx]⟩
    · exact ⟨"diff --git a/x b/x".toList, ['x'], headerPath?_eq_some.mp (by decide +kernel),
        by decide, Ne.symm hx⟩
  have hhunk : IsHunk hunk ⟨['1'], none⟩ := hunkHeader?_eq_some.mp (by decide +kernel)
  have hplain : Reading.run ⟨[], none, []⟩ [header, hunk]
      = .ok ⟨[], some ⟨String.ofList name, [range]⟩, []⟩ := by
    rw [Reading.run_header hheader, Reading.run, Reading.step_hunk hhunk rfl]
    rfl
  have hframe : ∀ other ∈ [header] ++ [hunk], IsLine other ∧ Counts other := by
    intro other hother
    obtain rfl | rfl : other = header ∨ other = hunk := by simpa using hother
    · exact ⟨hline, .inl ⟨name, hheader⟩⟩
    · exact ⟨by decide, .inr ⟨_, hhunk, .inl (by decide)⟩⟩
  refine ⟨[header], [hunk], hframe, fun hsame => ?_⟩
  rw [readChanges_framed hmark content hframe, readChanges_framed hmark [] hframe, hidden_nil,
    List.nil_append, List.singleton_append (x := header) (l := [hunk]), hplain,
    ← List.append_assoc] at hsame
  cases hrun : Reading.run ⟨[], none, []⟩ ([header] ++ hidden content ++ [hunk]) with
  | error fault =>
    rw [hrun] at hsame
    cases hsame
  | ok last =>
    rw [hrun] at hsame
    have hlast : last.flushed = [⟨String.ofList name, [range]⟩] := by
      simpa [Except.map, Reading.flushed, file] using hsame
    -- Behind the line, the file of the last hidden header is open, and the hunk goes to it.
    obtain ⟨mid, hmid, hrest⟩ := Reading.exists_run_of_append hrun
    have hopen : mid.current.map (·.path) = some (String.ofList path) := by
      rw [Reading.run_path hmid, lastHeader?_append, hpath]
      rfl
    obtain ⟨d, hcurrent, hd⟩ := Option.map_eq_some_iff.mp hopen
    obtain ⟨next, hstep, hend⟩ := Reading.run_cons_eq_ok.mp hrest
    obtain rfl : next = last := by simpa [Reading.run] using hend
    have hmem := Reading.path_mem_of_step hhunk (.inl (by decide)) hcurrent hstep
    rw [hlast, hd] at hmem
    have hname : String.ofList path = String.ofList name := by simpa [paths] using hmem
    exact hne (String.ofList_injective hname).symm

/-- Every text that is not quiet steers the reading of some diff: without it, other changes are
read. -/
theorem exists_steered (hmark : mark ∈ bodyMarks) (hloud : ¬IsQuiet content) :
    ∃ before after, (∀ other ∈ before ++ after, IsLine other ∧ Counts other) ∧
      readChanges (ofLines (before ++ (mark :: content) :: after))
        ≠ readChanges (ofLines (before ++ [mark] :: after)) := by
  cases hpieces : hidden content with
  | nil => exact absurd (hidden_eq_nil_iff.mp hpieces) hloud
  | cons piece pieces =>
    have hmem : piece ∈ hidden content := hpieces ▸ List.mem_cons_self
    rcases counts_iff.mp (List.mem_filter.mp hmem).2 with ⟨path, hpath⟩ | ⟨h, hhunk, hcounts⟩
    · obtain ⟨last, hlast⟩ : ∃ last, lastHeader? (piece :: pieces) = some last := by
        rw [lastHeader?_cons, headerPath?_eq_some.mpr hpath]
        cases lastHeader? pieces with
        | none => exact ⟨path, rfl⟩
        | some last => exact ⟨last, rfl⟩
      exact exists_steered_of_header hmark (hpieces ▸ hlast)
    · exact exists_steered_of_hunk hmark hpieces hhunk hcounts

end Steered

theorem isDiffLine_of_counts {line : List Char} (hline : IsLine line) (h : Counts line) :
    IsDiffLine line := by
  have hfeed : '\n' ∉ line := by
    intro hmem
    have hboundary := hline '\n' hmem
    cases hboundary
  rcases h with ⟨path, hheader⟩ | ⟨header, hhunk, -⟩
  · exact .header hfeed hheader
  · exact .hunk hfeed hhunk

/-- **What the contents of a diff can do.** Take texts of some kind, the empty one among them.
Whether body lines have this or that one of them makes no difference to what a diff is read as, if
and only if no header, and no hunk header that counts, begins behind a boundary inside any. -/
theorem contents_do_not_steer {P : List Char → Prop} (hempty : P []) :
    (∀ ls ls', (∀ line ∈ ls, IsDiffLine line) → List.Forall₂ (Alike P) ls ls' →
        readChanges (ofLines ls) = readChanges (ofLines ls')) ↔
      ∀ content, P content → IsQuiet content := by
  constructor
  · intro hsame content hcontent
    by_contra hloud
    -- The diff in which the text makes a difference differs from an alike one, with no text there.
    have hplus : '+' ∈ bodyMarks := by decide
    obtain ⟨before, after, hframe, hsteered⟩ := exists_steered hplus hloud
    obtain ⟨hbefore, hafter⟩ := List.forall_mem_append.mp hframe
    refine hsteered (hsame _ _ (List.forall_mem_append.mpr ⟨?_, List.forall_mem_cons.mpr ⟨?_, ?_⟩⟩)
      (List.rel_append ?_ (.cons ?_ ?_)))
    · exact fun other hother => (hbefore other hother).elim isDiffLine_of_counts
    · exact .body hplus content
    · exact fun other hother => (hafter other hother).elim isDiffLine_of_counts
    · exact List.forall₂_same.mpr fun other _ => .same other
    · exact .body hplus hcontent hempty
    · exact List.forall₂_same.mpr fun other _ => .same other
  · exact fun hquiet ls ls' _ halike => readChanges_of_alike hquiet halike

/-- Texts without boundaries do not steer, even if one looks like a hunk header. Texts without line
feeds do. -/
theorem contents_do_not_steer_in_lines :
    let header := "diff --git a/m.py b/m.py".toList
    let hunk := "@@ -1 +1 @@".toList
    let line := "+x".toList
    let line' := "+@@ -5 +5 @@".toList
    IsLine [] ∧ List.Forall₂ (Alike IsLine) [header, hunk, line] [header, hunk, line'] ∧
      (∀ other ∈ [header, hunk, line], IsDiffLine other) ∧
      readChanges (ofLines [header, hunk, line])
        = .ok [⟨"m.py", [⟨1, 1, by decide, by decide⟩]⟩] ∧
      readChanges (ofLines [header, hunk, line'])
        = .ok [⟨"m.py", [⟨1, 1, by decide, by decide⟩]⟩] ∧
      ¬∀ ls ls', (∀ other ∈ ls, IsDiffLine other) →
        List.Forall₂ (Alike fun content => '\n' ∉ content) ls ls' →
          readChanges (ofLines ls) = readChanges (ofLines ls') := by
  intro header hunk line line'
  have hplus : '+' ∈ bodyMarks := by decide
  have halike : List.Forall₂ (Alike IsLine) [header, hunk, line] [header, hunk, line'] :=
    .cons (.same header) (.cons (.same hunk) (.cons (.body hplus (by decide) (by decide)) .nil))
  have hheader : IsHeader header "m.py".toList := headerPath?_eq_some.mp (by decide +kernel)
  have hhunk : IsHunk hunk ⟨['1'], none⟩ := hunkHeader?_eq_some.mp (by decide +kernel)
  have hlines : ∀ other ∈ [header, hunk, line], IsDiffLine other := by
    intro other hother
    obtain rfl | rfl | rfl : other = header ∨ other = hunk ∨ other = line := by
      simpa using hother
    · exact .header (by decide) hheader
    · exact .hunk (by decide) hhunk
    · exact .body hplus ['x']
  have hread : readChanges (ofLines [header, hunk, line])
      = .ok [⟨"m.py", [⟨1, 1, by decide, by decide⟩]⟩] := by
    decide +kernel
  have hsame := (contents_do_not_steer (P := IsLine) (by decide)).mpr
    (fun _ => isQuiet_of_isLine) _ _ hlines halike
  refine ⟨by decide, halike, hlines, hread, hsame ▸ hread, fun hgiven => ?_⟩
  have hquiet := (contents_do_not_steer (P := fun content => '\n' ∉ content) (by decide)).mp hgiven
    "x\x0c@@ -5 +5 @@".toList (by decide)
  exact absurd hquiet (by decide +kernel)

/-- Behind a form feed, the text of an added line is taken for a hunk header. -/
theorem form_feed_steers :
    let header := "diff --git a/m.py b/m.py".toList
    let hunk := "@@ -1 +1 @@".toList
    let line := "+x".toList
    let line' := "+x\x0c@@ -5 +5 @@".toList
    (IsDiffLine header ∧ IsDiffLine hunk ∧ IsDiffLine line) ∧
      List.Forall₂ (Alike fun content => '\n' ∉ content)
        [header, hunk, line] [header, hunk, line'] ∧
      readChanges (ofLines [header, hunk, line])
        = .ok [⟨"m.py", [⟨1, 1, by decide, by decide⟩]⟩] ∧
      readChanges (ofLines [header, hunk, line'])
        = .ok [⟨"m.py", [⟨1, 1, by decide, by decide⟩, ⟨5, 5, by decide, by decide⟩]⟩] := by
  intro header hunk line line'
  have hplus : '+' ∈ bodyMarks := by decide
  have hheader : IsHeader header "m.py".toList := headerPath?_eq_some.mp (by decide +kernel)
  have hhunk : IsHunk hunk ⟨['1'], none⟩ := hunkHeader?_eq_some.mp (by decide +kernel)
  refine ⟨⟨.header (by decide) hheader, .hunk (by decide) hhunk, .body hplus ['x']⟩, ?_,
    by decide +kernel, by decide +kernel⟩
  exact .cons (.same header) (.cons (.same hunk) (.cons (.body hplus (by decide) (by decide)) .nil))

end TestImpact.Diff
