import Mathlib.Data.List.Infix
import Mathlib.Data.List.TakeDrop
import Mathlib.Data.List.TakeWhile
import TestImpact.Diff.Line

/-
  The two kinds of lines that count in a diff, said without reading them.

  A file header can be cut into `diff --git a/`, a text, ` b/` and a path, with
  neither text nor path empty (`HeaderCut`); where there are several cuts, the
  path is what the last one leaves (`IsHeader`). A hunk header is
  `@@ -D[,D] +D[,D] @@` and anything after it, each `D` a run of decimal digits
  (`IsHunk`).

  `Line.read` tells exactly these lines (`read_eq_fileHeader`, `read_eq_hunk`),
  so a line is at most one of the two, in one way.
-/

namespace TestImpact.Diff

open TestImpact.Text

theorem afterFront?_eq_some {front cs rest : List Char} :
    afterFront? front cs = some rest ↔ cs = front ++ rest := by
  induction front generalizing cs with
  | nil => simp [afterFront?]
  | cons p ps ih =>
    cases cs with
    | nil => simp [afterFront?]
    | cons c cs =>
      by_cases h : p = c
      · simp [afterFront?, h, ih]
      · simp [afterFront?, h, Ne.symm h]

/-! ## File headers -/

/-- A cut of a file header: the text before the mark ` b/` and the path after it. -/
def HeaderCut (line old path : List Char) : Prop :=
  old ≠ [] ∧ path ≠ [] ∧ line = "diff --git a/".toList ++ old ++ " b/".toList ++ path

/-- A file header and its path, which no other cut makes shorter. -/
def IsHeader (line path : List Char) : Prop :=
  (∃ old, HeaderCut line old path) ∧
    ∀ old' path', HeaderCut line old' path' → path.length ≤ path'.length

theorem afterLastMark_eq_none {cs : List Char} (h : afterLastMark cs = none)
    {before path : List Char} (hcs : cs = before ++ " b/".toList ++ path) : path = [] := by
  induction cs generalizing before with
  | nil => simp at hcs
  | cons c rest ih =>
    unfold afterLastMark at h
    cases hrest : afterLastMark rest with
    | some _ => simp [hrest] at h
    | none =>
      rw [hrest] at h
      cases before with
      | nil =>
        have hfront : afterFront? [' ', 'b', '/'] (c :: rest) = some path :=
          afterFront?_eq_some.mpr hcs
        cases path with
        | nil => rfl
        | cons p path => simp [hfront] at h
      | cons b before =>
        obtain ⟨-, hcut⟩ := List.cons.inj hcs
        exact ih hrest hcut

/-- Among all cuts at a mark with something after it, the last one is taken: it leaves the
shortest path. -/
theorem afterLastMark_eq_some {cs path : List Char} (h : afterLastMark cs = some path) :
    path ≠ [] ∧ (∃ before, cs = before ++ " b/".toList ++ path) ∧
      ∀ before' path', path' ≠ [] → cs = before' ++ " b/".toList ++ path' →
        path.length ≤ path'.length := by
  induction cs with
  | nil => simp [afterLastMark] at h
  | cons c rest ih =>
    unfold afterLastMark at h
    cases hrest : afterLastMark rest with
    | some found =>
      -- A mark further on counts, and what it leaves is shorter than what this one would.
      obtain rfl : found = path := by simpa [hrest] using h
      obtain ⟨hne, ⟨before, hcut⟩, hleast⟩ := ih hrest
      refine ⟨hne, ⟨c :: before, by rw [hcut]; rfl⟩, fun before' path' hne' hcut' => ?_⟩
      cases before' with
      | nil =>
        have hlength := congrArg List.length hcut
        have hlength' := congrArg List.length hcut'
        simp at hlength hlength'
        omega
      | cons b before' => exact hleast before' path' hne' (List.cons.inj hcut').2
    | none =>
      -- No mark further on counts, so this place is the only one left.
      rw [hrest] at h
      cases hfront : afterFront? [' ', 'b', '/'] (c :: rest) with
      | none => simp [hfront] at h
      | some found =>
        obtain ⟨rfl, hne⟩ : found = path ∧ path ≠ [] := by
          cases found with
          | nil => simp [hfront] at h
          | cons p found =>
            obtain rfl : p :: found = path := by simpa [hfront] using h
            exact ⟨rfl, List.cons_ne_nil p found⟩
        have hcut := afterFront?_eq_some.mp hfront
        refine ⟨hne, ⟨[], hcut⟩, fun before' path' hne' hcut' => ?_⟩
        cases before' with
        | nil =>
          obtain rfl : found = path' := by simpa using hcut.symm.trans hcut'
          exact Nat.le_refl _
        | cons b before' =>
          exact absurd (afterLastMark_eq_none hrest (List.cons.inj hcut').2) hne'

theorem headerPath?_eq_none {line old path : List Char} (h : headerPath? line = none) :
    ¬HeaderCut line old path := by
  intro hgiven
  obtain ⟨hold, hpath, hline⟩ := hgiven
  obtain ⟨c, old, rfl⟩ := List.exists_cons_of_ne_nil hold
  have hfront : afterFront? "diff --git a/".toList line
      = some (c :: (old ++ " b/".toList ++ path)) :=
    afterFront?_eq_some.mpr (by simpa using hline)
  rw [headerPath?, hfront] at h
  exact hpath (afterLastMark_eq_none h rfl)

theorem isHeader_of_headerPath? {line path : List Char} (h : headerPath? line = some path) :
    IsHeader line path := by
  unfold headerPath? at h
  split at h
  · rename_i c rest hfront
    have hline := afterFront?_eq_some.mp hfront
    obtain ⟨hne, ⟨before, hcut⟩, hleast⟩ := afterLastMark_eq_some h
    refine ⟨⟨c :: before, List.cons_ne_nil c before, hne, ?_⟩, ?_⟩
    · rw [hline, hcut]
      simp
    · intro old' path' hgiven
      obtain ⟨hold', hpath', hline'⟩ := hgiven
      obtain ⟨c', old', rfl⟩ := List.exists_cons_of_ne_nil hold'
      refine hleast old' path' hpath' ?_
      have hboth := hline.symm.trans hline'
      simp at hboth
      simpa using hboth.2
  · simp at h

/-- Two paths of one header have the same length, and both end the line. -/
theorem IsHeader.path_unique {line path path' : List Char} (h : IsHeader line path)
    (h' : IsHeader line path') : path = path' := by
  obtain ⟨⟨old, hcut⟩, hleast⟩ := h
  obtain ⟨⟨old', hcut'⟩, hleast'⟩ := h'
  have hlength : path.length = path'.length :=
    Nat.le_antisymm (hleast _ _ hcut') (hleast' _ _ hcut)
  exact (List.append_inj' (hcut.2.2.symm.trans hcut'.2.2) hlength).2

theorem headerPath?_eq_some {line path : List Char} :
    headerPath? line = some path ↔ IsHeader line path := by
  constructor
  · exact isHeader_of_headerPath?
  · intro h
    cases hread : headerPath? line with
    | none =>
      obtain ⟨old, hcut⟩ := h.1
      exact absurd hcut (headerPath?_eq_none hread)
    | some path' => rw [(isHeader_of_headerPath? hread).path_unique h]

theorem headerPath?_eq_none_iff {line : List Char} :
    headerPath? line = none ↔ ∀ old path, ¬HeaderCut line old path := by
  constructor
  · exact fun h old path => headerPath?_eq_none h
  · intro h
    cases hread : headerPath? line with
    | none => rfl
    | some path =>
      obtain ⟨old, hcut⟩ := (headerPath?_eq_some.mp hread).1
      exact absurd hcut (h old path)

theorem exists_isHeader {line old path : List Char} (h : HeaderCut line old path) :
    ∃ path', IsHeader line path' := by
  cases hread : headerPath? line with
  | none => exact absurd h (headerPath?_eq_none hread)
  | some path' => exact ⟨path', headerPath?_eq_some.mp hread⟩

/-- A text that holds the mark with something behind it. -/
def HoldsMark (cs : List Char) : Prop :=
  ∃ front back, back ≠ [] ∧ cs = front ++ " b/".toList ++ back

/-- Of two cuts at a mark, the later one stands at the end of the mark of the earlier one and of
what follows it. -/
theorem exists_between_cuts {front front' mark back back' : List Char}
    (h : front ++ mark ++ back = front' ++ mark ++ back') (hlength : back'.length < back.length) :
    ∃ between, between ≠ [] ∧ back = between ++ back' ∧ mark <:+ mark ++ between := by
  have hback : back <:+ front ++ mark ++ back := List.suffix_append _ back
  have hback' : back' <:+ front ++ mark ++ back := h ▸ List.suffix_append _ back'
  obtain ⟨between, rfl⟩ := List.suffix_of_suffix_length_le hback' hback hlength.le
  have hmarks : front ++ (mark ++ between) = front' ++ mark := by
    refine (List.append_left_inj back').mp ?_
    rw [← h]
    simp only [List.append_assoc]
  have hmark : mark <:+ front ++ (mark ++ between) := hmarks ▸ List.suffix_append front' mark
  refine ⟨between, fun hnil => ?_, rfl, ?_⟩
  · simp [hnil] at hlength
  · exact List.suffix_of_suffix_length_le hmark (List.suffix_append front _) (by simp)

/-- Two marks do not overlap: what stands behind a mark and ends in one holds it. -/
theorem exists_append_mark {front back : List Char}
    (h : front ++ " b/".toList = " b/".toList ++ back) (hback : back ≠ []) :
    ∃ rest, back = rest ++ " b/".toList := by
  match front with
  | [] => exact absurd (by simpa using h) hback
  | [_] => simp at h
  | [_, _] => simp at h
  | _ :: _ :: _ :: rest =>
    have hcons : _ :: _ :: _ :: (rest ++ " b/".toList) = ' ' :: 'b' :: '/' :: back := h
    exact ⟨rest, (List.cons.inj (List.cons.inj (List.cons.inj hcons).2).2).2.symm⟩

/-- The path of a header is what a cut leaves in which no later cut is possible. -/
theorem isHeader_iff {line path : List Char} :
    IsHeader line path ↔ (∃ old, HeaderCut line old path) ∧ ¬HoldsMark path := by
  constructor
  · intro hgiven
    obtain ⟨⟨old, hold, hpath, hline⟩, hleast⟩ := hgiven
    refine ⟨⟨old, hold, hpath, hline⟩, fun hholds => ?_⟩
    obtain ⟨front, back, hback, rfl⟩ := hholds
    have hlater : HeaderCut line (old ++ " b/".toList ++ front) back :=
      ⟨by simp, hback, by rw [hline]; simp⟩
    have hshorter := hleast _ _ hlater
    simp at hshorter
    omega
  · intro hgiven
    obtain ⟨⟨old, hold, hpath, hline⟩, hnot⟩ := hgiven
    refine ⟨⟨old, hold, hpath, hline⟩, fun old' path' hgiven' => ?_⟩
    obtain ⟨-, hpath', hline'⟩ := hgiven'
    by_contra hlength
    obtain ⟨between, hne, hcut, front, hmark⟩ :=
      exists_between_cuts (hline.symm.trans hline') (by omega)
    obtain ⟨rest, hrest⟩ := exists_append_mark hmark hne
    exact hnot ⟨rest, path', hpath', by rw [← hrest, hcut]⟩

/-! ## Hunk headers -/

/-- A run of decimal digits, of any script. -/
def IsNumber (cs : List Char) : Prop := cs ≠ [] ∧ ∀ c ∈ cs, isDigit c = true

/-- A number after a comma, or nothing. -/
def commaText : Option (List Char) → List Char
  | none => []
  | some digits => ',' :: digits

/-- A hunk header with the new start and the new count it writes. -/
def IsHunk (line : List Char) (h : HunkHeader) : Prop :=
  ∃ (old : List Char) (oldCount : Option (List Char)) (rest : List Char),
    IsNumber old ∧ (∀ digits ∈ oldCount, IsNumber digits) ∧
    IsNumber h.start ∧ (∀ digits ∈ h.count, IsNumber digits) ∧
    line = "@@ -".toList ++ old ++ commaText oldCount ++ " +".toList ++ h.start
      ++ commaText h.count ++ " @@".toList ++ rest

theorem digitRun_eq (cs : List Char) :
    digitRun cs = (cs.takeWhile isDigit, cs.dropWhile isDigit) :=
  List.span_eq_takeWhile_dropWhile isDigit cs

theorem number?_append {digits : List Char} (hdigits : IsNumber digits)
    (count : Option (List Char)) (rest : List Char) :
    number? (digits ++ (commaText count ++ ' ' :: rest))
      = some (digits, commaText count ++ ' ' :: rest) := by
  obtain ⟨hne, hall⟩ := hdigits
  obtain ⟨c, cs, hnext, hc⟩ :
      ∃ c cs, commaText count ++ ' ' :: rest = c :: cs ∧ isDigit c = false := by
    cases count with
    | none => exact ⟨' ', rest, rfl, rfl⟩
    | some ds => exact ⟨',', ds ++ ' ' :: rest, rfl, rfl⟩
  have hrun : digitRun (digits ++ c :: cs) = (digits, c :: cs) := by
    rw [digitRun_eq, List.takeWhile_append_of_pos hall, List.dropWhile_append_of_pos hall,
      List.takeWhile_cons_of_neg (by simp [hc]), List.dropWhile_cons_of_neg (by simp [hc]),
      List.append_nil]
  obtain ⟨d, ds, rfl⟩ := List.exists_cons_of_ne_nil hne
  rw [hnext, number?, hrun]

theorem number?_eq_some {cs digits rest : List Char} (h : number? cs = some (digits, rest)) :
    IsNumber digits ∧ cs = digits ++ rest := by
  unfold number? at h
  split at h
  · simp at h
  · rename_i run hne
    have hrun : digitRun cs = (digits, rest) := by simpa using h
    rw [digitRun_eq] at hrun
    obtain ⟨rfl, rfl⟩ := Prod.mk.inj hrun
    refine ⟨⟨?_, fun c => List.mem_takeWhile_imp⟩, List.takeWhile_append_dropWhile.symm⟩
    intro hnil
    exact hne _ (by rw [digitRun_eq, hnil])

/-- After a comma a number must follow; without one there is none. The blank ends either. -/
theorem commaNumber?_append {count : Option (List Char)}
    (hcount : ∀ digits ∈ count, IsNumber digits) (rest : List Char) :
    commaNumber? (commaText count ++ ' ' :: rest) = some (count, ' ' :: rest) := by
  cases count with
  | none => rfl
  | some digits =>
    have hnumber := number?_append (hcount digits rfl) none rest
    simp only [commaText, List.nil_append] at hnumber
    simp only [commaText, List.cons_append, commaNumber?, hnumber, Option.map_some]

theorem commaNumber?_eq_some {cs rest : List Char} {count : Option (List Char)}
    (h : commaNumber? cs = some (count, rest)) :
    (∀ digits ∈ count, IsNumber digits) ∧ cs = commaText count ++ rest := by
  unfold commaNumber? at h
  split at h
  · rename_i cs
    obtain ⟨⟨digits, rest'⟩, hnumber, heq⟩ := Option.map_eq_some_iff.mp h
    obtain ⟨rfl, rfl⟩ : some digits = count ∧ rest' = rest := by simpa using heq
    obtain ⟨hdigits, hcs⟩ := number?_eq_some hnumber
    refine ⟨fun ds hds => ?_, by rw [hcs]; rfl⟩
    obtain rfl : digits = ds := by simpa using hds
    exact hdigits
  · obtain ⟨rfl, rfl⟩ : none = count ∧ cs = rest := by simpa using h
    simp [commaText]

theorem hunkHeader?_eq_some {line : List Char} {h : HunkHeader} :
    hunkHeader? line = some h ↔ IsHunk line h := by
  constructor
  · intro hread
    simp only [hunkHeader?, Option.bind_eq_bind, Option.bind_eq_some_iff] at hread
    obtain ⟨afterFront, h₁, ⟨old, afterOld⟩, h₂, ⟨oldCount, afterOldCount⟩, h₃, afterSign, h₄,
      ⟨start, afterNew⟩, h₅, ⟨count, afterNewCount⟩, h₆, rest, h₇, heq⟩ := hread
    obtain rfl : (⟨start, count⟩ : HunkHeader) = h := by simpa using heq
    simp only at h₃ h₄ h₆ h₇
    obtain ⟨hold, hcut₂⟩ := number?_eq_some h₂
    obtain ⟨holdCount, hcut₃⟩ := commaNumber?_eq_some h₃
    obtain ⟨hstart, hcut₅⟩ := number?_eq_some h₅
    obtain ⟨hcount, hcut₆⟩ := commaNumber?_eq_some h₆
    refine ⟨old, oldCount, rest, hold, holdCount, hstart, hcount, ?_⟩
    rw [afterFront?_eq_some.mp h₁, hcut₂, hcut₃, afterFront?_eq_some.mp h₄, hcut₅, hcut₆,
      afterFront?_eq_some.mp h₇]
    simp
  · intro hgiven
    obtain ⟨old, oldCount, rest, hold, holdCount, hstart, hcount, hline⟩ := hgiven
    have hfront : afterFront? "@@ -".toList line = some (old ++ (commaText oldCount ++ ' ' ::
        ('+' :: (h.start ++ (commaText h.count ++ ' ' :: ('@' :: '@' :: rest)))))) :=
      afterFront?_eq_some.mpr (by simpa using hline)
    have hsign : ∀ cs, afterFront? " +".toList (' ' :: '+' :: cs) = some cs :=
      fun cs => afterFront?_eq_some.mpr (by simp)
    have hend : afterFront? " @@".toList (' ' :: '@' :: '@' :: rest) = some rest :=
      afterFront?_eq_some.mpr (by simp)
    simp only [hunkHeader?, hfront, Option.bind_eq_bind, Option.bind_some, number?_append hold,
      commaNumber?_append holdCount, hsign, number?_append hstart, commaNumber?_append hcount, hend]
    rfl

theorem IsHunk.unique {line : List Char} {h h' : HunkHeader} (hhunk : IsHunk line h)
    (hhunk' : IsHunk line h') : h = h' :=
  Option.some.inj ((hunkHeader?_eq_some.mpr hhunk).symm.trans (hunkHeader?_eq_some.mpr hhunk'))

/-! ## Lines -/

theorem read_eq_fileHeader {line path : List Char} :
    Line.read line = .fileHeader path ↔ IsHeader line path := by
  rw [← headerPath?_eq_some, Line.read]
  cases headerPath? line with
  | some path' => simp
  | none =>
    simp only [reduceCtorEq, iff_false]
    split
    · simp
    · split <;> simp

theorem not_headerCut {line : List Char} (h : ∀ path, Line.read line ≠ .fileHeader path)
    (old path : List Char) : ¬HeaderCut line old path := by
  intro hcut
  obtain ⟨path', hheader⟩ := exists_isHeader hcut
  exact h path' (read_eq_fileHeader.mpr hheader)

/-- A hunk header is no file header: they begin with different characters. -/
theorem IsHunk.not_headerCut {line : List Char} {h : HunkHeader} (hhunk : IsHunk line h)
    (old path : List Char) : ¬HeaderCut line old path := by
  obtain ⟨_, _, _, -, -, -, -, hline⟩ := hhunk
  intro hgiven
  obtain ⟨-, -, hline'⟩ := hgiven
  have hboth := hline.symm.trans hline'
  simp at hboth

theorem read_eq_hunk {line : List Char} {h : HunkHeader} :
    Line.read line = .hunk h ↔ IsHunk line h := by
  rw [← hunkHeader?_eq_some, Line.read]
  cases hheader : headerPath? line with
  | some path =>
    simp only [reduceCtorEq, false_iff]
    intro hhunk
    obtain ⟨old, hcut⟩ := (headerPath?_eq_some.mp hheader).1
    exact (hunkHeader?_eq_some.mp hhunk).not_headerCut old path hcut
  | none =>
    cases hfront : afterFront? ['@', '@'] line with
    | none =>
      simp only [reduceCtorEq, false_iff]
      intro hhunk
      obtain ⟨old, oldCount, rest, -, -, -, -, hline⟩ := hunkHeader?_eq_some.mp hhunk
      rw [hline] at hfront
      simp [afterFront?] at hfront
    | some _ =>
      cases hhunk : hunkHeader? line with
      | none => simp
      | some h' => simp

theorem read_eq_content {line : List Char} (hhunk : ¬"@@".toList <+: line)
    (hfile : ¬"diff --git".toList <+: line) : Line.read line = .content := by
  have hheader : headerPath? line = none := by
    cases hpath : headerPath? line with
    | none => rfl
    | some path =>
      obtain ⟨⟨old, -, -, hline⟩, -⟩ := headerPath?_eq_some.mp hpath
      refine absurd ⟨" a/".toList ++ old ++ " b/".toList ++ path, ?_⟩ hfile
      rw [hline]
      simp
  have hfront : afterFront? ['@', '@'] line = none := by
    cases hafter : afterFront? ['@', '@'] line with
    | none => rfl
    | some rest => exact absurd ⟨rest, (afterFront?_eq_some.mp hafter).symm⟩ hhunk
  rw [Line.read, hheader, hfront]

/-- The first character of a line is enough to tell content. -/
theorem read_cons_eq_content {mark : Char} (hhunk : mark ≠ '@') (hfile : mark ≠ 'd')
    (rest : List Char) : Line.read (mark :: rest) = .content := by
  refine read_eq_content (fun hgiven => ?_) (fun hgiven => ?_)
  · obtain ⟨back, hback⟩ := hgiven
    exact hhunk (List.cons.inj hback).1.symm
  · obtain ⟨back, hback⟩ := hgiven
    exact hfile (List.cons.inj hback).1.symm

end TestImpact.Diff
