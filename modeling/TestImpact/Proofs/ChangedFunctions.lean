import TestImpact.ChangedFunctions
import TestImpact.Proofs.Diff.Filing

/-
  A function is changed if a line of it is changed.

  Two ranges overlap by their ends if and only if some line lies in both
  (`LineRange.overlaps_iff`). From there a declaration is touched by a diff if
  and only if one of its lines is changed in its file (`touchedBy_iff`), and the
  changed functions are those with a touched declaration, each once
  (`mem_changedFunctions`, `nodup_changedFunctions`).

  A function may be declared several times, in one file or in several. It is
  noted with the first of its declarations that is touched
  (`mem_touchedDecls`), in the order of the declarations
  (`pairwise_touchedDecls`). `changedFunctions_exact` puts this together.
-/

namespace TestImpact

theorem LineRange.contains_iff {r : LineRange} {line : Int} :
    r.contains line = true ↔ r.first ≤ line ∧ line ≤ r.last := by
  simp [LineRange.contains]

/-- The ends tell whether two ranges share a line: the later of the two starts is one. -/
theorem LineRange.overlaps_iff {r s : LineRange} :
    r.overlaps s = true ↔ ∃ line, r.contains line = true ∧ s.contains line = true := by
  simp only [LineRange.overlaps, LineRange.contains_iff, Bool.and_eq_true, decide_eq_true_eq]
  constructor
  · intro hgiven
    obtain ⟨hr, hs⟩ := hgiven
    have := r.first_le_last
    have := s.first_le_last
    exact ⟨max r.first s.first, by omega, by omega⟩
  · intro hgiven
    obtain ⟨line, hr, hs⟩ := hgiven
    omega

theorem LineRange.overlaps_comm (r s : LineRange) : r.overlaps s = s.overlaps r :=
  Bool.and_comm _ _

theorem FileDiff.overlaps_iff {d : FileDiff} {r : LineRange} :
    d.overlaps r = true ↔ ∃ line, d.containsLine line = true ∧ r.contains line = true := by
  simp only [FileDiff.overlaps, FileDiff.containsLine, List.any_eq_true, LineRange.overlaps_iff]
  constructor
  · intro hgiven
    obtain ⟨s, hs, line, hline, hr⟩ := hgiven
    exact ⟨line, ⟨s, hs, hline⟩, hr⟩
  · intro hgiven
    obtain ⟨line, ⟨s, hs, hline⟩, hr⟩ := hgiven
    exact ⟨s, hs, line, hline, hr⟩

theorem FunctionDecl.touchedBy_iff {decl : FunctionDecl} {diff : Diff} :
    decl.touchedBy diff = true ↔ ∃ d, diff.find? decl.file = some d ∧
      ∃ line, d.containsLine line = true ∧ decl.lines.contains line = true := by
  unfold FunctionDecl.touchedBy
  cases hd : diff.find? decl.file with
  | none => simp
  | some d => simp [FileDiff.overlaps_iff]

/-! ## The changed functions -/

/-- The touched declarations that are kept: none of a function known before, and one of each
other touched function. -/
theorem mem_ids_touchedDecls (diff : Diff) (known : List String) (decls : List FunctionDecl)
    (id : String) : id ∈ (touchedDecls diff known decls).map (·.id) ↔
      id ∉ known ∧ ∃ decl ∈ decls, decl.id = id ∧ decl.touchedBy diff = true := by
  induction decls generalizing known with
  | nil => simp [touchedDecls]
  | cons decl rest ih =>
    unfold touchedDecls
    split
    · rename_i h
      obtain ⟨htouched, hnew⟩ : decl.touchedBy diff = true ∧ decl.id ∉ known := by simpa using h
      rw [List.map_cons, List.mem_cons, ih, List.mem_cons]
      by_cases hid : id = decl.id
      · subst hid
        simp [htouched, hnew]
      · simp [hid, Ne.symm hid]
    · rename_i h
      rw [ih]
      -- A declaration that is passed over is untouched, or its function was known.
      have hpassed : decl.touchedBy diff = true → decl.id ∈ known := by simpa using h
      constructor
      · intro hgiven
        obtain ⟨hnew, e, he, hid, htouched⟩ := hgiven
        exact ⟨hnew, e, List.mem_cons_of_mem decl he, hid, htouched⟩
      · intro hgiven
        obtain ⟨hnew, e, he, rfl, htouched⟩ := hgiven
        rcases List.mem_cons.mp he with rfl | he
        · exact absurd (hpassed htouched) hnew
        · exact ⟨hnew, e, he, rfl, htouched⟩

theorem nodup_ids_touchedDecls (diff : Diff) (known : List String) (decls : List FunctionDecl) :
    ((touchedDecls diff known decls).map (·.id)).Nodup := by
  induction decls generalizing known with
  | nil => exact List.nodup_nil
  | cons decl rest ih =>
    unfold touchedDecls
    split
    · rw [List.map_cons, List.nodup_cons, mem_ids_touchedDecls]
      exact ⟨fun h => h.1 List.mem_cons_self, ih _⟩
    · exact ih known

theorem mem_changedFunctions {diff : Diff} {decls : List FunctionDecl} {id : String} :
    id ∈ (changedFunctions diff decls).1 ↔
      ∃ decl ∈ decls, decl.id = id ∧ decl.touchedBy diff = true := by
  rw [changedFunctions, mem_ids_touchedDecls]
  simp

theorem nodup_changedFunctions (diff : Diff) (decls : List FunctionDecl) :
    (changedFunctions diff decls).1.Nodup :=
  nodup_ids_touchedDecls diff [] decls

/-! ## The declarations that are noted -/

/-- A line of the declaration is changed in the file that declares it. -/
def FunctionDecl.HasChangedLine (decl : FunctionDecl) (diff : Diff) : Prop :=
  ∃ d, diff.find? decl.file = some d ∧
    ∃ line, d.containsLine line = true ∧ decl.lines.contains line = true

/-- A declaration with a changed line that stands before all others of its function. -/
def IsFirstChange (diff : Diff) (decls : List FunctionDecl) (decl : FunctionDecl) : Prop :=
  decl.HasChangedLine diff ∧ ∃ before after, decls = before ++ decl :: after ∧
    ∀ e ∈ before, e.id = decl.id → ¬e.HasChangedLine diff

/-- Of each function that was not known before, the first touched declaration is kept. -/
theorem mem_touchedDecls (diff : Diff) (known : List String) (decls : List FunctionDecl)
    (decl : FunctionDecl) : decl ∈ touchedDecls diff known decls ↔
      decl.id ∉ known ∧
        decls.find? (fun e => e.touchedBy diff && e.id == decl.id) = some decl := by
  induction decls generalizing known with
  | nil => simp [touchedDecls]
  | cons d rest ih =>
    unfold touchedDecls
    rw [List.find?_cons]
    split
    · rename_i h
      obtain ⟨htouched, hnew⟩ : d.touchedBy diff = true ∧ d.id ∉ known := by simpa using h
      rw [List.mem_cons, ih, htouched, Bool.true_and]
      by_cases hid : d.id = decl.id
      · simp only [hid, BEq.rfl, Option.some.injEq, List.mem_cons, true_or, not_true_eq_false,
          false_and, or_false, eq_comm (a := decl)]
        exact ⟨fun heq => ⟨hid ▸ hnew, heq⟩, And.right⟩
      · have hne : decl ≠ d := fun heq => hid (congrArg _ heq.symm)
        have hother : (d.id == decl.id) = false := by simpa using hid
        simp [hother, Ne.symm hid, hne]
    · rename_i h
      rw [ih]
      -- A declaration that is passed over is untouched, or its function was known.
      have hpassed : d.touchedBy diff = true → d.id ∈ known := by simpa using h
      refine and_congr_right fun hnew => ?_
      split
      · rename_i hfirst
        obtain ⟨htouched, hid⟩ : d.touchedBy diff = true ∧ d.id = decl.id := by simpa using hfirst
        exact absurd (hid ▸ hpassed htouched) hnew
      · exact Iff.rfl

/-- The declarations that are kept stand in the order in which they were declared. -/
theorem pairwise_touchedDecls (diff : Diff) (known : List String) (decls : List FunctionDecl) :
    (touchedDecls diff known decls).Pairwise fun a b => decls.idxOf a < decls.idxOf b := by
  induction decls generalizing known with
  | nil => exact .nil
  | cons d rest ih =>
    unfold touchedDecls
    split
    · have hd : d ∉ touchedDecls diff (d.id :: known) rest := by
        intro hmem
        exact ((mem_touchedDecls ..).mp hmem).1 List.mem_cons_self
      exact List.pairwise_cons.mpr (Text.pairwise_idxOf_cons hd (ih _))
    · rename_i h
      have hd : d ∉ touchedDecls diff known rest := by
        intro hmem
        obtain ⟨hnew, hfirst⟩ := (mem_touchedDecls ..).mp hmem
        have htouched := List.find?_some hfirst
        apply h
        simpa [hnew] using htouched
      exact (Text.pairwise_idxOf_cons hd (ih _)).2

theorem isFirstChange_iff {diff : Diff} {decls : List FunctionDecl} {decl : FunctionDecl} :
    IsFirstChange diff decls decl ↔ decl ∈ touchedDecls diff [] decls := by
  have hpassed : ∀ e : FunctionDecl, (!(e.touchedBy diff && e.id == decl.id)) = true ↔
      (e.id = decl.id → ¬e.HasChangedLine diff) := by
    intro e
    rw [FunctionDecl.HasChangedLine, ← FunctionDecl.touchedBy_iff]
    simp [imp_iff_not_or, or_comm]
  rw [mem_touchedDecls, List.find?_eq_some_iff_append]
  simp only [IsFirstChange, hpassed, FunctionDecl.HasChangedLine, ← FunctionDecl.touchedBy_iff,
    List.not_mem_nil, not_false_eq_true, true_and, BEq.rfl, Bool.and_true]

/-- **Which functions are changed.** Exactly those of which some declaration shares a line with
what is changed in its file. Each of them is noted once, with the lines of the first declaration
that does, in the order of these declarations. That two ranges share a line is what their ends are
compared for, from either side. -/
theorem changedFunctions_exact (diff : Diff) (decls : List FunctionDecl) :
    (∀ id, id ∈ (changedFunctions diff decls).1 ↔
      ∃ decl ∈ decls, decl.id = id ∧ decl.HasChangedLine diff) ∧
    (∃ first : List FunctionDecl,
      changedFunctions diff decls
        = (first.map (·.id), first.map fun decl => .changed decl.id decl.lines) ∧
      (first.map (·.id)).Nodup ∧ (∀ decl, decl ∈ first ↔ IsFirstChange diff decls decl) ∧
      first.Pairwise fun a b => decls.idxOf a < decls.idxOf b) ∧
    ∀ r s : LineRange,
      (r.overlaps s = true ↔ ∃ line, r.contains line = true ∧ s.contains line = true) ∧
        r.overlaps s = s.overlaps r := by
  refine ⟨fun id => ?_, ⟨touchedDecls diff [] decls, rfl, nodup_changedFunctions diff decls,
    fun decl => isFirstChange_iff.symm, pairwise_touchedDecls diff [] decls⟩,
    fun r s => ⟨LineRange.overlaps_iff, LineRange.overlaps_comm r s⟩⟩
  rw [mem_changedFunctions]
  simp only [FunctionDecl.touchedBy_iff, FunctionDecl.HasChangedLine]

/-- `f` is noted behind `g`, with the lines of its second declaration: the first one stands in
another file. -/
example :
    let changed : LineRange := ⟨3, 5, by decide, by decide⟩
    let elsewhere : LineRange := ⟨1, 9, by decide, by decide⟩
    let touching : LineRange := ⟨5, 6, by decide, by decide⟩
    changedFunctions [⟨"m.py", [changed]⟩]
        [⟨"f", "n.py", elsewhere⟩, ⟨"g", "m.py", touching⟩, ⟨"f", "m.py", changed⟩]
      = (["g", "f"], [.changed "g" touching, .changed "f" changed]) := by
  decide

end TestImpact
