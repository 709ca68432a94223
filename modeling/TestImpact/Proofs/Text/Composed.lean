import TestImpact.Text.Compatibility.Composed

/-
  A text in composed form is not empty, unless the text was.

  What a look-up finds is an entry of the table (`CodePointMap.mem_of_search`),
  and in a table of words every entry has numbers. So no character decomposes
  into nothing, and ordering and composing lose none either: they put marks
  elsewhere, or two code points together into one.
-/

namespace TestImpact.Text

namespace CodePointMap

theorem mem_of_search {β : Type} {m : CodePointMap β} {n lo hi : Nat} {r : CodePointRange β}
    (h : m.search n lo hi = some r) : r ∈ m.ranges.toList := by
  fun_induction m.search n lo hi with
  | case1 => cases h
  | case2 _ _ _ _ _ _ ih => exact ih h
  | case3 _ _ _ _ _ _ _ ih => exact ih h
  | case4 _ _ _ _ hr =>
    cases h
    exact Array.mem_toList_iff.mpr (Array.mem_of_getElem? hr)
  | case5 => cases h

theorem ne_nil_of_ofWords {table : String} {n : Nat} {ns : List Nat}
    (h : (ofWords table).findCode? n = some ns) : ns ≠ [] := by
  obtain ⟨r, hr, rfl⟩ := Option.map_eq_some_iff.mp h
  have hmem := mem_of_search hr
  simp only [ofWords, List.mem_filterMap] at hmem
  obtain ⟨word, -, hword⟩ := hmem
  split at hword
  · cases hword
    exact List.cons_ne_nil _ _
  · cases hword

end CodePointMap

theorem decomposeCode_ne_nil (n : Nat) : decomposeCode n ≠ [] := by
  unfold decomposeCode
  split
  · exact List.cons_ne_nil _ _
  · split
    · dsimp only
      split
      · exact List.cons_ne_nil _ _
      · exact List.append_ne_nil_of_left_ne_nil (List.cons_ne_nil _ _) _
    · cases h : decompositions.findCode? n with
      | none => exact List.cons_ne_nil _ _
      | some ns => exact CodePointMap.ne_nil_of_ofWords h

theorem insertMark_ne_nil (n : Nat) (ms : List Nat) : insertMark n ms ≠ [] := by
  cases ms with
  | nil => exact List.cons_ne_nil _ _
  | cons m ms =>
    rw [insertMark]
    split
    · exact List.cons_ne_nil _ _
    · exact List.cons_ne_nil _ _

theorem orderMarks_ne_nil {run ns : List Nat} (h : run ++ ns ≠ []) : orderMarks run ns ≠ [] := by
  induction ns generalizing run with
  | nil =>
    rw [List.append_nil] at h
    exact List.reverse_ne_nil_iff.mpr h
  | cons n ns ih =>
    rw [orderMarks]
    split
    · exact List.append_ne_nil_of_right_ne_nil _ (List.cons_ne_nil _ _)
    · exact ih (List.append_ne_nil_of_left_ne_nil (insertMark_ne_nil n run) ns)

/-- A starter stays, composed or not. -/
theorem composeFrom_ne_nil (starter : Nat) (kept ns : List Nat) :
    composeFrom starter kept ns ≠ [] := by
  fun_induction composeFrom starter kept ns with
  | case1 => exact List.cons_ne_nil _ _
  | case2 _ _ _ _ _ _ _ ih => exact ih
  | case3 => exact List.cons_ne_nil _ _
  | case4 _ _ _ _ _ _ _ ih => exact ih

theorem composeAll_ne_nil {ns : List Nat} (h : ns ≠ []) : composeAll ns ≠ [] := by
  cases ns with
  | nil => exact absurd rfl h
  | cons n ns =>
    rw [composeAll]
    split
    · exact composeFrom_ne_nil n [] ns
    · exact List.cons_ne_nil _ _

theorem composed_ne_nil {cs : List Char} (h : cs ≠ []) : composed cs ≠ [] := by
  obtain ⟨c, cs, rfl⟩ := List.exists_cons_of_ne_nil h
  rw [composed]
  split
  · exact h
  · have hcodes : [] ++ (c :: cs).flatMap (fun c => decomposeCode c.toNat) ≠ [] :=
      List.append_ne_nil_of_left_ne_nil (decomposeCode_ne_nil c.toNat) _
    exact fun h => composeAll_ne_nil (orderMarks_ne_nil hcodes) (List.map_eq_nil_iff.mp h)

end TestImpact.Text
