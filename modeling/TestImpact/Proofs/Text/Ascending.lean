import Mathlib.Data.List.Sort
import Mathlib.Data.String.Basic
import TestImpact.Text.Ascending

/-
  Sets as strictly ascending lists, and lists without repetition.

  `ascending` loses no member and adds none, and its answer is strictly
  ascending. A strictly ascending list is told by its members
  (`eq_ascending`). `distinct` keeps the members too, in the order in which each
  occurs first (`pairwise_distinct`); members at the end count only if they are
  new (`distinct_append`).
-/

namespace TestImpact.Text

/-! ## Ascending lists -/

section Ascending

variable {α : Type} [LT α] [DecidableLT α] [IsStrictTotalOrder α (· < ·)]

theorem mem_insertAscending {a x : α} {l : List α} :
    a ∈ insertAscending x l ↔ a = x ∨ a ∈ l := by
  induction l with
  | nil => simp [insertAscending]
  | cons y ys ih =>
    simp only [insertAscending]
    split
    · simp
    · rename_i hxy
      split
      · simp only [List.mem_cons, ih]
        exact or_left_comm
      · rename_i hyx
        have hx : x = y := Std.Trichotomous.trichotomous x y hxy hyx
        subst hx
        simp

theorem pairwise_insertAscending {x : α} {l : List α} (h : l.Pairwise (· < ·)) :
    (insertAscending x l).Pairwise (· < ·) := by
  induction l with
  | nil => simp [insertAscending]
  | cons y ys ih =>
    obtain ⟨hy, hys⟩ := List.pairwise_cons.mp h
    simp only [insertAscending]
    split
    · rename_i hxy
      refine List.pairwise_cons.mpr ⟨?_, h⟩
      intro b hb
      rcases List.mem_cons.mp hb with rfl | hb
      · exact hxy
      · exact Trans.trans hxy (hy b hb)
    · split
      · rename_i hyx
        refine List.pairwise_cons.mpr ⟨?_, ih hys⟩
        intro b hb
        rcases mem_insertAscending.mp hb with rfl | hb
        · exact hyx
        · exact hy b hb
      · exact h

theorem mem_ascending {a : α} {l : List α} : a ∈ ascending l ↔ a ∈ l := by
  suffices h : ∀ sorted : List α,
      a ∈ l.foldl (fun sorted x => insertAscending x sorted) sorted ↔ a ∈ sorted ∨ a ∈ l by
    simpa [ascending] using h []
  induction l with
  | nil => simp
  | cons x xs ih =>
    intro sorted
    rw [List.foldl_cons, ih, mem_insertAscending, List.mem_cons]
    exact or_assoc.trans or_left_comm

theorem pairwise_ascending (l : List α) : (ascending l).Pairwise (· < ·) := by
  suffices h : ∀ sorted : List α, sorted.Pairwise (· < ·) →
      (l.foldl (fun sorted x => insertAscending x sorted) sorted).Pairwise (· < ·) from
    h [] List.Pairwise.nil
  induction l with
  | nil => exact fun _ h => h
  | cons x xs ih => exact fun sorted h => ih _ (pairwise_insertAscending h)

theorem eq_ascending {l s : List α} (hs : s.Pairwise (· < ·)) (h : ∀ a, a ∈ s ↔ a ∈ l) :
    s = ascending l :=
  hs.eq_of_mem_iff (pairwise_ascending l) fun a => (h a).trans mem_ascending.symm

/-- Neither order nor repetition of what is put in can be seen. -/
theorem ascending_congr {l m : List α} (h : ∀ a, a ∈ l ↔ a ∈ m) : ascending l = ascending m :=
  eq_ascending (pairwise_ascending l) fun a => mem_ascending.trans (h a)

end Ascending

/-! ## Lists without repetition -/

section Distinct

variable {α : Type} [DecidableEq α]

theorem mem_distinct {a : α} {l : List α} : a ∈ distinct l ↔ a ∈ l := by
  induction l with
  | nil => simp [distinct]
  | cons x xs ih =>
    by_cases ha : a = x
    · simp [distinct, ha]
    · simp [distinct, ha, ih]

theorem nodup_distinct (l : List α) : (distinct l).Nodup := by
  induction l with
  | nil => exact List.nodup_nil
  | cons x xs ih =>
    refine List.nodup_cons.mpr ⟨?_, ih.filter _⟩
    simp

/-- One more member in front of a list comes before the others, and leaves their order as it is. -/
theorem pairwise_idxOf_cons {x : α} {l m : List α} (hx : x ∉ m)
    (h : m.Pairwise fun a b => l.idxOf a < l.idxOf b) :
    (∀ a ∈ m, (x :: l).idxOf x < (x :: l).idxOf a) ∧
      m.Pairwise fun a b => (x :: l).idxOf a < (x :: l).idxOf b := by
  have hlater : ∀ a ∈ m, (x :: l).idxOf a = l.idxOf a + 1 := by
    intro a ha
    have hne : x ≠ a := fun he => hx (he ▸ ha)
    exact List.idxOf_cons_ne l hne
  constructor
  · intro a ha
    rw [List.idxOf_cons_self, hlater a ha]
    exact Nat.succ_pos _
  · refine h.imp_of_mem fun {a b} ha hb hlt => ?_
    rw [hlater a ha, hlater b hb]
    exact Nat.succ_lt_succ hlt

/-- The members stand in the order in which each occurs first. -/
theorem pairwise_distinct (l : List α) :
    (distinct l).Pairwise fun a b => l.idxOf a < l.idxOf b := by
  induction l with
  | nil => exact .nil
  | cons x xs ih => exact List.pairwise_cons.mpr (pairwise_idxOf_cons (by simp) (ih.filter _))

theorem distinct_eq_self {l : List α} (h : l.Nodup) : distinct l = l := by
  induction l with
  | nil => rfl
  | cons x xs ih =>
    obtain ⟨hx, hxs⟩ := List.nodup_cons.mp h
    simp only [distinct, ih hxs, List.cons.injEq, true_and]
    rw [List.filter_eq_self]
    intro a ha
    have hne : a ≠ x := fun he => hx (he ▸ ha)
    simp [hne]

theorem distinct_append (l m : List α) :
    distinct (l ++ m) = distinct l ++ (distinct m).filter (· ∉ l) := by
  induction l with
  | nil => simp [distinct]
  | cons x xs ih =>
    simp only [List.cons_append, distinct, ih, List.filter_append, List.filter_filter]
    congr 2
    refine List.filter_congr fun a _ => ?_
    simp [not_or]

theorem distinct_append_singleton (l : List α) (x : α) :
    distinct (l ++ [x]) = if x ∈ l then distinct l else distinct l ++ [x] := by
  rw [distinct_append]
  by_cases hx : x ∈ l
  · simp [distinct, hx]
  · simp [distinct, hx]

end Distinct

end TestImpact.Text
