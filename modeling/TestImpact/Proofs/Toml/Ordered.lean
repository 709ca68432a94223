import Mathlib.Data.List.Sort
import Mathlib.Data.String.Basic
import TestImpact.Toml.Value

/-
  Tables without regard to the order of their fields.

  `Value.ordered` puts the fields of all tables of a value in the order of
  their names. Two tables are equal then if and only if they have the same
  fields with equal values (`ordered_table_iff`).

  Whether two values are equal can be decided.
-/

namespace TestImpact.Toml

/-- Puts a field in front of the first one with a greater name, in the place of its own. -/
def Table.insert (name : String) (v : Value) : Table → Table
  | [] => [(name, v)]
  | (n, w) :: t =>
    if name < n then (name, v) :: (n, w) :: t
    else if name = n then (name, v) :: t
    else (n, w) :: Table.insert name v t

mutual

/-- A value with the fields of its tables in the order of their names. -/
def Value.ordered : Value → Value
  | .array items => .array (orderedItems items)
  | .table fields => .table (orderedFields fields)
  | v => v

def orderedItems : List Value → List Value
  | [] => []
  | v :: vs => v.ordered :: orderedItems vs

/-- Fields in the order of their names. Of two fields with one name the first one counts. -/
def orderedFields : Table → Table
  | [] => []
  | (name, v) :: t => Table.insert name v.ordered (orderedFields t)

end

/-! Fields -/

namespace Table

variable {t u : Table} {name other : String} {v : Value}

theorem get?_cons (n : String) (w : Value) (t : Table) (name : String) :
    get? ((n, w) :: t) name = if n = name then some w else get? t name := by
  unfold get?
  split_ifs with h <;> simp [h]

theorem get?_nil (name : String) : get? [] name = none := rfl

theorem get?_set (t : Table) (name : String) (v : Value) (other : String) :
    get? (set t name v) other = if name = other then some v else get? t other := by
  induction t with
  | nil => rw [set, get?_cons]
  | cons field t ih =>
    obtain ⟨n, w⟩ := field
    rw [set]
    by_cases hname : n = name
    · subst hname
      rw [if_pos rfl, get?_cons, get?_cons]
      split_ifs <;> rfl
    · rw [if_neg hname, get?_cons, get?_cons, ih]
      exact ite_ite_comm _ _ _ _ fun heq hother => hname (heq.trans hother.symm)

theorem get?_erase (t : Table) (name other : String) :
    get? (erase t name) other = if name = other then none else get? t other := by
  induction t with
  | nil => simp [erase, get?]
  | cons field t ih =>
    obtain ⟨n, w⟩ := field
    have hcons : erase ((n, w) :: t) name
        = if n = name then erase t name else (n, w) :: erase t name := by
      unfold erase
      by_cases h : n = name <;> simp [h]
    rw [hcons, get?_cons]
    by_cases hname : n = name
    · subst hname
      rw [if_pos rfl, ih]
      split_ifs <;> rfl
    · rw [if_neg hname, get?_cons, ih]
      exact ite_ite_comm _ _ _ _ fun heq hother => hname (heq.trans hother.symm)

theorem get?_insert (name : String) (v : Value) (t : Table) (other : String) :
    get? (insert name v t) other = if name = other then some v else get? t other := by
  induction t with
  | nil => rw [insert, get?_cons]
  | cons field t ih =>
    obtain ⟨n, w⟩ := field
    rw [insert]
    by_cases hless : name < n
    · rw [if_pos hless, get?_cons]
    · rw [if_neg hless]
      by_cases hsame : name = n
      · subst hsame
        rw [if_pos rfl, get?_cons, get?_cons]
        split_ifs <;> rfl
      · rw [if_neg hsame, get?_cons, get?_cons, ih]
        exact ite_ite_comm _ _ _ _ fun heq hother => hsame (hother.trans heq.symm)

/-! Order -/

/-- The fields stand in the order of their names, each name once. -/
def Ascending (t : Table) : Prop := t.Pairwise (·.1 < ·.1)

theorem mem_insert {field : String × Value} (h : field ∈ insert name v t) :
    field = (name, v) ∨ field ∈ t := by
  induction t with
  | nil => exact .inl (List.mem_singleton.mp h)
  | cons first t ih =>
    obtain ⟨n, w⟩ := first
    rw [insert] at h
    split_ifs at h
    · exact List.mem_cons.mp h
    · exact (List.mem_cons.mp h).imp_right (List.mem_cons_of_mem _)
    · rcases List.mem_cons.mp h with rfl | h
      · exact .inr List.mem_cons_self
      · exact (ih h).imp_right (List.mem_cons_of_mem _)

theorem Ascending.insert (h : t.Ascending) (name : String) (v : Value) :
    Ascending (Table.insert name v t) := by
  induction t with
  | nil => exact List.pairwise_singleton _ _
  | cons first t ih =>
    obtain ⟨n, w⟩ := first
    obtain ⟨hfirst, ht⟩ := List.pairwise_cons.mp h
    rw [Table.insert]
    split_ifs with hless hsame
    · refine List.pairwise_cons.mpr ⟨fun field hfield => ?_, h⟩
      rcases List.mem_cons.mp hfield with rfl | hfield
      · exact hless
      · exact hless.trans (hfirst field hfield)
    · exact List.pairwise_cons.mpr ⟨fun field hfield => hsame ▸ hfirst field hfield, ht⟩
    · refine List.pairwise_cons.mpr ⟨fun field hfield => ?_, ih ht⟩
      rcases mem_insert hfield with rfl | hfield
      · exact lt_of_le_of_ne (not_lt.mp hless) fun heq => hsame heq.symm
      · exact hfirst field hfield

theorem ascending_orderedFields (t : Table) : Ascending (orderedFields t) := by
  induction t with
  | nil => exact List.Pairwise.nil
  | cons field t ih => exact ih.insert field.1 field.2.ordered

theorem Ascending.get?_eq_some (h : t.Ascending) :
    get? t name = some v ↔ (name, v) ∈ t := by
  induction t with
  | nil => simp [get?]
  | cons first t ih =>
    obtain ⟨n, w⟩ := first
    obtain ⟨hfirst, ht⟩ := List.pairwise_cons.mp h
    rw [get?_cons, List.mem_cons, ← ih ht, Prod.mk.injEq]
    by_cases hname : n = name
    · subst hname
      have hnone : get? t n ≠ some v := fun hsome =>
        lt_irrefl n (hfirst _ ((ih ht).mp hsome))
      simp [hnone, eq_comm]
    · simp [hname, Ne.symm hname]

theorem Ascending.eq (ht : t.Ascending) (hu : u.Ascending) (h : ∀ name, get? t name = get? u name) :
    t = u := by
  have hmem : ∀ field, field ∈ t ↔ field ∈ u := fun field => by
    rw [← ht.get?_eq_some, ← hu.get?_eq_some, h]
  -- The order is strict, so no field stands twice in either table.
  have hperm : t.Perm u := (List.perm_ext_iff_of_nodup
    (ht.imp fun hlt heq => (ne_of_lt hlt) (congrArg Prod.fst heq))
    (hu.imp fun hlt heq => (ne_of_lt hlt) (congrArg Prod.fst heq))).mpr hmem
  exact hperm.eq_of_pairwise (fun a b _ _ hab hba => absurd (hab.trans hba) (lt_irrefl _)) ht hu

/-- Ordering changes the values of fields alone. -/
theorem get?_orderedFields (t : Table) (name : String) :
    get? (orderedFields t) name = (get? t name).map Value.ordered := by
  induction t with
  | nil => rfl
  | cons field t ih =>
    obtain ⟨n, w⟩ := field
    rw [orderedFields, get?_insert, get?_cons, ih]
    split_ifs <;> rfl

end Table

/-- Two tables are equal up to the order of their fields if and only if they have the same fields
with values that are equal up to this order. -/
theorem ordered_table_iff {t u : Table} :
    (Value.table t).ordered = (Value.table u).ordered ↔
      ∀ name, (Table.get? t name).map Value.ordered = (Table.get? u name).map Value.ordered := by
  simp only [Value.ordered, Value.table.injEq, ← Table.get?_orderedFields]
  refine ⟨fun heq name => by rw [heq], fun h => ?_⟩
  exact (Table.ascending_orderedFields t).eq (Table.ascending_orderedFields u) h

/-! Equality -/

mutual

/-- Whether two values are equal, with the order of fields. -/
def Value.equals : Value → Value → Bool
  | .bool b, .bool c => b == c
  | .int m, .int n => m == n
  | .float x, .float y => x == y
  | .text s, .text t => s == t
  | .moment m, .moment n => m == n
  | .array vs, .array ws => equalItems vs ws
  | .table t, .table u => equalFields t u
  | _, _ => false

def equalItems : List Value → List Value → Bool
  | [], [] => true
  | v :: vs, w :: ws => v.equals w && equalItems vs ws
  | _, _ => false

def equalFields : Table → Table → Bool
  | [], [] => true
  | (m, v) :: t, (n, w) :: u => m == n && v.equals w && equalFields t u
  | _, _ => false

end

mutual

theorem Value.equals_iff : ∀ {v w : Value}, v.equals w = true ↔ v = w
  | .bool _, w => by cases w <;> simp [Value.equals]
  | .int _, w => by cases w <;> simp [Value.equals]
  | .float _, w => by cases w <;> simp [Value.equals]
  | .text _, w => by cases w <;> simp [Value.equals]
  | .moment _, w => by cases w <;> simp [Value.equals]
  | .array vs, w => by
    have hitems : ∀ {ws}, equalItems vs ws = true ↔ vs = ws := equalItems_iff
    cases w <;> simp [Value.equals, hitems]
  | .table t, w => by
    have hfields : ∀ {u}, equalFields t u = true ↔ t = u := equalFields_iff
    cases w <;> simp [Value.equals, hfields]

theorem equalItems_iff : ∀ {vs ws : List Value}, equalItems vs ws = true ↔ vs = ws
  | [], ws => by cases ws <;> simp [equalItems]
  | v :: vs, [] => by simp [equalItems]
  | v :: vs, w :: ws => by
    have hfirst : v.equals w = true ↔ v = w := Value.equals_iff
    have hrest : equalItems vs ws = true ↔ vs = ws := equalItems_iff
    simp [equalItems, hfirst, hrest]

theorem equalFields_iff : ∀ {t u : Table}, equalFields t u = true ↔ t = u
  | [], u => by cases u <;> simp [equalFields]
  | (m, v) :: t, [] => by simp [equalFields]
  | (m, v) :: t, (n, w) :: u => by
    have hfirst : v.equals w = true ↔ v = w := Value.equals_iff
    have hrest : equalFields t u = true ↔ t = u := equalFields_iff
    simp [equalFields, hfirst, hrest, and_assoc]

end

instance : DecidableEq Value := fun _ _ => decidable_of_iff _ Value.equals_iff

end TestImpact.Toml
