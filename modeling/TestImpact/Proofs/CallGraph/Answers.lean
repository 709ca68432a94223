import Mathlib.Algebra.GroupWithZero.Nat
import Mathlib.Data.Finset.Card
import Mathlib.Data.List.Nodup
import TestImpact.Proofs.CallGraph.Edges
import TestImpact.Proofs.Text.Ascending

/-
  What a call graph answers.

  Whatever a graph is asked, its answer is told by the set of its edges:
  `Answers.Describe` says how, question by question. Sets of callers are
  answered as lists without repetition, in any order, so two graphs with the
  same edges give answers that differ in nothing but that order
  (`Answers.Describe.same`).

  Two kinds of graphs are described. A `CallGraph` is its set of edges
  (`describe_answers`). A list of rows, one for each callee with its callers,
  is described by the edges in its rows as long as it is `WellFormed`: one row
  for a callee, no row without callers, no caller twice in a row
  (`WellFormed.describe`).
-/

namespace TestImpact

abbrev CallerRows := List (String × List String)

/-- The answers to all questions that a graph is asked. -/
structure Answers where
  callers : String → List String
  contains : String → Bool
  size : Nat
  stats : GraphStats
  rows : CallerRows

namespace CallerRows

/-- The edges that rows hold. -/
def edges (rows : CallerRows) : List CallEdge :=
  rows.flatMap fun row => row.2.map fun caller => ⟨caller, row.1⟩

/-- The callers in the row of a callee. -/
def callers (rows : CallerRows) (callee : String) : List String :=
  ((rows.find? (·.1 = callee)).map (·.2)).getD []

/-- Puts a caller into the row of a callee, which is made if there is none. -/
def add : CallerRows → CallEdge → CallerRows
  | [], e => [(e.callee, [e.caller])]
  | row :: rows, e =>
    if row.1 = e.callee then (row.1, row.2.insert e.caller) :: rows else row :: add rows e

/-- One row for a callee, no row without callers, no caller twice in a row. -/
structure WellFormed (rows : CallerRows) : Prop where
  keys : (rows.map (·.1)).Nodup
  filled : ∀ row ∈ rows, row.2 ≠ []
  once : ∀ row ∈ rows, row.2.Nodup

def answers (rows : CallerRows) : Answers where
  callers := rows.callers
  contains callee := rows.any (·.1 = callee)
  size := rows.length
  stats := ⟨rows.length, (rows.map (·.2.length)).sum⟩
  rows := rows

end CallerRows

def CallGraph.answers (g : CallGraph) : Answers where
  callers := g.callers
  contains := g.contains
  size := g.callees.length
  stats := g.stats
  rows := g.callersByCallee

namespace Answers

/-- The answers are those of the graph that has the edges of a list and no others. The rows have
every callee with its callers, and none without callers. -/
structure Describe (a : Answers) (edges : List CallEdge) : Prop where
  callers : ∀ caller callee, caller ∈ a.callers callee ↔ Calls edges caller callee
  once : ∀ callee, (a.callers callee).Nodup
  contains : ∀ callee, a.contains callee = true ↔ a.callers callee ≠ []
  size : a.size = (edges.map (·.callee)).toFinset.card
  callees : a.stats.callees = (edges.map (·.callee)).toFinset.card
  edges : a.stats.edges = edges.toFinset.card
  keys : (a.rows.map (·.1)).Nodup
  rows : ∀ callee callers, (callee, callers) ∈ a.rows ↔ callers = a.callers callee ∧ callers ≠ []

/-- Answers that differ in nothing but the order of callers and of rows. -/
structure Same (a b : Answers) : Prop where
  callers : ∀ callee, (a.callers callee).Perm (b.callers callee)
  contains : ∀ callee, a.contains callee = b.contains callee
  size : a.size = b.size
  stats : a.stats = b.stats
  keys : (a.rows.map (·.1)).Perm (b.rows.map (·.1))
  rows : ∀ callee as, (callee, as) ∈ a.rows → ∃ bs, (callee, bs) ∈ b.rows ∧ as.Perm bs

variable {a b : Answers} {edges more : List CallEdge}

theorem Describe.mem_keys (h : a.Describe edges) (callee : String) :
    callee ∈ a.rows.map (·.1) ↔ a.callers callee ≠ [] := by
  simp only [List.mem_map, Prod.exists, exists_and_right, exists_eq_right, h.rows]
  constructor
  · intro hgiven
    obtain ⟨callers, rfl, hne⟩ := hgiven
    exact hne
  · intro hne
    exact ⟨a.callers callee, rfl, hne⟩

theorem Describe.same (ha : a.Describe edges) (hb : b.Describe more)
    (h : ∀ e, e ∈ edges ↔ e ∈ more) : a.Same b := by
  have hfinset : edges.toFinset = more.toFinset := List.toFinset.ext h
  have hcallees : (edges.map (·.callee)).toFinset = (more.map (·.callee)).toFinset := by
    ext callee
    simp [h]
  have hcallers : ∀ callee, (a.callers callee).Perm (b.callers callee) := by
    intro callee
    refine (List.perm_ext_iff_of_nodup (ha.once callee) (hb.once callee)).mpr fun caller => ?_
    rw [ha.callers, hb.callers]
    exact h _
  have hempty : ∀ callee, a.callers callee ≠ [] ↔ b.callers callee ≠ [] := fun callee =>
    not_congr ⟨fun hnil => by simpa [hnil] using hcallers callee,
      fun hnil => by simpa [hnil] using hcallers callee⟩
  refine ⟨hcallers, fun callee => ?_, ?_, ?_, ?_, fun callee as has => ?_⟩
  · rw [Bool.eq_iff_iff, ha.contains, hb.contains]
    exact hempty callee
  · rw [ha.size, hb.size, hcallees]
  · have hcalleeCount := ha.callees.trans (hcallees ▸ hb.callees.symm)
    have hedgeCount := ha.edges.trans (hfinset ▸ hb.edges.symm)
    cases hsa : a.stats
    cases hsb : b.stats
    simp_all
  · refine (List.perm_ext_iff_of_nodup ha.keys hb.keys).mpr fun callee => ?_
    rw [ha.mem_keys, hb.mem_keys]
    exact hempty callee
  · obtain ⟨rfl, hne⟩ := (ha.rows callee as).mp has
    exact ⟨b.callers callee, (hb.rows _ _).mpr ⟨rfl, (hempty callee).mp hne⟩, hcallers callee⟩

end Answers

/-! ## A graph and its edges -/

namespace CallGraph

variable {g : CallGraph} {edges : List CallEdge} {callee : String}

theorem nodup_callers (g : CallGraph) (callee : String) : (g.callers callee).Nodup := by
  unfold callers
  refine (g.nodup.filter _).map_on ?_
  -- Two edges that end at the same function are told apart by their callers.
  intro e he f hf hcaller
  have hend : e.callee = f.callee := by
    simp only [List.mem_filter, decide_eq_true_eq] at he hf
    rw [he.2, hf.2]
  cases e
  cases f
  simp_all

theorem callers_ne_nil : g.callers callee ≠ [] ↔ ∃ caller, Calls g.edges caller callee := by
  simp only [ne_eq, List.eq_nil_iff_forall_not_mem, mem_callers, not_forall, not_not]

theorem mem_callees : callee ∈ g.callees ↔ ∃ caller, Calls g.edges caller callee := by
  simp only [callees, Text.mem_distinct, List.mem_map, Calls]
  constructor
  · intro hgiven
    obtain ⟨e, he, rfl⟩ := hgiven
    exact ⟨e.caller, he⟩
  · intro hgiven
    obtain ⟨caller, h⟩ := hgiven
    exact ⟨_, h, rfl⟩

theorem contains_iff : g.contains callee = true ↔ g.callers callee ≠ [] := by
  rw [callers_ne_nil, ← mem_callees, callees, Text.mem_distinct]
  simp [contains]

theorem mem_callersByCallee {callers : List String} :
    (callee, callers) ∈ g.callersByCallee ↔ callers = g.callers callee ∧ callers ≠ [] := by
  simp only [callersByCallee, List.mem_map, Prod.mk.injEq]
  constructor
  · intro hgiven
    obtain ⟨c, hc, rfl, rfl⟩ := hgiven
    exact ⟨rfl, callers_ne_nil.mpr (mem_callees.mp hc)⟩
  · intro hgiven
    obtain ⟨rfl, hne⟩ := hgiven
    exact ⟨callee, mem_callees.mpr (callers_ne_nil.mp hne), rfl, rfl⟩

theorem length_callees (g : CallGraph) :
    g.callees.length = (g.edges.map (·.callee)).toFinset.card := by
  rw [callees, ← List.toFinset_card_of_nodup (Text.nodup_distinct _)]
  congr 1
  ext callee
  simp [Text.mem_distinct]

/-- The graph with the edges of a list answers as they describe. -/
theorem describe_answers (h : ∀ e, e ∈ g.edges ↔ e ∈ edges) : g.answers.Describe edges := by
  have hfinset : g.edges.toFinset = edges.toFinset := List.toFinset.ext h
  have hcallees : (g.edges.map (·.callee)).toFinset = (edges.map (·.callee)).toFinset := by
    ext callee
    simp [h]
  exact {
    callers := fun caller callee => mem_callers.trans (h _)
    once := g.nodup_callers
    contains := fun callee => contains_iff
    size := g.length_callees.trans (congrArg _ hcallees)
    callees := g.length_callees.trans (congrArg _ hcallees)
    edges := by
      rw [← hfinset]
      exact (List.toFinset_card_of_nodup g.nodup).symm
    keys := by
      have hkeys : g.callersByCallee.map (·.1) = g.callees := by
        simp [callersByCallee, Function.comp_def]
      show (g.callersByCallee.map (·.1)).Nodup
      rw [hkeys]
      exact Text.nodup_distinct _
    rows := fun callee callers => mem_callersByCallee }

theorem mem_edges_callersByCallee {e : CallEdge} :
    e ∈ CallerRows.edges g.callersByCallee ↔ e ∈ g.edges := by
  simp only [CallerRows.edges, List.mem_flatMap, Prod.exists, mem_callersByCallee, List.mem_map]
  constructor
  · intro hgiven
    obtain ⟨callee, callers, ⟨rfl, -⟩, caller, hcaller, rfl⟩ := hgiven
    exact mem_callers.mp hcaller
  · intro he
    have hcaller : e.caller ∈ g.callers e.callee := mem_callers.mpr he
    exact ⟨e.callee, _, ⟨rfl, List.ne_nil_of_mem hcaller⟩, e.caller, hcaller, rfl⟩

end CallGraph

/-! ## Rows and their edges -/

namespace CallerRows

variable {rows : CallerRows} {e f : CallEdge}

theorem mem_edges : e ∈ rows.edges ↔ ∃ row ∈ rows, row.1 = e.callee ∧ e.caller ∈ row.2 := by
  simp only [edges, List.mem_flatMap, List.mem_map]
  constructor
  · intro hgiven
    obtain ⟨row, hrow, caller, hcaller, rfl⟩ := hgiven
    exact ⟨row, hrow, rfl, hcaller⟩
  · intro hgiven
    obtain ⟨row, hrow, hcallee, hcaller⟩ := hgiven
    refine ⟨row, hrow, e.caller, hcaller, ?_⟩
    cases e
    simp_all

theorem keys_add (rows : CallerRows) (e : CallEdge) :
    (rows.add e).map (·.1)
      = if e.callee ∈ rows.map (·.1) then rows.map (·.1) else rows.map (·.1) ++ [e.callee] := by
  induction rows with
  | nil => simp [add]
  | cons row rows ih =>
    by_cases hrow : row.1 = e.callee
    · simp [add, hrow]
    · have hne : e.callee ≠ row.1 := fun h => hrow h.symm
      simp only [add, hrow, if_false, List.map_cons, ih, List.mem_cons, hne, false_or]
      split <;> rfl

theorem mem_add {row : String × List String} (h : row ∈ rows.add e) :
    row ∈ rows ∨ row = (e.callee, [e.caller]) ∨
      ∃ callers, (e.callee, callers) ∈ rows ∧ row = (e.callee, callers.insert e.caller) := by
  induction rows with
  | nil => simpa [add] using h
  | cons first rows ih =>
    by_cases hfirst : first.1 = e.callee
    · simp only [add, hfirst, if_true, List.mem_cons] at h
      rcases h with rfl | h
      · exact .inr (.inr ⟨first.2, by simp [← hfirst], rfl⟩)
      · exact .inl (List.mem_cons_of_mem first h)
    · simp only [add, hfirst, if_false, List.mem_cons] at h
      rcases h with rfl | h
      · exact .inl List.mem_cons_self
      · rcases ih h with hold | hnew | ⟨callers, hcallers, hrow⟩
        · exact .inl (List.mem_cons_of_mem first hold)
        · exact .inr (.inl hnew)
        · exact .inr (.inr ⟨callers, List.mem_cons_of_mem first hcallers, hrow⟩)

theorem WellFormed.nil : WellFormed [] := ⟨List.nodup_nil, by simp, by simp⟩

theorem WellFormed.add (h : rows.WellFormed) (e : CallEdge) : (rows.add e).WellFormed where
  keys := by
    rw [keys_add]
    split
    · exact h.keys
    · rename_i hnew
      exact List.Nodup.append h.keys (List.nodup_singleton _) (by simpa using hnew)
  filled := by
    intro row hrow
    rcases mem_add hrow with hold | rfl | ⟨callers, -, rfl⟩
    · exact h.filled row hold
    · exact List.cons_ne_nil _ _
    · exact List.ne_nil_of_mem (List.mem_insert_self (a := e.caller) (l := callers))
  once := by
    intro row hrow
    rcases mem_add hrow with hold | rfl | ⟨callers, hcallers, rfl⟩
    · exact h.once row hold
    · exact List.nodup_singleton _
    · exact (h.once _ hcallers).insert

theorem mem_edges_add : f ∈ (rows.add e).edges ↔ f = e ∨ f ∈ rows.edges := by
  induction rows with
  | nil => simp [add, edges]
  | cons row rows ih =>
    have hcons : ∀ (row : String × List String) (rows : CallerRows),
        f ∈ edges (row :: rows) ↔ (row.1 = f.callee ∧ f.caller ∈ row.2) ∨ f ∈ rows.edges := by
      intro row rows
      simp only [mem_edges, List.exists_mem_cons_iff]
    by_cases hrow : row.1 = e.callee
    · simp only [add, hrow, if_true, hcons, List.mem_insert_iff]
      have hedge : f = e ↔ e.callee = f.callee ∧ f.caller = e.caller := by
        cases e
        cases f
        simp only [CallEdge.mk.injEq]
        exact ⟨fun h => ⟨h.2.symm, h.1⟩, fun h => ⟨h.2, h.1.symm⟩⟩
      rw [hedge]
      tauto
    · simp only [add, hrow, if_false, hcons, ih]
      exact or_left_comm

theorem callers_of_mem {callee : String} {callers : List String} (h : rows.WellFormed)
    (hrow : (callee, callers) ∈ rows) : rows.callers callee = callers := by
  have hfind : rows.find? (·.1 = callee) = some (callee, callers) := by
    have hkeys := h.keys
    clear h
    induction rows with
    | nil => simp at hrow
    | cons first rows ih =>
      obtain ⟨hfirst, hrest⟩ := List.nodup_cons.mp hkeys
      rcases List.mem_cons.mp hrow with rfl | hrow
      · simp
      · have hne : first.1 ≠ callee := fun heq => hfirst
          (List.mem_map.mpr ⟨_, hrow, heq.symm⟩)
        simpa [hne] using ih hrow hrest
  rw [CallerRows.callers, hfind]
  rfl

theorem callers_eq_nil {callee : String} (h : callee ∉ rows.map (·.1)) :
    rows.callers callee = [] := by
  have hfind : rows.find? (·.1 = callee) = none := by
    rw [List.find?_eq_none]
    intro row hrow heq
    exact h (List.mem_map.mpr ⟨row, hrow, by simpa using heq⟩)
  rw [callers, hfind]
  rfl

theorem mem_callers (h : rows.WellFormed) {caller callee : String} :
    caller ∈ rows.callers callee ↔ Calls rows.edges caller callee := by
  rw [Calls, mem_edges]
  constructor
  · intro hcaller
    by_cases hkey : callee ∈ rows.map (·.1)
    · obtain ⟨row, hrow, rfl⟩ := List.mem_map.mp hkey
      rw [callers_of_mem h hrow] at hcaller
      exact ⟨row, hrow, rfl, hcaller⟩
    · simp [callers_eq_nil hkey] at hcaller
  · intro hgiven
    obtain ⟨row, hrow, rfl, hcaller⟩ := hgiven
    rw [callers_of_mem h hrow]
    exact hcaller

theorem length_edges (h : rows.WellFormed) :
    (rows.map (·.2.length)).sum = rows.edges.toFinset.card := by
  have hnodup : rows.edges.Nodup := by
    rw [edges, List.nodup_flatMap]
    refine ⟨fun row hrow => (h.once row hrow).map fun _ _ heq => (CallEdge.mk.inj heq).1, ?_⟩
    refine (List.pairwise_map.mp h.keys).imp fun {first second} hne => ?_
    simp only [Function.onFun, List.disjoint_left, List.mem_map]
    intro e hgiven hother
    obtain ⟨_, -, rfl⟩ := hgiven
    obtain ⟨_, -, heq⟩ := hother
    exact hne (CallEdge.mk.inj heq).2.symm
  rw [List.toFinset_card_of_nodup hnodup, edges, List.length_flatMap]
  simp

theorem WellFormed.describe (h : rows.WellFormed) {edges : List CallEdge}
    (hedges : ∀ e, e ∈ rows.edges ↔ e ∈ edges) : rows.answers.Describe edges := by
  have hkeys : rows.length = (edges.map (·.callee)).toFinset.card := by
    rw [← List.length_map (f := (·.1)), ← List.toFinset_card_of_nodup h.keys]
    congr 1
    ext callee
    simp only [List.mem_toFinset, List.mem_map]
    constructor
    · intro hgiven
      obtain ⟨row, hrow, rfl⟩ := hgiven
      obtain ⟨caller, rest, hcallers⟩ := List.exists_cons_of_ne_nil (h.filled row hrow)
      exact ⟨⟨caller, row.1⟩, (hedges _).mp (mem_edges.mpr ⟨row, hrow, rfl, by simp [hcallers]⟩),
        rfl⟩
    · intro hgiven
      obtain ⟨e, he, rfl⟩ := hgiven
      obtain ⟨row, hrow, hcallee, -⟩ := mem_edges.mp ((hedges e).mpr he)
      exact ⟨row, hrow, hcallee⟩
  have hrows : ∀ callee callers,
      (callee, callers) ∈ rows ↔ callers = rows.callers callee ∧ callers ≠ [] := by
    intro callee callers
    constructor
    · intro hrow
      exact ⟨(callers_of_mem h hrow).symm, h.filled _ hrow⟩
    · intro hgiven
      obtain ⟨rfl, hne⟩ := hgiven
      by_cases hkey : callee ∈ rows.map (·.1)
      · obtain ⟨row, hrow, rfl⟩ := List.mem_map.mp hkey
        rw [callers_of_mem h hrow]
        exact hrow
      · exact absurd (callers_eq_nil hkey) hne
  exact {
    callers := fun caller callee => (mem_callers h).trans (hedges _)
    once := by
      intro callee
      show (rows.callers callee).Nodup
      by_cases hnil : rows.callers callee = []
      · rw [hnil]
        exact List.nodup_nil
      · exact h.once _ ((hrows callee _).mpr ⟨rfl, hnil⟩)
    contains := by
      intro callee
      show rows.any (·.1 = callee) = true ↔ rows.callers callee ≠ []
      simp only [List.any_eq_true, decide_eq_true_eq]
      constructor
      · intro hgiven
        obtain ⟨row, hrow, rfl⟩ := hgiven
        rw [callers_of_mem h hrow]
        exact h.filled row hrow
      · intro hne
        exact ⟨_, (hrows callee _).mpr ⟨rfl, hne⟩, rfl⟩
    size := hkeys
    callees := hkeys
    edges := (length_edges h).trans (congrArg _ (List.toFinset.ext hedges))
    keys := h.keys
    rows := hrows }

end CallerRows

end TestImpact
