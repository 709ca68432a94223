import TestImpact.Proofs.Resolution

/-
  Edges do not depend on the order in which things are discovered.

  Symbols: resolving asks the tables only for members, and what it finds is
  put in ascending order, so two lists with the same symbols resolve every call
  alike (`resolve_congr`), however often and in which order they have them.

  Calls: `found` is what the calls give, one after the other and with
  repetitions. The edges are its members in the order in which each occurs
  first, so more calls add edges behind those that are there, and the set of
  edges is told by the set of calls (`mem_edges_iff_found`).

  `edges_order_free` says both.
-/

namespace TestImpact

namespace Declared

open TestImpact.Text

/-- The same symbols are declared, in whatever order and however often. -/
def SameSymbols (d d' : Declared) : Prop := ∀ s, s ∈ d.symbols ↔ s ∈ d'.symbols

/-- What the calls give, one call after the other, ascending for each, with repetitions. -/
def found (d : Declared) (calls : List RawCall) : List CallEdge :=
  calls.flatMap fun call => (d.resolve call.caller call.target).map (CallEdge.mk call.caller)

/-! ## Symbols -/

section Symbols

variable {d d' : Declared}

theorem SameSymbols.isFunction (h : SameSymbols d d') (q : String) :
    d.isFunction q = d'.isFunction q := by
  rw [Bool.eq_iff_iff, isFunction_iff, isFunction_iff]
  show q ∈ d.ids .function ↔ q ∈ d'.ids .function
  simp only [mem_ids, h _]

theorem SameSymbols.mem_named (h : SameSymbols d d') (kind : SymbolKind) (name q : String) :
    q ∈ d.named kind name ↔ q ∈ d'.named kind name := by
  simp only [named, List.mem_map, List.mem_filter, h _]

theorem SameSymbols.ownMethod? (h : SameSymbols d d') (caller target : String) :
    d.ownMethod? caller target = d'.ownMethod? caller target := by
  simp only [Declared.ownMethod?, h.isFunction]

theorem SameSymbols.mem_endingWith (h : SameSymbols d d') (target q : String) :
    q ∈ d.endingWith target ↔ q ∈ d'.endingWith target := by
  simp only [endingWith, List.mem_filter, h.mem_named]

theorem SameSymbols.mem_constructors (h : SameSymbols d d') (name q : String) :
    q ∈ d.constructors name ↔ q ∈ d'.constructors name := by
  simp only [constructors, List.mem_filter, List.mem_map, h.mem_named, h.isFunction]

theorem isEmpty_congr {l m : List String} (h : ∀ q, q ∈ l ↔ q ∈ m) : l.isEmpty = m.isEmpty := by
  rw [Bool.eq_iff_iff, List.isEmpty_iff, List.isEmpty_iff, List.eq_nil_iff_forall_not_mem,
    List.eq_nil_iff_forall_not_mem]
  exact forall_congr' fun q => not_congr (h q)

/-- Each rule finds the same functions, so the same rule decides. -/
theorem resolve_congr (h : SameSymbols d d') (caller target : String) :
    d.resolve caller target = d'.resolve caller target := by
  have hdotted : ∀ q, (q ∈ if target.toList.contains '.' then d.endingWith target else []) ↔
      q ∈ if target.toList.contains '.' then d'.endingWith target else [] := by
    intro q
    split
    · exact h.mem_endingWith target q
    · exact Iff.rfl
  unfold resolve
  dsimp only
  rw [h.isFunction, h.ownMethod?, isEmpty_congr hdotted, ascending_congr hdotted,
    isEmpty_congr (h.mem_constructors _), ascending_congr (h.mem_constructors _),
    isEmpty_congr (h.mem_named .classDef _), ascending_congr (h.mem_named .function _)]

theorem edges_congr (h : SameSymbols d d') (calls : List RawCall) :
    d.edges calls = d'.edges calls := by
  unfold edges
  simp only [resolve_congr h]

end Symbols

/-! ## Calls -/

section Calls

variable {d : Declared} {calls more : List RawCall}

theorem edges_eq_distinct_found : d.edges calls = distinct (d.found calls) := rfl

theorem edges_append (d : Declared) (calls more : List RawCall) :
    d.edges (calls ++ more) = d.edges calls ++ (d.edges more).filter (· ∉ d.edges calls) := by
  simp only [edges_eq_distinct_found, found, List.flatMap_append, distinct_append, mem_distinct]

theorem edges_subset (h : calls ⊆ more) : d.edges calls ⊆ d.edges more := by
  intro e he
  obtain ⟨call, hcall, hgiven⟩ := mem_edges.mp he
  exact mem_edges.mpr ⟨call, h hcall, hgiven⟩

end Calls

/-- **Edges do not depend on the order of discovery.** The same symbols, in any order and with any
repetitions, give the same list of edges. The list is what the calls give one after the other,
ascending for each, told once and in the order in which each edge occurs first. More calls add
their edges behind it, less those that are there; and as a set the edges are told by the set of
calls, and grow with it. -/
theorem edges_order_free (d : Declared) :
    (∀ d', SameSymbols d d' → ∀ calls, d'.edges calls = d.edges calls) ∧
    (∀ caller target, (d.resolve caller target).Pairwise (· < ·)) ∧
    (∀ calls, (d.edges calls).Nodup ∧ (∀ e, e ∈ d.edges calls ↔ e ∈ d.found calls) ∧
      (d.edges calls).Pairwise fun e f => (d.found calls).idxOf e < (d.found calls).idxOf f) ∧
    (∀ calls more,
      d.edges (calls ++ more) = d.edges calls ++ (d.edges more).filter (· ∉ d.edges calls)) ∧
    (∀ calls calls', (∀ call, call ∈ calls ↔ call ∈ calls') →
      ∀ e, e ∈ d.edges calls ↔ e ∈ d.edges calls') ∧
    ∀ calls more, calls ⊆ more → d.edges calls ⊆ d.edges more := by
  refine ⟨fun d' h calls => (edges_congr h calls).symm, pairwise_resolve d, fun calls => ?_,
    edges_append d, fun calls calls' h e => ?_, fun calls more => edges_subset⟩
  · exact ⟨nodup_distinct _, fun e => mem_distinct, pairwise_distinct _⟩
  · constructor
    · exact fun he => edges_subset (fun call => (h call).mp) he
    · exact fun he => edges_subset (fun call => (h call).mpr) he

/-- Swapped and repeated symbols change nothing; a swapped call changes the order of the edges, but
not the set of them. -/
theorem edges_order_free_swapped :
    let d : Declared := ⟨[⟨.function, "f", "b.f"⟩, ⟨.function, "f", "a.f"⟩]⟩
    let d' : Declared :=
      ⟨[⟨.function, "f", "a.f"⟩, ⟨.function, "f", "b.f"⟩, ⟨.function, "f", "a.f"⟩]⟩
    let calls : List RawCall := [⟨"m.g", "b.f"⟩, ⟨"m.g", "f"⟩]
    let swapped : List RawCall := [⟨"m.g", "f"⟩, ⟨"m.g", "b.f"⟩, ⟨"m.g", "f"⟩]
    SameSymbols d d' ∧ (∀ call, call ∈ calls ↔ call ∈ swapped) ∧ calls ⊆ swapped ∧
      d'.edges calls = [⟨"m.g", "b.f"⟩, ⟨"m.g", "a.f"⟩] ∧
      d.edges swapped = [⟨"m.g", "a.f"⟩, ⟨"m.g", "b.f"⟩] ∧
      (∀ e, e ∈ d.edges calls ↔ e ∈ d.edges swapped) ∧
      d.edges calls ⊆ d.edges swapped := by
  intro d d' calls swapped
  have hsymbols : SameSymbols d d' := by
    intro s
    simp only [d, d', List.mem_cons, List.not_mem_nil, or_false]
    tauto
  have hcalls : ∀ call, call ∈ calls ↔ call ∈ swapped := by
    intro call
    simp only [calls, swapped, List.mem_cons, List.not_mem_nil, or_false]
    tauto
  have hsubset : calls ⊆ swapped := fun call => (hcalls call).mp
  obtain ⟨hsame, -, -, -, hset, hgrow⟩ := edges_order_free d
  exact ⟨hsymbols, hcalls, hsubset, (hsame d' hsymbols calls).trans (by decide +kernel),
    by decide +kernel, hset calls swapped hcalls, hgrow calls swapped hsubset⟩

end Declared

end TestImpact
