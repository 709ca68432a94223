import TestImpact.CallGraph.Basic

/-
  A call graph is the set of the edges it was given.

  `mem_ofEdges`: an edge is in the graph of a list if and only if it is in the
  list, however often and wherever. The callers of a function are the other
  ends of its edges (`mem_callers`).
-/

namespace TestImpact

/-- The first function calls the second by an edge of a list. -/
def Calls (edges : List CallEdge) (caller callee : String) : Prop := ⟨caller, callee⟩ ∈ edges

namespace CallGraph

theorem mem_add {g : CallGraph} {e f : CallEdge} :
    f ∈ (g.add e).edges ↔ f = e ∨ f ∈ g.edges := by
  unfold add
  split
  · rename_i h
    constructor
    · exact Or.inr
    · intro hgiven
      rcases hgiven with rfl | hf
      · exact h
      · exact hf
  · exact List.mem_cons

theorem mem_ofEdges {edges : List CallEdge} {f : CallEdge} :
    f ∈ (ofEdges edges).edges ↔ f ∈ edges := by
  suffices h : ∀ g : CallGraph, f ∈ (edges.foldl add g).edges ↔ f ∈ g.edges ∨ f ∈ edges by
    simpa [ofEdges, empty] using h empty
  induction edges with
  | nil => simp
  | cons e rest ih =>
    intro g
    rw [List.foldl_cons, ih, mem_add, List.mem_cons]
    exact or_assoc.trans or_left_comm

theorem mem_callers {g : CallGraph} {caller callee : String} :
    caller ∈ g.callers callee ↔ Calls g.edges caller callee := by
  simp only [callers, Calls, List.mem_map, List.mem_filter, decide_eq_true_eq]
  constructor
  · intro hgiven
    obtain ⟨e, ⟨he, rfl⟩, rfl⟩ := hgiven
    exact he
  · intro h
    exact ⟨⟨caller, callee⟩, ⟨h, rfl⟩, rfl⟩

theorem calls_ofEdges (edges : List CallEdge) : Calls (ofEdges edges).edges = Calls edges := by
  funext caller callee
  exact propext mem_ofEdges

end CallGraph

end TestImpact
