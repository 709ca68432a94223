import TestImpact.CallGraph.Basic
import TestImpact.Text.Dotted

/-
  The part of a call graph that is shown.

  A focus is a text; the functions whose names hold it are in focus, and an
  edge is shown if one of its ends is. An empty focus, and one that occurs in
  no name, shows the whole graph. Edges come ascending by callee, then by
  caller; the functions shown are those in focus and the ends of the edges
  shown.
-/

namespace TestImpact

/-- Edges are ordered by callee, then by caller. -/
instance : LT CallEdge where
  lt a b := a.callee < b.callee ∨ (a.callee = b.callee ∧ a.caller < b.caller)

instance : DecidableLT CallEdge := fun a b =>
  inferInstanceAs (Decidable (a.callee < b.callee ∨ (a.callee = b.callee ∧ a.caller < b.caller)))

namespace CallEdge

def ends (e : CallEdge) : List String := [e.caller, e.callee]

end CallEdge

namespace CallGraph

/-- The functions that call or are called, ascending. -/
def nodes (g : CallGraph) : List String := Text.ascending (g.edges.flatMap CallEdge.ends)

/-- The functions in focus; an empty focus has none. -/
def inFocus (g : CallGraph) (focus : String) : List String :=
  if focus.isEmpty then [] else g.nodes.filter (Text.holds · focus)

/-- The edges that a focus shows, ascending. -/
def shownEdges (g : CallGraph) (focus : String) : List CallEdge :=
  let all := Text.ascending g.edges
  let found := g.inFocus focus
  if found.isEmpty then all else all.filter fun e => e.caller ∈ found || e.callee ∈ found

/-- The functions that a focus shows, ascending. -/
def shownNodes (g : CallGraph) (focus : String) : List String :=
  let found := g.inFocus focus
  if found.isEmpty then g.nodes
  else Text.ascending (found ++ (g.shownEdges focus).flatMap CallEdge.ends)

end CallGraph

end TestImpact
