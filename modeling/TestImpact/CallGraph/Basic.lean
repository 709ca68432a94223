import TestImpact.Note
import TestImpact.Text.Ascending

/-
  The graph of who calls whom, read from the called function to its callers.

  A graph is a set of edges, kept as a list without repetition; an edge that
  is there already is not added again. A function is a callee of the graph if
  some edge leads to it, so no callee is without callers.
-/

namespace TestImpact

/-- One function calls another. -/
structure CallEdge where
  caller : String
  callee : String
  deriving DecidableEq, Repr

/-- A set of edges. -/
structure CallGraph where
  edges : List CallEdge
  nodup : edges.Nodup

namespace CallGraph

def empty : CallGraph := ⟨[], .nil⟩

def add (g : CallGraph) (e : CallEdge) : CallGraph :=
  if h : e ∈ g.edges then g
  else ⟨e :: g.edges, List.nodup_cons.mpr ⟨h, g.nodup⟩⟩

def ofEdges (edges : List CallEdge) : CallGraph := edges.foldl add empty

def callers (g : CallGraph) (callee : String) : List String :=
  (g.edges.filter (·.callee = callee)).map (·.caller)

/-- The functions that are called, each once. -/
def callees (g : CallGraph) : List String := Text.distinct (g.edges.map (·.callee))

def contains (g : CallGraph) (callee : String) : Bool := g.edges.any (·.callee = callee)

/-- How many functions are called, and how many edges there are. -/
def stats (g : CallGraph) : GraphStats := ⟨g.callees.length, g.edges.length⟩

def callersByCallee (g : CallGraph) : List (String × List String) :=
  g.callees.map fun callee => (callee, g.callers callee)

end CallGraph

end TestImpact
