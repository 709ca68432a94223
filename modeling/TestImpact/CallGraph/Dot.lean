import TestImpact.CallGraph.Focus

/-
  A call graph as a DOT file: one line for each function, tests in boxes and
  all others in ellipses, then one line for each edge. A quotation mark inside
  a name gets a backslash in front.
-/

namespace TestImpact.CallGraph

/-- Characters with a backslash in front of every quotation mark. -/
def escaped (cs : List Char) : List Char := cs.flatMap fun c => if c = '"' then ['\\', '"'] else [c]

def dotName (name : String) : String := "\"" ++ String.ofList (escaped name.toList) ++ "\""

def dotNode (isTest : String → Bool) (name : String) : String :=
  "  " ++ dotName name ++ " [shape=" ++ (if isTest name then "box" else "ellipse") ++ "];"

def dotEdge (e : CallEdge) : String :=
  "  " ++ dotName e.caller ++ " -> " ++ dotName e.callee ++ ";"

def dot (g : CallGraph) (focus : String) (isTest : String → Bool) : String :=
  Text.joined "\n" (["digraph TestGraph \x7b", "  rankdir=LR;"]
    ++ (g.shownNodes focus).map (dotNode isTest)
    ++ (g.shownEdges focus).map dotEdge
    ++ ["\x7d"])

end TestImpact.CallGraph
