import TestImpact.CallGraph.Basic

/-
  The tests affected by a set of changed functions.

  The walk starts at the changed functions and follows edges from callee to
  caller, first come, first served. Every function is expanded once. Each
  caller met on the way that is a test is affected; the walk goes on through
  tests, because a test that calls another one may reach the changed code
  along a different path. A changed test is affected only if an edge leads to
  it.

  The walk ends because every step takes one item off the queue, and the
  items put into it belong to edges whose callee is then expanded and never
  again: queue length plus edges of functions not yet expanded goes down by
  one at each step.
-/

namespace TestImpact.CallGraph

/-- The edges that lead to functions not in `seen`. -/
def pending (g : CallGraph) (seen : List String) : List CallEdge :=
  g.edges.filter (·.callee ∉ seen)

/-- Expanding a function settles the edges that lead to it. -/
theorem length_pending_cons (g : CallGraph) (seen : List String) (callee : String)
    (h : callee ∉ seen) :
    (g.pending (callee :: seen)).length + (g.callers callee).length
      = (g.pending seen).length := by
  simp only [pending, callers, List.length_map]
  induction g.edges with
  | nil => rfl
  | cons e rest ih =>
    by_cases hc : e.callee = callee
    · simp [hc, h]; simp at ih; omega
    · by_cases hs : e.callee ∈ seen
      · simp [hc, hs]; simpa using ih
      · simp [hc, hs]; simp at ih; omega

/-- What a walk has found: functions expanded, callers met that are tests, both latest first,
and the number of items taken off the queue. -/
structure Walk where
  seen : List String
  affected : List String
  steps : Nat
  deriving DecidableEq, Repr

/-- Walks until the queue is empty. -/
def walk (g : CallGraph) (isTest : String → Bool) (found : Walk) (queue : List String) : Walk :=
  match queue with
  | [] => found
  | callee :: rest =>
    if _h : callee ∈ found.seen then
      walk g isTest { found with steps := found.steps + 1 } rest
    else
      walk g isTest
        ⟨callee :: found.seen, (g.callers callee).filter isTest ++ found.affected,
          found.steps + 1⟩
        (rest ++ g.callers callee)
  termination_by queue.length + (g.pending found.seen).length
  decreasing_by
    · simp
    · have := length_pending_cons g found.seen callee _h
      simp only [List.length_append, List.length_cons]
      omega

def walkFrom (g : CallGraph) (isTest : String → Bool) (changed : List String) : Walk :=
  g.walk isTest ⟨[], [], 0⟩ changed

/-- The affected tests, ascending, and a note on the walk. -/
def affected (g : CallGraph) (isTest : String → Bool) (changed : List String) :
    List String × Note :=
  let found := g.walkFrom isTest changed
  let tests := Text.ascending found.affected
  (tests, .walked found.seen.length tests.length)

end TestImpact.CallGraph
