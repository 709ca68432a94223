import Mathlib.Algebra.GroupWithZero.Nat
import TestImpact.Proofs.CallGraph.Walk

/-
  What a walk costs.

  A `Run` is a walk with a log: the items it has taken off the queue, and the
  functions whose callers it has asked for, both in order. The queue grows while
  it is consumed, and on a cycle the same function comes back, so neither its
  length nor the set of expanded functions says how long a walk is. What does is
  the balance of `Tally`: taken and waiting items together are the changed
  functions and the callers of the functions asked for.

  What is proved:
    1. `Tally.step`: every step keeps the balance, and asks for no function that
       was asked for before.
    2. `length_pending_add`: functions that differ have different edges leading
       to them, so their callers are no more than the edges of the graph.
    3. `expands_once`: a walk asks for exactly the functions above changed ones,
       each once, and the number of its steps is told by the balance.
-/

namespace TestImpact.CallGraph

open Relation

/-- The item that the next step takes off the queue. -/
def Stage.next (s : Stage) : List String := s.queue.take 1

/-- The function whose callers the next step asks for: the item that it takes off the queue,
unless this is expanded already. -/
def Stage.asks (s : Stage) : List String := s.next.filter (· ∉ s.found.seen)

/-- A walk from its start, with the items taken off the queue and the functions asked for. -/
inductive Run (g : CallGraph) (isTest : String → Bool) (changed : List String) :
    List String → List String → Stage → Prop
  | start : Run g isTest changed [] [] (.start changed)
  | step {taken asked : List String} {s s' : Stage} (h : Run g isTest changed taken asked s)
      (hstep : Step g isTest s s') : Run g isTest changed (taken ++ s.next) (asked ++ s.asks) s'

variable {g : CallGraph} {isTest : String → Bool} {changed taken asked : List String}
  {s s' : Stage}

theorem Run.steps (h : Run g isTest changed taken asked s) :
    ReflTransGen (Step g isTest) (.start changed) s := by
  induction h with
  | start => exact .refl
  | step _ hstep ih => exact ih.tail hstep

theorem exists_run (h : ReflTransGen (Step g isTest) (.start changed) s) :
    ∃ taken asked, Run g isTest changed taken asked s := by
  induction h with
  | refl => exact ⟨[], [], .start⟩
  | tail _ hstep ih =>
    obtain ⟨taken, asked, hrun⟩ := ih
    exact ⟨_, _, hrun.step hstep⟩

/-! ## The balance -/

/-- What the log has to do with the stage. Nothing is asked for twice, and every item that was
ever put into the queue was changed or is a caller of a function asked for. -/
structure Tally (g : CallGraph) (changed taken asked : List String) (s : Stage) : Prop where
  seen : s.found.seen = asked.reverse
  steps : s.found.steps = taken.length
  once : asked.Nodup
  balance : (taken ++ s.queue).Perm (changed ++ asked.flatMap g.callers)

theorem Tally.start : Tally g changed [] [] (.start changed) where
  seen := rfl
  steps := rfl
  once := .nil
  balance := by simp [Stage.start]

theorem Tally.step (h : Tally g changed taken asked s) (hstep : Step g isTest s s') :
    Tally g changed (taken ++ s.next) (asked ++ s.asks) s' := by
  cases hstep with
  | @drop found callee rest hseen =>
    have hsteps : found.steps = taken.length := h.steps
    have hasks : Stage.asks ⟨found, callee :: rest⟩ = [] := by simp [Stage.asks, Stage.next, hseen]
    rw [hasks, List.append_nil]
    exact {
      seen := h.seen
      steps := by simp [Stage.next, hsteps]
      once := h.once
      -- The item goes from the queue to those taken, and the sum is as it was.
      balance := by simpa [Stage.next] using h.balance }
  | @expand found callee rest met hseen hmet =>
    have hsteps : found.steps = taken.length := h.steps
    have hasked : found.seen = asked.reverse := h.seen
    have hasks : Stage.asks ⟨found, callee :: rest⟩ = [callee] := by
      simp [Stage.asks, Stage.next, hseen]
    have hnew : callee ∉ asked := by
      intro hmem
      apply hseen
      rw [hasked]
      exact List.mem_reverse.mpr hmem
    rw [hasks]
    exact {
      seen := by simp [hasked]
      steps := by simp [Stage.next, hsteps]
      once := (List.perm_append_singleton callee asked).nodup_iff.mpr
        (List.nodup_cons.mpr ⟨hnew, h.once⟩)
      -- The callers that are met join the queue, and so those of the functions asked for.
      balance := by
        calc taken ++ [callee] ++ (rest ++ met)
            = (taken ++ callee :: rest) ++ met := by simp
          List.Perm _ ((changed ++ asked.flatMap g.callers) ++ g.callers callee) :=
            h.balance.append hmet
          _ = changed ++ (asked ++ [callee]).flatMap g.callers := by simp }

theorem Run.tally (h : Run g isTest changed taken asked s) : Tally g changed taken asked s := by
  induction h with
  | start => exact .start
  | step _ hstep ih => exact ih.step hstep

/-! ## Callers and edges -/

/-- Every edge leads to one function, so the callers of some functions and the edges to the others
make up the graph. -/
theorem length_pending_add (g : CallGraph) {fs : List String} (h : fs.Nodup) :
    (g.pending fs).length + (fs.map fun f => (g.callers f).length).sum = g.edges.length := by
  induction fs with
  | nil => simp [pending]
  | cons f fs ih =>
    obtain ⟨hf, hfs⟩ := List.nodup_cons.mp h
    have hstep := length_pending_cons g fs f hf
    rw [List.map_cons, List.sum_cons, ← ih hfs]
    omega

theorem Tally.length_eq (h : Tally g changed taken asked s) :
    taken.length + s.queue.length
      = changed.length + (asked.map fun f => (g.callers f).length).sum := by
  have hlength := h.balance.length_eq
  simpa [List.length_flatMap] using hlength

theorem Tally.length_le (h : Tally g changed taken asked s) :
    taken.length ≤ changed.length + g.stats.edges := by
  have hlength := h.length_eq
  have hedges := length_pending_add g h.once
  show taken.length ≤ changed.length + g.edges.length
  omega

/-- **Every function is expanded once.** Whatever the order in which callers are met, a walk takes
no more items off the queue than there are changed functions and edges. When the queue is empty, it
has asked for the callers of exactly the functions from which a chain of calls leads to a changed
one, the changed ones included, once for each; and it has taken off the changed functions and the
callers of the functions asked for, and nothing else. The walk in the stored order is such a run,
and counts its steps and its functions right. -/
theorem expands_once (g : CallGraph) (isTest : String → Bool) (changed : List String) :
    (∀ taken asked s, Run g isTest changed taken asked s →
      taken.length ≤ changed.length + g.stats.edges ∧
      (s.queue = [] →
        asked.Nodup ∧ (∀ f, f ∈ asked ↔ ∃ c ∈ changed, ReflTransGen (Calls g.edges) f c) ∧
        taken.Perm (changed ++ asked.flatMap g.callers) ∧
        taken.length = changed.length + (asked.map fun f => (g.callers f).length).sum)) ∧
    ∃ taken asked, Run g isTest changed taken asked ⟨g.walkFrom isTest changed, []⟩ ∧
      (g.walkFrom isTest changed).seen = asked.reverse ∧
      (g.walkFrom isTest changed).steps = taken.length := by
  refine ⟨fun taken asked s hrun => ⟨hrun.tally.length_le, fun hend => ?_⟩, ?_⟩
  · have htally := hrun.tally
    have hinvariant := Invariant.run hrun.steps
    have hseen : ∀ f, f ∈ s.found.seen ↔ f ∈ asked := by simp [htally.seen]
    have hbalance := htally.balance
    have hlength := htally.length_eq
    rw [hend, List.append_nil] at hbalance
    rw [hend, List.length_nil, Nat.add_zero] at hlength
    refine ⟨htally.once, fun f => ?_, hbalance, hlength⟩
    rw [← hseen]
    constructor
    · exact fun hf => hinvariant.reaches f (.inl hf)
    · intro hgiven
      obtain ⟨c, hc, hchain⟩ := hgiven
      exact hinvariant.mem_seen hend hc hchain
  · have hwalk : ReflTransGen (Step g isTest) (.start changed) ⟨g.walkFrom isTest changed, []⟩ :=
      walk_run _ _
    obtain ⟨taken, asked, hrun⟩ := exists_run hwalk
    exact ⟨taken, asked, hrun, hrun.tally.seen, hrun.tally.steps⟩

/-- Two ways lead to `test_c`, `x` calls itself, and it is changed twice: seven items for four
functions. -/
theorem expands_once_diamond :
    let g := ofEdges [⟨"x", "x"⟩, ⟨"a", "x"⟩, ⟨"b", "x"⟩, ⟨"test_c", "a"⟩, ⟨"test_c", "b"⟩]
    ∃ taken asked s, Run g (· = "test_c") ["x", "x"] taken asked s ∧ s.queue = [] ∧
      asked = ["x", "b", "a", "test_c"] ∧ asked.Nodup ∧ taken.length = 7 ∧ g.stats.edges = 5 := by
  intro g
  have hwalk : g.walkFrom (· = "test_c") ["x", "x"]
      = ⟨["test_c", "a", "b", "x"], ["test_c", "test_c"], 7⟩ := by
    simp [g, walkFrom, walk, ofEdges, add, empty, callers]
  obtain ⟨hruns, taken, asked, hrun, hseen, hsteps⟩ := expands_once g (· = "test_c") ["x", "x"]
  obtain ⟨honce, -, -, -⟩ := (hruns taken asked _ hrun).2 rfl
  rw [hwalk] at hseen hsteps
  exact ⟨taken, asked, _, hrun, rfl, (List.reverse_eq_iff.mp hseen.symm), honce, hsteps.symm, rfl⟩

end TestImpact.CallGraph
