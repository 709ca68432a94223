import Mathlib.Logic.Relation
import TestImpact.CallGraph.Affected
import TestImpact.Proofs.CallGraph.Edges
import TestImpact.Proofs.Text.Ascending

/-
  The walk finds the affected tests, all of them and no others.

  A test is affected if a chain of one or more calls leads from it down to a
  changed function (`IsAffected`). `Step` is one step of a walk that leaves
  open in which order the callers of a function are met; `walk` is one of its
  runs (`walk_run`).

  What is proved:
    1. `Step.left_succ`: each step brings the walk nearer to its end by one, so
       every walk ends, in whatever order callers are met.
    2. `Invariant.step`: a step keeps what ties queue, expanded functions and
       affected tests to the chains of calls.
    3. `affected_exact`: a walk that has ended has found exactly the affected
       tests. Tests are walked through, and a changed test is not affected by
       itself: the chain has an edge.
-/

namespace TestImpact.CallGraph

open Relation

/-- A test from which a chain of one or more calls leads down to a changed function. -/
def IsAffected (edges : List CallEdge) (isTest : String → Bool) (changed : List String)
    (t : String) : Prop :=
  isTest t = true ∧ ∃ c ∈ changed, TransGen (Calls edges) t c

/-- A walk under way: what it has found, and the functions in the queue. -/
structure Stage where
  found : Walk
  queue : List String

namespace Stage

def start (changed : List String) : Stage := ⟨⟨[], [], 0⟩, changed⟩

/-- How many steps are left if nothing in the queue is new: items that wait, and edges whose
callee is not expanded. -/
def left (g : CallGraph) (s : Stage) : Nat := s.queue.length + (g.pending s.found.seen).length

end Stage

/-- One step of a walk, with the callers of a function met in any order. -/
inductive Step (g : CallGraph) (isTest : String → Bool) : Stage → Stage → Prop
  | drop {found : Walk} {callee : String} {rest : List String} (h : callee ∈ found.seen) :
      Step g isTest ⟨found, callee :: rest⟩ ⟨{ found with steps := found.steps + 1 }, rest⟩
  | expand {found : Walk} {callee : String} {rest met : List String} (h : callee ∉ found.seen)
      (hmet : met.Perm (g.callers callee)) :
      Step g isTest ⟨found, callee :: rest⟩
        ⟨⟨callee :: found.seen, met.filter isTest ++ found.affected, found.steps + 1⟩, rest ++ met⟩

variable {g : CallGraph} {isTest : String → Bool} {changed : List String} {s s' : Stage}

/-! ## Every walk ends -/

theorem Step.left_succ (h : Step g isTest s s') : s'.left g + 1 = s.left g := by
  cases h with
  | drop h =>
    simp only [Stage.left, List.length_cons]
    omega
  | @expand found callee rest met h hmet =>
    have hpending := length_pending_cons g found.seen callee h
    have hlength := hmet.length_eq
    simp only [Stage.left, List.length_cons, List.length_append]
    omega

theorem wellFounded_step : WellFounded fun s' s => Step g isTest s s' := by
  refine Subrelation.wf ?_ (measure (Stage.left g)).wf
  intro s' s h
  have := h.left_succ
  show s'.left g < s.left g
  omega

/-- A walk can go on as long as the queue is not empty. -/
theorem exists_step (h : s.queue ≠ []) : ∃ s', Step g isTest s s' := by
  obtain ⟨found, queue⟩ := s
  cases queue with
  | nil => exact absurd rfl h
  | cons callee rest =>
    by_cases hseen : callee ∈ found.seen
    · exact ⟨_, .drop hseen⟩
    · exact ⟨_, .expand hseen (List.Perm.refl _)⟩

theorem queue_eq_nil (hstop : ∀ s', ¬Step g isTest s s') : s.queue = [] := by
  by_contra hne
  obtain ⟨s', hstep⟩ : ∃ s', Step g isTest s s' := exists_step hne
  exact hstop s' hstep

theorem walk_run (found : Walk) (queue : List String) :
    ReflTransGen (Step g isTest) ⟨found, queue⟩ ⟨g.walk isTest found queue, []⟩ := by
  fun_induction walk g isTest found queue with
  | case1 found => exact .refl
  | case2 found callee rest h ih => exact .head (.drop h) ih
  | case3 found callee rest h ih => exact .head (.expand h (List.Perm.refl _)) ih

/-! ## What every step keeps -/

/-- What holds of the stages of a walk: functions on the way are those above changed ones,
none is lost, and the tests found are the callers of the functions expanded. -/
structure Invariant (g : CallGraph) (isTest : String → Bool) (changed : List String)
    (s : Stage) : Prop where
  reaches : ∀ f, f ∈ s.found.seen ∨ f ∈ s.queue →
    ∃ c ∈ changed, ReflTransGen (Calls g.edges) f c
  starts : ∀ c ∈ changed, c ∈ s.found.seen ∨ c ∈ s.queue
  closed : ∀ callee ∈ s.found.seen, ∀ caller, Calls g.edges caller callee →
    caller ∈ s.found.seen ∨ caller ∈ s.queue
  tests : ∀ t, t ∈ s.found.affected ↔
    isTest t = true ∧ ∃ callee ∈ s.found.seen, Calls g.edges t callee

theorem Invariant.start : Invariant g isTest changed (.start changed) where
  reaches := by
    intro f hf
    rcases hf with hf | hf
    · exact absurd hf List.not_mem_nil
    · exact ⟨f, hf, .refl⟩
  starts := fun _ hc => Or.inr hc
  closed := fun _ h => absurd h List.not_mem_nil
  tests := by simp [Stage.start]

theorem Invariant.step (h : Step g isTest s s') (hi : Invariant g isTest changed s) :
    Invariant g isTest changed s' := by
  cases h with
  | @drop found callee rest hseen =>
    -- The function that leaves the queue stays known: it is among those expanded.
    have hkept : ∀ f, f ∈ found.seen ∨ f ∈ callee :: rest → f ∈ found.seen ∨ f ∈ rest := by
      intro f hf
      rcases hf with hf | hf
      · exact Or.inl hf
      · rcases List.mem_cons.mp hf with rfl | hf
        · exact Or.inl hseen
        · exact Or.inr hf
    exact {
      reaches := fun f hf => hi.reaches f (hf.imp_right (List.mem_cons_of_mem callee))
      starts := fun c hc => hkept c (hi.starts c hc)
      closed := fun f hf caller hcall => hkept caller (hi.closed f hf caller hcall)
      tests := hi.tests }
  | @expand found callee rest met hseen hmet =>
    -- In whatever order they are met, these are the callers of the function expanded.
    have hmem : ∀ f, f ∈ met ↔ Calls g.edges f callee := fun f =>
      hmet.mem_iff.trans mem_callers
    have hkept : ∀ f, f ∈ found.seen ∨ f ∈ callee :: rest →
        f ∈ callee :: found.seen ∨ f ∈ rest ++ met := by
      intro f hf
      rcases hf with hf | hf
      · exact Or.inl (List.mem_cons_of_mem callee hf)
      · rcases List.mem_cons.mp hf with rfl | hf
        · exact Or.inl List.mem_cons_self
        · exact Or.inr (List.mem_append_left met hf)
    have hcallee := hi.reaches callee (Or.inr List.mem_cons_self)
    exact {
      reaches := by
        intro f hf
        rcases hf with hf | hf
        · rcases List.mem_cons.mp hf with rfl | hf
          · exact hcallee
          · exact hi.reaches f (Or.inl hf)
        · rcases List.mem_append.mp hf with hf | hf
          · exact hi.reaches f (Or.inr (List.mem_cons_of_mem callee hf))
          · obtain ⟨c, hc, hchain⟩ := hcallee
            exact ⟨c, hc, .head ((hmem f).mp hf) hchain⟩
      starts := fun c hc => hkept c (hi.starts c hc)
      closed := by
        intro f hf caller hcall
        rcases List.mem_cons.mp hf with rfl | hf
        · exact Or.inr (List.mem_append_right rest ((hmem caller).mpr hcall))
        · exact hkept caller (hi.closed f hf caller hcall)
      tests := by
        intro t
        simp only [List.mem_append, List.mem_filter, hmem, hi.tests, List.mem_cons]
        constructor
        · intro hgiven
          rcases hgiven with ⟨hcall, htest⟩ | ⟨htest, f, hf, hcall⟩
          · exact ⟨htest, callee, Or.inl rfl, hcall⟩
          · exact ⟨htest, f, Or.inr hf, hcall⟩
        · intro hgiven
          rcases hgiven with ⟨htest, f, rfl | hf, hcall⟩
          · exact Or.inl ⟨hcall, htest⟩
          · exact Or.inr ⟨htest, f, hf, hcall⟩ }

theorem Invariant.run (h : ReflTransGen (Step g isTest) (.start changed) s) :
    Invariant g isTest changed s := by
  induction h with
  | refl => exact .start
  | tail _ hstep ih => exact ih.step hstep

/-! ## What a walk has found at its end -/

/-- Once the queue is empty, every function above a changed one is expanded. -/
theorem Invariant.mem_seen (hi : Invariant g isTest changed s) (hend : s.queue = [])
    {f c : String} (hc : c ∈ changed) (hchain : ReflTransGen (Calls g.edges) f c) :
    f ∈ s.found.seen := by
  have hnone : ∀ x, x ∉ s.queue := by simp [hend]
  -- The chain is followed from the changed function up: what calls an expanded function is
  -- expanded, because nothing waits any more.
  induction hchain using ReflTransGen.head_induction_on with
  | refl => exact (hi.starts c hc).resolve_right (hnone c)
  | head hcall _ ih => exact (hi.closed _ ih _ hcall).resolve_right (hnone _)

theorem Invariant.mem_affected (hi : Invariant g isTest changed s) (hend : s.queue = [])
    (t : String) : t ∈ s.found.affected ↔ IsAffected g.edges isTest changed t := by
  rw [hi.tests t]
  constructor
  · intro hgiven
    obtain ⟨htest, callee, hseen, hcall⟩ := hgiven
    obtain ⟨c, hc, hchain⟩ := hi.reaches callee (Or.inl hseen)
    exact ⟨htest, c, hc, .head' hcall hchain⟩
  · intro hgiven
    obtain ⟨htest, c, hc, hchain⟩ := hgiven
    obtain ⟨callee, hcall, hrest⟩ := TransGen.head'_iff.mp hchain
    exact ⟨htest, callee, hi.mem_seen hend hc hrest, hcall⟩

/-- The affected tests that are answered are those of the walk. -/
theorem mem_affected {t : String} :
    t ∈ (g.affected isTest changed).1 ↔ IsAffected g.edges isTest changed t := by
  have hi : Invariant g isTest changed ⟨g.walkFrom isTest changed, []⟩ := .run (walk_run _ _)
  exact Text.mem_ascending.trans (hi.mem_affected rfl t)

/-- In whatever order callers are met, a walk that has ended gives the one answer. -/
theorem ascending_eq_affected (hrun : ReflTransGen (Step g isTest) (.start changed) s)
    (hstop : ∀ s', ¬Step g isTest s s') :
    Text.ascending s.found.affected = (g.affected isTest changed).1 := by
  refine Text.eq_ascending (Text.pairwise_ascending _) fun t => ?_
  have hstored : Invariant g isTest changed ⟨g.walkFrom isTest changed, []⟩ := .run (walk_run _ _)
  rw [Text.mem_ascending, (Invariant.run hrun).mem_affected (queue_eq_nil hstop)]
  exact (hstored.mem_affected rfl t).symm

/-- **The walk is exact.** From any graph and any changed functions, the answer is strictly
ascending and holds the affected tests and nothing else. The order in which callers are met does
not matter: in any order every walk ends, and one that has ended has found the same tests. -/
theorem affected_exact (edges : List CallEdge) (isTest : String → Bool) (changed : List String) :
    (∀ t, t ∈ ((ofEdges edges).affected isTest changed).1 ↔ IsAffected edges isTest changed t) ∧
    ((ofEdges edges).affected isTest changed).1.Pairwise (· < ·) ∧
    (WellFounded fun s' s => Step (ofEdges edges) isTest s s') ∧
    (∀ s, ReflTransGen (Step (ofEdges edges) isTest) (.start changed) s →
      (∀ s', ¬Step (ofEdges edges) isTest s s') →
      ∀ t, t ∈ s.found.affected ↔ IsAffected edges isTest changed t) := by
  have hedges : IsAffected (ofEdges edges).edges isTest changed
      = IsAffected edges isTest changed := by
    funext t
    simp only [IsAffected, calls_ofEdges]
  refine ⟨fun t => ?_, Text.pairwise_ascending _, wellFounded_step, fun s hrun hstop t => ?_⟩
  · rw [mem_affected, hedges]
  · rw [(Invariant.run hrun).mem_affected (queue_eq_nil hstop), hedges]

/-- Two functions that call each other, the changed one a test: the chain back to it has two
edges, so it is found, in the stored order of callers as in any other. -/
theorem affected_on_cycle :
    "test_a" ∈ ((ofEdges [⟨"test_a", "f"⟩, ⟨"f", "test_a"⟩]).affected (· = "test_a") ["test_a"]).1 ∧
    ∃ s, ReflTransGen (Step (ofEdges [⟨"test_a", "f"⟩, ⟨"f", "test_a"⟩]) (· = "test_a"))
        (.start ["test_a"]) s ∧
      (∀ s', ¬Step (ofEdges [⟨"test_a", "f"⟩, ⟨"f", "test_a"⟩]) (· = "test_a") s s') ∧
      "test_a" ∈ s.found.affected := by
  have hexact := affected_exact [⟨"test_a", "f"⟩, ⟨"f", "test_a"⟩] (· = "test_a") ["test_a"]
  have hcycle :
      IsAffected [⟨"test_a", "f"⟩, ⟨"f", "test_a"⟩] (· = "test_a") ["test_a"] "test_a" := by
    refine ⟨by simp, "test_a", by simp, .tail (b := "f") (.single ?_) ?_⟩
    · simp [Calls]
    · simp [Calls]
  refine ⟨(hexact.1 _).mpr hcycle, ⟨walkFrom _ _ _, []⟩, walk_run _ _, fun s' h => ?_, ?_⟩
  · cases h
  · exact (hexact.2.2.2 _ (walk_run _ _) (fun s' h => by cases h) _).mpr hcycle

end TestImpact.CallGraph
