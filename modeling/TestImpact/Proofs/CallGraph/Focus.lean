import TestImpact.CallGraph.Focus
import TestImpact.Proofs.Text.Ascending
import TestImpact.Proofs.Text.Dotted

/-
  What a focus shows of a call graph.

  A focus shows all edges if it is empty or stands in no name, and else those
  with an end that has it in its name (`mem_shownEdges`). Every function comes
  from an edge, so a function in focus brings one that is shown: the functions
  shown are the ends of the edges shown, although they are put together from
  the functions in focus (`mem_shownNodes`). Both lists are ascending, so the
  set of edges and the focus tell them.
-/

namespace TestImpact

instance : IsStrictTotalOrder CallEdge (· < ·) where
  trichotomous a b hab hba := by
    obtain ⟨ha, hab⟩ := not_or.mp hab
    obtain ⟨hb, hba⟩ := not_or.mp hba
    have hcallee : a.callee = b.callee := le_antisymm (not_lt.mp hb) (not_lt.mp ha)
    have hcaller : a.caller = b.caller :=
      le_antisymm (not_lt.mp fun h => hba ⟨hcallee.symm, h⟩) (not_lt.mp fun h => hab ⟨hcallee, h⟩)
    cases a
    cases b
    simp_all
  irrefl a h := by
    rcases h with h | ⟨-, h⟩
    · exact lt_irrefl _ h
    · exact lt_irrefl _ h
  trans a b c hab hbc := by
    rcases hab with hab | ⟨hab, hab'⟩
    · rcases hbc with hbc | ⟨hbc, -⟩
      · exact .inl (hab.trans hbc)
      · exact .inl (hbc ▸ hab)
    · rcases hbc with hbc | ⟨hbc, hbc'⟩
      · exact .inl (hab ▸ hbc)
      · exact .inr ⟨hab.trans hbc, hab'.trans hbc'⟩

/-- The text stands in the name of one of the ends of the edge. -/
def CallEdge.Mentions (e : CallEdge) (focus : String) : Prop :=
  ∃ name ∈ e.ends, ∃ front back, name = front ++ focus ++ back

namespace CallGraph

/-- The focus is empty, or stands in the name of no function. -/
def ShowsAll (g : CallGraph) (focus : String) : Prop :=
  focus = "" ∨ ∀ e ∈ g.edges, ¬e.Mentions focus

variable {g h : CallGraph} {focus name : String} {e : CallEdge}

/-! ## Functions in focus -/

theorem mem_nodes : name ∈ g.nodes ↔ ∃ e ∈ g.edges, name ∈ e.ends := by
  rw [nodes, Text.mem_ascending, List.mem_flatMap]

theorem mem_inFocus :
    name ∈ g.inFocus focus ↔
      focus ≠ "" ∧ name ∈ g.nodes ∧ ∃ front back, name = front ++ focus ++ back := by
  unfold inFocus
  by_cases hempty : focus = ""
  · simp [hempty]
  · simp [hempty, Text.holds_iff]

theorem exists_inFocus (hempty : focus ≠ "") (he : e ∈ g.edges) :
    (∃ name ∈ e.ends, name ∈ g.inFocus focus) ↔ e.Mentions focus := by
  constructor
  · intro hgiven
    obtain ⟨name, hend, hfocus⟩ := hgiven
    exact ⟨name, hend, (mem_inFocus.mp hfocus).2.2⟩
  · intro hgiven
    obtain ⟨name, hend, hholds⟩ := hgiven
    exact ⟨name, hend, mem_inFocus.mpr ⟨hempty, mem_nodes.mpr ⟨e, he, hend⟩, hholds⟩⟩

theorem inFocus_eq_nil : g.inFocus focus = [] ↔ g.ShowsAll focus := by
  rw [List.eq_nil_iff_forall_not_mem]
  constructor
  · intro hnone
    refine or_iff_not_imp_left.mpr fun hempty e he hmentions => ?_
    obtain ⟨name, -, hfocus⟩ := (exists_inFocus hempty he).mpr hmentions
    exact hnone name hfocus
  · intro hall name hfocus
    obtain ⟨hempty, hnode, hholds⟩ := mem_inFocus.mp hfocus
    obtain ⟨e, he, hend⟩ := mem_nodes.mp hnode
    exact hall.resolve_left hempty e he ⟨name, hend, hholds⟩

theorem isEmpty_inFocus (hall : ¬g.ShowsAll focus) : (g.inFocus focus).isEmpty = false := by
  rw [List.isEmpty_eq_false_iff]
  exact fun hnil => hall (inFocus_eq_nil.mp hnil)

/-! ## Edges and functions that are shown -/

theorem shownEdges_of_showsAll (hall : g.ShowsAll focus) :
    g.shownEdges focus = Text.ascending g.edges := by
  rw [shownEdges, inFocus_eq_nil.mpr hall]
  rfl

theorem shownNodes_of_showsAll (hall : g.ShowsAll focus) : g.shownNodes focus = g.nodes := by
  rw [shownNodes, inFocus_eq_nil.mpr hall]
  rfl

theorem shownEdges_of_not_showsAll (hall : ¬g.ShowsAll focus) :
    g.shownEdges focus = (Text.ascending g.edges).filter fun e =>
      e.caller ∈ g.inFocus focus || e.callee ∈ g.inFocus focus := by
  simp only [shownEdges, isEmpty_inFocus hall, Bool.false_eq_true, if_false]

theorem shownNodes_of_not_showsAll (hall : ¬g.ShowsAll focus) :
    g.shownNodes focus
      = Text.ascending (g.inFocus focus ++ (g.shownEdges focus).flatMap CallEdge.ends) := by
  simp only [shownNodes, isEmpty_inFocus hall, Bool.false_eq_true, if_false]

theorem mem_shownEdges :
    e ∈ g.shownEdges focus ↔ e ∈ g.edges ∧ (g.ShowsAll focus ∨ e.Mentions focus) := by
  by_cases hall : g.ShowsAll focus
  · simp [shownEdges_of_showsAll hall, Text.mem_ascending, hall]
  · rw [shownEdges_of_not_showsAll hall, List.mem_filter, Text.mem_ascending, or_iff_right hall]
    refine and_congr_right fun he => ?_
    rw [← exists_inFocus (fun hempty => hall (.inl hempty)) he]
    simp [CallEdge.ends]

theorem pairwise_shownEdges (g : CallGraph) (focus : String) :
    (g.shownEdges focus).Pairwise (· < ·) := by
  by_cases hall : g.ShowsAll focus
  · rw [shownEdges_of_showsAll hall]
    exact Text.pairwise_ascending g.edges
  · rw [shownEdges_of_not_showsAll hall]
    exact (Text.pairwise_ascending g.edges).filter _

/-- No function is shown without an edge, and no end of an edge is left out. -/
theorem mem_shownNodes : name ∈ g.shownNodes focus ↔ ∃ e ∈ g.shownEdges focus, name ∈ e.ends := by
  by_cases hall : g.ShowsAll focus
  · rw [shownNodes_of_showsAll hall, mem_nodes, shownEdges_of_showsAll hall]
    simp only [Text.mem_ascending]
  · rw [shownNodes_of_not_showsAll hall, Text.mem_ascending, List.mem_append, List.mem_flatMap]
    -- A function in focus is an end of an edge, and this edge is shown.
    refine or_iff_right_of_imp fun hfocus => ?_
    obtain ⟨-, hnode, hholds⟩ := mem_inFocus.mp hfocus
    obtain ⟨e, he, hend⟩ := mem_nodes.mp hnode
    exact ⟨e, mem_shownEdges.mpr ⟨he, .inr ⟨name, hend, hholds⟩⟩, hend⟩

theorem pairwise_shownNodes (g : CallGraph) (focus : String) :
    (g.shownNodes focus).Pairwise (· < ·) := by
  by_cases hall : g.ShowsAll focus
  · rw [shownNodes_of_showsAll hall]
    exact Text.pairwise_ascending _
  · rw [shownNodes_of_not_showsAll hall]
    exact Text.pairwise_ascending _

/-! ## Graphs with the same edges -/

section Same

variable (hsame : ∀ e, e ∈ g.edges ↔ e ∈ h.edges)
include hsame

theorem showsAll_congr : g.ShowsAll focus ↔ h.ShowsAll focus := by
  simp only [ShowsAll, hsame]

theorem shownEdges_congr (focus : String) : g.shownEdges focus = h.shownEdges focus := by
  refine (pairwise_shownEdges g focus).eq_of_mem_iff (pairwise_shownEdges h focus) fun e => ?_
  rw [mem_shownEdges, mem_shownEdges, hsame, showsAll_congr hsame]

theorem shownNodes_congr (focus : String) : g.shownNodes focus = h.shownNodes focus := by
  refine (pairwise_shownNodes g focus).eq_of_mem_iff (pairwise_shownNodes h focus) fun name => ?_
  rw [mem_shownNodes, mem_shownNodes, shownEdges_congr hsame]

end Same

end CallGraph

end TestImpact
