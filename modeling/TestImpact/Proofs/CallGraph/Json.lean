import TestImpact.Proofs.CallGraph.Answers
import TestImpact.Proofs.CallGraph.Focus
import TestImpact.Proofs.Json.Reading

/-
  The JSON file of a call graph says what the graph is.

  Ascending edges come callee by callee, so grouping runs of them gives each
  callee once, with all its callers, everything ascending
  (`groupByCallee_ascending`). Read as JSON, the file of a graph is the object
  with these rows as its members (`read_json`). So nothing of the graph is lost
  in its file, whatever characters its names have, and graphs with the same
  edges have the same file (`json_lossless`).
-/

namespace TestImpact

namespace CallGraph

/-- Every callee with its callers, both ascending. -/
def ascendingRows (g : CallGraph) : CallerRows :=
  (Text.ascending g.callees).map fun callee => (callee, Text.ascending (g.callers callee))

/-! ## Runs of edges -/

variable {g : CallGraph} {es : List CallEdge}

theorem edges_groupByCallee (es : List CallEdge) : CallerRows.edges (groupByCallee es) = es := by
  induction es with
  | nil => rfl
  | cons e rest ih =>
    unfold groupByCallee
    cases hgroups : groupByCallee rest with
    | nil =>
      rw [hgroups] at ih
      rw [← ih]
      rfl
    | cons row rows =>
      rw [hgroups] at ih
      by_cases hcallee : e.callee = row.1
      · rw [← ih]
        simp only [hcallee, if_true, CallerRows.edges, List.flatMap_cons, List.map_cons,
          List.cons_append]
        rw [← hcallee]
      · rw [← ih]
        simp [hcallee, CallerRows.edges]

theorem filled_groupByCallee (es : List CallEdge) : ∀ row ∈ groupByCallee es, row.2 ≠ [] := by
  induction es with
  | nil => simp [groupByCallee]
  | cons e rest ih =>
    unfold groupByCallee
    cases hgroups : groupByCallee rest with
    | nil => simp
    | cons row rows =>
      rw [hgroups] at ih
      by_cases hcallee : e.callee = row.1
      · simp only [hcallee, if_true, List.forall_mem_cons]
        exact ⟨List.cons_ne_nil _ _, fun other hother => ih other (List.mem_cons_of_mem row hother)⟩
      · simp only [hcallee, if_false, List.forall_mem_cons (a := (e.callee, [e.caller]))]
        exact ⟨List.cons_ne_nil _ _, ih⟩

/-- Ascending edges give ascending callees, each with ascending callers. -/
theorem pairwise_groupByCallee (h : es.Pairwise (· < ·)) :
    ((groupByCallee es).map (·.1)).Pairwise (· < ·) ∧
      ∀ row ∈ groupByCallee es, row.2.Pairwise (· < ·) := by
  induction es with
  | nil => simp [groupByCallee]
  | cons e rest ih =>
    obtain ⟨hfirst, hrest⟩ := List.pairwise_cons.mp h
    obtain ⟨hkeys, hrows⟩ := ih hrest
    have hedges := edges_groupByCallee rest
    have hfilled := filled_groupByCallee rest
    unfold groupByCallee
    cases hgroups : groupByCallee rest with
    | nil => simp
    | cons row rows =>
      rw [hgroups] at hkeys hrows hedges hfilled
      rw [List.map_cons, List.pairwise_cons] at hkeys
      have hlater : ∀ caller ∈ row.2, e < ⟨caller, row.1⟩ := fun caller hcaller =>
        hfirst _ (hedges ▸ CallerRows.mem_edges.mpr ⟨row, List.mem_cons_self, rfl, hcaller⟩)
      by_cases hcallee : e.callee = row.1
      · simp only [hcallee, if_true, List.map_cons, List.forall_mem_cons, List.pairwise_cons]
        refine ⟨hkeys, ⟨fun caller hcaller => ?_, hrows row List.mem_cons_self⟩,
          fun other hother => hrows other (List.mem_cons_of_mem row hother)⟩
        rcases hlater caller hcaller with hlt | ⟨-, hlt⟩
        · exact absurd (hcallee ▸ hlt) (lt_irrefl _)
        · exact hlt
      · -- The callee of the edge comes before the next one, and that before all others.
        have hnext : e.callee < row.1 := by
          obtain ⟨caller, more, hcallers⟩ :=
            List.exists_cons_of_ne_nil (hfilled row List.mem_cons_self)
          rcases hlater caller (by simp [hcallers]) with hlt | ⟨heq, -⟩
          · exact hlt
          · exact absurd heq hcallee
        simp only [hcallee, if_false, List.map_cons, List.pairwise_cons,
          List.forall_mem_cons (a := (e.callee, [e.caller]))]
        refine ⟨⟨fun key hkey => ?_, hkeys⟩, ⟨by simp, .nil⟩, hrows⟩
        rcases List.mem_cons.mp hkey with rfl | hkey
        · exact hnext
        · exact hnext.trans (hkeys.1 key hkey)

theorem groupByCallee_ascending (g : CallGraph) :
    groupByCallee (Text.ascending g.edges) = g.ascendingRows := by
  obtain ⟨hkeys, hrows⟩ := pairwise_groupByCallee (Text.pairwise_ascending g.edges)
  have hedges := edges_groupByCallee (Text.ascending g.edges)
  have hfilled := filled_groupByCallee (Text.ascending g.edges)
  obtain ⟨rows, hrowsEq⟩ : ∃ rows : CallerRows, groupByCallee (Text.ascending g.edges) = rows :=
    ⟨_, rfl⟩
  rw [hrowsEq] at hkeys hrows hedges hfilled ⊢
  have hformed : rows.WellFormed :=
    ⟨hkeys.imp fun {_ _} hlt => ne_of_lt hlt, hfilled,
      fun row hrow => (hrows row hrow).imp fun {_ _} hlt => ne_of_lt hlt⟩
  have hcalls : ∀ caller callee, Calls rows.edges caller callee ↔ Calls g.edges caller callee := by
    intro caller callee
    rw [Calls, hedges, Text.mem_ascending]
    rfl
  have hrow : ∀ row ∈ rows, row.2 = Text.ascending (g.callers row.1) := by
    intro row hrow
    refine Text.eq_ascending (hrows row hrow) fun caller => ?_
    rw [mem_callers, ← hcalls, ← CallerRows.mem_callers hformed,
      CallerRows.callers_of_mem hformed hrow]
  have hcallees : rows.map (·.1) = Text.ascending g.callees := by
    refine Text.eq_ascending hkeys fun callee => ?_
    have hdescribe : rows.answers.Describe g.edges := hformed.describe fun e => by
      rw [hedges, Text.mem_ascending]
    rw [mem_callees, ← callers_ne_nil]
    exact (hdescribe.mem_keys callee).trans
      (not_congr (by
        simp only [List.eq_nil_iff_forall_not_mem, hdescribe.callers, mem_callers]))
  calc rows = rows.map fun row => (row.1, Text.ascending (g.callers row.1)) := by
        refine (List.map_id rows).symm.trans (List.map_congr_left fun row hmem => ?_)
        rw [← hrow row hmem]
        rfl
    _ = (rows.map (·.1)).map fun callee => (callee, Text.ascending (g.callers callee)) := by
        rw [List.map_map]
        rfl
    _ = g.ascendingRows := by rw [hcallees, ascendingRows]

/-! ## The rows of a graph -/

theorem mem_edges_ascendingRows {e : CallEdge} :
    e ∈ CallerRows.edges g.ascendingRows ↔ e ∈ g.edges := by
  rw [← groupByCallee_ascending, edges_groupByCallee, Text.mem_ascending]

theorem wellFormed_ascendingRows (g : CallGraph) : CallerRows.WellFormed g.ascendingRows := by
  obtain ⟨hkeys, hrows⟩ := pairwise_groupByCallee (Text.pairwise_ascending g.edges)
  have hfilled := filled_groupByCallee (Text.ascending g.edges)
  rw [groupByCallee_ascending] at hkeys hrows hfilled
  exact ⟨hkeys.imp fun {_ _} hlt => ne_of_lt hlt, hfilled,
    fun row hrow => (hrows row hrow).imp fun {_ _} hlt => ne_of_lt hlt⟩

/-- They are the rows that the graph answers, in another order. -/
theorem ascendingRows_perm (g : CallGraph) :
    g.ascendingRows.Perm
      (g.callersByCallee.map fun row => (row.1, Text.ascending row.2)) := by
  have hcallees : (Text.ascending g.callees).Perm g.callees := by
    refine (List.perm_ext_iff_of_nodup ?_ (Text.nodup_distinct _)).mpr fun callee =>
      Text.mem_ascending
    exact (Text.pairwise_ascending g.callees).imp fun {_ _} hlt => ne_of_lt hlt
  have hrows : g.callersByCallee.map (fun row => (row.1, Text.ascending row.2))
      = g.callees.map fun callee => (callee, Text.ascending (g.callers callee)) := by
    rw [callersByCallee, List.map_map]
    rfl
  rw [hrows]
  exact hcallees.map _

theorem ascendingRows_inj {h : CallGraph} :
    g.ascendingRows = h.ascendingRows ↔ ∀ e, e ∈ g.edges ↔ e ∈ h.edges := by
  constructor
  · intro heq e
    rw [← mem_edges_ascendingRows, heq, mem_edges_ascendingRows]
  · intro hedges
    have hsorted : Text.ascending g.edges = Text.ascending h.edges :=
      Text.eq_ascending (Text.pairwise_ascending g.edges) fun e =>
        Text.mem_ascending.trans (hedges e)
    rw [← groupByCallee_ascending, hsorted, groupByCallee_ascending]

/-! ## The file -/

theorem json_eq (g : CallGraph) : g.json "" = jsonObject g.ascendingRows := by
  rw [json, ← groupByCallee_ascending]
  rfl

theorem read_json (g : CallGraph) :
    JsonValue.read (g.json "") = some (.object (g.ascendingRows.map JsonValue.entryMember)) := by
  rw [json_eq]
  exact JsonValue.read_jsonObject (wellFormed_ascendingRows g).filled

theorem entryMember_injective : Function.Injective JsonValue.entryMember := by
  intro row other h
  obtain ⟨hcallee, harray⟩ := Prod.mk.inj h
  have hcallers : row.2 = other.2 :=
    List.map_injective_iff.mpr (fun _ _ => JsonValue.text.inj) (JsonValue.array.inj harray)
  exact Prod.ext hcallee hcallers

/-- **The JSON file of a call graph loses nothing.** Read as JSON, the file of the whole graph is
the object that takes every callee to the array of its callers, callees and callers ascending and
each once: the rows that the graph answers. It has as many members and as many texts in its arrays
as the graph says to have callees and edges, and the graph of its edges answers as the graph does.
Two graphs have the same file if and only if they have the same edges. -/
theorem json_lossless (g : CallGraph) :
    JsonValue.read (g.json "") =
      some (.object (g.ascendingRows.map fun row => (row.1, .array (row.2.map .text)))) ∧
    g.ascendingRows.Perm (g.callersByCallee.map fun row => (row.1, Text.ascending row.2)) ∧
    (g.ascendingRows.map (·.1)).Pairwise (· < ·) ∧
    (∀ row ∈ g.ascendingRows, row.2.Pairwise (· < ·) ∧ ∀ caller, caller ∈ row.2 ↔
      caller ∈ g.callers row.1) ∧
    g.ascendingRows.length = g.stats.callees ∧
    (g.ascendingRows.map (·.2.length)).sum = g.stats.edges ∧
    (ofEdges (CallerRows.edges g.ascendingRows)).answers.Same g.answers ∧
    ∀ h : CallGraph, g.json "" = h.json "" ↔ ∀ e, e ∈ g.edges ↔ e ∈ h.edges := by
  have hdescribe := (wellFormed_ascendingRows g).describe fun e => mem_edges_ascendingRows
  have hanswers := g.describe_answers fun e => Iff.rfl
  have hsame := hdescribe.same hanswers fun e => Iff.rfl
  obtain ⟨hkeys, hrows⟩ := pairwise_groupByCallee (Text.pairwise_ascending g.edges)
  rw [groupByCallee_ascending] at hkeys hrows
  refine ⟨read_json g, ascendingRows_perm g, hkeys,
    fun row hrow => ⟨hrows row hrow, fun caller => ?_⟩, congrArg GraphStats.callees hsame.stats,
    congrArg GraphStats.edges hsame.stats, ?_, fun h => ?_⟩
  · obtain ⟨callee, -, rfl⟩ := List.mem_map.mp hrow
    exact Text.mem_ascending
  · refine (describe_answers fun e => mem_ofEdges).same hanswers fun e => ?_
    exact mem_edges_ascendingRows
  · rw [← ascendingRows_inj]
    constructor
    · intro hfile
      have hread := (read_json g).symm.trans ((congrArg JsonValue.read hfile).trans (read_json h))
      exact List.map_injective_iff.mpr entryMember_injective
        (JsonValue.object.inj (Option.some.inj hread))
    · intro hrowsEq
      rw [json_eq, json_eq, hrowsEq]

end CallGraph

end TestImpact
