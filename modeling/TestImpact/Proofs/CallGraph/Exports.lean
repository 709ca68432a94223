import TestImpact.Naming
import TestImpact.Proofs.CallGraph.Dot
import TestImpact.Proofs.CallGraph.Json

/-
  The two files of a call graph, side by side.

  Both files are made of the edges that a focus shows. In the DOT file each of
  them has a line of its own, which is the line of no other edge whatever
  characters the names have (`dotEdge_injective`); read as JSON, the other file
  gives the same edges in the same order (`read_json_focus`). What is shown is
  told by the set of edges and the focus, and so are the files
  (`exports_exact`).
-/

namespace TestImpact.CallGraph

/-! ## Lines of edges -/

/-- In an escaped text no quotation mark stands without its backslash. -/
theorem getLast?_before_quote {cs front back : List Char} (h : escaped cs = front ++ '"' :: back) :
    front.getLast? = some '\\' := by
  induction cs generalizing front with
  | nil => simp [escaped] at h
  | cons c cs ih =>
    rw [DotStatement.escaped_cons] at h
    by_cases hc : c = '"'
    · rw [if_pos hc] at h
      rcases front with _ | ⟨_, _ | ⟨_, front⟩⟩
      · simp at h
      · obtain ⟨rfl, -⟩ := List.cons.inj h
        rfl
      · obtain ⟨-, h⟩ := List.cons.inj h
        obtain ⟨-, h⟩ := List.cons.inj h
        rw [List.getLast?_cons, List.getLast?_cons, ih h]
        rfl
    · rw [if_neg hc] at h
      cases front with
      | nil => exact absurd (List.cons.inj h).1 hc
      | cons d front =>
        rw [List.getLast?_cons, ih (List.cons.inj h).2]
        rfl

theorem escaped_injective : Function.Injective escaped := by
  -- A text is read back from its escaped form, with a blank behind it.
  have hread : ∀ cs, DotStatement.tokens (some []) (escaped cs ++ [' ', '"'])
      = some [.quoted (cs ++ [' '])] := by
    intro cs
    rw [DotStatement.tokens_escaped (by simp)]
    simp [DotStatement.tokens]
  intro cs ds h
  have htokens := (hread cs).symm.trans (h ▸ hread ds)
  simpa using htokens

/-- What stands between the two names of an edge. -/
def arrow : List Char := ['"', ' ', '-', '>', ' ', '"']

/-- Two arrows share at most the quotation mark at their ends. -/
theorem arrow_before_arrow {more rest rest' : List Char} (hne : more ≠ [])
    (h : arrow ++ rest = more ++ (arrow ++ rest')) :
    (∃ back, more = arrow ++ back) ∨ rest = [' ', '-', '>', ' ', '"'] ++ rest' := by
  match more, hne, h with
  | [], hne, _ => exact absurd rfl hne
  | [_], _, h => simp [arrow] at h
  | [_, _], _, h => simp [arrow] at h
  | [_, _, _], _, h => simp [arrow] at h
  | [_, _, _, _], _, h => simp [arrow] at h
  | [_, _, _, _, _], _, h =>
    simp only [arrow, List.cons_append, List.nil_append, List.cons.injEq] at h
    obtain ⟨-, -, -, -, -, -, hrest⟩ := h
    exact .inr hrest
  | _ :: _ :: _ :: _ :: _ :: _ :: back, _, h =>
    simp only [arrow, List.cons_append, List.nil_append, List.cons.injEq] at h
    obtain ⟨rfl, rfl, rfl, rfl, rfl, rfl, -⟩ := h
    exact .inl ⟨back, rfl⟩

/-- The arrow of an edge is where the first name ends: it does not stand further on as well. -/
theorem not_lt_of_arrows {a b a' b' : List Char}
    (h : escaped a ++ arrow ++ escaped b = escaped a' ++ arrow ++ escaped b') :
    ¬(escaped a).length < (escaped a').length := by
  intro hlength
  have hcaller : escaped a <+: escaped a ++ arrow ++ escaped b :=
    ⟨arrow ++ escaped b, (List.append_assoc ..).symm⟩
  have hcaller' : escaped a' <+: escaped a ++ arrow ++ escaped b :=
    ⟨arrow ++ escaped b', by rw [h, List.append_assoc]⟩
  obtain ⟨more, hmore⟩ := List.prefix_of_prefix_length_le hcaller hcaller' hlength.le
  have hne : more ≠ [] := by
    rintro rfl
    simp [← hmore] at hlength
  have hrest : arrow ++ escaped b = more ++ (arrow ++ escaped b') := by
    rw [← hmore, List.append_assoc, List.append_assoc, List.append_assoc] at h
    exact List.append_cancel_left h
  -- A quotation mark of the arrow is preceded by a blank, in the first name or in the second one.
  rcases arrow_before_arrow hne hrest with ⟨back, rfl⟩ | hcallee
  · have hfirst : escaped a' = (escaped a ++ ['"', ' ', '-', '>', ' ']) ++ '"' :: back := by
      simp [← hmore, arrow]
    simpa using getLast?_before_quote hfirst
  · have hsecond : escaped b = [' ', '-', '>', ' '] ++ '"' :: escaped b' := hcallee
    simpa using getLast?_before_quote hsecond

theorem toList_dotEdge (e : CallEdge) :
    (dotEdge e).toList = "  \"".toList
      ++ (escaped e.caller.toList ++ arrow ++ escaped e.callee.toList) ++ "\";".toList := by
  rw [dotEdge, String.toList_append, String.toList_append, String.toList_append,
    String.toList_append, DotStatement.toList_dotName, DotStatement.toList_dotName]
  simp only [arrow, String.reduceToList, List.append_assoc, List.cons_append, List.nil_append]

/-- The line of an edge tells the edge, whatever characters the names have. -/
theorem dotEdge_injective : Function.Injective dotEdge := by
  intro e e' h
  have hline : escaped e.caller.toList ++ arrow ++ escaped e.callee.toList
      = escaped e'.caller.toList ++ arrow ++ escaped e'.callee.toList := by
    have hchars := congrArg String.toList h
    rw [toList_dotEdge, toList_dotEdge] at hchars
    exact (List.append_right_inj _).mp ((List.append_left_inj _).mp hchars)
  have hlength := Nat.le_antisymm (not_lt.mp (not_lt_of_arrows hline.symm))
    (not_lt.mp (not_lt_of_arrows hline))
  rw [List.append_assoc, List.append_assoc] at hline
  obtain ⟨hcaller, hrest⟩ := List.append_inj hline hlength
  have hcallee := List.append_cancel_left hrest
  cases e
  cases e'
  simp only [CallEdge.mk.injEq]
  exact ⟨String.toList_inj.mp (escaped_injective hcaller),
    String.toList_inj.mp (escaped_injective hcallee)⟩

/-! ## Both files -/

theorem read_json_focus (g : CallGraph) (focus : String) :
    ∃ rows : CallerRows, JsonValue.read (g.json focus)
        = some (.object (rows.map fun row => (row.1, .array (row.2.map .text)))) ∧
      (rows.map (·.1)).Nodup ∧ rows.edges = g.shownEdges focus := by
  obtain ⟨hkeys, -⟩ := pairwise_groupByCallee (pairwise_shownEdges g focus)
  exact ⟨groupByCallee (g.shownEdges focus),
    JsonValue.read_jsonObject (filled_groupByCallee (g.shownEdges focus)),
    hkeys.imp fun {_ _} hlt => ne_of_lt hlt, edges_groupByCallee (g.shownEdges focus)⟩

/-- The DOT file is told by what is shown, and by which of the functions shown are tests. -/
theorem dot_congr {g h : CallGraph} {focus : String} {isTest isTest' : String → Bool}
    (hsame : ∀ e, e ∈ g.edges ↔ e ∈ h.edges)
    (htests : ∀ name ∈ g.shownNodes focus, isTest name = isTest' name) :
    g.dot focus isTest = h.dot focus isTest' := by
  have hlines : (g.shownNodes focus).map (dotNode isTest)
      = (g.shownNodes focus).map (dotNode isTest') :=
    List.map_congr_left fun name hname => by rw [dotNode, dotNode, htests name hname]
  rw [dot, dot, hlines, shownNodes_congr hsame, shownEdges_congr hsame]

/-- **What the files of a call graph show.** The edges shown are those with an end that has the
focus in its name, or all edges if the focus is empty or stands in no name; they come ascending by
callee and then by caller, each once. The functions shown are their ends, ascending, each once. The
JSON file gives these edges when it is read, and the DOT file has a line for each of the functions
and then one for each of the edges, which is the line of no other edge. Graphs with the same edges
have the same two files, if the functions shown are tests in both or in neither. -/
theorem exports_exact (g : CallGraph) (focus : String) (isTest : String → Bool) :
    (∀ e, e ∈ g.shownEdges focus ↔ e ∈ g.edges ∧ (g.ShowsAll focus ∨ e.Mentions focus)) ∧
    ((g.shownEdges focus).Pairwise fun a b =>
      a.callee < b.callee ∨ a.callee = b.callee ∧ a.caller < b.caller) ∧
    (∀ name, name ∈ g.shownNodes focus ↔
      ∃ e ∈ g.shownEdges focus, name = e.caller ∨ name = e.callee) ∧
    (g.shownNodes focus).Pairwise (· < ·) ∧
    (∃ rows : CallerRows, JsonValue.read (g.json focus)
        = some (.object (rows.map fun row => (row.1, .array (row.2.map .text)))) ∧
      (rows.map (·.1)).Nodup ∧ rows.edges = g.shownEdges focus ∧
      g.dot focus isTest = Text.joined "\n" (["digraph TestGraph \x7b", "  rankdir=LR;"]
        ++ (g.shownNodes focus).map (dotNode isTest) ++ rows.edges.map dotEdge ++ ["\x7d"])) ∧
    Function.Injective dotEdge ∧
    ∀ (h : CallGraph) (isTest' : String → Bool), (∀ e, e ∈ g.edges ↔ e ∈ h.edges) →
      (∀ name ∈ g.shownNodes focus, isTest name = isTest' name) →
      g.dot focus isTest = h.dot focus isTest' ∧ g.json focus = h.json focus := by
  obtain ⟨rows, hread, hkeys, hedges⟩ := read_json_focus g focus
  refine ⟨fun e => mem_shownEdges, pairwise_shownEdges g focus, fun name => ?_,
    pairwise_shownNodes g focus, ⟨rows, hread, hkeys, hedges, ?_⟩, dotEdge_injective,
    fun h isTest' hsame htests => ⟨dot_congr hsame htests, ?_⟩⟩
  · simp only [mem_shownNodes, CallEdge.ends, List.mem_cons, List.not_mem_nil, or_false]
  · rw [hedges]
    rfl
  · rw [json, json, shownEdges_congr hsame]

/-- A function in focus that is only called, and one that calls itself; the second graph has the
edges in another order, and one of them twice. -/
theorem exports_reordered :
    let g := ofEdges [⟨"m.test_a", "m.f"⟩, ⟨"m.g", "m.g"⟩, ⟨"n.h", "n.k"⟩]
    let h := ofEdges [⟨"n.h", "n.k"⟩, ⟨"m.g", "m.g"⟩, ⟨"m.test_a", "m.f"⟩, ⟨"n.h", "n.k"⟩]
    let isTest := Naming.standard.isTest
    (∀ e, e ∈ g.edges ↔ e ∈ h.edges) ∧
      g.shownEdges "m." = [⟨"m.test_a", "m.f"⟩, ⟨"m.g", "m.g"⟩] ∧
      g.shownNodes "m." = ["m.f", "m.g", "m.test_a"] ∧
      g.dot "m." isTest = h.dot "m." isTest ∧ g.json "m." = h.json "m." := by
  intro g h isTest
  have hsame : ∀ e, e ∈ g.edges ↔ e ∈ h.edges := by
    intro e
    simp only [g, h, mem_ofEdges, List.mem_cons, List.not_mem_nil, or_false]
    grind
  obtain ⟨-, -, -, -, -, -, hfiles⟩ := exports_exact g "m." isTest
  exact ⟨hsame, by decide +kernel, by decide +kernel, hfiles h isTest hsame fun _ _ => rfl⟩

end TestImpact.CallGraph
