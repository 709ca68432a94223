import Mathlib.Logic.Function.Basic
import Mathlib.Logic.Relation
import TestImpact.Proofs.CallGraph.Answers

/-
  A call graph in memory, and who holds parts of it.

  In memory a graph is a table that leads from each callee to a cell, and the
  cell holds the set of its callers. An edge is added in place. Whoever asks
  for all edges gets a table of his own, with cells of its own: a snapshot,
  which he may change in any way. All that he can reach is what his snapshots
  lead to, and cells that nobody has used yet (`Tampered`).

  What is proved:
    1. `Separated.add`, `Separated.snapshot`, `Separated.tampered`: no cell of
       the graph is ever reached from a snapshot, and no two callees share a
       cell.
    2. `rows_add`, `rows_snapshot`, `rows_tampered`: what each step makes of the
       rows of the graph. Snapshots and what is done to them change nothing.
    3. `answers_of_run`: after any steps, the graph in memory and the set of
       edges that `CallGraph` keeps give the answers that the edges describe.
-/

namespace TestImpact

/-- A table in memory: callees, each with the number of the cell of its callers. -/
abbrev CellTable := List (String × Nat)

/-- Cells with sets of callers, how many are used, the table of the graph, and the tables of the
snapshots that were given out. -/
structure Memory where
  cells : Nat → List String
  used : Nat
  graph : CellTable
  snapshots : List CellTable

namespace Memory

def empty : Memory := ⟨fun _ => [], 0, [], []⟩

def read (m : Memory) (table : CellTable) : CallerRows :=
  table.map fun row => (row.1, m.cells row.2)

def write (m : Memory) (cell : Nat) (callers : List String) : Memory :=
  { m with cells := Function.update m.cells cell callers }

/-- Puts a set into a cell that nobody has used. -/
def alloc (m : Memory) (callers : List String) : Memory :=
  { m.write m.used callers with used := m.used + 1 }

/-- Adds an edge: the caller is put into the cell of the callee. A callee without a cell gets a
new one. -/
def add (m : Memory) (e : CallEdge) : Memory :=
  match m.graph.find? (·.1 = e.callee) with
  | some row => m.write row.2 ((m.cells row.2).insert e.caller)
  | none =>
    let grown : Memory := { m.alloc [] with graph := m.graph ++ [(e.callee, m.used)] }
    grown.write m.used ((grown.cells m.used).insert e.caller)

/-- Begins a new graph with the edges of a list. -/
def build (m : Memory) (edges : List CallEdge) : Memory :=
  edges.foldl add { m with graph := [] }

def copy (m : Memory) : CellTable → Memory × CellTable
  | [] => (m, [])
  | (callee, cell) :: table =>
    let (copied, rest) := (m.alloc (m.cells cell)).copy table
    (copied, (callee, m.used) :: rest)

/-- Gives out a snapshot of the graph. -/
def snapshot (m : Memory) : Memory :=
  let (copied, table) := m.copy m.graph
  { copied with snapshots := table :: copied.snapshots }

/-- The answers of the graph in memory. The rows are those of a snapshot that is given out. -/
def answers (m : Memory) : Answers where
  callers callee := ((m.graph.find? (·.1 = callee)).map fun row => m.cells row.2).getD []
  contains callee := m.graph.any (·.1 = callee)
  size := m.graph.length
  stats := ⟨m.graph.length, (m.graph.map fun row => (m.cells row.2).length).sum⟩
  rows := (m.copy m.graph).1.read (m.copy m.graph).2

/-- A snapshot leads to a cell. -/
def Shown (m : Memory) (cell : Nat) : Prop :=
  ∃ table ∈ m.snapshots, ∃ row ∈ table, row.2 = cell

/-- What whoever holds the snapshots may do: change them, and change all cells that they lead to
or that nobody has used. He has neither the table of the graph nor a way to any other cell. -/
structure Tampered (m after : Memory) : Prop where
  graph : after.graph = m.graph
  used : m.used ≤ after.used
  cells : ∀ cell < m.used, ¬m.Shown cell → after.cells cell = m.cells cell
  shown : ∀ cell, after.Shown cell → m.Shown cell ∨ (m.used ≤ cell ∧ cell < after.used)

/-- The graph has cells of its own, one for each callee. -/
structure Separated (m : Memory) : Prop where
  used : ∀ row ∈ m.graph, row.2 < m.used
  shown : ∀ cell, m.Shown cell → cell < m.used
  apart : ∀ row ∈ m.graph, ¬m.Shown row.2
  cells : (m.graph.map (·.2)).Nodup

variable {m after : Memory} {e : CallEdge} {table : CellTable}

/-! ### Reading tables -/

theorem read_congr (h : ∀ row ∈ table, after.cells row.2 = m.cells row.2) :
    after.read table = m.read table := by
  refine List.map_congr_left fun row hrow => ?_
  rw [h row hrow]

theorem cells_write_of_ne {cell other : Nat} {callers : List String} (h : other ≠ cell) :
    (m.write cell callers).cells other = m.cells other := by
  simp [write, h]

theorem read_alloc (h : ∀ row ∈ table, row.2 < m.used) (callers : List String) :
    (m.alloc callers).read table = m.read table :=
  read_congr fun row hrow => cells_write_of_ne (Nat.ne_of_lt (h row hrow))

/-- A caller that is put into the cell of a row is put into that row and into no other. -/
theorem read_write_insert (hcells : (table.map (·.2)).Nodup) {row : String × Nat}
    (hrow : table.find? (·.1 = e.callee) = some row) :
    (m.write row.2 ((m.cells row.2).insert e.caller)).read table = (m.read table).add e := by
  induction table with
  | nil => simp at hrow
  | cons first table ih =>
    obtain ⟨hfirst, hrest⟩ := List.nodup_cons.mp hcells
    by_cases hcallee : first.1 = e.callee
    · -- This row has the cell, and no later row has the same one.
      obtain rfl : first = row := by simpa [hcallee] using hrow
      have hothers : ∀ other ∈ table, other.2 ≠ first.2 := fun other hother heq =>
        hfirst (List.mem_map.mpr ⟨other, hother, heq⟩)
      have hread : (m.write first.2 ((m.cells first.2).insert e.caller)).read table
          = m.read table := read_congr fun other hother => cells_write_of_ne (hothers other hother)
      simp only [read, List.map_cons, CallerRows.add, hcallee, if_true] at hread ⊢
      rw [hread]
      simp [write]
    · have hfind : table.find? (·.1 = e.callee) = some row := by simpa [hcallee] using hrow
      have hne : first.2 ≠ row.2 := fun heq =>
        hfirst (List.mem_map.mpr ⟨row, List.mem_of_find?_eq_some hfind, heq.symm⟩)
      have hread := ih hrest hfind
      simp only [read, List.map_cons, CallerRows.add, hcallee, if_false] at hread ⊢
      rw [hread, cells_write_of_ne hne]

/-- A caller of a callee without a row gets a row of its own, behind all others. -/
theorem add_of_find?_eq_none {rows : CallerRows} (h : rows.find? (·.1 = e.callee) = none) :
    rows.add e = rows ++ [(e.callee, [e.caller])] := by
  induction rows with
  | nil => rfl
  | cons row rows ih =>
    have hne : row.1 ≠ e.callee := by
      intro heq
      simp [heq] at h
    simp only [CallerRows.add, hne, if_false, List.cons_append]
    rw [ih (by simpa [hne] using h)]

theorem find?_read (callee : String) :
    (m.read table).find? (·.1 = callee)
      = (table.find? (·.1 = callee)).map fun row => (row.1, m.cells row.2) := by
  rw [read, List.find?_map]
  rfl

/-! ### Copies -/

theorem copy_spec (h : ∀ row ∈ table, row.2 < m.used) :
    (m.copy table).1.graph = m.graph ∧ (m.copy table).1.snapshots = m.snapshots ∧
    m.used ≤ (m.copy table).1.used ∧
    (∀ cell < m.used, (m.copy table).1.cells cell = m.cells cell) ∧
    (∀ row ∈ (m.copy table).2, m.used ≤ row.2 ∧ row.2 < (m.copy table).1.used) ∧
    (m.copy table).1.read (m.copy table).2 = m.read table := by
  induction table generalizing m with
  | nil => simp [copy, read]
  | cons first table ih =>
    obtain ⟨callee, cell⟩ := first
    have hused : (m.alloc (m.cells cell)).used = m.used + 1 := rfl
    obtain ⟨hgraph, hsnapshots, hgrown, hkept, hnew, hread⟩ :=
      ih (m := m.alloc (m.cells cell)) fun row hrow =>
        Nat.lt_succ_of_lt (h row (List.mem_cons_of_mem _ hrow))
    simp only [copy]
    refine ⟨hgraph, hsnapshots, by omega, fun other hother => ?_, fun row hrow => ?_, ?_⟩
    · rw [hkept other (by omega)]
      exact cells_write_of_ne (Nat.ne_of_lt hother)
    · rcases List.mem_cons.mp hrow with rfl | hrow
      · exact ⟨Nat.le_refl _, by omega⟩
      · have := hnew row hrow
        omega
    · -- The first cell of the copy is not touched by the rest of the copying.
      have hcell : ((m.alloc (m.cells cell)).copy table).1.cells m.used = m.cells cell := by
        rw [hkept m.used (by omega)]
        simp [alloc, write]
      have hrest := hread.trans (read_alloc (fun row hrow => h row (List.mem_cons_of_mem _ hrow)) _)
      simp only [read, List.map_cons] at hrest ⊢
      rw [hrest, hcell]

/-! ### What steps do to the rows of the graph -/

theorem rows_add (h : m.Separated) (e : CallEdge) :
    (m.add e).read (m.add e).graph = (m.read m.graph).add e := by
  unfold add
  cases hfind : m.graph.find? (·.1 = e.callee) with
  | some row => exact read_write_insert h.cells hfind
  | none =>
    have hnone : (m.read m.graph).find? (·.1 = e.callee) = none := by rw [find?_read, hfind]; rfl
    have hothers : ∀ row ∈ m.graph, row.2 ≠ m.used := fun row hrow =>
      Nat.ne_of_lt (h.used row hrow)
    have hread : ((m.alloc []).write m.used [e.caller]).read m.graph = m.read m.graph :=
      read_congr fun row hrow =>
        (cells_write_of_ne (hothers row hrow)).trans (cells_write_of_ne (hothers row hrow))
    rw [add_of_find?_eq_none hnone, ← hread]
    simp [read, write, alloc]

theorem rows_snapshot (h : m.Separated) :
    m.snapshot.read m.snapshot.graph = m.read m.graph := by
  obtain ⟨hgraph, -, -, hkept, -, -⟩ := copy_spec h.used
  show (m.copy m.graph).1.read (m.copy m.graph).1.graph = m.read m.graph
  rw [hgraph]
  exact read_congr fun row hrow => hkept _ (h.used row hrow)

theorem rows_tampered (h : m.Separated) (ht : m.Tampered after) :
    after.read after.graph = m.read m.graph := by
  rw [ht.graph]
  exact read_congr fun row hrow => ht.cells _ (h.used row hrow) (h.apart row hrow)

/-! ### The graph keeps cells of its own -/

theorem Separated.empty : empty.Separated :=
  ⟨by simp [Memory.empty], by simp [Memory.empty, Shown], by simp [Memory.empty],
    by simp [Memory.empty]⟩

theorem Separated.add (h : m.Separated) (e : CallEdge) : (m.add e).Separated := by
  unfold Memory.add
  cases hfind : m.graph.find? (·.1 = e.callee) with
  | some row => exact ⟨h.used, h.shown, h.apart, h.cells⟩
  | none =>
    have hmem : ∀ row ∈ m.graph ++ [(e.callee, m.used)], row ∈ m.graph ∨ row.2 = m.used := by
      intro row hrow
      rcases List.mem_append.mp hrow with hold | hnew
      · exact .inl hold
      · exact .inr (by simp [List.mem_singleton.mp hnew])
    refine ⟨fun row hrow => ?_, fun cell hcell => Nat.lt_succ_of_lt (h.shown cell hcell),
      fun row hrow hshown => ?_, ?_⟩
    · rcases hmem row hrow with hold | hnew
      · exact Nat.lt_succ_of_lt (h.used row hold)
      · exact Nat.lt_succ_of_le (Nat.le_of_eq hnew)
    · rcases hmem row hrow with hold | hnew
      · exact h.apart row hold hshown
      · exact Nat.lt_irrefl _ (hnew ▸ h.shown _ hshown)
    · show ((m.graph ++ [(e.callee, m.used)]).map (·.2)).Nodup
      rw [List.map_append]
      refine List.Nodup.append h.cells (List.nodup_singleton _) ?_
      simp only [List.map_cons, List.map_nil, List.disjoint_singleton, List.mem_map, not_exists,
        not_and]
      exact fun row hrow heq => Nat.ne_of_lt (h.used row hrow) heq

/-- If no cell is shown but those that were and new ones, the graph keeps its cells to itself. -/
theorem Separated.of_shown (h : m.Separated) (hgraph : after.graph = m.graph)
    (hused : m.used ≤ after.used)
    (hshown : ∀ cell, after.Shown cell → m.Shown cell ∨ (m.used ≤ cell ∧ cell < after.used)) :
    after.Separated := by
  refine ⟨fun row hrow => ?_, fun cell hcell => ?_, fun row hrow hcell => ?_, hgraph ▸ h.cells⟩
  · exact Nat.lt_of_lt_of_le (h.used row (hgraph ▸ hrow)) hused
  · rcases hshown cell hcell with hold | hnew
    · exact Nat.lt_of_lt_of_le (h.shown cell hold) hused
    · exact hnew.2
  · -- A new cell is none of a row, because the rows had their cells before it was used.
    rcases hshown _ hcell with hold | hnew
    · exact h.apart row (hgraph ▸ hrow) hold
    · exact absurd (h.used row (hgraph ▸ hrow)) (Nat.not_lt.mpr hnew.1)

theorem Separated.snapshot (h : m.Separated) : m.snapshot.Separated := by
  obtain ⟨hgraph, hsnapshots, hgrown, -, hnew, -⟩ := copy_spec h.used
  refine h.of_shown hgraph hgrown fun cell hgiven => ?_
  obtain ⟨table, htable, row, hrow, rfl⟩ := hgiven
  rcases List.mem_cons.mp htable with rfl | hold
  · exact .inr (hnew row hrow)
  · exact .inl ⟨table, hsnapshots ▸ hold, row, hrow, rfl⟩

theorem Separated.tampered (h : m.Separated) (ht : m.Tampered after) : after.Separated :=
  h.of_shown ht.graph ht.used ht.shown

theorem separated_build (h : m.Separated) (edges : List CallEdge) :
    (m.build edges).Separated ∧
      (m.build edges).read (m.build edges).graph = edges.foldl CallerRows.add [] := by
  -- The rows of the fold are those it begins with, so the claim is about any beginning.
  suffices hfold : ∀ m : Memory, m.Separated →
      (edges.foldl Memory.add m).Separated ∧
      (edges.foldl Memory.add m).read (edges.foldl Memory.add m).graph
        = edges.foldl CallerRows.add (m.read m.graph) from
    hfold { m with graph := [] } ⟨by simp, h.shown, by simp, by simp⟩
  induction edges with
  | nil => exact fun m hm => ⟨hm, rfl⟩
  | cons e edges ih =>
    intro m hm
    have hrest := ih (m.add e) (hm.add e)
    rw [rows_add hm e] at hrest
    exact hrest

theorem answers_eq (h : m.Separated) : m.answers = (m.read m.graph).answers := by
  have hrows : (m.copy m.graph).1.read (m.copy m.graph).2 = m.read m.graph :=
    (copy_spec h.used).2.2.2.2.2
  have hcallers : ∀ callee, m.answers.callers callee = (m.read m.graph).callers callee := by
    intro callee
    simp only [answers, CallerRows.callers, find?_read, Option.map_map, Function.comp_def]
  have hsizes : (m.graph.map fun row => (m.cells row.2).length).sum
      = ((m.read m.graph).map (·.2.length)).sum := by
    simp [read, Function.comp_def]
  have hlength : m.graph.length = (m.read m.graph).length := by simp [read]
  have hcontains : ∀ callee, m.graph.any (·.1 = callee) = (m.read m.graph).any (·.1 = callee) := by
    intro callee
    simp [read, Function.comp_def]
  simp only [answers, CallerRows.answers, Answers.mk.injEq]
  exact ⟨funext hcallers, funext hcontains, hlength, by rw [hsizes, hlength], hrows⟩

/-! ### Graphs in use -/

open Relation

/-- A graph in use: in memory, as the set of edges that `CallGraph` keeps, and the edges that it
was given, in order and with all repetitions. -/
structure Use where
  memory : Memory
  graph : CallGraph
  given : List CallEdge

namespace Use

def start : Use := ⟨.empty, .empty, []⟩

inductive Step : Use → Use → Prop
  | add (u : Use) (e : CallEdge) : Step u ⟨u.memory.add e, u.graph.add e, u.given ++ [e]⟩
  | build (u : Use) (edges : List CallEdge) :
      Step u ⟨u.memory.build edges, .ofEdges edges, edges⟩
  | snapshot (u : Use) : Step u ⟨u.memory.snapshot, u.graph, u.given⟩
  | tamper (u : Use) {after : Memory} (h : u.memory.Tampered after) :
      Step u ⟨after, u.graph, u.given⟩

/-- What every step keeps: the graph has cells of its own, its rows are well formed, and the
edges given are those in the rows and those of the set. -/
structure Invariant (u : Use) : Prop where
  separated : u.memory.Separated
  wellFormed : (u.memory.read u.memory.graph).WellFormed
  rows : ∀ e, e ∈ (u.memory.read u.memory.graph).edges ↔ e ∈ u.given
  edges : ∀ e, e ∈ u.graph.edges ↔ e ∈ u.given

variable {u v : Use}

theorem Invariant.start : start.Invariant :=
  ⟨.empty, .nil, by simp [Use.start, Memory.empty, read, CallerRows.edges],
    by simp [Use.start, CallGraph.empty]⟩

theorem rows_foldl (edges : List CallEdge) {rows : CallerRows} (h : rows.WellFormed) :
    CallerRows.WellFormed (edges.foldl CallerRows.add rows) ∧
      ∀ e, e ∈ CallerRows.edges (edges.foldl CallerRows.add rows) ↔ e ∈ rows.edges ∨ e ∈ edges := by
  induction edges generalizing rows with
  | nil => exact ⟨h, by simp⟩
  | cons first edges ih =>
    obtain ⟨hformed, hedges⟩ := ih (h.add first)
    refine ⟨hformed, fun e => ?_⟩
    rw [List.foldl_cons, hedges, CallerRows.mem_edges_add, List.mem_cons]
    exact or_assoc.trans or_left_comm

theorem Invariant.step (h : Step u v) (hi : u.Invariant) : v.Invariant := by
  cases h with
  | add e =>
    have hrows := rows_add hi.separated e
    refine ⟨hi.separated.add e, ?_, fun f => ?_, fun f => ?_⟩
    · rw [hrows]
      exact hi.wellFormed.add e
    · rw [hrows, CallerRows.mem_edges_add, hi.rows, List.mem_append, List.mem_singleton]
      exact or_comm
    · rw [CallGraph.mem_add, hi.edges, List.mem_append, List.mem_singleton]
      exact or_comm
  | build edges =>
    obtain ⟨hseparated, hrows⟩ := separated_build hi.separated edges
    obtain ⟨hformed, hedges⟩ := rows_foldl edges CallerRows.WellFormed.nil
    refine ⟨hseparated, ?_, fun e => ?_, fun e => CallGraph.mem_ofEdges⟩
    · rw [hrows]
      exact hformed
    · rw [hrows, hedges]
      simp [CallerRows.edges]
  | snapshot =>
    have hrows := rows_snapshot hi.separated
    exact ⟨hi.separated.snapshot, hrows ▸ hi.wellFormed, hrows ▸ hi.rows, hi.edges⟩
  | tamper ht =>
    have hrows := rows_tampered hi.separated ht
    exact ⟨hi.separated.tampered ht, hrows ▸ hi.wellFormed, hrows ▸ hi.rows, hi.edges⟩

theorem Invariant.run (h : ReflTransGen Step Use.start u) : u.Invariant := by
  induction h with
  | refl => exact .start
  | tail _ hstep ih => exact ih.step hstep

theorem Invariant.describe_memory (hi : u.Invariant) : u.memory.answers.Describe u.given := by
  rw [answers_eq hi.separated]
  exact hi.wellFormed.describe hi.rows

theorem Invariant.describe_graph (hi : u.Invariant) : u.graph.answers.Describe u.given :=
  CallGraph.describe_answers hi.edges

/-- **A call graph is a set of edges.** After any additions, buildings, snapshots and changes to
snapshots, the graph in memory and the set of edges that stands for it give the answers that the
edges given so far describe. So neither the order in which edges are given nor their repetition
can be seen. Whatever is done to snapshots, the answers stay as they are. A graph that is built
from the rows of another one gives the same answers. -/
theorem answers_of_run (h : ReflTransGen Step start u) :
    u.memory.answers.Describe u.given ∧ u.graph.answers.Describe u.given ∧
    u.memory.answers.Same u.graph.answers ∧
    (∀ v, ReflTransGen Step start v → (∀ e, e ∈ u.given ↔ e ∈ v.given) →
      u.memory.answers.Same v.memory.answers ∧ u.graph.answers.Same v.graph.answers) ∧
    (∀ after, u.memory.Tampered after → after.answers = u.memory.answers) ∧
    (u.memory.build u.memory.answers.rows.edges).answers.Same u.memory.answers ∧
    (CallGraph.ofEdges u.graph.answers.rows.edges).answers.Same u.graph.answers := by
  have hi := Invariant.run h
  refine ⟨hi.describe_memory, hi.describe_graph,
    hi.describe_memory.same hi.describe_graph fun _ => Iff.rfl, fun v hv hgiven => ?_,
    fun after ht => ?_, ?_, ?_⟩
  · have hother := Invariant.run hv
    exact ⟨hi.describe_memory.same hother.describe_memory hgiven,
      hi.describe_graph.same hother.describe_graph hgiven⟩
  · rw [answers_eq hi.separated, answers_eq (hi.separated.tampered ht),
      rows_tampered hi.separated ht]
  · have hbuilt : Invariant ⟨_, _, _⟩ := hi.step (.build u u.memory.answers.rows.edges)
    refine hbuilt.describe_memory.same hi.describe_memory fun e => ?_
    rw [answers_eq hi.separated]
    exact hi.rows e
  · refine (CallGraph.describe_answers fun e => CallGraph.mem_ofEdges).same hi.describe_graph ?_
    exact fun e => CallGraph.mem_edges_callersByCallee.trans (hi.edges e)

/-- A snapshot is emptied and given another callee before a second caller is added. -/
theorem answers_of_run_tampered :
    let built : Memory := (Memory.empty.build [⟨"a", "f"⟩]).snapshot
    let after : Memory :=
      { built with cells := Function.update built.cells 1 [], snapshots := [[("g", 1)]] }
    built.snapshots = [[("f", 1)]] ∧ built.cells 1 = ["a"] ∧
      (∀ caller, caller ∈ (after.add ⟨"b", "f"⟩).answers.callers "f" ↔
        caller = "a" ∨ caller = "b") ∧
      (after.add ⟨"b", "f"⟩).answers.callers "g" = [] := by
  intro built after
  have htampered : built.Tampered after := by
    refine ⟨rfl, Nat.le_refl _, fun cell _ hcell => ?_, fun cell hcell => .inl ?_⟩
    · have hne : cell ≠ 1 := by
        rintro rfl
        exact hcell
          ⟨[("f", 1)], List.mem_singleton_self _, ("f", 1), List.mem_singleton_self _, rfl⟩
      exact Function.update_of_ne hne [] built.cells
    · obtain ⟨table, htable, row, hrow, rfl⟩ := hcell
      obtain rfl := List.mem_singleton.mp htable
      obtain rfl := List.mem_singleton.mp hrow
      exact ⟨[("f", 1)], List.mem_singleton_self _, ("f", 1), List.mem_singleton_self _, rfl⟩
  have hrun : ReflTransGen Step start
      ⟨after.add ⟨"b", "f"⟩, (CallGraph.ofEdges [⟨"a", "f"⟩]).add ⟨"b", "f"⟩,
        [⟨"a", "f"⟩, ⟨"b", "f"⟩]⟩ :=
    (((ReflTransGen.single (.build start [⟨"a", "f"⟩])).tail (.snapshot _)).tail
      (.tamper _ htampered)).tail (.add _ ⟨"b", "f"⟩)
  obtain ⟨hdescribe, -⟩ := answers_of_run hrun
  refine ⟨rfl, rfl, fun caller => ?_, ?_⟩
  · rw [hdescribe.callers]
    simp [Calls]
  · rw [List.eq_nil_iff_forall_not_mem]
    intro caller
    rw [hdescribe.callers]
    simp [Calls]

end Use

end Memory

end TestImpact
