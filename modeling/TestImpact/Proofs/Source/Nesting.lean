import TestImpact.Project
import TestImpact.Proofs.ChangedFunctions
import TestImpact.Proofs.Source.Statements
import TestImpact.Proofs.Source.Walk

/-
  A change of a nested function changes the functions around it.

  In the graph of calls nothing leads from a function to one that is defined
  inside it, so what makes the outer one changed are its lines. They hold those
  of the inner one if the rows of every node of the tree hold those of its
  children. For the strict dialect it is left open whether the rows of a
  definition begin with its decorators (`Node.start`) or with the definition
  itself (`Node.row`); the second case is one of the first
  (`Node.Nested.of_row`).

    1. Rows are nested all the way down (`Node.Nested.inside`,
       `Tree.Nested.inside`), and so are the lines of what is declared
       (`Declares.lines_le`).
    2. Lines that hold others overlap what the others overlap, so a diff that
       touches the inner function touches the outer one, too
       (`enclosing_changed`).
-/

namespace TestImpact

theorem LineRange.make_ends (r : LineRange) : LineRange.make r.first r.last = .ok r := by
  have := r.one_le_first
  have := r.first_le_last
  rw [LineRange.make, dif_neg (by omega), dif_neg (by omega)]

theorem FunctionDecl.touchedBy_of_contains {inner outer : FunctionDecl} {diff : Diff}
    (hfile : inner.file = outer.file)
    (hlines : ∀ line, inner.lines.contains line = true → outer.lines.contains line = true)
    (h : inner.touchedBy diff = true) : outer.touchedBy diff = true := by
  obtain ⟨d, hd, line, hchanged, hline⟩ := touchedBy_iff.mp h
  exact touchedBy_iff.mpr ⟨d, hfile ▸ hd, line, hchanged, hlines line hline⟩

namespace Source

/-- The lines of a definition as those of a function. -/
def Declaration.function (d : Declaration) : FunctionDecl := ⟨d.qualname, d.file, d.lines⟩

/-- What is found at a position encloses what is found below it. -/
def Found.Encloses {β : Type} (s t : Found β) : Prop :=
  s.position <+: t.position ∧ s.position ≠ t.position

/-! ## Nested rows -/

namespace Node

/-- The first row of a node; those of decorators count. -/
def start : Node → Nat
  | definition row _ _ _ decorators _ _ => decorators.foldl (fun r d => min r d.row) row
  | n => n.row

/-- The last row of a node, if the node keeps it. -/
def last? : Node → Option Nat
  | definition _ last _ _ _ _ _ => some last
  | _ => none

/-- The rows of every node, from the one that `first` gives to a last one, hold those of its
children. Only definitions keep their last row; for the other nodes there must be one. -/
inductive Nested (first : Node → Nat) : Node → Nat → Prop
  | intro {n : Node} {last : Nat} (lasts : Nat → Nat) : first n ≤ last →
    (∀ e, n.last? = some e → e = last) →
    (∀ i b, n.branches[i]? = some b → first n ≤ first b.2 ∧ lasts i ≤ last) →
    (∀ i b, n.branches[i]? = some b → Nested first b.2 (lasts i)) → Nested first n last

section Nested

variable {n m : Node} {first : Node → Nat} {last : Nat} {p : Position}

theorem Nested.first_le (h : n.Nested first last) : first n ≤ last := by
  cases h with
  | intro lasts hfirst => exact hfirst

/-- The rows of a node hold those of every node at a position below it. -/
theorem Nested.inside (h : n.Nested first last) (hm : n.at? p = some m) :
    ∃ l, m.Nested first l ∧ first n ≤ first m ∧ l ≤ last := by
  induction p generalizing n last with
  | nil =>
    obtain rfl := Option.some.inj hm
    exact ⟨last, h, le_rfl, le_rfl⟩
  | cons i p ih =>
    obtain ⟨b, hb, hbm⟩ := at?_cons.mp hm
    cases h with
    | intro lasts hfirst hlast hrows hchild =>
      obtain ⟨hfirst', hlast'⟩ := hrows i b hb
      obtain ⟨l, hl, hle, hle'⟩ := ih (hchild i b hb) hbm
      exact ⟨l, hl, hfirst'.trans hle, hle'.trans hlast'⟩

theorem foldl_min_row {row : Nat} {ds : List Node} (h : ∀ d ∈ ds, row ≤ d.row) :
    ds.foldl (fun r d => min r d.row) row = row := by
  induction ds with
  | nil => rfl
  | cons d ds ih =>
    obtain ⟨hd, hds⟩ := List.forall_mem_cons.mp h
    rw [List.foldl_cons, min_eq_left hd, ih hds]

theorem Nested.start_eq (h : n.Nested row last) : n.start = n.row := by
  cases n with
  | definition r e kind id decorators header body =>
    cases h with
    | intro lasts hfirst hlast hrows hchild =>
      refine foldl_min_row fun d hd => ?_
      have hbranch : (.decorator, d) ∈
          (definition r e kind id decorators header body).branches := by
        simp [branches, hd]
      obtain ⟨i, hi⟩ := List.mem_iff_getElem?.mp hbranch
      exact (hrows i _ hi).1
  | _ => rfl

/-- Rows that are nested if decorators do not count are nested if they count. -/
theorem Nested.of_row (h : n.Nested row last) : n.Nested start last := by
  -- No decorator is in front of its definition then, so both beginnings are the same.
  induction h with
  | @intro n last lasts hfirst hlast hrows hchild ih =>
    have hstart : n.start = n.row := (Nested.intro lasts hfirst hlast hrows hchild).start_eq
    refine .intro lasts (by rw [hstart]; exact hfirst) hlast (fun i b hb => ?_) ih
    rw [hstart, (hchild i b hb).start_eq]
    exact hrows i b hb

theorem Nested.lines {file : String} {scope : List String} {d : Declaration}
    (h : n.Nested start last) (hd : n.declaration? file scope = some d) :
    d.lines.first = n.start + 1 ∧ d.lines.last = last + 1 := by
  have hle := h.first_le
  cases n with
  | definition r e kind id decorators header body =>
    cases h with
    | intro lasts hfirst hlast =>
      obtain rfl := hlast e rfl
      cases hd
      refine ⟨rfl, ?_⟩
      simp only [start] at hle
      simp [spanOf, max_eq_left hle]
  | _ => cases hd

end Nested

end Node

namespace Tree

/-- The rows of every node, from its first to its last, hold those of the children. -/
inductive Nested : Tree → Prop
  | intro {t : Tree} : t.first ≤ t.last →
    (∀ c ∈ t.children, t.first ≤ c.first ∧ c.last ≤ t.last) → (∀ c ∈ t.children, Nested c) →
    Nested t

variable {t u : Tree} {p : Position}

theorem Nested.inside (h : t.Nested) (hu : t.at? p = some u) :
    u.Nested ∧ t.first ≤ u.first ∧ u.last ≤ t.last := by
  induction p generalizing t with
  | nil =>
    obtain rfl := Option.some.inj hu
    exact ⟨h, le_rfl, le_rfl⟩
  | cons i p ih =>
    obtain ⟨c, hc, hcu⟩ := at?_cons.mp hu
    cases h with
    | intro hle hrows hchild =>
      have hmem := List.mem_of_getElem? hc
      obtain ⟨hnested, hfirst, hlast⟩ := ih (hchild c hmem) hcu
      exact ⟨hnested, (hrows c hmem).1.trans hfirst, hlast.trans (hrows c hmem).2⟩

theorem Nested.lines (h : t.Nested) : t.lines.first = t.first + 1 ∧ t.lines.last = t.last + 1 := by
  cases h with
  | intro hle => simp [Tree.lines, LineRange.ofRows, hle]

/-- A definition is its statement or a child of it, so what is above the definition, but not the
definition itself, is not below the statement. -/
theorem Finds.prefix_statement {root : Tree} {names : List String} {p q r : Position}
    {d : Definition} (hd : root.Finds names p d) (h : q ++ r <+: p ++ d.position)
    (hne : q ++ r ≠ p ++ d.position) : q <+: p := by
  have hshort : d.position.length ≤ 1 := by
    obtain ⟨-, -, -, hposition | ⟨-, i, hposition⟩⟩ := definition?_eq_some hd.definition?
    · rw [hposition]
      exact Nat.zero_le 1
    · rw [hposition]
      exact le_rfl
  -- Two ways down to the definition; the one to its statement lacks one step at most.
  have hlt : (q ++ r).length < (p ++ d.position).length :=
    lt_of_le_of_ne h.length_le fun heq => hne (h.eq_of_length heq)
  rw [List.length_append, List.length_append] at hlt
  exact List.prefix_of_prefix_length_le ((List.prefix_append q r).trans h)
    (List.prefix_append p _) (by omega)

end Tree

/-! ## Both dialects -/

/-- What a parser gives: a tree of one of the two dialects. -/
inductive Parsed where
  | strict (n : Node)
  | tolerant (t : Tree)

namespace Parsed

def outline (moduleName file : String) : Parsed → Outline
  | strict n => ((Visitor.start moduleName file).visit n).found
  | tolerant t => t.childrenOutline file (moduleScope moduleName)

/-- What is declared in a tree, with the position of its definition. -/
def Declares (moduleName file : String) : Parsed → Found Declaration → Prop
  | strict n, s => n.declarationAt? file (moduleScope moduleName) s.position = some s.value
  | tolerant t, s => t.IsDeclared file (moduleScope moduleName) s

/-- The first and the last line from which the range of a definition at a position is made. -/
inductive Bounds : Parsed → Position → Int → Int → Prop
  | strict {n m : Node} {p : Position} {last : Nat} : n.at? p = some m → m.last? = some last →
    Bounds (.strict n) p (m.start + 1) (max last m.start + 1)
  | tolerant {t : Tree} {names : List String} {p : Position} {d : Tree.Definition} :
    t.Finds names p d →
    Bounds (.tolerant t) (p ++ d.position) (d.statement.first + 1) (d.statement.last + 1)

/-- The rows of every node hold those of its children. -/
def Nested : Parsed → Prop
  | strict n => ∃ last, n.Nested Node.row last ∨ n.Nested Node.start last
  | tolerant t => t.Nested

variable {x : Parsed} {moduleName file : String} {s t : Found Declaration}

theorem enumerates_declares (x : Parsed) (moduleName file : String) :
    Enumerates Found.Before Found.value (x.outline moduleName file).declarations
      (x.Declares moduleName file) := by
  cases x with
  | strict n =>
    rw [outline, Visitor.found_visit_start]
    exact Node.enumerates_declarations file n (moduleScope moduleName)
  | tolerant t => exact (Tree.reports_found file).enumerates t (moduleScope moduleName)

theorem Declares.file_eq (h : x.Declares moduleName file s) : s.value.file = file := by
  cases x with
  | strict n =>
    obtain ⟨m, -, hd⟩ := Option.bind_eq_some_iff.mp h
    cases m with
    | definition => rw [← Option.some.inj hd]
    | _ => cases hd
  | tolerant t =>
    obtain ⟨names, p, d, u, -, rfl, rfl⟩ := h
    rfl

theorem Declares.made (hnested : x.Nested) (h : x.Declares moduleName file s) :
    ∃ first last, x.Bounds s.position first last ∧
      LineRange.make first last = .ok s.value.lines := by
  cases x with
  | strict n =>
    obtain ⟨m, hm, hd⟩ := Option.bind_eq_some_iff.mp h
    cases m with
    | definition row last kind id decorators header body =>
      refine ⟨_, _, .strict hm rfl, ?_⟩
      rw [← Option.some.inj hd]
      exact LineRange.make_ends (Node.spanOf row last decorators)
    | _ => cases hd
  | tolerant t =>
    obtain ⟨names, p, d, _, hd, rfl, rfl⟩ := h
    refine ⟨_, _, .tolerant hd, ?_⟩
    obtain ⟨hfirst, hlast⟩ := (Tree.Nested.inside hnested hd.at?).1.lines
    rw [← hfirst, ← hlast]
    exact LineRange.make_ends _

theorem Declares.lines_le (hnested : x.Nested) (hs : x.Declares moduleName file s)
    (ht : x.Declares moduleName file t) (hst : s.Encloses t) :
    s.value.lines.first ≤ t.value.lines.first ∧ t.value.lines.last ≤ s.value.lines.last := by
  cases x with
  | strict n =>
    obtain ⟨last, hn⟩ : ∃ last, n.Nested Node.start last :=
      hnested.imp fun _ h => h.elim Node.Nested.of_row id
    obtain ⟨⟨q, hq⟩, -⟩ := hst
    obtain ⟨m, hm, hd⟩ := Option.bind_eq_some_iff.mp hs
    obtain ⟨m', hm', hd'⟩ := Option.bind_eq_some_iff.mp ht
    rw [← hq, Node.at?_append, hm, Option.bind_some] at hm'
    obtain ⟨l, hl, -, -⟩ := hn.inside hm
    obtain ⟨l', hl', hfirst, hlast⟩ := hl.inside hm'
    have := hl.lines hd
    have := hl'.lines hd'
    omega
  | tolerant t =>
    obtain ⟨names, p, d, _, hd, rfl, rfl⟩ := hs
    obtain ⟨names', p', d', _, hd', rfl, rfl⟩ := ht
    obtain ⟨q, rfl⟩ := hd'.prefix_statement hst.1 hst.2
    have hu := hd.at?
    have hu' := hd'.at?
    rw [Tree.at?_append, hu, Option.bind_some] at hu'
    have hinner := (Tree.Nested.inside hnested hu).1
    obtain ⟨hinner', hfirst, hlast⟩ := hinner.inside hu'
    have := hinner.lines
    have := hinner'.lines
    change d.statement.lines.first ≤ d'.statement.lines.first ∧
      d'.statement.lines.last ≤ d.statement.lines.last
    omega

theorem Declares.contains (hnested : x.Nested) (hs : x.Declares moduleName file s)
    (ht : x.Declares moduleName file t) (hst : s.Encloses t) (line : Int)
    (hline : t.value.lines.contains line = true) : s.value.lines.contains line = true := by
  obtain ⟨hfirst, hlast⟩ := hs.lines_le hnested ht hst
  rw [LineRange.contains_iff] at hline ⊢
  omega

theorem function_mem_functions {o : Outline} {d : Declaration} (hd : d ∈ o.declarations)
    (hkind : d.kind = .function) : d.function ∈ (Project.ofOutline o).functions :=
  List.mem_map.mpr ⟨d, List.mem_filter.mpr ⟨hd, decide_eq_true hkind⟩, rfl⟩

/-- **Changing a nested function changes everything around it.** In a tree of either dialect
whose rows are nested, the range of every definition is made without an error, and it holds the
lines of all definitions inside the definition. So for every diff, and among all declarations that
hold those of the tree, if a declaration of a nested function is touched, then each function that
encloses it is changed, too. -/
theorem enclosing_changed (x : Parsed) (hnested : x.Nested) (moduleName file : String) :
    let o := x.outline moduleName file
    Enumerates Found.Before Found.value o.declarations (x.Declares moduleName file) ∧
      (∀ s, x.Declares moduleName file s → ∃ first last, x.Bounds s.position first last ∧
        LineRange.make first last = .ok s.value.lines) ∧
      ∀ s t, x.Declares moduleName file s → x.Declares moduleName file t → s.Encloses t →
        (∀ line, t.value.lines.contains line = true → s.value.lines.contains line = true) ∧
        ∀ (diff : Diff) (decls : List FunctionDecl), (Project.ofOutline o).functions ⊆ decls →
          s.value.kind = .function → t.value.kind = .function →
          t.value.function.touchedBy diff = true →
          t.value.qualname ∈ (changedFunctions diff decls).1 ∧
            s.value.qualname ∈ (changedFunctions diff decls).1 := by
  have hlisted := enumerates_declares x moduleName file
  refine ⟨hlisted, fun s hs => hs.made hnested, fun s t hs ht hst => ?_⟩
  have hlines := hs.contains hnested ht hst
  refine ⟨hlines, fun diff decls hdecls hkind hkind' htouched => ?_⟩
  -- Both functions are among the declarations, so it is enough that each of them is touched.
  have hchanged : ∀ u, x.Declares moduleName file u → u.value.kind = .function →
      u.value.function.touchedBy diff = true →
      u.value.qualname ∈ (changedFunctions diff decls).1 := by
    intro u hu hkind htouched
    have hmem := hdecls (function_mem_functions (hlisted.value_mem hu) hkind)
    exact mem_changedFunctions.mpr ⟨u.value.function, hmem, rfl, htouched⟩
  have hfile : t.value.file = s.value.file := ht.file_eq.trans hs.file_eq.symm
  exact ⟨hchanged t ht hkind' htouched,
    hchanged s hs hkind (FunctionDecl.touchedBy_of_contains hfile hlines htouched)⟩

/-- Only the decorator of a nested function is changed, in the second line; the function around it
is changed, too. -/
theorem enclosing_changed_decorator :
    let inner := Node.definition 2 3 .function "g" [.name 1 "d"] [] [.other 3 []]
    let outer := Node.definition 0 3 .function "f" [] [] [inner]
    let inner' := Tree.node .functionDefinition (some .definition) "" 2 3
      [.node .identifier (some .name) "g" 2 2 [], .node .block (some .body) "" 3 3 []]
    let decorated := Tree.node .decoratedDefinition none "" 1 3
      [.node .decorator none "" 1 1 [], inner']
    let outer' := Tree.node .functionDefinition none "" 0 3
      [.node .identifier (some .name) "f" 0 0 [], .node .block (some .body) "" 1 3 [decorated]]
    let diff : Diff := [⟨"m.py", [⟨2, 2, by decide, by decide⟩]⟩]
    ∀ x ∈ [strict (.other 0 [outer]), tolerant (.node .other none "" 0 3 [outer'])],
      x.Nested ∧ ∀ decls : List FunctionDecl,
        (Project.ofOutline (x.outline "m" "m.py")).functions ⊆ decls →
        "m.f.g" ∈ (changedFunctions diff decls).1 ∧ "m.f" ∈ (changedFunctions diff decls).1 := by
  intro inner outer inner' decorated outer' diff
  let f : Declaration := ⟨⟨.function, "f", "m.f"⟩, "m.py", ⟨1, 4, by decide, by decide⟩⟩
  let g : Declaration := ⟨⟨.function, "g", "m.f.g"⟩, "m.py", ⟨2, 4, by decide, by decide⟩⟩
  have hstrict : (strict (.other 0 [outer])).Nested := by
    have hleaf : ∀ (m : Node) (l : Nat), m.start = l → m.last? = none → m.branches = [] →
        m.Nested Node.start l := by
      intro m l hstart hlast hbranches
      refine .intro id hstart.le (by simp [hlast]) ?_ ?_ <;> simp [hbranches]
    have hinner : inner.Nested Node.start 3 := by
      refine .intro (fun i => if i = 0 then 3 else 1) (by decide)
        (by simp [inner, Node.last?]) ?_ ?_
      · rintro (_ | _ | i) b hb <;> cases hb <;> decide
      · rintro (_ | _ | i) b hb <;> cases hb <;> exact hleaf _ _ rfl rfl rfl
    have houter : outer.Nested Node.start 3 := by
      refine .intro (fun _ => 3) (by decide) (by simp [outer, Node.last?]) ?_ ?_
      · rintro (_ | i) b hb <;> cases hb
        decide
      · rintro (_ | i) b hb <;> cases hb
        exact hinner
    refine ⟨3, .inr (.intro (fun _ => 3) (by decide) (by simp [Node.last?]) ?_ ?_)⟩
    · rintro (_ | i) b hb <;> cases hb
      decide
    · rintro (_ | i) b hb <;> cases hb
      exact houter
  have htolerant : (tolerant (.node .other none "" 0 3 [outer'])).Nested := by
    have hleaf : ∀ k l s r, (Tree.node k l s r r []).Nested :=
      fun k l s r => .intro le_rfl nofun nofun
    have hinner : inner'.Nested := .intro (by decide) (by decide)
      (List.forall_mem_cons.mpr ⟨hleaf .., List.forall_mem_singleton.mpr (hleaf ..)⟩)
    have hdecorated : decorated.Nested := .intro (by decide) (by decide)
      (List.forall_mem_cons.mpr ⟨hleaf .., List.forall_mem_singleton.mpr hinner⟩)
    have hblock : (Tree.node .block (some .body) "" 1 3 [decorated]).Nested :=
      .intro (by decide) (by decide) (List.forall_mem_singleton.mpr hdecorated)
    have houter : outer'.Nested := .intro (by decide) (by decide)
      (List.forall_mem_cons.mpr ⟨hleaf .., List.forall_mem_singleton.mpr hblock⟩)
    exact .intro (by decide) (by decide) (List.forall_mem_singleton.mpr houter)
  refine List.forall_mem_cons.mpr ⟨⟨hstrict, fun decls hdecls => ?_⟩,
    List.forall_mem_singleton.mpr ⟨htolerant, fun decls hdecls => ?_⟩⟩
  · have hf : (strict (.other 0 [outer])).Declares "m" "m.py" ⟨[0], f⟩ := by rfl
    have hg : (strict (.other 0 [outer])).Declares "m" "m.py" ⟨[0, 0], g⟩ := by rfl
    exact ((enclosing_changed _ hstrict "m" "m.py").2.2 _ _ hf hg
      ⟨List.prefix_append [0] [0], by simp⟩).2 diff decls hdecls rfl rfl (by decide)
  · let d : Tree.Definition := ⟨outer', [], outer', .function, "f"⟩
    let e : Tree.Definition := ⟨decorated, [1], inner', .function, "g"⟩
    have hd : (Tree.node .other none "" 0 3 [outer']).Finds [] [0] d := .top rfl rfl
    have he : (Tree.node .other none "" 0 3 [outer']).Finds ["f"] [0, 1, 0] e :=
      .inside (i := 0) hd rfl rfl rfl
    have hf : (tolerant (.node .other none "" 0 3 [outer'])).Declares "m" "m.py" ⟨[0], f⟩ :=
      ⟨[], [0], d, _, hd, rfl, rfl⟩
    have hg : (tolerant (.node .other none "" 0 3 [outer'])).Declares "m" "m.py"
        ⟨[0, 1, 0, 1], g⟩ := ⟨["f"], [0, 1, 0], e, _, he, rfl, rfl⟩
    exact ((enclosing_changed _ htolerant "m" "m.py").2.2 _ _ hf hg
      ⟨List.prefix_append [0] [1, 0, 1], by simp⟩).2 diff decls hdecls rfl rfl (by decide)

end Parsed

end Source

end TestImpact
