import TestImpact.Proofs.Source.Callers
import TestImpact.Proofs.Source.Position

/-
  Definitions and calls of a written tree, by their positions.

  A statement is a definition if it is one itself or if it is the decorated
  form of one (`Tree.definition?`). The definitions that are found are those
  among the statements of the root and of the body of a definition found before
  (`Tree.Finds`). A function has the calls in its decorators and in its body
  (`Tree.Definition.Region`) to which there is a way that enters no definition
  (`Tree.OpenCall`).
-/

namespace TestImpact.Source.Tree

def at? : Tree → Position → Option Tree
  | t, [] => some t
  | t, i :: p => t.children[i]?.bind (·.at? p)

/-- The first child with a label, and its number. -/
def field? (t : Tree) (l : Label) : Option (Nat × Tree) :=
  (t.children.findIdx? (·.label = some l)).bind fun i => t.children[i]?.map (i, ·)

/-- A definition: the statement that it is, and the position in it, the tree, the kind and the name
of the definition itself. -/
structure Definition where
  statement : Tree
  position : Position
  tree : Tree
  kind : SymbolKind
  name : String

/-- The statement without decorators, and its position in the statement. -/
def undecorated? (t : Tree) : Option (Position × Tree) :=
  if t.kind = .decoratedDefinition then (t.field? .definition).map fun x => ([x.1], x.2)
  else some ([], t)

/-- The definition that a tree is, in a statement and at a position of it, if it has a name. -/
def named? (statement : Tree) (p : Position) (t : Tree) : Option Definition :=
  match symbolKind? t.kind, textOf? .name t.children with
  | some kind, some name => some ⟨statement, p, t, kind, name⟩
  | _, _ => none

/-- The definition that a statement is, with decorators or without. -/
def definition? (t : Tree) : Option Definition :=
  t.undecorated?.bind fun x => named? t x.1 x.2

/-- A definition is found at a position, below definitions with some names: it is a statement of
the root, or of the body of a definition that is found. The position is that of the statement. -/
inductive Finds (root : Tree) : List String → Position → Definition → Prop
  | top {i : Nat} {t : Tree} {d : Definition} : root.children[i]? = some t →
    t.definition? = some d → Finds root [] [i] d
  | inside {names : List String} {p : Position} {c d : Definition} {k i : Nat} {block t : Tree} :
    Finds root names p c → c.tree.field? .body = some (k, block) →
    block.children[i]? = some t → t.definition? = some d →
    Finds root (names ++ [c.name]) (p ++ c.position ++ [k, i]) d

/-- The target of a call, if what is called has a name. -/
def target? (t : Tree) : Option String :=
  if t.kind = .call then unlessEmpty (callNameOf? .function t.children) else none

/-- A named call with no definition strictly between the root and it. -/
def OpenCall (t : Tree) (s : Found String) : Prop :=
  (t.at? s.position).bind target? = some s.value ∧
    ∀ q u, q ≠ [] → q <+: s.position → t.at? q = some u → isDefinition u.kind = false

namespace Definition

/-- The qualified name of a definition, under the names around it. -/
def qualname (d : Definition) (scope : List String) : String := Text.dotted (scope ++ [d.name])

/-- What a definition declares, under the names around it, with its position in its statement. The
lines are those of the statement. -/
def found (d : Definition) (file : String) (scope : List String) : Found Declaration :=
  ⟨d.position, ⟨⟨d.kind, d.name, d.qualname scope⟩, file, d.statement.lines⟩⟩

/-- The trees whose calls count for a function: its decorators and its body, each with its
position in the statement. -/
inductive Region (d : Definition) : Part → Position → Tree → Prop
  | decorator {i : Nat} {u : Tree} : d.statement.kind = .decoratedDefinition →
    d.statement.children[i]? = some u → u.kind = .decorator → Region d .decorator [i] u
  | body {k : Nat} {block : Tree} : d.tree.field? .body = some (k, block) →
    Region d .body (d.position ++ [k]) block

/-- A named call in a part of a definition, with no definition strictly between. -/
def PartCall (d : Definition) (part : Part) (s : Found String) : Prop :=
  ∃ r u v, d.Region part r u ∧ u.OpenCall v ∧ v.below r = s

/-- A call of a function itself: it has a named target and lies in a decorator or in the body of
the function, with no definition strictly between. The positions are those in the statement. -/
structure IsOwnSite (d : Definition) (scope : List String) (s : CallSite) : Prop where
  owner : s.owner = d.position
  function : d.kind = .function
  caller : s.call.caller = d.qualname scope
  call : d.PartCall s.part ⟨s.position, s.call.target⟩

end Definition

/-- A call is recorded for a function that is found if it is a call of that function. -/
def IsCallSite (root : Tree) (scope : List String) (s : CallSite) : Prop :=
  ∃ names p d u, root.Finds names p d ∧ d.IsOwnSite (scope ++ names) u ∧ u.below p = s

/-- What is declared: a definition that is found, at its position. -/
def IsDeclared (root : Tree) (file : String) (scope : List String) (s : Found Declaration) :
    Prop :=
  ∃ names p d u, root.Finds names p d ∧ u = d.found file (scope ++ names) ∧ u.below p = s

/-! ## Induction over a tree -/

mutual

theorem forall_of_children {motive : Tree → Prop}
    (step : ∀ t, (∀ c ∈ t.children, motive c) → motive t) : ∀ t : Tree, motive t
  | .node k l text first last children =>
    step (.node k l text first last children) (forall_mem_of_children step children)

theorem forall_mem_of_children {motive : Tree → Prop}
    (step : ∀ t, (∀ c ∈ t.children, motive c) → motive t) : ∀ ts : List Tree, ∀ t ∈ ts, motive t
  | [] => nofun
  | t :: ts =>
    List.forall_mem_cons.mpr ⟨forall_of_children step t, forall_mem_of_children step ts⟩

end

theorem at?_cons {t u : Tree} {i : Nat} {p : Position} :
    t.at? (i :: p) = some u ↔ ∃ c, t.children[i]? = some c ∧ c.at? p = some u :=
  Option.bind_eq_some_iff

theorem at?_append (t : Tree) (p q : Position) :
    t.at? (p ++ q) = (t.at? p).bind (·.at? q) := by
  induction p generalizing t with
  | nil => rfl
  | cons i p ih =>
    rw [List.cons_append, at?, at?]
    cases t.children[i]? with
    | none => rfl
    | some c => exact ih c

theorem forall_of_inside {motive : Tree → Prop}
    (step : ∀ t, (∀ p u, p ≠ [] → t.at? p = some u → motive u) → motive t) (t : Tree) :
    motive t := by
  have hall : ∀ p u, t.at? p = some u → motive u := by
    induction t using forall_of_children with
    | step t ih =>
      have hinside : ∀ p u, p ≠ [] → t.at? p = some u → motive u := by
        intro p u hp hu
        obtain ⟨i, p, rfl⟩ := List.exists_cons_of_ne_nil hp
        obtain ⟨c, hc, hcu⟩ := at?_cons.mp hu
        exact ih c (List.mem_of_getElem? hc) p u hcu
      intro p u hu
      by_cases hp : p = []
      · subst hp
        obtain rfl := Option.some.inj hu
        exact step t hinside
      · exact hinside p u hp hu
  exact hall [] t rfl

/-! ## Labelled children -/

theorem field?_eq_some {t c : Tree} {l : Label} {i : Nat} (h : t.field? l = some (i, c)) :
    t.children[i]? = some c := by
  obtain ⟨j, -, hj⟩ := Option.bind_eq_some_iff.mp h
  obtain ⟨u, hu, heq⟩ := Option.map_eq_some_iff.mp hj
  cases heq
  exact hu

theorem child?_eq (t : Tree) (l : Label) : t.child? l = (t.field? l).map (·.2) := by
  rw [child?, field?]
  induction t.children with
  | nil => rfl
  | cons c cs ih =>
    by_cases hc : c.label = some l
    · simp [List.findIdx?_cons, hc]
    · rw [List.find?_cons_of_neg (by simpa using hc), ih, List.findIdx?_cons]
      cases cs.findIdx? (·.label = some l) with
      | none => simp [hc]
      | some i => simp [hc, Function.comp_def]

/-! ## What is found in a statement -/

theorem decoratedOutline_eq (file : String) (scope : List String) (outer : Tree)
    (ts : List Tree) : decoratedOutline file scope outer ts =
      match ts.find? (·.label = some .definition) with
      | some u => definitionOutline file scope (some outer) u
      | none => .empty := by
  induction ts with
  | nil => rfl
  | cons t ts ih =>
    rw [decoratedOutline]
    by_cases ht : t.label = some .definition
    · simp [ht]
    · simp [ht, ih]

theorem bodyOutline_eq (file : String) (scope : List String) (ts : List Tree) :
    bodyOutline file scope ts =
      match ts.find? (·.label = some .body) with
      | some u => childrenOutline file scope u
      | none => .empty := by
  induction ts with
  | nil => rfl
  | cons t ts ih =>
    rw [bodyOutline]
    by_cases ht : t.label = some .body
    · simp [ht]
    · simp [ht, ih]

/-- What a definition adds to an outline by itself. -/
def Definition.ownOutline (d : Definition) (file : String) (scope : List String) : Outline :=
  Tree.ownOutline file scope d.kind d.name d.statement (d.tree.child? .body)

/-- What the statements of the body of a definition add to an outline. -/
def Definition.bodyOutline (d : Definition) (file : String) (scope : List String) : Outline :=
  match d.tree.child? .body with
  | some block => childrenOutline file (scope ++ [d.name]) block
  | none => .empty

theorem definitionOutline_undecorated {file : String} {scope : List String} {t : Tree}
    (h : t.kind ≠ .decoratedDefinition) (outer : Option Tree) (p : Position) :
    definitionOutline file scope outer t =
      match named? (outer.getD t) p t with
      | some d => d.ownOutline file scope ++ d.bodyOutline file scope
      | none => .empty := by
  obtain ⟨k, l, text, first, last, children⟩ := t
  rw [named?]
  unfold definitionOutline
  split
  · exact absurd rfl h
  · simp only [Tree.kind, Tree.children, bodyOutline_eq]
    cases symbolKind? k with
    | none => rfl
    | some kind =>
      cases textOf? .name children with
      | none => rfl
      | some name => rfl

theorem definitionOutline_eq (file : String) (scope : List String) (t : Tree) :
    definitionOutline file scope none t =
      match t.definition? with
      | some d => d.ownOutline file scope ++ d.bodyOutline file scope
      | none => .empty := by
  rw [definition?, undecorated?]
  by_cases hkind : t.kind = .decoratedDefinition
  · have hsearch : definitionOutline file scope none t =
        match t.child? .definition with
        | some u => definitionOutline file scope (some t) u
        | none => .empty := by
      obtain ⟨k, l, text, first, last, children⟩ := t
      obtain rfl : k = .decoratedDefinition := hkind
      rw [definitionOutline]
      exact decoratedOutline_eq file scope _ children
    rw [if_pos hkind, hsearch, child?_eq]
    cases t.field? .definition with
    | none => rfl
    | some x =>
      obtain ⟨i, u⟩ := x
      by_cases hu : u.kind = .decoratedDefinition
      · -- A decorated definition inside another one is not looked into.
        obtain ⟨k, l, text, first, last, children⟩ := u
        obtain rfl : k = .decoratedDefinition := hu
        rfl
      · exact definitionOutline_undecorated hu (some t) [i]
  · rw [if_neg hkind]
    exact definitionOutline_undecorated hkind none []

end TestImpact.Source.Tree
