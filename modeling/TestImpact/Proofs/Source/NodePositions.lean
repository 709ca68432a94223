import TestImpact.Proofs.Source.Callers
import TestImpact.Proofs.Source.Position

/-
  Definitions and calls of a tree, by their positions.

  The children of a node (`Node.branches`) stand in the order in which a walk
  visits them, and each belongs to a part of its node. A position is reached
  from the root through children (`Node.at?`). On the way there are definitions:
  their names are the names around the position (`Node.namesAround`), and the
  last of them is the innermost definition (`Node.innermost?`), with the part
  of it that the position is in.

  A walk declares what stands at the position of a definition
  (`Node.declarationAt?`), and it records a call for the innermost definition
  around it, if that is a function and the call is in its decorators or its
  body (`Node.IsCallSite`).
-/

namespace TestImpact.Source.Node

def isDefinition : Node → Bool
  | definition .. => true
  | _ => false

def definedName? : Node → Option String
  | definition _ _ _ id _ _ _ => some id
  | _ => none

/-- The target of a call, if what is called has a name. -/
def target? : Node → Option String
  | call _ callee _ => unlessEmpty (callName? callee)
  | _ => none

/-- The children of a node in the order of a walk, each with its part. -/
def branches : Node → List (Part × Node)
  | name _ _ => []
  | member _ value _ => [(.inside, value)]
  | call _ callee arguments => (callee :: arguments).map (.inside, ·)
  | definition _ _ _ _ decorators header body =>
    header.map (.header, ·) ++ body.map (.body, ·) ++ decorators.map (.decorator, ·)
  | other _ ps => ps.map (.inside, ·)

/-- What a definition declares, under the names around it. -/
def declaration? (file : String) (scope : List String) : Node → Option Declaration
  | definition row last kind id decorators _ _ =>
    some ⟨⟨kind, id, Text.dotted (scope ++ [id])⟩, file, spanOf row last decorators⟩
  | _ => none

def at? : Node → Position → Option Node
  | n, [] => some n
  | n, i :: p => n.branches[i]?.bind fun b => b.2.at? p

/-- The names of the definitions around a position, outermost first. -/
def namesAround : Node → Position → List String
  | _, [] => []
  | n, i :: p =>
    n.definedName?.toList ++ (n.branches[i]?.map fun b => b.2.namesAround p).getD []

/-- The position of the innermost definition around a position, and the part of it that the
position is in. -/
def innermost? : Node → Position → Option (Position × Part)
  | _, [] => none
  | n, i :: p => n.branches[i]?.bind fun b =>
    match b.2.innermost? p with
    | some (q, part) => some (i :: q, part)
    | none => if n.isDefinition then some ([], b.1) else none

/-- What is declared at a position. -/
def declarationAt? (file : String) (scope : List String) (n : Node) (p : Position) :
    Option Declaration :=
  (n.at? p).bind (declaration? file (scope ++ n.namesAround p))

/-- A call is recorded for the function that is the innermost definition around it, if it stands
in the decorators or in the body of that function and what is called has a name. -/
structure IsCallSite (n : Node) (file : String) (scope : List String) (s : CallSite) : Prop where
  innermost : n.innermost? s.position = some (s.owner, s.part)
  part : s.part = .decorator ∨ s.part = .body
  caller : ∃ d, n.declarationAt? file scope s.owner = some d ∧ d.kind = .function ∧
    s.call.caller = d.qualname
  target : (n.at? s.position).bind target? = some s.call.target

/-! ## Induction over a tree -/

mutual

theorem forall_of_branches {motive : Node → Prop}
    (step : ∀ n, (∀ b ∈ n.branches, motive b.2) → motive n) : ∀ n : Node, motive n
  | .name _ _ => step _ nofun
  | .member _ value _ => step _ (List.forall_mem_singleton.mpr (forall_of_branches step value))
  | .call _ callee arguments => by
    refine step _ (List.forall_mem_map.mpr (List.forall_mem_cons.mpr ?_))
    exact ⟨forall_of_branches step callee, forall_mem_of_branches step arguments⟩
  | .definition _ _ _ _ decorators header body => by
    refine step _ ?_
    simp only [branches, List.forall_mem_append, List.forall_mem_map]
    exact ⟨⟨forall_mem_of_branches step header, forall_mem_of_branches step body⟩,
      forall_mem_of_branches step decorators⟩
  | .other _ ps => step _ (List.forall_mem_map.mpr (forall_mem_of_branches step ps))

theorem forall_mem_of_branches {motive : Node → Prop}
    (step : ∀ n, (∀ b ∈ n.branches, motive b.2) → motive n) :
    ∀ ns : List Node, ∀ n ∈ ns, motive n
  | [] => nofun
  | n :: ns => List.forall_mem_cons.mpr ⟨forall_of_branches step n, forall_mem_of_branches step ns⟩

end

/-! ## One node and its children -/

theorem allCalls_eq (ns : List Node) : allCalls ns = ns.flatMap calls := by
  induction ns with
  | nil => rfl
  | cons n ns ih => rw [allCalls, ih, List.flatMap_cons]

theorem declarations_allOutlines (file : String) (scope : List String) (ns : List Node) :
    (allOutlines file scope ns).declarations
      = ns.flatMap fun n => (outline file scope n).declarations := by
  induction ns with
  | nil => rfl
  | cons n ns ih =>
    rw [List.flatMap_cons, ← ih]
    rfl

theorem calls_allOutlines (file : String) (scope : List String) (ns : List Node) :
    (allOutlines file scope ns).calls = ns.flatMap fun n => (outline file scope n).calls := by
  induction ns with
  | nil => rfl
  | cons n ns ih =>
    rw [List.flatMap_cons, ← ih]
    rfl

def partCalls (n : Node) (part : Part) : List String :=
  n.branches.flatMap fun b => if b.1 = part then calls b.2 else []

/-- The qualified name of a function, under the names around it. -/
def function? (scope : List String) : Node → Option String
  | definition _ _ .function id _ _ _ => some (Text.dotted (scope ++ [id]))
  | _ => none

/-- The calls that count for a node itself, if it is a function. -/
def ownCalls (scope : List String) (n : Node) : List RawCall :=
  match n.function? scope with
  | some q => (n.partCalls .decorator ++ n.partCalls .body).map fun t => ⟨q, t⟩
  | none => []

theorem calls_eq (n : Node) : calls n =
    if n.isDefinition then [] else n.target?.toList ++ n.branches.flatMap fun b => calls b.2 := by
  cases n with
  | name => rfl
  | member => simp [calls, isDefinition, target?, branches]
  | call =>
    simp [calls, isDefinition, target?, branches, allCalls_eq, List.flatMap_map]
  | definition => rfl
  | other => simp [calls, isDefinition, target?, branches, allCalls_eq, List.flatMap_map]

theorem declarations_outline (file : String) (scope : List String) (n : Node) :
    (outline file scope n).declarations = (n.declaration? file scope).toList ++
      n.branches.flatMap fun b =>
        (outline file (scope ++ n.definedName?.toList) b.2).declarations := by
  cases n with
  | name => rfl
  | member => simp [outline, declaration?, definedName?, branches]
  | call callee arguments =>
    simp [outline, declaration?, definedName?, branches, List.flatMap_map,
      declarations_allOutlines, Outline.declarations_append]
  | definition =>
    simp [outline, declaration?, definedName?, branches, List.flatMap_map,
      declarations_allOutlines, Outline.declarations_append]
  | other =>
    simp [outline, declaration?, definedName?, branches, List.flatMap_map,
      declarations_allOutlines]

theorem flatMap_ofPart (part part' : Part) (ns : List Node) :
    ((ns.map (part', ·)).flatMap fun b => if b.1 = part then calls b.2 else [])
      = if part' = part then allCalls ns else [] := by
  rw [List.flatMap_map, allCalls_eq]
  split
  · rfl
  · exact List.flatMap_eq_nil_iff.mpr fun _ _ => rfl

theorem partCalls_decorator {row last : Nat} {kind : SymbolKind} {id : String}
    {decorators header body : List Node} :
    (definition row last kind id decorators header body).partCalls .decorator
      = allCalls decorators := by
  simp [partCalls, branches, List.flatMap_append, flatMap_ofPart]

theorem partCalls_body {row last : Nat} {kind : SymbolKind} {id : String}
    {decorators header body : List Node} :
    (definition row last kind id decorators header body).partCalls .body = allCalls body := by
  simp [partCalls, branches, List.flatMap_append, flatMap_ofPart]

theorem calls_outline (file : String) (scope : List String) (n : Node) :
    (outline file scope n).calls = n.ownCalls scope ++
      n.branches.flatMap fun b => (outline file (scope ++ n.definedName?.toList) b.2).calls := by
  cases n with
  | name => rfl
  | member => simp [outline, ownCalls, function?, definedName?, branches]
  | call =>
    simp [outline, ownCalls, function?, definedName?, branches, List.flatMap_map, calls_allOutlines,
      Outline.calls_append]
  | definition row last kind =>
    cases kind with
    | function =>
      simp [outline, ownCalls, function?, definedName?, branches, List.flatMap_map,
        calls_allOutlines, Outline.calls_append, partCalls_decorator, partCalls_body]
    | classDef =>
      simp [outline, ownCalls, function?, definedName?, branches, List.flatMap_map,
        calls_allOutlines, Outline.calls_append]
  | other =>
    simp [outline, ownCalls, function?, definedName?, branches, List.flatMap_map,
      calls_allOutlines]

theorem at?_append (n : Node) (p q : Position) : n.at? (p ++ q) = (n.at? p).bind (·.at? q) := by
  induction p generalizing n with
  | nil => rfl
  | cons i p ih =>
    rw [List.cons_append, at?, at?]
    cases n.branches[i]? with
    | none => rfl
    | some b => exact ih b.2

section Cons

variable {n : Node} {file : String} {scope : List String} {i : Nat} {p : Position}

theorem at?_cons {m : Node} :
    n.at? (i :: p) = some m ↔ ∃ b, n.branches[i]? = some b ∧ b.2.at? p = some m :=
  Option.bind_eq_some_iff

theorem declarationAt?_nil : n.declarationAt? file scope [] = n.declaration? file scope := by
  rw [declarationAt?, namesAround, List.append_nil]
  rfl

theorem declarationAt?_cons {d : Declaration} :
    n.declarationAt? file scope (i :: p) = some d ↔ ∃ b, n.branches[i]? = some b ∧
      b.2.declarationAt? file (scope ++ n.definedName?.toList) p = some d := by
  simp only [declarationAt?, at?, namesAround]
  cases n.branches[i]? with
  | none => simp
  | some b => simp

/-- The innermost definition around a position below a child: one in the child, or else the node
itself. -/
theorem innermost?_cons {b : Part × Node} (hb : n.branches[i]? = some b) :
    n.innermost? (i :: p) = match b.2.innermost? p with
      | some (q, part) => some (i :: q, part)
      | none => if n.isDefinition then some ([], b.1) else none := by
  rw [innermost?, hb]
  rfl

end Cons

end TestImpact.Source.Node
