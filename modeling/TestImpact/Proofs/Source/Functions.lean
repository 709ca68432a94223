import TestImpact.Proofs.Source.Expression
import TestImpact.Source.Node

/-
  The functions in a tree.

  Whether a tree defines a function (`Node.definesFunction`) does not depend on
  the file and the names around it: it does if and only if its outline has one
  (`functions_outline_eq_nil`). Expressions define none
  (`definesFunction_ofTree`). A statement is plain (`Node.Plain`) if the
  functions in it stand among its own statements: it is such a function itself,
  or they are in the body of a definition that it is.
-/

namespace TestImpact.Source

namespace Outline

/-- The functions of an outline: their qualified names and their lines. -/
def functions (o : Outline) : List (String × LineRange) :=
  (o.declarations.filter (·.kind = .function)).map fun d => (d.qualname, d.lines)

@[simp] theorem functions_empty : functions .empty = [] := rfl

@[simp] theorem functions_append (a b : Outline) :
    (a ++ b).functions = a.functions ++ b.functions := by
  have h : (a ++ b).declarations = a.declarations ++ b.declarations := rfl
  simp [functions, h]

/-- What a definition itself adds to the functions. -/
def ownFunction (kind : SymbolKind) (qualname : String) (lines : LineRange) :
    List (String × LineRange) :=
  if kind = .function then [(qualname, lines)] else []

theorem functions_singleton (d : Declaration) (calls : List RawCall) :
    functions ⟨[d], calls⟩ = ownFunction d.kind d.qualname d.lines := by
  by_cases h : d.kind = .function <;> simp [functions, ownFunction, h]

end Outline

namespace Node

mutual

/-- Whether a function is defined in a tree, at any depth. -/
def definesFunction : Node → Bool
  | name _ _ => false
  | member _ value _ => definesFunction value
  | call _ callee arguments => definesFunction callee || anyDefinesFunction arguments
  | definition _ _ kind _ decorators header body =>
    kind = .function || anyDefinesFunction header || anyDefinesFunction body
      || anyDefinesFunction decorators
  | other _ ps => anyDefinesFunction ps

def anyDefinesFunction : List Node → Bool
  | [] => false
  | n :: ns => definesFunction n || anyDefinesFunction ns

end

theorem anyDefinesFunction_eq_false {ns : List Node} :
    anyDefinesFunction ns = false ↔ ∀ n ∈ ns, n.definesFunction = false := by
  induction ns with
  | nil => simp [anyDefinesFunction]
  | cons n ns ih => simp [anyDefinesFunction, ih]

mutual

theorem functions_outline_eq_nil {file : String} {scope : List String} :
    ∀ {n : Node}, (outline file scope n).functions = [] ↔ n.definesFunction = false
  | .name _ _ => by simp [outline, definesFunction]
  | .member _ value _ => by
    simp only [outline, definesFunction]
    exact functions_outline_eq_nil
  | .call _ callee arguments => by
    simp [outline, definesFunction, functions_outline_eq_nil, functions_allOutlines_eq_nil]
  | .definition row last kind id decorators header body => by
    simp [outline, definesFunction, Outline.functions_singleton, Outline.ownFunction,
      functions_allOutlines_eq_nil, and_assoc]
  | .other _ ps => by
    simp only [outline, definesFunction]
    exact functions_allOutlines_eq_nil

theorem functions_allOutlines_eq_nil {file : String} {scope : List String} :
    ∀ {ns : List Node},
      (allOutlines file scope ns).functions = [] ↔ anyDefinesFunction ns = false
  | [] => by simp [allOutlines, anyDefinesFunction]
  | n :: ns => by
    simp [allOutlines, anyDefinesFunction, functions_outline_eq_nil, functions_allOutlines_eq_nil]

end

/-! ## Expressions -/

theorem ofTrees_eq_map (ts : List Tree) : ofTrees ts = ts.map fun t => (t.kind, ofTree t) := by
  induction ts with
  | nil => rfl
  | cons t ts ih => simp [ofTrees, ih]

theorem definesFunction_parts {n : Node} (h : n.definesFunction = false) :
    ∀ m ∈ n.parts, m.definesFunction = false := by
  cases n with
  | other row ps => exact anyDefinesFunction_eq_false.mp h
  | _ => simpa [parts] using h

theorem definesFunction_other {row : Nat} {ps : List Node}
    (h : ∀ n ∈ ps, n.definesFunction = false) : (other row ps).definesFunction = false :=
  anyDefinesFunction_eq_false.mpr h

section Parts

variable {ns : List (Kind × Node)} (hns : ∀ x ∈ ns, x.2.definesFunction = false)
include hns

theorem definesFunction_ofKinds {p : Kind → Bool} :
    ∀ n ∈ ofKinds p ns, n.definesFunction = false := by
  intro n hn
  obtain ⟨x, hx, rfl⟩ := List.mem_map.mp hn
  exact hns x (List.mem_filter.mp hx).1

theorem definesFunction_callArguments : ∀ n ∈ callArguments ns, n.definesFunction = false := by
  intro n hn
  rcases List.mem_append.mp hn with hn | hn
  · exact definesFunction_ofKinds hns n hn
  · exact definesFunction_ofKinds hns n hn

theorem definesFunction_members :
    ∀ n ∈ ns.flatMap memberKey ++ ns.flatMap memberValue, n.definesFunction = false := by
  intro n hn
  rcases List.mem_append.mp hn with hn | hn
  · obtain ⟨x, hx, hn⟩ := List.mem_flatMap.mp hn
    unfold memberKey at hn
    split at hn
    · exact definesFunction_parts (hns _ hx) n (List.mem_of_mem_take hn)
    · cases hn
  · obtain ⟨x, hx, hn⟩ := List.mem_flatMap.mp hn
    unfold memberValue at hn
    split at hn
    · exact definesFunction_parts (hns _ hx) n (List.mem_of_mem_drop hn)
    · obtain rfl := List.mem_singleton.mp hn
      exact hns _ hx

theorem definesFunction_lambdaParts : ∀ n ∈ lambdaParts ns, n.definesFunction = false := by
  intro n hn
  rcases List.mem_append.mp hn with hn | hn
  · rcases List.mem_append.mp hn with hn | hn
    · exact definesFunction_ofKinds (fun x hx => hns x ((List.dropWhile_sublist _).subset hx)) n hn
    · exact definesFunction_ofKinds (fun x hx => hns x ((List.takeWhile_sublist _).subset hx)) n hn
  · exact definesFunction_ofKinds hns n hn

theorem definesFunction_ofParts {k : Kind} {text : String} {first last : Nat}
    (hk : Tree.isDefinition k = false) :
    (ofParts k text first last ns).definesFunction = false := by
  have hnodes : ∀ n ∈ ns.map (·.2), n.definesFunction = false := by
    intro n hn
    obtain ⟨x, hx, rfl⟩ := List.mem_map.mp hn
    exact hns x hx
  have hother : (other first (ns.map (·.2))).definesFunction = false :=
    definesFunction_other hnodes
  unfold ofParts
  cases k with
  | functionDefinition | classDefinition | decoratedDefinition => cases hk
  | identifier => rfl
  | member =>
    dsimp only
    split
    · next value attr h => exact hnodes value (by simp [h])
    · exact hother
  | call =>
    dsimp only
    split
    · next callee arguments h =>
      have harguments := definesFunction_parts (hnodes arguments (by simp [h]))
      simp [definesFunction, hnodes callee (by simp [h]),
        anyDefinesFunction_eq_false.mpr harguments]
    · exact hother
  | arguments => exact definesFunction_other (definesFunction_callArguments hns)
  | group | decorator =>
    dsimp only
    split
    · next n h => exact hnodes n (by simp [h])
    · exact hother
  | conditional =>
    dsimp only
    split
    · next body test orElse h =>
      exact definesFunction_other fun n hn => hnodes n (by simp_all; tauto)
    · exact hother
  | dictionary => exact definesFunction_other (definesFunction_members hns)
  | lambda => exact definesFunction_other (definesFunction_lambdaParts hns)
  | _ => exact hother

end Parts

theorem definesFunction_ofTree {t : Tree} (h : t.Bare) : (ofTree t).definesFunction = false := by
  induction h with
  | node hkind _ ih =>
    rw [ofTree]
    refine definesFunction_ofParts (fun n hn => ?_) hkind
    rw [ofTrees_eq_map] at hn
    obtain ⟨t, ht, rfl⟩ := List.mem_map.mp hn
    exact ih t ht

theorem definesFunction_expressions {ts : List Tree} (h : ∀ t ∈ ts, t.IsExpression) :
    ∀ n ∈ ts.map ofTree, n.definesFunction = false := by
  intro n hn
  obtain ⟨t, ht, rfl⟩ := List.mem_map.mp hn
  exact definesFunction_ofTree (h t ht).bare

/-! ## Plain statements -/

/-- The functions in a statement stand among its own statements: they are in the body of a
definition that it is, or there are none. -/
inductive Plain : Node → Prop
  | definition {row last kind id decorators header body} :
    (∀ n ∈ decorators ++ header, n.definesFunction = false) →
    (∀ block ∈ body, ∀ n ∈ block.parts, Plain n) →
    Plain (.definition row last kind id decorators header body)
  | other {n : Node} : n.definesFunction = false → Plain n

theorem plain_other {row : Nat} {ps : List Node} :
    Plain (.other row ps) ↔ (Node.other row ps).definesFunction = false := by
  constructor
  · intro h
    cases h with
    | other hnone => exact hnone
  · exact .other

theorem plain_definition {row last row' : Nat} {kind : SymbolKind} {id : String}
    {decorators header body : List Node}
    (hheader : ∀ n ∈ decorators ++ header, n.definesFunction = false) :
    Plain (.definition row last kind id decorators header [.other row' body]) ↔
      ∀ n ∈ body, n.Plain := by
  constructor
  · intro h
    cases h with
    | definition _ hbody => exact hbody _ (List.mem_singleton_self _)
    | other hnone =>
      intro n hn
      have hbody : anyDefinesFunction body = false := by
        simp_all [definesFunction, anyDefinesFunction]
      exact .other (anyDefinesFunction_eq_false.mp hbody n hn)
  · intro h
    refine .definition hheader fun block hblock => ?_
    obtain rfl := List.mem_singleton.mp hblock
    exact h

end Node

end TestImpact.Source
