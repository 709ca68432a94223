import TestImpact.Source.Tree
import TestImpact.Source.Outline
import TestImpact.Text.Compatibility.Composed
import TestImpact.Text.Dotted

/-
  Syntax trees as the language means them.

  Parentheses are gone and names are in their composed form. Only names,
  attributes, calls and definitions have nodes of their own; everything else
  is a list of parts. The parts are in the order in which the language lists
  them, which is the order of the text but for five constructs: a call has its
  positional arguments before the keywords, a conditional expression its
  condition first, a dictionary all its keys before its values, a lambda the
  defaults of its keyword parameters before the other defaults, and a
  definition its decorators, its header and its body.

  `Node.outline` takes the definitions of a tree at any depth, outermost
  first. A function has the calls in its decorators and its body, save those
  inside definitions that stand there; a call of something that has no name,
  or an empty one, is left out.
-/

namespace TestImpact.Source

/-- A syntax tree; the first row of every node is kept, and the last row of definitions. -/
inductive Node where
  | name (row : Nat) (id : String)
  | member (row : Nat) (value : Node) (attr : String)
  | call (row : Nat) (callee : Node) (arguments : List Node)
  | definition (row last : Nat) (kind : SymbolKind) (name : String)
      (decorators header body : List Node)
  | other (row : Nat) (parts : List Node)
  deriving Repr

namespace Node

/-- The first row of a node; decorators do not count. -/
def row : Node → Nat
  | name r _ => r
  | member r _ _ => r
  | call r _ _ => r
  | definition r _ _ _ _ _ _ => r
  | other r _ => r

/-- The parts of a node that is a list of them. -/
def parts : Node → List Node
  | other _ ps => ps
  | n => [n]

/-! From written trees -/

def ofKinds (p : Kind → Bool) (ns : List (Kind × Node)) : List Node :=
  (ns.filter (p ·.1)).map (·.2)

/-- The arguments of a call: positional ones, then keywords. -/
def callArguments (ns : List (Kind × Node)) : List Node :=
  let isKeyword := fun k => k = Kind.keywordArgument || k = Kind.doubleSplat
  ofKinds (!isKeyword ·) ns ++ ofKinds isKeyword ns

/-- The keys of the members of a dictionary. -/
def memberKey : Kind × Node → List Node
  | (.pair, n) => n.parts.take 1
  | _ => []

/-- The values of the members of a dictionary. -/
def memberValue : Kind × Node → List Node
  | (.pair, n) => n.parts.drop 1
  | (_, n) => [n]

/-- The parts of a lambda: defaults behind a star, other defaults, body. -/
def lambdaParts (ns : List (Kind × Node)) : List Node :=
  let isOpen := fun (x : Kind × Node) => x.1 ≠ .star && x.1 ≠ .starParameter
  let defaults := ofKinds (· = .defaultParameter)
  let isParameter := fun k =>
    [Kind.parameter, .defaultParameter, .slash, .star, .starParameter,
      .doubleStarParameter].contains k
  defaults (ns.dropWhile isOpen) ++ defaults (ns.takeWhile isOpen)
    ++ ofKinds (!isParameter ·) ns

def decorate (ds : List Node) : Node → Node
  | definition r e k id old h b => definition r e k id (ds ++ old) h b
  | n => other n.row (ds ++ [n])

/-- The name that a tree gives. -/
def composedName (s : String) : String := String.ofList (Text.composed s.toList)

def nameOf : Node → String
  | name _ id => id
  | _ => ""

/-- The node of a kind over the nodes of its children. -/
def ofParts (k : Kind) (text : String) (first last : Nat) (ns : List (Kind × Node)) : Node :=
  let nodes := ns.map (·.2)
  match k with
  | .identifier => name first (composedName text)
  | .member =>
    match nodes with
    | [value, attr] => member first value attr.nameOf
    | _ => other first nodes
  | .call =>
    match nodes with
    | [callee, arguments] => call first callee arguments.parts
    | _ => other first nodes
  | .arguments => other first (callArguments ns)
  | .group | .decorator =>
    match nodes with
    | [n] => n
    | _ => other first nodes
  | .conditional =>
    match nodes with
    | [body, test, orElse] => other first [test, body, orElse]
    | _ => other first nodes
  | .dictionary => other first (ns.flatMap memberKey ++ ns.flatMap memberValue)
  | .lambda => other first (lambdaParts ns)
  | .functionDefinition =>
    definition first last .function (nodes.headD (name first "")).nameOf []
      (nodes.drop 1).dropLast (nodes.getLast?.toList)
  | .classDefinition =>
    definition first last .classDef (nodes.headD (name first "")).nameOf []
      (nodes.drop 1).dropLast (nodes.getLast?.toList)
  | .decoratedDefinition =>
    match nodes.getLast? with
    | some n => decorate nodes.dropLast n
    | none => other first nodes
  | _ => other first nodes

mutual

/-- The tree that a written tree means. -/
def ofTree : Tree → Node
  | .node k _ text first last children => ofParts k text first last (ofTrees children)

/-- The trees that written trees mean, each with the kind it was written as. -/
def ofTrees : List Tree → List (Kind × Node)
  | [] => []
  | t :: ts => (t.kind, ofTree t) :: ofTrees ts

end

/-! Calls -/

/-- The dotted name of what is called. The name of a call is that of what it calls, and an
attribute of something without a name stands alone. -/
def callName? : Node → Option String
  | name _ id => some id
  | member _ value attr =>
    match callName? value with
    | some s => some (s ++ "." ++ attr)
    | none => some attr
  | call _ callee _ => unlessEmpty (callName? callee)
  | _ => none

mutual

/-- The names of the calls in a tree, a call before those inside it; definitions are not
looked into. -/
def calls : Node → List String
  | name _ _ => []
  | member _ value _ => calls value
  | call _ callee arguments =>
    (unlessEmpty (callName? callee)).toList ++ calls callee ++ allCalls arguments
  | definition .. => []
  | other _ ps => allCalls ps

def allCalls : List Node → List String
  | [] => []
  | n :: ns => calls n ++ allCalls ns

end

/-! Definitions -/

/-- The lines of a definition: from its first row or that of a decorator, whichever comes
first, to its last. -/
def spanOf (row last : Nat) (decorators : List Node) : LineRange :=
  let first := decorators.foldl (fun r d => min r d.row) row
  ⟨first + 1, max last first + 1, by omega, by omega⟩

/-- What a definition itself adds to an outline. -/
abbrev ownOutline (file : String) (scope : List String) (row last : Nat) (kind : SymbolKind)
    (id : String) (decorators body : List Node) : Outline :=
  let qualname := Text.dotted (scope ++ [id])
  { declarations := [⟨⟨kind, id, qualname⟩, file, spanOf row last decorators⟩]
    calls := match kind with
      | .function => (allCalls decorators ++ allCalls body).map fun t => ⟨qualname, t⟩
      | .classDef => [] }

mutual

/-- The definitions and calls in a tree; `scope` holds the names around it. -/
def outline (file : String) (scope : List String) : Node → Outline
  | name _ _ => .empty
  | member _ value _ => outline file scope value
  | call _ callee arguments =>
    outline file scope callee ++ allOutlines file scope arguments
  | definition row last kind id decorators header body =>
    ownOutline file scope row last kind id decorators body
      ++ allOutlines file (scope ++ [id]) header ++ allOutlines file (scope ++ [id]) body
      ++ allOutlines file (scope ++ [id]) decorators
  | other _ ps => allOutlines file scope ps

def allOutlines (file : String) (scope : List String) : List Node → Outline
  | [] => .empty
  | n :: ns => outline file scope n ++ allOutlines file scope ns

end

end Node

end TestImpact.Source
