import TestImpact.Source.Dialect

/-
  Syntax trees as they are written: every node has a kind, the text of a name
  if it is one, the rows of its first and last character, and its children in
  the order of the text. A child that plays a part in its parent carries the
  name of that part as its label.
-/

namespace TestImpact.Source

/-- What a node is. Kinds that nothing asks about are `other`. -/
inductive Kind where
  | identifier
  | member
  | subscript
  | call
  | arguments
  | keywordArgument
  | splat
  | doubleSplat
  | group
  | tuple
  | list
  | dictionary
  | pair
  | conditional
  | lambda
  | walrus
  | parameter
  | defaultParameter
  | slash
  | star
  | starParameter
  | doubleStarParameter
  | functionDefinition
  | classDefinition
  | decoratedDefinition
  | decorator
  | block
  | damaged
  | other
  deriving DecidableEq, Repr

/-- The part that a child plays in its parent. -/
inductive Label where
  | name
  | body
  | definition
  | function
  | object
  | member
  deriving DecidableEq, Repr

inductive Tree where
  | node (kind : Kind) (label : Option Label) (text : String) (first last : Nat)
      (children : List Tree)
  deriving Repr

namespace Tree

def kind : Tree → Kind
  | node k _ _ _ _ _ => k

def label : Tree → Option Label
  | node _ l _ _ _ _ => l

def text : Tree → String
  | node _ _ t _ _ _ => t

def first : Tree → Nat
  | node _ _ _ f _ _ => f

def last : Tree → Nat
  | node _ _ _ _ l _ => l

def children : Tree → List Tree
  | node _ _ _ _ _ cs => cs

def labelled (l : Label) : Tree → Tree
  | node k _ t f e cs => node k (some l) t f e cs

/-- The first child with a label. -/
def child? (t : Tree) (l : Label) : Option Tree := t.children.find? (·.label = some l)

mutual

/-- Whether a damaged place is in the tree. -/
def isDamaged : Tree → Bool
  | node k _ _ _ _ cs => k = .damaged || anyDamaged cs

def anyDamaged : List Tree → Bool
  | [] => false
  | t :: ts => isDamaged t || anyDamaged ts

end

mutual

/-- Whether something may be assigned to an expression: a name, an attribute, a subscript, or a
list of such. A star may stand before a member of a list only; `starred` tells that it may. -/
def isTarget (starred : Bool) : Tree → Bool
  | node k _ _ _ _ cs =>
    match k with
    | .identifier | .member | .subscript => true
    | .group => areTargets false cs
    | .tuple | .list => areTargets true cs
    | .splat => starred && areTargets false cs
    | _ => false

def areTargets (starred : Bool) : List Tree → Bool
  | [] => true
  | t :: ts => isTarget starred t && areTargets starred ts

end

mutual

/-- Whether an expression is a single target: a name, an attribute or a subscript, in
parentheses or not. -/
def isSingleTarget : Tree → Bool
  | node k _ _ _ _ cs =>
    match k with
    | .identifier | .member | .subscript => true
    | .group => areSingleTargets cs
    | _ => false

def areSingleTargets : List Tree → Bool
  | [] => true
  | t :: ts => isSingleTarget t && areSingleTargets ts

end

mutual

/-- Whether an expression may be deleted: a single target, or a list of such. -/
def isDeletable : Tree → Bool
  | node k _ _ _ _ cs =>
    match k with
    | .identifier | .member | .subscript => true
    | .group | .tuple | .list => areDeletable cs
    | _ => false

def areDeletable : List Tree → Bool
  | [] => true
  | t :: ts => isDeletable t && areDeletable ts

end

end Tree

end TestImpact.Source
