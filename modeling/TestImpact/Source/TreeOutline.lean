import TestImpact.Source.Tree
import TestImpact.Source.Outline
import TestImpact.Text.Dotted

/-
  The outline of a tree as it is written.

  Definitions are looked for among the statements of the text and of the
  bodies of definitions found, not inside other statements. A function has the
  calls in its decorators and in its body, in the order of the text, save
  those inside definitions that stand there. Names are as they are written,
  what is in parentheses has no name, and a call of something that has no name,
  or an empty one, is left out.
-/

namespace TestImpact.Source.Tree

/-! Calls -/

mutual

/-- The dotted name of what is called. The name of a call is that of what it calls, and an
attribute of something without a name stands alone. -/
def callName? : Tree → Option String
  | node k _ text _ _ children =>
    match k with
    | .identifier => some text
    | .member =>
      match callNameOf? .object children, textOf? .member children with
      | some s, some a => some (s ++ "." ++ a)
      | none, some a => some a
      | some s, none => some s
      | none, none => none
    | .call => unlessEmpty (callNameOf? .function children)
    | _ => none

/-- The dotted name of the first tree with a label. -/
def callNameOf? (l : Label) : List Tree → Option String
  | [] => none
  | t :: ts => if t.label = some l then callName? t else callNameOf? l ts

def textOf? (l : Label) : List Tree → Option String
  | [] => none
  | t :: ts => if t.label = some l then some t.text else textOf? l ts

end

def isDefinition (k : Kind) : Bool :=
  k = .functionDefinition || k = .classDefinition || k = .decoratedDefinition

mutual

/-- The names of the calls in a tree, a call before those inside it; definitions below it are
not looked into. -/
def calls : Tree → List String
  | node k _ _ _ _ children =>
    (if k = .call then (unlessEmpty (callNameOf? .function children)).toList else [])
      ++ callsIn children

/-- The names of the calls in those trees that are no definitions. -/
def callsIn : List Tree → List String
  | [] => []
  | t :: ts => (if isDefinition t.kind then [] else calls t) ++ callsIn ts

end

def decoratorCalls (ts : List Tree) : List String :=
  (ts.filter (·.kind = .decorator)).flatMap calls

/-! Definitions -/

/-- The rows of a tree as lines. -/
def lines (t : Tree) : LineRange := .ofRows t.first t.last

/-- What kind of symbol a definition defines. -/
def symbolKind? : Kind → Option SymbolKind
  | .functionDefinition => some .function
  | .classDefinition => some .classDef
  | _ => none

/-- The outline of a definition itself: `outer` is the definition with its decorators. -/
def ownOutline (file : String) (scope : List String) (kind : SymbolKind) (name : String)
    (outer : Tree) (body : Option Tree) : Outline :=
  let qualname := Text.dotted (scope ++ [name])
  { declarations := [⟨⟨kind, name, qualname⟩, file, outer.lines⟩]
    calls := match kind with
      | .function =>
        ((if outer.kind = .decoratedDefinition then decoratorCalls outer.children else [])
          ++ (body.map calls).getD []).map fun t => ⟨qualname, t⟩
      | .classDef => [] }

mutual

/-- The outline of the definition that a tree is, if it is one; `outer` is the tree with its
decorators. -/
def definitionOutline (file : String) (scope : List String) (outer : Option Tree) :
    Tree → Outline
  | node k l text first last children =>
    match k with
    | .decoratedDefinition =>
      if outer.isSome then .empty
      else decoratedOutline file scope (node k l text first last children) children
    | _ =>
      match symbolKind? k, textOf? .name children with
      | some kind, some name =>
        ownOutline file scope kind name (outer.getD (node k l text first last children))
            (children.find? (·.label = some .body))
          ++ bodyOutline file (scope ++ [name]) children
      | _, _ => .empty

/-- The outline of the first of some trees that carries the label of a definition. -/
def decoratedOutline (file : String) (scope : List String) (outer : Tree) :
    List Tree → Outline
  | [] => .empty
  | t :: ts =>
    if t.label = some .definition then definitionOutline file scope (some outer) t
    else decoratedOutline file scope outer ts

/-- The outline of the statements in the first of some trees that is a body. -/
def bodyOutline (file : String) (scope : List String) : List Tree → Outline
  | [] => .empty
  | t :: ts =>
    if t.label = some .body then childrenOutline file scope t else bodyOutline file scope ts

def childrenOutline (file : String) (scope : List String) : Tree → Outline
  | node _ _ _ _ _ children => outlineOf file scope children

def outlineOf (file : String) (scope : List String) : List Tree → Outline
  | [] => .empty
  | t :: ts => definitionOutline file scope none t ++ outlineOf file scope ts

end

end TestImpact.Source.Tree
