import TestImpact.CallGraph.Basic
import TestImpact.Text.Dotted

/-
  From call targets to the functions they may mean.

  A target is the dotted name that stands before the parentheses of a call.
  It is resolved by names alone: a full name means that function; `self.m` and
  `cls.m` mean the method of the class around the caller; a dotted target
  means every function whose name ends with it; the name of a class means its
  `__init__`; any other target means every function with its simple name. The
  first rule that gives something decides, and functions that are not declared
  are never given.
-/

namespace TestImpact

inductive SymbolKind where
  | function
  | classDef
  deriving DecidableEq, Repr

/-- A declared function or class: its name and its qualified name. -/
structure Symbol where
  kind : SymbolKind
  name : String
  qualname : String
  deriving DecidableEq, Repr

/-- A call as it stands in the source: who calls, and the target. -/
structure RawCall where
  caller : String
  target : String
  deriving DecidableEq, Repr

/-- The declared names that targets are resolved against. -/
structure Declared where
  symbols : List Symbol

namespace Declared

def functions (d : Declared) : List String :=
  (d.symbols.filter (·.kind = .function)).map (·.qualname)

def isFunction (d : Declared) (qualname : String) : Bool :=
  d.symbols.any fun s => s.kind = .function ∧ s.qualname = qualname

/-- The qualified names of the symbols of a kind with a simple name. -/
def named (d : Declared) (kind : SymbolKind) (name : String) : List String :=
  (d.symbols.filter fun s => s.kind = kind ∧ s.name = name).map (·.qualname)

/-- The method that `self` or `cls` gives in the class around the caller. -/
def ownMethod? (d : Declared) (caller target : String) : Option String :=
  match Text.components target with
  | [receiver, name] =>
    if receiver = "self" ∨ receiver = "cls" then
      let candidate := Text.container caller ++ "." ++ name
      if d.isFunction candidate then some candidate else none
    else none
  | _ => none

/-- The functions with the target's simple name whose names end with a dot and the target. -/
def endingWith (d : Declared) (target : String) : List String :=
  (d.named .function (Text.simpleName target)).filter (Text.endsWith · ("." ++ target))

/-- The constructors of the classes with a simple name. -/
def constructors (d : Declared) (name : String) : List String :=
  ((d.named .classDef name).map (· ++ ".__init__")).filter d.isFunction

/-- The functions that a target may mean, ascending. -/
def resolve (d : Declared) (caller target : String) : List String :=
  let name := Text.simpleName target
  let isDotted := target.toList.contains '.'
  if d.isFunction target then [target]
  else match d.ownMethod? caller target with
    | some method => [method]
    | none =>
      let dotted := if isDotted then d.endingWith target else []
      if !dotted.isEmpty then Text.ascending dotted
      else
        let constructed := d.constructors name
        if !constructed.isEmpty then Text.ascending constructed
        else if !isDotted && !(d.named .classDef name).isEmpty then []
        else Text.ascending (d.named .function name)

/-- The edges of a list of calls, in the order of the calls and each once. -/
def edges (d : Declared) (calls : List RawCall) : List CallEdge :=
  Text.distinct (calls.flatMap fun call =>
    (d.resolve call.caller call.target).map fun callee => ⟨call.caller, callee⟩)

end Declared

end TestImpact
