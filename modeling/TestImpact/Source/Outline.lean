import TestImpact.LineRange
import TestImpact.Resolution

/-
  What is taken from a source file: its definitions and its calls.
-/

namespace TestImpact.Source

/-- A defined function or class, the file that it is in, and its lines, decorators included. -/
structure Declaration extends Symbol where
  file : String
  lines : LineRange
  deriving DecidableEq

/-- The definitions and the calls of a text, in the order in which they are found. -/
structure Outline where
  declarations : List Declaration
  calls : List RawCall
  deriving DecidableEq

namespace Outline

def empty : Outline := ⟨[], []⟩

def append (a b : Outline) : Outline :=
  ⟨a.declarations ++ b.declarations, a.calls ++ b.calls⟩

instance : Append Outline := ⟨append⟩

theorem append_empty (o : Outline) : o ++ empty = o := by
  change mk (o.declarations ++ []) (o.calls ++ []) = o
  rw [List.append_nil, List.append_nil]

theorem append_assoc (a b c : Outline) : a ++ b ++ c = a ++ (b ++ c) := by
  change mk (_ ++ _ ++ _) (_ ++ _ ++ _) = mk (_ ++ (_ ++ _)) (_ ++ (_ ++ _))
  rw [List.append_assoc, List.append_assoc]

end Outline

/-- The names around the statements of a module. -/
def moduleScope (moduleName : String) : List String :=
  if moduleName.isEmpty then [] else [moduleName]

/-- A name, unless it is empty. -/
def unlessEmpty (name : Option String) : Option String := name.filter (· ≠ "")

end TestImpact.Source
