import TestImpact.Text.Lines

/-
  Dotted names, and the parts of a text in general.

  A dotted name is cut into its components at its dots; there is always at
  least one, and any of them may be empty. `container` is what stands before
  the last dot and `simpleName` what stands after it; a name without a dot is
  its own simple name and has the empty container.
-/

namespace TestImpact.Text

def startsWith (s front : String) : Bool := front.toList.isPrefixOf s.toList

def endsWith (s back : String) : Bool := back.toList.isSuffixOf s.toList

def occursIn (part : List Char) : List Char → Bool
  | [] => part.isEmpty
  | c :: cs => part.isPrefixOf (c :: cs) || occursIn part cs

def holds (s part : String) : Bool := occursIn part.toList s.toList

/-- Texts with a separator between each two of them. -/
def joined (sep : String) : List String → String
  | [] => ""
  | [s] => s
  | s :: t :: rest => s ++ sep ++ joined sep (t :: rest)

/-- The components of a dotted name. -/
def components (s : String) : List String := (splitAt '.' s.toList).map String.ofList

def dotted (names : List String) : String := joined "." names

/-- What stands before the last dot of a list of characters and what stands after it. -/
def splitAtLastDot (cs : List Char) : Option (List Char × List Char) :=
  match cs with
  | [] => none
  | c :: rest =>
    match splitAtLastDot rest with
    | some (front, back) => some (c :: front, back)
    | none => if c = '.' then some ([], rest) else none

/-- What stands before the last dot of a name. -/
def container (s : String) : String :=
  match splitAtLastDot s.toList with
  | some (front, _) => String.ofList front
  | none => ""

/-- What stands after the last dot of a name. -/
def simpleName (s : String) : String :=
  match splitAtLastDot s.toList with
  | some (_, back) => String.ofList back
  | none => s

end TestImpact.Text
