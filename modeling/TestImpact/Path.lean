import TestImpact.Text.Dotted
import TestImpact.Text.Ascending
import TestImpact.Text.Printable

/-
  Paths, as texts: no file is looked at.

  A path is a root and a list of names. The root is empty for a relative path,
  one slash for an absolute one, and two slashes where a text begins with
  exactly two. Empty names and single dots are dropped when a text is read;
  two dots are kept, since what they mean depends on the files.
-/

namespace TestImpact

structure Path where
  root : String
  names : List String
  deriving DecidableEq, Repr

inductive PathError where
  | notBelow (path root : String)
  | emptyName (path : String)
  deriving DecidableEq, Repr

def PathError.message : PathError → String
  | notBelow path root =>
    Text.quoted path ++ " is not in the subpath of " ++ Text.quoted root
      ++ " OR one path is relative and the other is absolute."
  | emptyName path => "PosixPath(" ++ Text.quoted path ++ ") has an empty name"

namespace Path

/-- The root that a text begins with. -/
def rootOf : List Char → String
  | '/' :: '/' :: '/' :: _ => "/"
  | '/' :: '/' :: _ => "//"
  | '/' :: _ => "/"
  | _ => ""

def ofText (s : String) : Path where
  root := rootOf s.toList
  names := ((Text.splitAt '/' s.toList).filter fun n => n ≠ [] ∧ n ≠ ['.']).map String.ofList

/-- The path without names and without a root. -/
def here : Path := ⟨"", []⟩

def text (p : Path) : String :=
  if p.root.isEmpty ∧ p.names.isEmpty then "." else p.root ++ Text.joined "/" p.names

def isAbsolute (p : Path) : Bool := !p.root.isEmpty

def child (p : Path) (name : String) : Path := { p with names := p.names ++ [name] }

/-- A path seen from another one; an absolute path stays as it is. -/
def join (p q : Path) : Path :=
  if q.isAbsolute then q else { p with names := p.names ++ q.names }

/-- The path above; that of a root is the root itself. -/
def parent (p : Path) : Path := { p with names := p.names.dropLast }

/-- The last name, empty if there is none. -/
def name (p : Path) : String := p.names.getLast?.getD ""

/-- What is left of a list behind another one. -/
def namesAfter? : List String → List String → Option (List String)
  | [], names => some names
  | _ :: _, [] => none
  | f :: front, n :: names => if f = n then namesAfter? front names else none

/-- A path relative to a root, if the root's names are its first ones. -/
def relativeTo (p root : Path) : Except PathError Path :=
  if p.root = root.root then
    match namesAfter? root.names p.names with
    | some rest => .ok ⟨"", rest⟩
    | none => .error (.notBelow p.text root.text)
  else .error (.notBelow p.text root.text)

/-- A name without its last ending: the text from the last dot on, unless it stands first or
last. -/
def withoutEnding (name : String) : String :=
  match Text.splitAtLastDot name.toList with
  | some (front, back) =>
    if front.isEmpty || back.isEmpty then name else String.ofList front
  | none => name

/-- A path whose last name has lost its ending. -/
def withoutSuffix (p : Path) : Except PathError Path :=
  match p.names.getLast? with
  | none => .error (.emptyName p.text)
  | some last => .ok { p with names := p.names.dropLast ++ [withoutEnding last] }

/-- The order of paths: by root, then name by name. -/
instance : LT Path where
  lt p q := p.root < q.root ∨ (p.root = q.root ∧ p.names < q.names)

instance : DecidableLT Path := fun p q =>
  inferInstanceAs (Decidable (p.root < q.root ∨ (p.root = q.root ∧ p.names < q.names)))

end Path

/-- The dotted name of the module that a file below a source root holds. A file called
`__init__` stands for its directory, unless it is at the top. -/
def moduleName (file root : Path) : Except PathError String := do
  let names := (← (← file.relativeTo root).withoutSuffix).names
  return Text.dotted
    (if 1 < names.length ∧ names.getLast? = some "__init__" then names.dropLast else names)

end TestImpact
