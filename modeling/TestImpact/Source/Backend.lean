import TestImpact.Source.Statement
import TestImpact.Source.Visitor
import TestImpact.Source.TreeOutline
import TestImpact.Note

/-
  The two readers of source files.

  The first reads the strict dialect: a text with a fault has no outline at
  all, and a text with a NUL character cannot be read by it. The second reads
  the tolerant dialect and remarks where a text is damaged.
-/

namespace TestImpact

inductive Backend where
  | ast
  | treeSitter
  deriving DecidableEq, Repr

namespace Backend

def name : Backend → String
  | ast => "ast"
  | treeSitter => "tree-sitter"

def all : List Backend := [ast, treeSitter]

def ofName? (s : String) : Option Backend := all.find? (·.name = s)

end Backend

inductive SourceError where
  | unknownBackend (name : String)
  | nulCharacter
  deriving DecidableEq, Repr

def SourceError.message : SourceError → String
  | unknownBackend name =>
    s!"Unknown analysis backend '{name}'. Choose one of: "
      ++ Text.joined ", " (Backend.all.map Backend.name)
  | nulCharacter => "source code string cannot contain null bytes"

namespace Source

def readStrict (text : List Char) (moduleName file : String) :
    Except SourceError (Outline × List Note) :=
  if text.contains '\x00' then .error .nulCharacter
  else match Tree.ofText? .strict text with
    | none => .ok (.empty, [.rejected file])
    | some tree => .ok (((Visitor.start moduleName file).visit (Node.ofTree tree)).found, [])

def readTolerant (text : List Char) (moduleName file : String) : Outline × List Note :=
  match Tree.ofText? .tolerant text with
  | none => (.empty, [.damaged file])
  | some tree =>
    (tree.childrenOutline file (moduleScope moduleName),
      if tree.isDamaged then [.damaged file] else [])

/-- The outline of a text, and what is remarkable about it. -/
def read (backend : Backend) (text : List Char) (moduleName file : String) :
    Except SourceError (Outline × List Note) :=
  match backend with
  | .ast => readStrict text moduleName file
  | .treeSitter => .ok (readTolerant text moduleName file)

end Source

end TestImpact
