import TestImpact.Diff.Basic
import TestImpact.Note

/-
  From changed lines to changed functions.

  A function is changed if one of its declarations shares a line with a
  changed range of the file that declares it. Paths are compared as they are
  written.
-/

namespace TestImpact

/-- A function, the file that declares it, and the lines of the declaration. -/
structure FunctionDecl where
  id : String
  file : String
  lines : LineRange
  deriving DecidableEq

def FunctionDecl.touchedBy (decl : FunctionDecl) (diff : Diff) : Bool :=
  match diff.find? decl.file with
  | some d => d.overlaps decl.lines
  | none => false

/-- The first touched declaration of each changed function, in the order of the declarations;
`known` are the functions found before. -/
def touchedDecls (diff : Diff) (known : List String) : List FunctionDecl → List FunctionDecl
  | [] => []
  | decl :: rest =>
    if decl.touchedBy diff && !known.contains decl.id then
      decl :: touchedDecls diff (decl.id :: known) rest
    else touchedDecls diff known rest

/-- The changed functions, each once, and a note for each. -/
def changedFunctions (diff : Diff) (decls : List FunctionDecl) : List String × List Note :=
  let touched := touchedDecls diff [] decls
  (touched.map (·.id), touched.map fun decl => .changed decl.id decl.lines)

end TestImpact
