import TestImpact.SourceRoots
import TestImpact.Source.Backend
import TestImpact.ChangedFunctions
import TestImpact.Text.Lines

/-
  A project: its source files read, its calls resolved.

  A file that cannot be read is remarked on and left out; a file with a fault
  has the outline that its reader gives it. Only a text that its reader cannot
  take at all ends the reading of the project.

  An `Index` reads its project the first time it is asked, and keeps what it
  has read; a reading that ends with a fault is not kept.
-/

namespace TestImpact

/-- Where a project is and how it is read. -/
structure ProjectSpec where
  backend : Backend
  repository : Path
  roots : List Path
  deriving DecidableEq, Repr

/-- The definitions of a project, and its calls as edges between its functions. -/
structure Project where
  declarations : List Source.Declaration
  edges : List CallEdge
  deriving DecidableEq

/-- A project as it is asked for: the name of a reader, and paths. -/
structure ProjectRequest where
  backend : String
  repository : Path
  roots : List Path
  deriving DecidableEq, Repr

/-- The places that the paths name, and the reader with the name. -/
def ProjectRequest.spec (r : ProjectRequest) (t : FileTree) : Except SourceError ProjectSpec :=
  match Backend.ofName? r.backend with
  | some backend => .ok ⟨backend, t.resolve r.repository, r.roots.map t.resolve⟩
  | none => .error (.unknownBackend r.backend)

namespace ProjectSpec

def readFile (spec : ProjectSpec) (t : FileTree) (file : SourceFile) :
    Except SourceError (Source.Outline × List Note) :=
  match t.content? file.path.names with
  | none => .ok (.empty, [.unreadable (t.shown file.path)])
  | some bytes =>
    let text := Text.unifyLineEnds (Text.decodeDropping bytes)
    let name := (moduleName file.path file.root).toOption.getD ""
    Source.read spec.backend text name (fileKey spec.repository file)

def readFiles (spec : ProjectSpec) (t : FileTree) :
    List SourceFile → Except SourceError (Source.Outline × List Note)
  | [] => .ok (.empty, [])
  | file :: files => do
    let (outline, notes) ← spec.readFile t file
    let (outlines, more) ← readFiles spec t files
    return (outline ++ outlines, notes ++ more)

end ProjectSpec

namespace Project

/-- The project that an outline of all its files makes. -/
def ofOutline (o : Source.Outline) : Project :=
  ⟨o.declarations,
    (Declared.mk (o.declarations.map (·.toSymbol))).edges o.calls⟩

def functions (p : Project) : List FunctionDecl :=
  (p.declarations.filter (·.kind = .function)).map fun d => ⟨d.qualname, d.file, d.lines⟩

def read (spec : ProjectSpec) (t : FileTree) : Except SourceError (Project × List Note) := do
  let (outline, notes) ← spec.readFiles t (sourceFiles t spec.roots)
  let project := ofOutline outline
  return (project, rootNotes t spec.roots ++ notes
    ++ [.indexed project.functions.length project.edges.length])

end Project

/-- A project that is read when it is needed. -/
structure Index where
  spec : ProjectSpec
  project : Option Project

namespace Index

def unread (spec : ProjectSpec) : Index := ⟨spec, none⟩

/-- The project, read now if it was not before, and the index that keeps it. -/
def force (i : Index) (t : FileTree) : Except SourceError (Index × Project × List Note) :=
  match i.project with
  | some p => .ok (i, p, [])
  | none => (Project.read i.spec t).map fun (p, notes) => ({ i with project := some p }, p, notes)

end Index

end TestImpact
