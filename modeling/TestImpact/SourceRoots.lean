import TestImpact.FileTree
import TestImpact.Note

/-
  The source files below a list of roots.

  A source file is anything whose name ends in `.py`. Below a root, some
  directories are left out with all that is in them: those of tools, caches
  and builds. A file that lies below several roots belongs to the deepest of
  those that list it. Files come in the order of their paths, each once.
-/

namespace TestImpact

/-- The directories that hold no sources of the project. -/
def skippedDirectories : List String :=
  [".venv", "venv", "__pycache__", "node_modules", ".git", "site-packages", ".tox", ".nox",
   ".pytest_cache", "build", "dist", ".mypy_cache", ".ruff_cache", "htmlcov", ".eggs"]

def isSkipped (name : String) : Bool :=
  skippedDirectories.contains name || Text.endsWith name ".egg-info"

def isSourceName (name : String) : Bool := Text.endsWith name ".py"

/-- Whether a root lists a path: it lies below the root, it is a source file by name, and no
directory between the two is left out. -/
def listedBelow (root path : Path) : Bool :=
  match path.relativeTo root with
  | .ok inside =>
    match inside.names.reverse with
    | [] => false
    | name :: directories => isSourceName name && !directories.any isSkipped
  | .error _ => false

/-- The deepest of the roots that list a path; of equally deep ones the first. -/
def ownerOf? (path : Path) : List Path → Option Path
  | [] => none
  | root :: roots =>
    match ownerOf? path roots with
    | none => if listedBelow root path then some root else none
    | some deeper =>
      if listedBelow root path && deeper.names.length ≤ root.names.length then some root
      else some deeper

/-- A source file and the root that it belongs to. -/
structure SourceFile where
  path : Path
  root : Path
  deriving DecidableEq, Repr

def directoryRoots (t : FileTree) (roots : List Path) : List Path :=
  roots.filter fun root => t.isDirectory root.names

/-- The source files below some roots, ascending. -/
def sourceFiles (t : FileTree) (roots : List Path) : List SourceFile :=
  let directories := directoryRoots t roots
  let paths := Text.ascending
    ((directories.flatMap fun root => t.inside root.names).map FileTree.pathOf)
  paths.filterMap fun path => (ownerOf? path directories).map fun root => ⟨path, root⟩

def rootNotes (t : FileTree) (roots : List Path) : List Note :=
  (roots.filter fun root => !t.isDirectory root.names).map fun root =>
    .notADirectory (t.shown root)

/-- The name by which a diff calls a file: its path from the root of the repository, or from
its source root if it lies elsewhere. -/
def fileKey (repository : Path) (file : SourceFile) : String :=
  match file.path.relativeTo repository with
  | .ok inside => inside.text
  | .error _ =>
    match file.path.relativeTo file.root with
    | .ok inside => inside.text
    | .error _ => file.path.text

def standardRoots : List String := ["src", "tests", "test"]

/-- The standard source directories of a project that exist, or the project itself. -/
def defaultRoots (t : FileTree) (project : Path) : List Path :=
  match (standardRoots.map project.child).filter t.leadsToDirectory with
  | [] => [project]
  | roots => roots

end TestImpact
