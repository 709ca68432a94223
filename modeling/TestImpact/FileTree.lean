import TestImpact.Path
import TestImpact.Text.Utf8

/-
  Files and directories, and the directory that relative paths start from.

  Places are lists of names from the root. A directory exists if it is listed
  or if something lies in it; the root and the current directory always exist.
  There are no links, so a path leads to one place: `resolve` finds it by the
  names alone, `locate` only through directories that exist.
-/

namespace TestImpact

inductive Entry where
  | file (content : List UInt8)
  | directory
  deriving DecidableEq

/-- Files and directories by place, and the current directory. -/
structure FileTree where
  current : List String
  entries : List (List String × Entry)

namespace FileTree

/-- Whether one place lies in another, at any depth. -/
def isInside (place outer : List String) : Bool :=
  outer.length < place.length && outer.isPrefixOf place

def entry? (t : FileTree) (place : List String) : Option Entry :=
  (t.entries.find? (·.1 = place)).map (·.2)

/-- The content of the file at a place. -/
def content? (t : FileTree) (place : List String) : Option (List UInt8) :=
  match t.entry? place with
  | some (.file content) => some content
  | _ => none

def isFile (t : FileTree) (place : List String) : Bool := (t.content? place).isSome

def isDirectory (t : FileTree) (place : List String) : Bool :=
  place.isPrefixOf t.current || t.entry? place = some .directory
    || t.entries.any (isInside ·.1 place)

/-- Puts an entry at a place, for whatever was listed there. -/
def put (t : FileTree) (place : List String) (e : Entry) : FileTree :=
  if (t.entry? place).isSome then
    { t with entries := t.entries.map fun x => if x.1 = place then (place, e) else x }
  else { t with entries := t.entries ++ [(place, e)] }

/-! Paths -/

/-- A place after one more name. -/
def stepTo (place : List String) (name : String) : List String :=
  if name = ".." then place.dropLast else place ++ [name]

/-- The place where a path starts. -/
def start (t : FileTree) (p : Path) : List String := if p.isAbsolute then [] else t.current

def place (t : FileTree) (p : Path) : List String := p.names.foldl stepTo (t.start p)

def pathOf (place : List String) : Path := ⟨"/", place⟩

/-- The absolute path without two dots that a path stands for. -/
def resolve (t : FileTree) (p : Path) : Path := pathOf (t.place p)

/-- Goes from a place along names; every name must start from a directory. -/
def locateFrom (t : FileTree) : List String → List String → Option (List String)
  | place, [] => some place
  | place, name :: names =>
    if t.isDirectory place then locateFrom t (stepTo place name) names else none

/-- The place that a path leads to. Whether something is there is not asked. -/
def locate (t : FileTree) (p : Path) : Option (List String) := t.locateFrom (t.start p) p.names

def leadsToDirectory (t : FileTree) (p : Path) : Bool :=
  match t.locate p with
  | some place => t.isDirectory place
  | none => false

def leadsToFile (t : FileTree) (p : Path) : Bool :=
  match t.locate p with
  | some place => t.isFile place
  | none => false

/-- The text of an absolute path as it is shown: from the current directory, if it lies in it. -/
def shown (t : FileTree) (p : Path) : String :=
  match p.relativeTo (pathOf t.current) with
  | .ok inside => inside.text
  | .error _ => p.text

/-! Writing -/

/-- Why a file cannot be written; each with the path as it is shown. -/
inductive FileError where
  | missing (path : String)
  | notADirectory (path : String)
  | isADirectory (path : String)
  deriving DecidableEq, Repr

def FileError.message : FileError → String
  | missing path => "[Errno 2] No such file or directory: " ++ Text.quoted path
  | notADirectory path => "[Errno 20] Not a directory: " ++ Text.quoted path
  | isADirectory path => "[Errno 21] Is a directory: " ++ Text.quoted path

/-- Why names do not lead on from a place, if they do not: the first place on the way that is
no directory is a file or missing. -/
def faultOnWay (t : FileTree) (path : String) : List String → List String → Option FileError
  | _, [] => none
  | place, name :: names =>
    if t.isDirectory place then faultOnWay t path (stepTo place name) names
    else if t.isFile place then some (.notADirectory path)
    else some (.missing path)

/-- Puts a text into the file at a path. Its directory must be there. -/
def write (t : FileTree) (p : Path) (text : String) : Except FileError FileTree :=
  let place := t.place p
  match faultOnWay t (t.shown p) (t.start p) p.names with
  | some fault => .error fault
  | none =>
    if t.isDirectory place then .error (.isADirectory (t.shown p))
    else .ok (t.put place (.file (Text.encode text)))

/-- Makes the directories that names lead through from a place, as far as no file stands in the
way. Whether all of them are there is answered too. -/
def makeWay (t : FileTree) (place : List String) : List String → FileTree × Bool
  | [] => (t, true)
  | name :: names =>
    let next := stepTo place name
    if t.isDirectory next then makeWay t next names
    else if t.isFile next then (t, false)
    else makeWay (t.put next .directory) next names

/-! Listings -/

/-- The ways to a place from the places around it, up to a given one: each is longer by one. -/
def waysInto : List String → List String → List (List String)
  | _, [] => []
  | outer, name :: names => (outer ++ [name]) :: waysInto (outer ++ [name]) names

/-- The files and directories inside a directory, at any depth. -/
def inside (t : FileTree) (directory : List String) : List (List String) :=
  (t.current :: t.entries.map (·.1)).flatMap fun place =>
    if isInside place directory then waysInto directory (place.drop directory.length) else []

end FileTree

end TestImpact
