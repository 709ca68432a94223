import TestImpact.Project
import TestImpact.Diff.Read
import TestImpact.CallGraph.Affected
import TestImpact.Listing

/-
  Selecting tests: from a diff text to the changed functions and the tests
  that they may affect.

  The diff is read, and only files with source endings are kept. If none is
  left, the project is not looked at. Otherwise the functions with changed
  lines are looked up, and if there are any, the call graph is walked from
  them.
-/

namespace TestImpact

/-- Why a selection has no answer. -/
inductive SelectionError where
  | diff (fault : Diff.ReadError)
  | source (fault : SourceError)
  deriving DecidableEq, Repr

def SelectionError.message : SelectionError → String
  | diff fault => fault.message
  | source fault => fault.message

/-- What a selection gives: changed functions and affected tests. -/
structure Selection where
  changed : List String
  affected : List String
  deriving DecidableEq, Repr

/-- What decides over a selection besides the project: the endings of source files, and which
functions are tests. -/
structure Criteria where
  extensions : List String
  isTest : String → Bool

namespace Index

/-- The changed functions, and the project if it was needed. -/
def changedBy (i : Index) (t : FileTree) (extensions : List String) (diffText : String) :
    Except SelectionError (Index × List String × List Note) :=
  match Diff.read diffText with
  | .error fault => .error (.diff fault)
  | .ok (diff, diffNotes) =>
    let kept := diff.restrict extensions
    if kept.isEmpty then .ok (i, [], diffNotes ++ [.noChangedFiles])
    else match i.force t with
      | .error fault => .error (.source fault)
      | .ok (j, project, projectNotes) =>
        let (changed, changeNotes) := changedFunctions kept project.functions
        .ok (j, changed, diffNotes ++ .changedFiles (Text.ascending kept.paths) :: projectNotes
          ++ changeNotes)

/-- The changed functions and the affected tests. -/
def select (i : Index) (t : FileTree) (c : Criteria) (diffText : String) :
    Except SelectionError (Index × Selection × List Note) :=
  match i.changedBy t c.extensions diffText with
  | .error fault => .error fault
  | .ok (j, changed, notes) =>
    if changed.isEmpty then .ok (j, ⟨[], []⟩, notes)
    else
      let edges := (j.project.map (·.edges)).getD []
      let graph := CallGraph.ofEdges edges
      let (affected, walkNote) := graph.affected c.isTest changed
      .ok (j, ⟨changed, affected⟩, notes ++
        [.graphBuilt graph.stats, walkNote, .selected changed.length affected.length])

end Index

namespace ProjectRequest

/-- Whether nothing can be found: there is no diff, or there are no sources. -/
def isIdle (r : ProjectRequest) (diffText : String) : Bool := diffText.isEmpty || r.roots.isEmpty

def index (r : ProjectRequest) (t : FileTree) : Except SelectionError Index :=
  match r.spec t with
  | .ok spec => .ok (.unread spec)
  | .error fault => .error (.source fault)

def changedBy (r : ProjectRequest) (t : FileTree) (extensions : List String)
    (diffText : String) : Except SelectionError (List String × List Note) :=
  if r.isIdle diffText then .ok ([], [])
  else do
    let (_, changed, notes) ← (← r.index t).changedBy t extensions diffText
    return (changed, notes)

def affectedBy (r : ProjectRequest) (t : FileTree) (c : Criteria) (diffText : String) :
    Except SelectionError (List String × List Note) :=
  if r.isIdle diffText then .ok ([], [])
  else do
    let (_, selection, notes) ← (← r.index t).select t c diffText
    return (selection.affected, notes)

def affectedListing (r : ProjectRequest) (t : FileTree) (c : Criteria) (diffText : String) :
    Except SelectionError (String × List Note) := do
  let (affected, notes) ← r.affectedBy t c diffText
  return (listing affected, notes)

end ProjectRequest

end TestImpact
