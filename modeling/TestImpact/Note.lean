import TestImpact.LineRange

/-
  What a run remarks on besides its answer.

  Operations that can meet something worth telling return their notes in the
  order in which the things were met.
-/

namespace TestImpact

/-- How many functions are called in a graph, and how many edges it has. -/
structure GraphStats where
  callees : Nat
  edges : Nat
  deriving DecidableEq, Repr

def GraphStats.text (s : GraphStats) : String :=
  s!"Callees: {s.callees}, Total edges: {s.edges}"

inductive Note where
  /-- A line begins like a hunk header and is none. -/
  | malformedHunk (line : String)
  /-- A hunk stands before every file header. -/
  | orphanHunk (line : String)
  /-- A function was found to be changed, by the declaration with these lines. -/
  | changed (id : String) (lines : LineRange)
  /-- A call graph was built. -/
  | graphBuilt (stats : GraphStats)
  /-- A walk has ended: functions expanded, tests found. -/
  | walked (expanded affected : Nat)
  /-- A project was indexed. -/
  | indexed (functions edges : Nat)
  /-- A file does not follow the language and was left out. -/
  | rejected (file : String)
  /-- A file was read with damage in it. -/
  | damaged (file : String)
  /-- A source file could not be read. -/
  | unreadable (path : String)
  /-- A source root is not a directory. -/
  | notADirectory (path : String)
  /-- No file of the diff is a source file. -/
  | noChangedFiles
  /-- The source files of the diff, ascending. -/
  | changedFiles (paths : List String)
  /-- A selection has ended. -/
  | selected (changed affected : Nat)
  /-- A key of the selection settings has a value of the wrong kind. -/
  | invalidSelection (key : String)
  /-- The settings name an unknown reader of source files. -/
  | unknownBackend
  /-- The settings file could not be read. -/
  | unreadableSettings
  /-- The settings file could not be written. -/
  | settingsNotWritten
  /-- Version control could not be started. -/
  | versionControlNotRun (reason : String)
  /-- Version control ended with a failure. -/
  | versionControlFailed (code : Int) (complaint : String)
  deriving DecidableEq

end TestImpact
