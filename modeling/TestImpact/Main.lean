import TestImpact.CommandLine.Run
import TestImpact.Settings.Places

/-
  The program: it reads the files around it and the environment, runs the
  command line and writes what came of it.

  Files are those in the current directory, to a limited depth, and the settings.
  Version control is not started from here, so a diff comes from the standard
  input.
-/

namespace TestImpact.Program

open TestImpact.CommandLine

/-- How deep directories are read. -/
def depthLimit : Nat := 64

/-- The tree with what a directory entry leads to. What cannot be read is left out. -/
def readEntry (depth : Nat) (place : List String) (t : FileTree) (entry : IO.FS.DirEntry) :
    IO FileTree := do
  let place := place ++ [entry.fileName]
  try
    if ← entry.path.isDir then
      match depth with
      | 0 => return t.put place .directory
      | depth + 1 => (← entry.path.readDir).foldlM (readEntry depth place) (t.put place .directory)
    else
      return t.put place (.file (← IO.FS.readBinFile entry.path).toList)
  catch _ => return t

/-- The tree with a file, if it can be read. -/
def readFile (t : FileTree) (p : Path) : IO FileTree := do
  try return t.put (t.place p) (.file (← IO.FS.readBinFile p.text).toList)
  catch _ => return t

def readInput : IO String := do
  let input ← IO.getStdin
  let mut text := ""
  repeat
    let line ← input.getLine
    if line.isEmpty then break
    text := text ++ line
  return text

/-- Writes the files that are new or changed. -/
def writeFiles (before after : FileTree) : IO Unit := do
  for (place, _) in after.entries do
    match after.content? place with
    | some content =>
      if before.content? place ≠ some content then
        IO.FS.createDirAll (FileTree.pathOf place.dropLast).text
        IO.FS.writeBinFile (FileTree.pathOf place).text content.toByteArray
    | none => pure ()

def environment : IO Settings.Environment := do
  return {
    settingsHome := ← IO.getEnv "TESTGRAPH_HOME"
    logLevel := ← IO.getEnv "TESTGRAPH_LOG_LEVEL"
    home := (← IO.getEnv "HOME").getD "/" }

def complain (message : String) (code : UInt32) : IO UInt32 := do
  (← IO.getStderr).putStrLn message
  return code

/-- Runs the command line with the settings in a file. -/
def run (e : Settings.Environment) (settingsFile : Path) (args : List String) : IO UInt32 := do
  let directory ← IO.currentDir
  let current := (Path.ofText directory.toString).names
  let files ← (← directory.readDir).foldlM (readEntry depthLimit current) ⟨current, []⟩
  let files ← readFile files settingsFile
  let input ← match Command.read files e.level args with
    | .ok command => if command.readsInput then readInput else pure ""
    | .error _ => pure ""
  let session : Session :=
    { files := files
      settingsFile := settingsFile
      input := input
      versionControl := .notStarted "version control is not available" }
  match session.runArguments e.level args with
  | .error fault => complain fault.message 1
  | .ok outcome =>
    writeFiles files outcome.files
    (← IO.getStdout).putStr outcome.output
    (← IO.getStderr).putStr outcome.complaints
    match outcome.failure with
    | some failure => complain failure.message outcome.code.toUInt32
    | none => return outcome.code.toUInt32

end TestImpact.Program

def main (args : List String) : IO UInt32 := do
  let e ← TestImpact.Program.environment
  match e.directory with
  | .ok directory => TestImpact.Program.run e (TestImpact.Settings.fileIn directory) args
  | .error fault => TestImpact.Program.complain fault.message 1
