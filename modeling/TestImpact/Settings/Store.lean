import TestImpact.FileTree
import TestImpact.Settings.Basic
import TestImpact.Text.Lines

/-
  Settings in a file.

  A missing file is an empty document, and so is a malformed one, with a note.
  A save reads the document, changes one table of it and writes it back, all
  other tables as they were read. The file is emptied before the document is
  put into words, so a document that cannot be written leaves an empty file.

  A file that cannot be opened is remarked on, and the save is not done. Once
  it is open, writing to it and closing it do not fail: faults of the device
  under it, such as a full disk, are not part of a `FileTree`.
-/

namespace TestImpact.Settings

def loadDocument (t : FileTree) (file : Path) : Except SettingsFault (Toml.Table × List Note) :=
  match t.locate file with
  | none => .ok ([], [])
  | some place =>
    match t.content? place with
    | none => .ok ([], if t.isDirectory place then [.unreadableSettings] else [])
    | some bytes =>
      match Text.decode bytes with
      | .error fault => .error (.undecodable fault)
      | .ok text =>
        match Toml.readDocument (Text.unifyLineEnds text) with
        | .ok document => .ok (document, [])
        | .error .malformed => .ok ([], [.unreadableSettings])
        | .error fault => .error (.unreadable fault)

def loadSelection (t : FileTree) (file : Path) :
    Except SettingsFault (SelectionSettings × List Note) := do
  let (document, notes) ← loadDocument t file
  let (selection, more) ← SelectionSettings.ofDocument document
  return (selection, notes ++ more)

def loadAnalysis (t : FileTree) (file : Path) :
    Except SettingsFault (AnalysisSettings × List Note) := do
  let (document, notes) ← loadDocument t file
  let (analysis, more) ← AnalysisSettings.ofDocument document
  return (analysis, notes ++ more)

def load (t : FileTree) (file : Path) : Except SettingsFault (Settings × List Note) := do
  let (selection, notes) ← loadSelection t file
  let (analysis, more) ← loadAnalysis t file
  return (⟨selection, analysis⟩, notes ++ more)

/-- What a save gives: the files after it, and whether the document was written. -/
abbrev Saved := FileTree × Except SettingsFault (Bool × List Note)

/-- Puts a document into a file. Missing directories on the way to it are made first. No write fails
once the file is open. -/
def store (t : FileTree) (file : Path) (document : Toml.Table) (notes : List Note) : Saved :=
  let place := t.place file
  let (t, isOpen) := t.makeWay (t.start file) file.names.dropLast
  if !isOpen || t.isDirectory place then (t, .ok (false, notes ++ [.settingsNotWritten]))
  else match Toml.writeDocument document with
    | .ok text => (t.put place (.file (Text.encode text)), .ok (true, notes))
    | .error fault => (t.put place (.file []), .error (.unwritable fault))

def change (t : FileTree) (file : Path) (f : Toml.Table → Except SettingsFault Toml.Table) :
    Saved :=
  match loadDocument t file with
  | .error fault => (t, .error fault)
  | .ok (document, notes) =>
    match f document with
    | .error fault => (t, .error fault)
    | .ok changed => store t file changed notes

/-- Sets fields of a value that should be a table; none of them may be set in any other. -/
def setFields (v : Toml.Value) (fields : List (String × Toml.Value)) :
    Except SettingsFault Toml.Value :=
  match v, fields with
  | .table t, _ => .ok (.table (fields.foldl (fun t (name, w) => Toml.Table.set t name w) t))
  | v, [] => .ok v
  | .array _, _ => .error .fixedList
  | v, _ => .error (.fixedValue v.kind)

/-- Sets fields of a table of a document; a missing table is made. -/
def setIn (name : String) (fields : List (String × Toml.Value)) (document : Toml.Table) :
    Except SettingsFault Toml.Table :=
  (setFields ((document.get? name).getD (.table [])) fields).map (Toml.Table.set document name)

def listField (name : String) (texts : Option (List String)) : List (String × Toml.Value) :=
  match texts with
  | some ts => [(name, .array (ts.map .text))]
  | none => []

def textField (name : String) (text : Option String) : List (String × Toml.Value) :=
  match text with
  | some s => [(name, .text s)]
  | none => []

def saveSelection (t : FileTree) (file : Path)
    (extensions prefixes suffixes : Option (List String)) : Saved :=
  change t file (setIn "selection"
    (listField "extensions" extensions ++ listField "test_prefixes" prefixes
      ++ listField "test_suffixes" suffixes))

/-- Saves the given analysis settings; the others stay as they are. An unknown reader is refused
before the file is looked at. -/
def saveAnalysis (t : FileTree) (file : Path) (backend base : Option String) : Saved :=
  match backend.filter fun name => (Backend.ofName? name).isNone with
  | some name => (t, .error (.unknownBackend name))
  | none =>
    change t file (setIn "analysis" (textField "backend" backend ++ textField "git_base" base))

/-- Takes all settings out of the file. -/
def clear (t : FileTree) (file : Path) : Saved :=
  change t file fun document => .ok ((document.erase "selection").erase "analysis")

end TestImpact.Settings
