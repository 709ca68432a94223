import TestImpact.Naming
import TestImpact.Note
import TestImpact.Source.Backend
import TestImpact.Toml.Document
import TestImpact.Toml.Write
import TestImpact.Text.Utf8
import TestImpact.VersionControl

/-
  Settings: which files are sources, which functions are tests, how sources
  are read and which revision a diff starts from.

  They come from two tables of a document, `selection` and `analysis`. A value
  of the wrong kind counts as missing, with a note; what is missing has its
  default. A document in which one of the two is no table has no settings.
-/

namespace TestImpact

inductive SettingsFault where
  | undecodable (fault : Text.DecodeError)
  | unreadable (fault : Toml.Fault)
  /-- A value of this kind is read where a table should be. -/
  | notATable (kind : String)
  /-- A value of this kind is to take up a field. -/
  | fixedValue (kind : String)
  /-- A list is to take up a field. -/
  | fixedList
  | unknownBackend (name : String)
  | unwritable (fault : Toml.WriteFault)
  deriving DecidableEq, Repr

def SettingsFault.message : SettingsFault → String
  | undecodable fault => fault.message
  | unreadable fault => fault.message
  | notATable kind => s!"'{kind}' object has no attribute 'get'"
  | fixedValue kind => s!"'{kind}' object does not support item assignment"
  | fixedList => "list indices must be integers or slices, not str"
  | unknownBackend name => (SourceError.unknownBackend name).message
  | unwritable fault => fault.message

/-- The endings of source files, and the names of tests. -/
structure SelectionSettings where
  extensions : List String
  naming : Naming
  deriving DecidableEq, Repr

/-- How sources are read, and the revision that a diff starts from. -/
structure AnalysisSettings where
  backend : Backend
  base : String
  deriving DecidableEq, Repr

structure Settings where
  selection : SelectionSettings
  analysis : AnalysisSettings
  deriving DecidableEq, Repr

/-- What holds where no settings say otherwise. -/
def SelectionSettings.standard : SelectionSettings := ⟨[".py"], Naming.standard⟩

def AnalysisSettings.standard : AnalysisSettings := ⟨.ast, defaultBase⟩

/-- The given endings, or if there are none the settings' own. -/
def SelectionSettings.extensionsOr (s : SelectionSettings) (given : List String) : List String :=
  if given.isEmpty then s.extensions else given

/-- The given beginnings and endings of test names; where there are none, the settings' own. -/
def SelectionSettings.namingOr (s : SelectionSettings) (prefixes suffixes : List String) : Naming :=
  ⟨if prefixes.isEmpty then s.naming.prefixes else prefixes,
    if suffixes.isEmpty then s.naming.suffixes else suffixes⟩

/-- The given name of a reader, or if it is empty the name of the settings' own. -/
def AnalysisSettings.backendOr (s : AnalysisSettings) (given : String) : String :=
  if given.isEmpty then s.backend.name else given

/-- The given revision, or if it is empty the settings' own. -/
def AnalysisSettings.baseOr (s : AnalysisSettings) (given : String) : String :=
  if given.isEmpty then s.base else given

namespace Settings

/-- The table of a document with a given name; a missing one is empty. -/
def tableOf (document : Toml.Table) (name : String) : Except SettingsFault Toml.Table :=
  match document.get? name with
  | none => .ok []
  | some (.table t) => .ok t
  | some v => .error (.notATable v.kind)

end Settings

namespace SelectionSettings

def textOf? : Toml.Value → Option String
  | .text s => some s
  | _ => none

/-- The texts of a list that holds nothing else. -/
def textsOf? : Toml.Value → Option (List String)
  | .array items => items.mapM textOf?
  | _ => none

/-- A list of texts from a table, with a note if something else stands there. -/
def texts (t : Toml.Table) (name : String) (default : List String) : List String × List Note :=
  match t.get? name with
  | none => (default, [])
  | some v =>
    match textsOf? v with
    | some found => (found, [])
    | none => (default, [.invalidSelection name])

def ofTable (t : Toml.Table) : SelectionSettings × List Note :=
  let (extensions, extensionNotes) := texts t "extensions" standard.extensions
  let (prefixes, prefixNotes) := texts t "test_prefixes" standard.naming.prefixes
  let (suffixes, suffixNotes) := texts t "test_suffixes" standard.naming.suffixes
  (⟨extensions, ⟨prefixes, suffixes⟩⟩, extensionNotes ++ prefixNotes ++ suffixNotes)

def ofDocument (document : Toml.Table) : Except SettingsFault (SelectionSettings × List Note) :=
  (Settings.tableOf document "selection").map ofTable

end SelectionSettings

namespace AnalysisSettings

/-- The reader that a value names. -/
def backendOf? : Toml.Value → Option Backend
  | .text s => Backend.ofName? s
  | _ => none

/-- The revision that a value names: any text but the empty one. -/
def baseOf? : Toml.Value → Option String
  | .text s => if s.isEmpty then none else some s
  | _ => none

def ofTable (t : Toml.Table) : AnalysisSettings × List Note :=
  let (backend, notes) :=
    match t.get? "backend" with
    | none => (standard.backend, [])
    | some v =>
      match backendOf? v with
      | some b => (b, [])
      | none => (standard.backend, [Note.unknownBackend])
  (⟨backend, ((t.get? "git_base").bind baseOf?).getD standard.base⟩, notes)

def ofDocument (document : Toml.Table) : Except SettingsFault (AnalysisSettings × List Note) :=
  (Settings.tableOf document "analysis").map ofTable

end AnalysisSettings

end TestImpact
