import TestImpact.CallGraph.Dot
import TestImpact.CallGraph.Json
import TestImpact.CommandLine.Command
import TestImpact.Display.Escape
import TestImpact.Display.Table
import TestImpact.Selection
import TestImpact.Settings.Store
import TestImpact.VersionControl

/-
  Running commands.

  A run takes the files, the settings in them, the arguments, the text on the
  standard input and what version control would answer. It gives what is
  printed, the files as they are then, and how the run ended. Nothing else is
  looked at and nothing else is changed. No terminal is there, so lines are
  printed without escape sequences.
-/

namespace TestImpact.CommandLine

/-- Why a command fails. -/
inductive Failure where
  | usage (fault : UsageFault)
  | selection (fault : SelectionError)
  | file (fault : FileTree.FileError)
  | settings (fault : SettingsFault)
  | markup (fault : Display.MarkupFault)
  deriving DecidableEq, Repr

def Failure.message : Failure → String
  | usage fault => fault.message
  | selection fault => fault.message
  | file fault => fault.message
  | settings fault => fault.message
  | markup fault => fault.message

/-- The code that a failed run ends with. -/
def Failure.code : Failure → Nat
  | usage _ => 2
  | _ => 1

/-- What a run has to do with. -/
structure Session where
  files : FileTree
  settingsFile : Path
  input : String
  versionControl : VersionControlRun

/-- What comes of a run. -/
structure Outcome where
  files : FileTree
  code : Nat := 0
  output : String := ""
  complaints : String := ""
  calls : List VersionControlCall := []
  failure : Option Failure := none

/-- What a command gives: the files after it and what it printed, or why it failed. A command
that fails may have asked version control, and a failed save may have changed the files. -/
abbrev Result := Except Failure Outcome

namespace Session

/-- The outcome of a run that leaves the files as they are. -/
def prints (w : Session) (output : String) : Outcome := { files := w.files, output := output }

def line (s : String) : String := Display.plain s ++ "\n"

/-! Projects -/

/-- The project that is asked for. Roots are seen from the project. -/
def request (w : Session) (s : Settings) (p : ProjectOptions) : Except Failure ProjectRequest := do
  let backend := s.analysis.backendOr p.backend
  if (Backend.ofName? backend).isNone then
    throw (.usage (.badValue
      ("Backend must be one of: " ++ Text.joined ", " (Backend.all.map Backend.name))))
  let roots :=
    if p.roots.isEmpty then defaultRoots w.files p.project else p.roots.map p.project.join
  return ⟨backend, p.project, roots⟩

def index (w : Session) (s : Settings) (p : ProjectOptions) : Except Failure Index := do
  ((← w.request s p).index w.files).mapError .selection

def project (w : Session) (s : Settings) (p : ProjectOptions) : Except Failure Project := do
  let i ← w.index s p
  match i.force w.files with
  | .ok (_, project, _) => return project
  | .error fault => throw (.selection (.source fault))

/-! Diffs -/

def diff (w : Session) (d : DiffOptions) : String :=
  if d.asks then w.versionControl.diff.1 else w.input

/-- How version control is asked for the diff of a run. -/
def calls (s : Settings) (p : ProjectOptions) (d : DiffOptions) : List VersionControlCall :=
  if d.asks then [diffCall p.project.text (s.analysis.baseOr d.base)] else []

/-! Commands -/

/-- Prints a listing, or nothing if it is empty. -/
def printListing (w : Session) (ids : List String) : Outcome :=
  w.prints (if ids.isEmpty then "" else line (listing ids))

/-- Writes a text to a file, then prints. -/
def writes (w : Session) (p : Path) (text output complaints : String) : Result :=
  match w.files.write p text with
  | .ok files => .ok { files := files, output := output, complaints := complaints }
  | .error fault => .error (.file fault)

/-- The tests that a diff affects. A blank diff affects none. -/
def select (w : Session) (s : Settings) (i : Index) (d : DiffOptions) (naming : Naming) :
    Except Failure (List String) :=
  let text := w.diff d
  if Text.trim text.toList = [] then .ok []
  else match i.select w.files ⟨s.selection.extensionsOr d.extensions, naming.isTest⟩ text with
    | .ok (_, found, _) => .ok found.affected
    | .error fault => .error (.selection fault)

/-- Prints the affected tests, or writes them to a file. -/
def printSelected (w : Session) (affected : List String) (output : Option Path) : Result :=
  match output with
  | none => .ok (w.printListing affected)
  | some p =>
    w.writes p (listing affected) ""
      (line s!"Wrote {(Text.ascending affected).length} affected test(s) to {p.text}")

/-- The functions that a diff changes. The project is read even if the diff has no source file. -/
def changed (w : Session) (s : Settings) (i : Index) (d : DiffOptions) :
    Except Failure (List String) :=
  match Diff.read (w.diff d) with
  | .error fault => .error (.selection (.diff fault))
  | .ok (diff, _) =>
    match i.force w.files with
    | .error fault => .error (.selection (.source fault))
    | .ok (_, project, _) =>
      .ok (changedFunctions (diff.restrict (s.selection.extensionsOr d.extensions))
        project.functions).1

def printStats (w : Session) (project : Project) : Outcome :=
  w.prints (line s!"Functions: {project.functions.length}"
    ++ line (CallGraph.ofEdges project.edges).stats.text)

/-- The callees to be shown, each with its callers. -/
def shownCallers (g : CallGraph) (callee : Option String) : List (String × List String) :=
  let callees := match callee with
    | some id => [id]
    | none => Text.ascending g.callees
  (callees.map fun id => (id, g.callers id)).filter fun entry => !entry.2.isEmpty

def printTable (w : Session) (t : Display.Table) : Result :=
  match t.text with
  | .ok text => .ok (w.prints text)
  | .error fault => .error (.markup fault)

def printGraph (w : Session) (g : CallGraph) (callee : Option String) : Result :=
  match shownCallers g callee with
  | [] => .ok (w.prints (line "No call edges found."))
  | entries =>
    w.printTable
      { title := "Reverse call graph"
        headings := ["Callee", "Callers"]
        rows := entries.map fun (id, callers) => [id, listing callers]
        overflow := .fold }

def formats : List String := ["dot", "json"]

/-- Writes a graph to a file, by default one that is called like the project. -/
def exportGraph (w : Session) (s : Settings) (p : ProjectOptions) (format focus : String)
    (output : Option Path) : Result := do
  let format := String.ofList (format.toList.map Char.toLower)
  if !formats.contains format then
    throw (.usage (.badValue ("Format must be one of: " ++ Text.joined ", " formats)))
  let project ← w.project s p
  let graph := CallGraph.ofEdges project.edges
  let standard :=
    (FileTree.pathOf w.files.current).child
      s!"{(w.files.resolve p.project).name}_callgraph.{format}"
  let target := output.getD standard
  let text := if format = "dot" then graph.dot focus s.selection.naming.isTest else graph.json focus
  w.writes target text (line s!"Exported graph to {w.files.shown target}") ""

def showSettings (w : Session) : Result :=
  match Settings.load w.files w.settingsFile with
  | .error fault => .error (.settings fault)
  | .ok (s, _) =>
    w.printTable
      { title := s!"Configuration ({w.settingsFile.text})"
        headings := ["Setting", "Value"]
        rows :=
          [["extensions", Text.joined ", " s.selection.extensions],
           ["test_prefixes", Text.joined ", " s.selection.naming.prefixes],
           ["test_suffixes", Text.joined ", " s.selection.naming.suffixes],
           ["backend", s.analysis.backend.name],
           ["git_base", s.analysis.base]]
        overflow := .ellipsis }

/-- The outcome of saves: what it prints tells whether all of them were done. -/
def saved (w : Session) (files : FileTree) (done : Bool) (output : String) : Outcome :=
  if done then { files := files, output := line output }
  else
    { files := files, code := 1
      complaints := line s!"❌ Could not write {w.settingsFile.text}" }

/-- The outcome of a failure: the code and nothing printed. -/
def fails (files : FileTree) (failure : Failure) : Outcome :=
  { files := files, code := failure.code, failure := some failure }

/-- A list that is given only if it has members. -/
def nonempty (l : List String) : Option (List String) := if l.isEmpty then none else some l

/-- Whether an option is given with a text. -/
def isGiven (o : Option String) : Bool := o.any fun s => !s.isEmpty

/-- One save, if it is needed, after others; `done` says whether all of those were done. -/
def saveNext (before : FileTree × Except SettingsFault Bool)
    (save : Bool × (FileTree → Settings.Saved)) : FileTree × Except SettingsFault Bool :=
  match before, save with
  | (files, .ok done), (true, save) =>
    let (files, result) := save files
    (files, result.map fun (ok, _) => ok && done)
  | before, _ => before

/-- Saves settings: first those of the selection, then those of the analysis. -/
def setSettings (w : Session) (extensions prefixes suffixes : List String)
    (backend base : Option String) : Outcome :=
  let forSelection := !extensions.isEmpty || !prefixes.isEmpty || !suffixes.isEmpty
  let forAnalysis := isGiven backend || isGiven base
  if !forSelection && !forAnalysis then
    fails w.files (.usage (.badValue "Nothing to set. Pass at least one option."))
  else if (backend.filter fun b => (Backend.ofName? b).isNone).isSome then
    fails w.files (.usage (.badValue
      ("Backend must be one of: " ++ Text.joined ", " (Backend.all.map Backend.name))))
  else
    let saveSelection := fun files => Settings.saveSelection files w.settingsFile
      (nonempty extensions) (nonempty prefixes) (nonempty suffixes)
    let saveAnalysis := fun files => Settings.saveAnalysis files w.settingsFile backend base
    let saves := [(forSelection, saveSelection), (forAnalysis, saveAnalysis)]
    match saves.foldl saveNext (w.files, .ok true) with
    | (files, .ok done) => w.saved files done s!"✅ Saved configuration to {w.settingsFile.text}"
    | (files, .error fault) => fails files (.settings fault)

def resetSettings (w : Session) : Outcome :=
  match Settings.clear w.files w.settingsFile with
  | (files, .ok (done, _)) => w.saved files done "✅ Configuration reset to defaults."
  | (files, .error fault) => fails files (.settings fault)

def outcome (w : Session) (r : Result) : Outcome :=
  match r with
  | .ok o => o
  | .error failure => fails w.files failure

def versionText : String := "TestGraph CLI v0.1.0"

def helpText : String :=
  Text.joined "\n"
    ("Usage: tg [OPTIONS] COMMAND [ARGS]..." :: "Commands:" :: commandNames.map ("  " ++ ·))

/-- Runs a command. Version control is asked once the project is known to be readable. -/
def run (w : Session) (s : Settings) : Command → Outcome
  | .version => w.prints (line versionText)
  | .help => w.prints (line helpText)
  | .select p d prefixes suffixes output =>
    match w.index s p with
    | .error failure => fails w.files failure
    | .ok i =>
      let result := do
        let affected ← w.select s i d (s.selection.namingOr prefixes suffixes)
        w.printSelected affected output
      { w.outcome result with calls := calls s p d }
  | .changed p d =>
    match w.index s p with
    | .error failure => fails w.files failure
    | .ok i =>
      { w.outcome ((w.changed s i d).map w.printListing) with calls := calls s p d }
  | .graphStats p => w.outcome ((w.project s p).map w.printStats)
  | .graphShow p callee =>
    w.outcome do w.printGraph (CallGraph.ofEdges (← w.project s p).edges) callee
  | .graphExport p format focus output => w.outcome (w.exportGraph s p format focus output)
  | .configShow => w.outcome w.showSettings
  | .configSet extensions prefixes suffixes backend base =>
    w.setSettings extensions prefixes suffixes backend base
  | .configReset => w.resetSettings

/-- Runs a command line. Settings that cannot be read end the run before anything else. -/
def runArguments (w : Session) (defaultLevel : String) (args : List String) :
    Except SettingsFault Outcome := do
  let (s, _) ← Settings.load w.files w.settingsFile
  match Command.read w.files defaultLevel args with
  | .ok command => return w.run s command
  | .error fault => return fails w.files (.usage fault)

end Session

end TestImpact.CommandLine
