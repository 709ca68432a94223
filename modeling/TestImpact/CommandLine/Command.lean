import TestImpact.CommandLine.Arguments
import TestImpact.FileTree
import TestImpact.Text.Capital

/-
  Commands.

  A command line begins with options of its own, then it names a command, and
  the commands `graph` and `config` name another one. The name is looked for
  before the log level is checked, and that before the options of the command
  are read. The project of a command must be a directory; only then other
  operands are complained about.
-/

namespace TestImpact.CommandLine

/-- The project of a command, its source roots, and the name of a reader; empty where not given. -/
structure ProjectOptions where
  project : Path
  roots : List Path
  backend : String
  deriving DecidableEq, Repr

/-- Where a diff comes from, and which files of it count; empty where not given. -/
structure DiffOptions where
  base : String
  asksVersionControl : Bool
  extensions : List String
  deriving DecidableEq, Repr

/-- Whether version control is to be asked for a diff. -/
def DiffOptions.asks (d : DiffOptions) : Bool := !d.base.isEmpty || d.asksVersionControl

inductive Command where
  | version
  | help
  | select (project : ProjectOptions) (diff : DiffOptions) (prefixes suffixes : List String)
      (output : Option Path)
  | changed (project : ProjectOptions) (diff : DiffOptions)
  | graphStats (project : ProjectOptions)
  | graphShow (project : ProjectOptions) (callee : Option String)
  | graphExport (project : ProjectOptions) (format focus : String) (output : Option Path)
  | configShow
  | configSet (extensions prefixes suffixes : List String) (backend base : Option String)
  | configReset
  deriving DecidableEq, Repr

def Command.readsInput : Command → Bool
  | select _ d .. | changed _ d => !d.asks
  | _ => false

inductive CommandName where
  | select
  | changed
  | graphStats
  | graphShow
  | graphExport
  | configShow
  | configSet
  | configReset
  deriving DecidableEq, Repr

/-! Options -/

def helpOption : OptionSpec := ⟨"help", none, false⟩

/-- The options before the command. Completion of words in a shell is not offered; who asks for
it is shown the help. -/
def leadingOptions : List OptionSpec :=
  [⟨"version", some 'v', false⟩, ⟨"log-level", none, true⟩, ⟨"install-completion", none, false⟩,
   ⟨"show-completion", none, false⟩, helpOption]

def valueOption (name : String) (short : Option Char) : OptionSpec := ⟨name, short, true⟩

def rootOption : OptionSpec := valueOption "source-root" (some 's')
def backendOption : OptionSpec := valueOption "backend" none
def outputOption : OptionSpec := valueOption "output" (some 'o')
def extensionOption : OptionSpec := valueOption "ext" none

/-- The options that say where a diff comes from. -/
def diffOptions : List OptionSpec := [valueOption "base" (some 'b'), ⟨"git", some 'g', false⟩]

/-- The options for the names of tests. -/
def namingOptions : List OptionSpec :=
  [valueOption "test-prefix" none, valueOption "test-suffix" none]

def CommandName.options : CommandName → List OptionSpec
  | select => [rootOption] ++ diffOptions ++ [outputOption, extensionOption] ++ namingOptions
      ++ [backendOption, helpOption]
  | changed => [rootOption] ++ diffOptions ++ [extensionOption, backendOption, helpOption]
  | graphStats => [rootOption, backendOption, helpOption]
  | graphShow => [valueOption "callee" (some 'c'), rootOption, backendOption, helpOption]
  | graphExport => [valueOption "format" (some 'f'), outputOption, valueOption "focus" none,
      rootOption, backendOption, helpOption]
  | configShow => [helpOption]
  | configSet => [extensionOption] ++ namingOptions
      ++ [backendOption, valueOption "git-base" none, helpOption]
  | configReset => [helpOption]

/-! Names -/

/-- What a name of the first level leads to: a command, or more names. -/
inductive Branch where
  | leaf (command : CommandName)
  | group (commands : List (String × CommandName))

/-- The names of the first level. -/
def branches : List (String × Branch) :=
  [("select", .leaf .select), ("changed", .leaf .changed),
   ("graph", .group [("stats", .graphStats), ("show", .graphShow), ("export", .graphExport)]),
   ("config", .group [("show", .configShow), ("set", .configSet), ("reset", .configReset)])]

/-- What the options before a command ask for, if it is done at once: the first of them counts. -/
def immediate? (a : Arguments) : Option Command :=
  match a.options.find? fun o => o.1 ≠ "log-level" with
  | some ("version", _) => some .version
  | some _ => some .help
  | none => none

def commandNames : List String :=
  branches.flatMap fun (name, branch) =>
    match branch with
    | .leaf _ => [name]
    | .group names => names.map fun (more, _) => name ++ " " ++ more

/-- The fault of a name that leads nowhere. A name behind two dashes may look like an option; it
is read as one then, and what that gives comes first. -/
def noCommand (specs : List OptionSpec) (names : List String) (name : String)
    (rest : List String) : Except UsageFault Command :=
  let similar := closeNames name names
  match Arguments.read specs true (name :: rest) with
  | .error (.unknownOption option options _) => .error (.unknownOption option options similar)
  | .error fault => .error fault
  | .ok a =>
    match immediate? a with
    | some command => .ok command
    | none => .error (.unknownCommand name similar)

/-! Reading -/

def logLevels : List String := ["DEBUG", "INFO", "WARNING", "ERROR", "CRITICAL"]

/-- Refuses a log level that there is not; large and small letters are the same. -/
def checkLogLevel (level : String) : Except UsageFault Unit :=
  if logLevels.contains (Text.toCapitals level) then .ok ()
  else .error (.badValue s!"Unknown log level '{level}'")

def directoryOperand (t : FileTree) (name operand : String) : Except UsageFault Path :=
  let p := Path.ofText operand
  let namesDirectory := Text.endsWith operand "/" || Text.endsWith operand "/."
  if operand ≠ "" ∧ t.leadsToDirectory p then .ok p
  else if operand ≠ "" ∧ t.leadsToFile p ∧ !namesDirectory then
    .error (.badOperand name s!"dir {Text.quoted operand} is a file.")
  else .error (.badOperand name s!"dir {Text.quoted operand} does not exist.")

/-- Refuses operands. -/
def noOperands (operands : List String) : Except UsageFault Unit :=
  if operands.isEmpty then .ok () else .error (.extraOperands operands)

namespace ProjectOptions

/-- The options for a project: its path is the only operand. -/
def ofArguments (t : FileTree) (a : Arguments) : Except UsageFault ProjectOptions := do
  match a.operands with
  | [] => throw (.missingOperand "project_path")
  | operand :: more =>
    let project ← directoryOperand t "project_path" operand
    noOperands more
    return ⟨project, (a.values "source-root").map Path.ofText, (a.value? "backend").getD ""⟩

end ProjectOptions

def DiffOptions.ofArguments (a : Arguments) : DiffOptions :=
  ⟨(a.value? "base").getD "", a.has "git", a.values "ext"⟩

def CommandName.read (name : CommandName) (t : FileTree) (args : List String) :
    Except UsageFault Command := do
  let a ← Arguments.read name.options false args
  if a.has "help" then return .help
  let prefixes := a.values "test-prefix"
  let suffixes := a.values "test-suffix"
  let output := (a.value? "output").map Path.ofText
  match name with
  | select =>
    return .select (← ProjectOptions.ofArguments t a) (DiffOptions.ofArguments a) prefixes suffixes
      output
  | changed => return .changed (← ProjectOptions.ofArguments t a) (DiffOptions.ofArguments a)
  | graphStats => return .graphStats (← ProjectOptions.ofArguments t a)
  | graphShow => return .graphShow (← ProjectOptions.ofArguments t a) (a.value? "callee")
  | graphExport =>
    return .graphExport (← ProjectOptions.ofArguments t a) ((a.value? "format").getD "dot")
      ((a.value? "focus").getD "") output
  | configShow => do
    noOperands a.operands
    return .configShow
  | configSet => do
    noOperands a.operands
    return .configSet (a.values "ext") prefixes suffixes (a.value? "backend") (a.value? "git-base")
  | configReset => do
    noOperands a.operands
    return .configReset

/-- Reads what follows a name of the first level. -/
def Branch.read (b : Branch) (t : FileTree) (args : List String) : Except UsageFault Command :=
  match b with
  | leaf name => name.read t args
  | group names => do
    let a ← Arguments.read [helpOption] true args
    match immediate? a, a.operands with
    | some command, _ => return command
    | none, [] => throw .missingCommand
    | none, name :: rest =>
      match names.find? (·.1 = name) with
      | some (_, found) => found.read t rest
      | none => noCommand [helpOption] (names.map (·.1)) name rest

def Command.read (t : FileTree) (defaultLevel : String) (args : List String) :
    Except UsageFault Command := do
  let a ← Arguments.read leadingOptions true args
  match immediate? a, a.operands with
  | some command, _ => return command
  | none, [] => throw .missingCommand
  | none, name :: rest =>
    match branches.find? (·.1 = name) with
    | none => noCommand leadingOptions (branches.map (·.1)) name rest
    | some (_, branch) =>
      checkLogLevel ((a.value? "log-level").getD defaultLevel)
      branch.read t rest

end TestImpact.CommandLine
