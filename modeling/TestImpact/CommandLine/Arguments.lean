import TestImpact.CommandLine.Usage

/-
  Arguments: options, their values, and operands.

  An argument that begins with a dash and goes on is an option. A long option
  has its value behind an equals sign or in the next argument, whatever that
  looks like; a short one in the rest of its argument or in the next one. Short
  options without values may stand together behind one dash. Two dashes end the
  options. A command that has commands of its own takes no option behind its
  first operand.
-/

namespace TestImpact.CommandLine

/-- An option that a command knows. -/
structure OptionSpec where
  name : String
  short : Option Char
  takesValue : Bool
  deriving DecidableEq, Repr

def OptionSpec.long (o : OptionSpec) : String := "--" ++ o.name

/-- The options that are given, in their order, each with its value if it takes one, and the
other arguments. -/
structure Arguments where
  options : List (String × String)
  operands : List String
  deriving DecidableEq, Repr

namespace Arguments

def values (a : Arguments) (name : String) : List String :=
  (a.options.filter (·.1 = name)).map (·.2)

/-- The last value of an option. -/
def value? (a : Arguments) (name : String) : Option String := (a.values name).getLast?

def has (a : Arguments) (name : String) : Bool := a.options.any (·.1 = name)

/-- What an option takes: itself, and how many of the arguments behind it. -/
abbrev Taken := List (String × String) × Nat

/-- A value in the next argument. -/
def nextValue (name shown : String) (rest : List String) : Except UsageFault Taken :=
  match rest with
  | [] => .error (.missingValue shown)
  | value :: _ => .ok ([(name, value)], 1)

/-- Reads short options behind one dash. -/
def readShort (specs : List OptionSpec) (rest : List String) : List Char → Except UsageFault Taken
  | [] => .ok ([], 0)
  | c :: cs =>
    match specs.find? (·.short = some c) with
    | none => .error (.unknownOption (String.ofList ['-', c]) [] [])
    | some spec =>
      if spec.takesValue then
        if cs.isEmpty then nextValue spec.name (String.ofList ['-', c]) rest
        else .ok ([(spec.name, String.ofList cs)], 0)
      else do
        let (options, n) ← readShort specs rest cs
        return ((spec.name, "") :: options, n)

def readOption (specs : List OptionSpec) (arg : List Char) (rest : List String) :
    Except UsageFault Taken :=
  let long := String.ofList (arg.takeWhile (· ≠ '='))
  match specs.find? (·.long = long), arg.dropWhile (· ≠ '=') with
  | some spec, [] =>
    if spec.takesValue then nextValue spec.name long rest else .ok ([(spec.name, "")], 0)
  | some spec, _ :: value =>
    if spec.takesValue then .ok ([(spec.name, String.ofList value)], 0)
    else .error (.unwantedValue long)
  | none, _ =>
    match arg with
    | '-' :: '-' :: _ =>
      .error (.unknownOption long (closeNames long (specs.map OptionSpec.long)) [])
    | _ => readShort specs rest arg.tail

/-- Reads arguments; `stops` says that the options end at the first operand. -/
def read (specs : List OptionSpec) (stops : Bool) (args : List String) :
    Except UsageFault Arguments :=
  match args with
  | [] => .ok ⟨[], []⟩
  | arg :: rest =>
    match arg.toList with
    | ['-', '-'] => .ok ⟨[], rest⟩
    | '-' :: c :: cs => do
      let (options, n) ← readOption specs ('-' :: c :: cs) rest
      let more ← read specs stops (rest.drop n)
      return { more with options := options ++ more.options }
    | _ =>
      if stops then .ok ⟨[], arg :: rest⟩
      else do
        let more ← read specs stops rest
        return { more with operands := arg :: more.operands }
  termination_by args.length
  decreasing_by all_goals simp_wf; try omega

end Arguments

end TestImpact.CommandLine
