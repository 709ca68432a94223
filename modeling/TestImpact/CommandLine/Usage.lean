import TestImpact.CommandLine.Suggestion
import TestImpact.Text.Dotted
import TestImpact.Text.Printable

/-
  What can be wrong with a command line.
-/

namespace TestImpact.CommandLine

inductive UsageFault where
  /-- An option that there is not, and options and commands with a similar name. -/
  | unknownOption (name : String) (similar commands : List String)
  | missingValue (option : String)
  | unwantedValue (option : String)
  | missingOperand (name : String)
  | badOperand (name reason : String)
  | badValue (reason : String)
  | extraOperands (operands : List String)
  /-- A command that there is not, and others with a similar name. -/
  | unknownCommand (name : String) (similar : List String)
  | missingCommand
  deriving DecidableEq, Repr

def optionProposal (names : List String) : String :=
  match Text.ascending names with
  | [] => ""
  | [name] => s!" Did you mean {name}?"
  | names => " (Possible options: " ++ Text.joined ", " names ++ ")"

def commandProposal (names : List String) : String :=
  if names.isEmpty then ""
  else " Did you mean " ++ Text.joined ", " (names.map Text.quoted) ++ "?"

def UsageFault.message : UsageFault → String
  | unknownOption name similar commands =>
    s!"No such option: {name}" ++ (if commands.isEmpty then "" else ".") ++ commandProposal commands
      ++ optionProposal similar
  | missingValue option => s!"Option {Text.quoted option} requires an argument."
  | unwantedValue option => s!"Option {Text.quoted option} does not take a value."
  | missingOperand name => s!"Missing argument {Text.quoted name}."
  | badOperand name reason => s!"Invalid value for {Text.quoted name}: {reason}"
  | badValue reason => s!"Invalid value: {reason}"
  | extraOperands operands =>
    "Got unexpected extra argument(s) (" ++ Text.joined " " operands ++ ")"
  | unknownCommand name similar =>
    s!"No such command {Text.quoted name}." ++ commandProposal similar
  | missingCommand => "Missing command."

end TestImpact.CommandLine
