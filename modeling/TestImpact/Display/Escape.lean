/-
  Escape sequences of a terminal.

  A sequence is an escape character, an opening bracket, any number of digits,
  semicolons and question marks, and one letter. It changes how a terminal
  shows what follows. Where there is no terminal, a text is printed without its
  sequences, wherever they come from.
-/

namespace TestImpact.Display

/-- Whether a character may stand between the bracket and the letter of a sequence. -/
def isParameter (c : Char) : Bool := c.isDigit || c == ';' || c == '?'

/-- How many characters a text begins with that end a sequence: the parameters and the letter. -/
def endingLength? : List Char → Option Nat
  | [] => none
  | c :: rest =>
    if isParameter c then (endingLength? rest).map (· + 1)
    else if c.isAlpha then some 1
    else none

/-- How many characters belong to a sequence whose escape character stands before a text. -/
def sequenceLength? : List Char → Option Nat
  | '[' :: rest => (endingLength? rest).map (· + 1)
  | _ => none

/-- A text without its sequences; the first characters of it, `skipped` of them, are the rest of
one. -/
def withoutSequences (skipped : Nat) : List Char → List Char
  | [] => []
  | c :: rest =>
    match skipped with
    | n + 1 => withoutSequences n rest
    | 0 =>
      if c == '\x1b' then
        match sequenceLength? rest with
        | some n => withoutSequences n rest
        | none => c :: withoutSequences 0 rest
      else c :: withoutSequences 0 rest

def plain (s : String) : String := String.ofList (withoutSequences 0 s.toList)

end TestImpact.Display
