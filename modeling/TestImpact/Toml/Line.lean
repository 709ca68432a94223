import TestImpact.Toml.Fault
import TestImpact.Toml.Quoted

/-
  Lines of a document.

  A first pass over the text decides where its lines end. Comments become
  blanks, and so do line ends inside of lists. A line end inside of a text in
  three quotes stays, but directly behind the opening quotes it is dropped, by
  moving the quotes one place on. The pass also checks what stands before each
  equals sign, and that every quote is closed on its line.

  Quotes and brackets are told by looking back over what was passed. Looking
  back from the first character one sees the end of the text.
-/

namespace TestImpact.Toml

/-- Where the pass is in a name: not in one, within it, or behind its last letter. -/
inductive NamePart where
  | outside
  | within
  | behind
  deriving DecidableEq, Repr

/-- What the pass knows: the characters passed, the last first, and what is open there.
`lists` counts brackets, `fresh` says that the line is blank so far. -/
structure Scan where
  passed : List Char
  name : NamePart := .outside
  dotted : Bool := false
  quote : Option Char := none
  block : Bool := false
  lists : Int := 0
  header : Bool := false
  listHeader : Bool := false
  fresh : Bool := true
  comment : Bool := false

namespace Scan

/-- Passes a character, written as it is. -/
def push (s : Scan) (c : Char) : Scan := { s with passed := c :: s.passed }

/-- Whether a list begins with an odd number of backslashes. -/
def escapedBy (passed : List Char) : Bool := (passed.takeWhile (· == '\\')).length % 2 == 1

/-- The name goes on at the next character unless that is blank or a dot. -/
def resume (s : Scan) (rest : List Char) : Except Fault Scan :=
  match rest with
  | [] => .error .noItem
  | c :: _ => .ok (if Text.isBlank c ∨ c = '.' then s else { s with name := .within })

/-- One character of a name; nothing if it ends the name. -/
def inName (s : Scan) (c : Char) (rest : List Char) : Except Fault (Option Scan) :=
  match s.quote, s.name with
  | some q, _ =>
    if c = q ∧ !escapedBy s.passed then .ok (some { s with name := .behind, quote := none })
    else .ok (some s)
  | none, .behind =>
    if Text.isBlank c then
      if s.dotted then (s.resume rest).map some else .ok (some s)
    else if c = '.' then ({ s with dotted := true }.resume rest).map some
    else .ok none
  | none, _ =>
    if Text.isBlank c then .ok (some { s with name := .behind })
    else if c = '.' then .ok (some { s with dotted := true })
    else if Text.isLetterOrNumber c ∨ c = '_' ∨ c = '-' then .ok (some s)
    else if s.dotted ∧ s.passed.head? = some '.' ∧ isQuote c then
      .ok (some { s with quote := some c })
    else .ok none

/-- The quote is open if it was not, or by its third sign. -/
def toggle (s : Scan) (q : Char) (triple : Bool) : Scan :=
  if triple then { s with block := !s.block, quote := if s.block then none else some q }
  else { s with quote := if s.quote.isSome then none else some q }

/-- A quote outside of names. -/
def atQuote (s : Scan) (c : Char) : Scan :=
  let before := (s.passed.take 2).takeWhile (· == c)
  if c = '\'' ∧ s.quote ≠ some '"' then s.toggle c (before.length == 2)
  else if c = '"' ∧ s.quote ≠ some '\'' then
    if before.length ≠ 1 ∧ escapedBy (s.passed.drop before.length) then s
    else s.toggle c (before.length == 2)
  else s

/-- A bracket outside of names and quotes. -/
def atBracket (s : Scan) (c : Char) (rest : List Char) : Scan :=
  if c = '[' ∧ !s.header ∧ !s.listHeader then
    if !s.fresh then { s with lists := s.lists + 1 }
    else if rest.head? = some '[' then { s with listHeader := true }
    else { s with header := true }
  else if c = ']' then
    if s.header then { s with header := false }
    else if s.listHeader then { s with listHeader := s.passed.head? ≠ some ']' }
    else { s with lists := s.lists - 1 }
  else s

/-- The end of a line, written as the place asks for. -/
def atLineEnd (s : Scan) : Except Fault Scan :=
  if s.quote.isSome ∨ s.block then
    if !s.block then .error .malformed
    else match s.passed with
      | a :: b :: d :: more =>
        if isQuote a ∧ b = a then
          .ok { s with passed := a :: a :: b :: (if d = a then ' ' else d) :: more }
        else .ok (s.push '\n')
      | _ => .ok (s.push '\n')
  else if s.lists ≠ 0 then .ok (s.push ' ')
  else .ok ({ s with fresh := true }.push '\n')

/-- A character outside of names. -/
def outside (s : Scan) (c : Char) (rest : List Char) : Except Fault Scan :=
  if c = '\n' then s.atLineEnd
  else
    let s := s.atQuote c
    if c = '#' ∧ s.quote.isNone ∧ !s.header ∧ !s.listHeader then
      .ok ({ s with comment := true }.push ' ')
    else
      let wasFresh := s.fresh
      let s := if s.quote.isNone then s.atBracket c rest else s
      if wasFresh ∧ c ≠ ' ' ∧ c ≠ '\t' then
        let s := { s with fresh := false }
        if s.header ∨ s.listHeader then .ok (s.push c)
        else if c = '=' then .error .malformed
        else .ok ({ s with name := .within }.push c)
      else .ok (s.push c)

def step (s : Scan) (c : Char) (rest : List Char) : Except Fault Scan :=
  if s.comment ∧ c ≠ '\n' then .ok (s.push ' ')
  else
    let s := { s with comment := false }
    if s.name = .outside then s.outside c rest
    else if c = '\n' then .error .malformed
    else do
      match ← s.inName c rest with
      | some s => return s.push c
      | none =>
        if c = '=' then ({ s with name := .outside, dotted := false } : Scan).outside c rest
        else throw .malformed

def run (s : Scan) : List Char → Except Fault Scan
  | [] => .ok s
  | c :: rest => do run (← s.step c rest) rest

end Scan

def documentLines (text : List Char) : Except Fault (List (List Char)) := do
  let s ← ({ passed := text.reverse : Scan }).run text
  if s.name ≠ .outside ∨ s.quote.isSome then throw .malformed
  return Text.splitAt '\n' (s.passed.take text.length).reverse

end TestImpact.Toml
