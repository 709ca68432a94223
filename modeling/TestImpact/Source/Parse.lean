import TestImpact.Source.Token
import TestImpact.Source.Literal
import TestImpact.Source.Tree

/-
  Steps of reading tokens.

  A `Parse` takes tokens off the front of a list or fails; alternatives are
  tried in order, each from the same place. Rules that contain themselves are
  not called by name: they are named by a `Goal`, and `Grammar.read` reads
  one. A rule asks for a goal only after it has taken a token, so a goal is
  never asked for more often in a row than there are tokens.
-/

namespace TestImpact.Source

/-- The tokens to come, and the last row read. -/
structure Cursor where
  rest : List Token
  row : Nat

abbrev Parse := StateT Cursor Option

inductive Goal where
  /-- An expression. -/
  | expression
  /-- An expression that may be named in passing. -/
  | named
  /-- Expressions with commas between, which may be starred. -/
  | values
  /-- An operand of `if` and `else`. -/
  | disjunction
  /-- An operand of a comparison. -/
  | operand
  /-- An operand of a power. -/
  | factor
  /-- Places for an assignment. -/
  | targets
  /-- A pattern of a case. -/
  | pattern
  /-- A statement. -/
  | statement
  /-- What follows the colon of a compound statement. -/
  | block
  deriving DecidableEq, Repr

/-- A dialect, and how to read a goal. -/
structure Grammar where
  dialect : Dialect
  read : Goal → Parse Tree

namespace Parse

def peek : Parse Token := do
  let s ← get
  return s.rest.headD (.mark .textEnd s.row)

def take : Parse Token := do
  let s ← get
  match s.rest with
  | [] => failure
  | t :: rest =>
    set (Cursor.mk rest t.last)
    return t

/-- Whether a token is a word or an operator with a text. -/
def isText (t : Token) (text : String) : Bool :=
  (t.kind = .word || t.kind = .operator) && t.text = text

def sees (text : String) : Parse Bool := do return isText (← peek) text

def seesAny (texts : List String) : Parse Bool := do return texts.any (isText (← peek))

def seesKind (kind : TokenKind) : Parse Bool := do return (← peek).kind = kind

def expect (text : String) : Parse Unit := do
  if ← sees text then let _ ← take else failure

def expectKind (kind : TokenKind) : Parse Token := do
  if ← seesKind kind then take else failure

/-- Takes the next token if it has a text, and tells whether it had. -/
def accept (text : String) : Parse Bool := do
  if ← sees text then
    let _ ← take
    return true
  else return false

/-- Takes the next token if a condition holds and it has a text, and tells whether it did. -/
def acceptIf (condition : Bool) (text : String) : Parse Bool :=
  if condition then accept text else pure false

def check (b : Bool) : Parse Unit := if b then pure () else failure

def row : Parse Nat := do return (← peek).first

/-- A node from a row to the last row read. -/
def nodeFrom (first : Nat) (kind : Kind) (children : List Tree) : Parse Tree := do
  return .node kind none "" first (← get).row children

/-- Repeats a step as long as it succeeds, at most as often as there are tokens in a list. -/
def repeated {α : Type} (p : Parse α) : List Token → Parse (List α)
  | [] => return []
  | _ :: n => do
    match ← (some <$> p) <|> pure none with
    | none => return []
    | some a => return a :: (← repeated p n)

def many {α : Type} (p : Parse α) : Parse (List α) := do
  repeated p (← get).rest

/-- What a step reads, or nothing. -/
def optionally {α : Type} (p : Parse α) : Parse (List α) := (do return [← p]) <|> pure []

/-- Reads something once, and again after each separator. -/
def separated {α : Type} (separator : String) (p : Parse α) : Parse (List α) := do
  let x ← p
  let xs ← many do
    expect separator
    p
  return x :: xs

/-- Reads things with commas between, and maybe one after the last; tells whether there was
any comma. -/
def commaList {α : Type} (p : Parse α) : Parse (List α × Bool) := do
  let xs ← separated "," p
  let trailing ← accept ","
  return (xs, trailing || 1 < xs.length)

/-- Reads other tokens than those to come, all on the last row read, and then goes on where it
was. -/
def within {α : Type} (tokens : List Token) (p : Parse α) : Parse α := do
  let here ← get
  set (Cursor.mk (tokens.map (·.onRow here.row)) here.row)
  let x ← p
  set here
  return x

/-- Reads the name of something that is declared or bound. -/
def identifier : Parse Tree := do
  let t ← take
  check (t.kind = .word && !keywords.contains t.text)
  return .node .identifier none t.text t.first t.last []

end Parse

namespace Grammar

def isTolerant (g : Grammar) : Bool := g.dialect.isTolerant

/-- Reads the name of an attribute or of a definition; the tolerant grammar takes any word. -/
def memberName (g : Grammar) : Parse Tree :=
  if g.isTolerant then do
    let t ← Parse.expectKind .word
    return .node .identifier none t.text t.first t.last []
  else Parse.identifier

end Grammar

end TestImpact.Source
