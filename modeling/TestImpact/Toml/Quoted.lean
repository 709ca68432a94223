import TestImpact.Toml.Fault
import TestImpact.Toml.Number
import TestImpact.Text.Printable

/-
  Quoted texts.

  A text stands between two apostrophes or two quotation marks, or between
  three of them. Only in quotation marks does a backslash begin an escape. A
  text is read in steps: what stands behind the closing quote is refused, then
  unknown escapes, then code points are put in for `\u` and `\U`, and last the
  other escapes are resolved.

  `Quoted.write` gives a text in quotation marks. It spells the characters that
  do not print by their code points, but a control character loses its
  backslash, and none may stand at the front.
-/

namespace TestImpact.Toml

def isQuote (c : Char) : Bool := c == '"' || c == '\''

/-- A text without its first and its last character. -/
def inner (cs : List Char) : List Char := cs.tail.dropLast

/-- Whether a text ends in an odd number of backslashes. -/
def endsInEscape (cs : List Char) : Bool :=
  (cs.reverse.takeWhile (· == '\\')).length % 2 == 1

/-- Cuts a text wherever two characters stand side by side; there is always at least one
piece. -/
def splitAtPair (a b : Char) : List Char → List (List Char)
  | c :: d :: cs =>
    if c = a ∧ d = b then [] :: splitAtPair a b cs
    else Text.consToFirst c (splitAtPair a b (d :: cs))
  | cs => [cs]

/-- Pieces with a separator between each two of them. -/
def joinWith (sep : List Char) (pieces : List (List Char)) : List Char := sep.intercalate pieces

/-- The characters that stand for others behind a backslash, and which. -/
def escapes : List (Char × Char) :=
  [('0', '\x00'), ('b', '\x08'), ('f', '\x0c'), ('n', '\n'), ('r', '\r'), ('t', '\t'), ('"', '"')]

def escaped? (c : Char) : Option Char := (escapes.find? (·.1 = c)).map (·.2)

/-- Resolves escapes; those of code points stay. -/
def unescape : List Char → Except Fault (List Char)
  | [] => .ok []
  | ['\\'] => .ok ['\\']
  | '\\' :: c :: cs =>
    match escaped? c with
    | some d => (unescape cs).map (d :: ·)
    | none =>
      if c = '\\' then (unescape cs).map ('\\' :: ·)
      else if c = 'u' ∨ c = 'U' then (unescape cs).map fun rest => '\\' :: c :: rest
      else .error .malformed
  | c :: cs => (unescape cs).map (c :: ·)

/-- Whether an unknown escape stands in a text, given as the pieces behind its backslashes.
Behind two backslashes everything may stand. -/
def unknownEscape (paired : Bool) : List (List Char) → Bool
  | [] => false
  | [] :: pieces => unknownEscape (!paired) pieces
  | (c :: _) :: pieces =>
    ((escaped? c).isNone && c != 'u' && c != 'U' && !paired) || unknownEscape false pieces

/-- The character with the code point that digits of base 16 name. -/
def codePoint (digits : List Char) : Except Fault Char :=
  match digits.mapM (fun c => if c.toNat < 128 then digitInBase? 16 c else none) with
  | none => .error .malformed
  | some ds =>
    match lowered digits with
    | [] => .error .noCharacter
    | ['d'] => .error .noCharacter
    | 'd' :: c :: _ => if c < '0' ∨ '7' < c then .error .malformed else ofNumber (ofDigits 16 ds)
    | _ => ofNumber (ofDigits 16 ds)
where
  ofNumber (n : Nat) : Except Fault Char :=
    if 0x7fffffff < n then .error .codePointTooLarge
    else if n.isValidChar then .ok (Char.ofNat n)
    else .error .malformed

/-- Puts in characters for code points: each piece begins with the digits of one, unless the
piece before it ends in a backslash and is skipped over itself. -/
def putCodePoints (mark : List Char) (count : Nat) (skip : Bool) :
    List (List Char) → Except Fault (List Char)
  | [] => .ok []
  | piece :: pieces =>
    if skip then
      (putCodePoints mark count (endsInEscape piece) pieces).map fun rest => mark ++ piece ++ rest
    else do
      let c ← codePoint (piece.take count)
      let rest ← putCodePoints mark count false pieces
      return c :: piece.drop count ++ rest

/-- Puts in characters for the code points that one letter announces. -/
def resolveCodePoints (letter : Char) (count : Nat) (cs : List Char) : Except Fault (List Char) :=
  match splitAtPair '\\' letter cs with
  | [] => .ok []
  | first :: pieces =>
    (putCodePoints ['\\', letter] count (endsInEscape first) pieces).map (first ++ ·)

/-- Whether something stands behind the closing quote. The text is given as the pieces between
its quotes; `count` is the number of empty ones since the last other. -/
def runsOn (triple : Bool) (closed : Bool) (count : Nat) : List (List Char) → Bool
  | [] => false
  | [] :: pieces =>
    if triple then runsOn triple closed (count + 1) pieces else runsOn triple true count pieces
  | piece :: pieces =>
    if endsInEscape piece then runsOn triple closed count pieces
    else if closed then true
    else if triple ∧ count ≤ 1 then runsOn triple closed 0 pieces
    else runsOn triple true count pieces

/-- Takes the quotes off a text. -/
def withoutQuotes (quote : Char) (cs : List Char) : List Char :=
  match cs with
  | [_, d] => if d = quote then [] else inner cs
  | _ :: d :: e :: _ => if d = quote ∧ d = e then inner (inner (inner cs)) else inner cs
  | _ => inner cs

namespace Quoted

def read (cs : List Char) : Except Fault (List Char) := do
  let quote := cs.headD '"'
  let (triple, pieces) :=
    match Text.splitAt quote cs.tail with
    | [] :: [] :: pieces => (true, pieces)
    | pieces => (false, pieces)
  if runsOn triple false 0 pieces then throw .malformed
  if quote = '"' then
    if unknownEscape false (Text.splitAt '\\' cs).tail then throw .malformed
    let cs ← resolveCodePoints 'u' 4 cs
    let cs ← resolveCodePoints 'U' 8 cs
    return withoutQuotes quote (← unescape cs)
  else return withoutQuotes quote cs

/-- Two backslashes become one, from the front on. -/
def halved : List Char → List Char
  | '\\' :: '\\' :: cs => '\\' :: halved cs
  | c :: cs => c :: halved cs
  | [] => []

/-- What takes the place of the escape between two pieces: a letter alone, or the front of a
longer escape where a backslash is left over. -/
def link (front : List Char) : List Char :=
  match front.reverse with
  | [] => []
  | c :: rest =>
    let run := ((c :: rest).takeWhile (· == '\\')).length
    let whole := run == rest.length + 1
    let steps := if whole then run - 1 else run
    if (c != '\\') == (steps % 2 == 0) then ['x'] else ['u', '0', '0']

/-- Joins the pieces between the escapes of control characters. -/
def linked (front : List Char) : List (List Char) → Option (List Char)
  | [] => some front
  | piece :: pieces =>
    if front.isEmpty then
      match pieces with
      | [] => none
      | next :: more =>
        let front := halved piece
        linked (front ++ link front ++ next) more
    else
      let front := halved front
      linked (front ++ link front ++ piece) pieces

/-- A text as its quoted form spells it, without the quotes. -/
def body (s : String) : List Char :=
  let quote := Text.quoteFor s.toList
  s.toList.flatMap fun c =>
    if quote = '\'' then
      if c = '\'' then ['\'']
      else if c = '"' then ['\\', '"']
      else Text.quotedChar quote c
    else Text.quotedChar quote c

/-- Writes a text in quotation marks, if it can be written. -/
def write? (s : String) : Option String :=
  match splitAtPair '\\' 'x' (body s) with
  | [] => some "\"\""
  | front :: pieces => (linked front pieces).map fun cs => "\"" ++ String.ofList cs ++ "\""

end Quoted

end TestImpact.Toml
