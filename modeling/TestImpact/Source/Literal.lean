import TestImpact.Source.Lexeme

/-
  String literals: their escapes, and the expressions inside them.

  A string with the mark `f` holds replacement fields: an expression in
  braces, and after it an equals sign, a conversion and a format, each of
  which may be missing; a format may hold fields again, one level deep. Doubled
  braces outside of fields stand for themselves. The expressions are found by
  counting brackets and skipping strings; they are read as source texts of
  their own.

  In the strict dialect an expression holds neither a backslash nor a `#`
  outside of strings, it is not blank, and a closing brace does not stand
  alone; escapes that give a code point must be complete.
-/

namespace TestImpact.Source

/-- What counts of a string literal: whether it is one of bytes, and the texts of the
expressions in it, in order. -/
structure Literal where
  bytes : Bool
  expressions : List (List Char)
  deriving DecidableEq, Repr

namespace Literal

/-! Escapes -/

/-- The number that digits in base 16 stand for, of either case. -/
def hexValue (cs : List Char) : Nat :=
  cs.foldl (fun n c => 16 * n + (if c.isDigit then c.toNat - 48 else c.toLower.toNat - 87)) 0

/-- Whether a text begins with so many digits in base 16. -/
def beginsHex (n : Nat) (cs : List Char) : Bool :=
  (cs.take n).length = n && (cs.take n).all Scan.isHexDigit

/-- Whether a text begins with the name of a character in braces: words of letters and digits. Any
such words pass, whether a character is called so or not: there is no table of names, and a text
with an unknown one, which the language refuses, is read as if the name were known. -/
def beginsName : List Char → Bool
  | '{' :: rest =>
    let name := rest.takeWhile (· ≠ '}')
    !name.isEmpty && name.length < rest.length
      && name.all (fun c => c.isAlphanum || c = ' ' || c = '-')
  | _ => false

/-- Whether the escapes of a text are complete; `bytes` know only the one with two digits. -/
def escapesComplete (bytes : Bool) : List Char → Bool
  | [] => true
  | '\\' :: c :: rest =>
    (if c = 'x' then beginsHex 2 rest
      else if bytes then true
      else if c = 'u' then beginsHex 4 rest
      else if c = 'U' then beginsHex 8 rest && hexValue (rest.take 8) < 0x110000
      else if c = 'N' then beginsName rest
      else true)
      && escapesComplete bytes rest
  | _ :: rest => escapesComplete bytes rest

/-! Replacement fields -/

/-- A front part of a text, what follows it, and whether the part ended in a doubled brace. -/
structure Piece where
  front : List Char
  rest : List Char
  doubled : Bool

def Piece.cons (c : Char) (p : Piece) : Piece := { p with front := c :: p.front }

/-- The text up to the next field, to a brace that closes a format, to a doubled brace or to
the end. Braces are doubled at the top level only, and there one may not close what was not
opened. `named` tells that the name of a character is being passed over. -/
def textPiece (d : Dialect) (raw top named : Bool) : List Char → Option Piece
  | [] => some ⟨[], [], false⟩
  | c :: rest =>
    let brace := fun (c : Char) (after : List Char) =>
      if top && after.head? = some c then some (Piece.mk [c] (after.drop 1) true)
      else if top && c = '}' && d = .strict then none
      else some ⟨[], c :: after, false⟩
    if named then (textPiece d raw top (c ≠ '}') rest).map (.cons c)
    else if c = '\\' ∧ !raw then
      match rest with
      | [] => some ⟨[c], [], false⟩
      | next :: rest' =>
        if next = 'N' then
          match rest' with
          | [] => some ⟨[c, next], [], false⟩
          | mark :: rest'' =>
            (textPiece d raw top (mark = '{') rest'').map
              fun p => .cons c (.cons next (.cons mark p))
        else if next = '{' ∨ next = '}' then (brace next rest').map (.cons c)
        else (textPiece d raw top false rest').map fun p => .cons c (.cons next p)
    else if c = '{' ∨ c = '}' then brace c rest
    else (textPiece d raw top false rest).map (.cons c)

/-- The expression of a field and what follows it, from the character that ends it on.
`quote` is the quote of the string that is open inside the expression and how many of them end
it, `brackets` are those that must be closed, and `skip` characters are passed over. -/
def expressionPiece (d : Dialect) (quote : Option (Char × Nat)) (brackets : List Char) :
    List Char → Nat → Option Piece
  | [], _ => none
  | c :: rest, skip + 1 => (expressionPiece d quote brackets rest skip).map (.cons c)
  | c :: rest, 0 =>
    if c = '\\' ∧ d = .strict then none
    else match quote with
      | some (q, size) =>
        if c = '\\' then (expressionPiece d quote brackets rest 1).map (.cons c)
        else if c = q ∧ (size = 1 ∨ Scan.beginsTriple q (c :: rest)) then
          (expressionPiece d none brackets rest (size - 1)).map (.cons c)
        else (expressionPiece d quote brackets rest 0).map (.cons c)
      | none =>
        if c = '"' ∨ c = '\'' then
          if Scan.beginsTriple c (c :: rest) then
            (expressionPiece d (some (c, 3)) brackets rest 2).map (.cons c)
          else (expressionPiece d (some (c, 1)) brackets rest 0).map (.cons c)
        else if c = '(' then (expressionPiece d none (')' :: brackets) rest 0).map (.cons c)
        else if c = '[' then (expressionPiece d none (']' :: brackets) rest 0).map (.cons c)
        else if c = '{' then (expressionPiece d none ('}' :: brackets) rest 0).map (.cons c)
        else if c = '#' ∧ d = .strict then none
        else match brackets with
          | close :: outer =>
            if c = ')' ∨ c = ']' ∨ c = '}' then
              if c = close then (expressionPiece d none outer rest 0).map (.cons c) else none
            else (expressionPiece d none brackets rest 0).map (.cons c)
          | [] =>
            if (c = '!' ∨ c = '=' ∨ c = '<' ∨ c = '>') ∧ rest.head? = some '=' then
              (expressionPiece d none [] rest 1).map (.cons c)
            else if c = '!' ∨ c = ':' ∨ c = '}' ∨ c = '=' then some ⟨[], c :: rest, false⟩
            else if c = ')' ∨ c = ']' then none
            else (expressionPiece d none [] rest 0).map (.cons c)

def isBlankExpression (cs : List Char) : Bool :=
  cs.all fun c => c = ' ' || c = '\t' || c = '\n' || c = '\x0c'

/-- The blanks that may follow the equals sign of a field. -/
def isFieldBlank (c : Char) : Bool :=
  c = ' ' || ('\t' ≤ c && c ≤ '\r')

/-- What follows the equals sign of a field, if there is one. -/
def afterEquals : List Char → List Char
  | '=' :: rest => rest.dropWhile isFieldBlank
  | cs => cs

/-- What follows the conversion of a field; one that stands there must be known. -/
def afterConversion? (d : Dialect) : List Char → Option (List Char)
  | '!' :: c :: rest =>
    if d.isTolerant ∨ c = 's' ∨ c = 'r' ∨ c = 'a' then some rest else none
  | '!' :: [] => none
  | cs => some cs

/-- The deepest level at which fields may stand. -/
def levelLimit (d : Dialect) : Nat :=
  match d with
  | .strict => 2
  | .tolerant => 50

/-- The expressions of a text at a level, 0 for the string itself, and what follows the text:
nothing at level 0, else something that begins with a closing brace. -/
def fields (d : Dialect) (raw : Bool) (level : Nat) :
    Nat → List Char → Option (List (List Char) × List Char)
  | 0, _ => none
  | fuel + 1, cs => do
    let text ← textPiece d raw (level = 0) false cs
    if d = .strict ∧ !raw ∧ !escapesComplete false text.front then none
    if text.doubled then fields d raw level fuel text.rest
    else match text.rest with
      | '{' :: inside =>
        if levelLimit d ≤ level then none
        let expression ← expressionPiece d none [] inside 0
        if isBlankExpression expression.front then none
        let afterMarks ← afterConversion? d (afterEquals expression.rest)
        let (inner, close) ← match afterMarks with
          | ':' :: format => fields d raw (level + 1) fuel format
          | rest => some ([], rest)
        match close with
        | '}' :: rest =>
          let (more, end_) ← fields d raw level fuel rest
          return (expression.front :: inner ++ more, end_)
        | _ => none
      | rest =>
        if level = 0 ∧ d = .tolerant ∧ !rest.isEmpty then fields d raw level fuel (rest.drop 1)
        else some ([], rest)

/-- Reads a string with its marks and quotes. -/
def read (d : Dialect) (text : List Char) : Option Literal := do
  let marks ← Scan.marks? d .none text
  let quotedText := text.drop marks.length
  let size := match quotedText with
    | q :: _ => if Scan.beginsTriple q quotedText then 3 else 1
    | [] => 1
  let body := ((quotedText.drop size).reverse.drop size).reverse
  if marks.format then
    let (expressions, _) ← fields d marks.raw 0 (body.length + 1) body
    return ⟨false, expressions⟩
  else if d.isTolerant then return ⟨marks.bytes, []⟩
  else if marks.bytes ∧ !body.all (·.toNat < 128) then none
  else if !marks.raw ∧ !escapesComplete marks.bytes body then none
  else return ⟨marks.bytes, []⟩

end Literal

end TestImpact.Source
