import TestImpact.Source.Dialect
import TestImpact.Text.Identifier
import TestImpact.Text.Letter
import TestImpact.Text.Lines

/-
  The lexemes of a source text: words, numbers, strings and operators, and
  what stands between them.

  `Scan.next` finds the lexeme that a text begins with and its length. The
  strict dialect has no lexeme for an unfinished string, a wrong number, an
  identifier with a forbidden character or a backslash that does not end a
  line; the tolerant dialect takes the first character of such a place as an
  operator of its own, which no rule of the grammar uses.

  The lexemes of a text, put one after the other, are the text.
-/

namespace TestImpact.Source

open TestImpact.Text

inductive LexemeKind where
  /-- Blanks and tabs inside a line. -/
  | blank
  /-- A comment up to the end of its line. -/
  | comment
  | lineEnd
  /-- A backslash and the line end it hides. -/
  | continuation
  | word
  | number
  | string
  | operator
  deriving DecidableEq, Repr

/-- A lexeme, and the row it starts in, counted from 0. -/
structure Lexeme where
  kind : LexemeKind
  text : List Char
  row : Nat
  deriving DecidableEq, Repr

namespace Lexeme

def rowAfter (l : Lexeme) : Nat := l.row + l.text.count '\n'

end Lexeme

namespace Scan

/-! Strings -/

/-- The marks that may stand in front of a string, with the quotes after them left out. -/
structure Marks where
  raw : Bool
  bytes : Bool
  format : Bool
  unicode : Bool
  length : Nat
  deriving DecidableEq, Repr

def Marks.none : Marks := ⟨false, false, false, false, 0⟩

/-- The marks with one more letter; in the strict dialect only some combinations exist. -/
def Marks.add? (d : Dialect) (m : Marks) (c : Char) : Option Marks :=
  let longer := { m with length := m.length + 1 }
  let free := d.isTolerant
  if c = 'r' ∨ c = 'R' then
    if free || (!m.raw && !m.unicode) then some { longer with raw := true } else .none
  else if c = 'b' ∨ c = 'B' then
    if free || (!m.bytes && !m.unicode && !m.format) then some { longer with bytes := true }
    else .none
  else if c = 'f' ∨ c = 'F' then
    if free || (!m.format && !m.bytes && !m.unicode) then some { longer with format := true }
    else .none
  else if c = 'u' ∨ c = 'U' then
    if free || (m.length = 0) then some { longer with unicode := true } else .none
  else if free ∧ (c = 't' ∨ c = 'T') then some { longer with format := true }
  else .none

/-- The marks that a text begins with, if a quote follows them. -/
def marks? (d : Dialect) (m : Marks) : List Char → Option Marks
  | [] => none
  | c :: rest =>
    if c = '"' ∨ c = '\'' ∨ (d.isTolerant ∧ c = '\x60') then some m
    else (m.add? d c).bind fun longer => marks? d longer rest

/-- Whether a list begins with three times a character. -/
def beginsTriple (q : Char) : List Char → Bool
  | a :: b :: c :: _ => a = q ∧ b = q ∧ c = q
  | _ => false

/-- The length of a text up to and including the quotes that end a string: `size` of them in a
row, of which `run` were read already. A backslash hides the character after it. -/
def stringTail (quote : Char) (size run : Nat) : List Char → Option Nat
  | [] => none
  | c :: rest =>
    if c = quote then
      if run + 1 = size then some 1 else (stringTail quote size (run + 1) rest).map (· + 1)
    else if c = '\n' ∧ size = 1 then none
    else if c = '\\' then
      match rest with
      | [] => none
      | _ :: rest' => (stringTail quote size 0 rest').map (· + 2)
    else (stringTail quote size 0 rest).map (· + 1)

/-- Where a scan inside a string with replacement fields is: in text, in the expression of a
field, or in a string inside such an expression. -/
inductive Place where
  | text (quote : Char) (size : Nat)
  | format
  | expression (depth : Nat)
  | inner (quote : Char) (size : Nat)

/-- The length of a text up to the end of a string with replacement fields; `places` are the
places that are open, innermost first, and `skip` characters are passed over. Inside a field
the string's own quotes may be used again. -/
def fieldStringTail : List Char → List Place → Nat → Option Nat
  | [], _, _ => none
  | _ :: rest, places, skip + 1 => (fieldStringTail rest places skip).map (· + 1)
  | c :: rest, places, 0 =>
    let go := fun next skip => (fieldStringTail rest next skip).map (· + 1)
    match places with
    | [] => none
    | .text q size :: outer =>
      if c = q ∧ (size = 1 ∨ beginsTriple q (c :: rest)) then
        match outer with
        | [] => some size
        | _ => go outer (size - 1)
      else if c = '\n' ∧ size = 1 then none
      else if c = '\\' then go places 1
      else if c = '{' then
        if rest.head? = some '{' then go places 1 else go (.expression 0 :: places) 0
      else go places 0
    | .format :: outer =>
      if c = '}' then go outer 0
      else if c = '{' then go (.expression 0 :: places) 0
      else if c = '\n' then none
      else go places 0
    | .expression depth :: outer =>
      if c = '"' ∨ c = '\'' then
        if beginsTriple c (c :: rest) then go (.inner c 3 :: places) 2
        else go (.inner c 1 :: places) 0
      else if c = '(' ∨ c = '[' ∨ c = '{' then go (.expression (depth + 1) :: outer) 0
      else if c = '}' ∧ depth = 0 then go outer 0
      else if c = ')' ∨ c = ']' ∨ c = '}' then go (.expression (depth - 1) :: outer) 0
      else if c = ':' ∧ depth = 0 then go (.format :: outer) 0
      else go places 0
    | .inner q size :: outer =>
      if c = q ∧ (size = 1 ∨ beginsTriple q (c :: rest)) then go outer (size - 1)
      else if c = '\\' then go places 1
      else go places 0

/-- The length of the string after its marks; the first character is a quote. -/
def quotedLength? (d : Dialect) (m : Marks) : List Char → Option Nat
  | q :: rest =>
    let triple := beginsTriple q (q :: rest)
    if d.isTolerant && m.format then
      if triple then (fieldStringTail (rest.drop 2) [.text q 3] 0).map (· + 3)
      else (fieldStringTail rest [.text q 1] 0).map (· + 1)
    else if triple then (stringTail q 3 0 (rest.drop 2)).map (· + 3)
    else (stringTail q 1 0 rest).map (· + 1)
  | [] => none

/-! Numbers -/

def runLength (p : Char → Bool) (cs : List Char) : Nat := (cs.takeWhile p).length

/-- The length of digits in which single underscores stand between two digits. -/
def groupedLength? (p : Char → Bool) : List Char → Option Nat
  | [] => none
  | [c] => if p c then some 1 else none
  | c :: '_' :: rest => if p c then (groupedLength? p rest).map (· + 2) else none
  | c :: next :: rest =>
    if !p c then none
    else if p next then (groupedLength? p (next :: rest)).map (· + 1)
    else some 1

def isHexDigit (c : Char) : Bool :=
  c.isDigit || ('a' ≤ c && c ≤ 'f') || ('A' ≤ c && c ≤ 'F')

def isOctalDigit (c : Char) : Bool := '0' ≤ c && c ≤ '7'

def isBinaryDigit (c : Char) : Bool := c = '0' || c = '1'

/-- Whether a character can belong to a word, by its look; the word is checked as a whole. -/
def isWordChar (c : Char) : Bool := c.isAlphanum || c = '_' || 128 ≤ c.toNat

/-- The words that may follow a number without a blank between. -/
def wordsAfterNumber : List String := ["and", "else", "for", "if", "in", "is", "not", "or"]

/-- Whether a number may end in front of a text. -/
def numberEnds (rest : List Char) : Bool :=
  wordsAfterNumber.any (fun w => w.toList.isPrefixOf rest)
    || match rest with
      | [] => true
      | c :: _ => !isWordChar c

/-- The length of digits that may be missing; grouping is as in `groupedLength?`. -/
def optionalDigits? (cs : List Char) : Option Nat :=
  match cs with
  | c :: _ => if c.isDigit then groupedLength? Char.isDigit cs else some 0
  | [] => some 0

/-- The length of an exponent, 0 if there is none. An `e` that begins a word is none. -/
def exponentLength? (cs : List Char) : Option Nat :=
  match cs with
  | e :: rest =>
    if e = 'e' ∨ e = 'E' then
      match rest with
      | c :: rest' =>
        if c.isDigit then (groupedLength? Char.isDigit rest).map (· + 1)
        else if c = '+' ∨ c = '-' then (groupedLength? Char.isDigit rest').map (· + 2)
        else some 0
      | [] => some 0
    else some 0
  | [] => some 0

/-- The length of an imaginary unit, 0 if there is none. -/
def imaginaryLength (cs : List Char) : Nat :=
  match cs with
  | c :: _ => if c = 'j' ∨ c = 'J' then 1 else 0
  | [] => 0

/-- The length of a number without a base mark, the digits before the point being `whole`
characters long; `true` if it has a fraction, an exponent or an imaginary unit. -/
def decimalRest? (cs : List Char) (whole : Nat) : Option (Nat × Bool) := do
  let afterWhole := cs.drop whole
  let fraction ← match afterWhole with
    | '.' :: rest => (optionalDigits? rest).map (· + 1)
    | _ => some 0
  let afterFraction := afterWhole.drop fraction
  let exponent ← exponentLength? afterFraction
  let imaginary := imaginaryLength (afterFraction.drop exponent)
  return (whole + fraction + exponent + imaginary, 0 < fraction + exponent + imaginary)

/-- The most digits of a whole number without a base mark. -/
def wholeDigitLimit : Nat := 4300

/-- The length of a number by the strict rules: a base mark or no leading zeros, single
underscores between digits, and no word directly behind. -/
def strictNumber? (cs : List Char) : Option Nat := do
  let length ← match cs with
    | '0' :: mark :: rest =>
      let based := fun p =>
        (groupedLength? p (if rest.head? = some '_' then rest.drop 1 else rest)).map fun n =>
          n + 2 + (if rest.head? = some '_' then 1 else 0)
      if mark = 'x' ∨ mark = 'X' then based isHexDigit
      else if mark = 'o' ∨ mark = 'O' then
        match based isOctalDigit with
        | some n => if (cs.drop n).head?.any Char.isDigit then none else some n
        | none => none
      else if mark = 'b' ∨ mark = 'B' then
        match based isBinaryDigit with
        | some n => if (cs.drop n).head?.any Char.isDigit then none else some n
        | none => none
      else do
        let whole ← groupedLength? Char.isDigit cs
        let (n, isFloat) ← decimalRest? cs whole
        if !isFloat && (cs.take whole).any (fun c => c ≠ '0' ∧ c ≠ '_') then none else some n
    | '.' :: _ => (decimalRest? cs 0).map (·.1)
    | _ => do
      let whole ← groupedLength? Char.isDigit cs
      let (n, isFloat) ← decimalRest? cs whole
      if !isFloat && wholeDigitLimit < ((cs.take whole).filter (· ≠ '_')).length
        && cs.head? ≠ some '0' then none
      else some n
  if numberEnds (cs.drop length) then some length else none

/-- The length of digits and underscores. -/
def looseDigits (p : Char → Bool) (cs : List Char) : Nat := runLength (fun c => p c || c = '_') cs

/-- The length of a number by the tolerant rules: anything may follow. -/
def tolerantNumber (cs : List Char) : Nat :=
  match cs with
  | '0' :: mark :: rest =>
    let based := fun p => looseDigits p rest + 2
    if (mark = 'x' ∨ mark = 'X') ∧ rest.head?.any isHexDigit then based isHexDigit
    else if (mark = 'o' ∨ mark = 'O') ∧ rest.head?.any isOctalDigit then based isOctalDigit
    else if (mark = 'b' ∨ mark = 'B') ∧ rest.head?.any isBinaryDigit then based isBinaryDigit
    else plain cs
  | _ => plain cs
where
  /-- A number without a base mark. -/
  plain (cs : List Char) : Nat :=
    let whole := looseDigits Char.isDigit cs
    let afterWhole := cs.drop whole
    let fraction := match afterWhole with
      | '.' :: rest => 1 + looseDigits Char.isDigit rest
      | _ => 0
    let afterFraction := afterWhole.drop fraction
    let exponent := match afterFraction with
      | e :: c :: rest =>
        if e = 'e' ∨ e = 'E' then
          if c.isDigit then 1 + looseDigits Char.isDigit (c :: rest)
          else if (c = '+' ∨ c = '-') ∧ rest.head?.any Char.isDigit then
            2 + looseDigits Char.isDigit rest
          else 0
        else 0
      | _ => 0
    let afterExponent := afterFraction.drop exponent
    let unit := match afterExponent with
      | c :: _ => if c = 'j' ∨ c = 'J' ∨ c = 'l' ∨ c = 'L' then 1 else 0
      | [] => 0
    whole + fraction + exponent + unit

/-! Operators -/

def longOperators : List String := ["**=", "//=", "<<=", ">>=", "..."]

def middleOperators : List String :=
  ["!=", "%=", "&=", "**", "*=", "+=", "-=", "->", "/=", "//", ":=", "<<", "<=", "<>", "==",
   ">=", ">>", "@=", "^=", "|="]

/-- The length of the operator that a text begins with; unknown characters are operators. -/
def operatorLength (cs : List Char) : Nat :=
  if longOperators.any (fun o => o.toList.isPrefixOf cs) then 3
  else if middleOperators.any (fun o => o.toList.isPrefixOf cs) then 2
  else 1

/-! One lexeme -/

def isLineBlank (d : Dialect) (c : Char) : Bool :=
  c = ' ' || c = '\t' || c = '\x0c'
    || (d.isTolerant && c ≠ '\n'
      && (isBlank c || c = '\ufeff' || c = '\u2060' || c = '\u200b'))

/-- The length of the line end that a backslash hides. -/
def continuationLength? (d : Dialect) : List Char → Option Nat
  | '\\' :: '\n' :: rest => if d.isTolerant || !rest.isEmpty then some 2 else none
  | '\\' :: '\r' :: '\n' :: _ => if d.isTolerant then some 3 else none
  | ['\\'] => if d.isTolerant then some 1 else none
  | _ => none

/-- The length of a word, if its characters may form one. -/
def wordLength? (d : Dialect) (cs : List Char) : Option Nat :=
  match d with
  | .strict =>
    let word := cs.takeWhile isWordChar
    if isIdentifier word then some word.length else none
  | .tolerant =>
    match cs with
    | c :: rest => if isIdentifierStart c then some (runLength isIdentifierPart rest + 1) else none
    | [] => none

/-- The kind and the length of the lexeme that a text begins with. -/
def next (d : Dialect) (cs : List Char) : Option (LexemeKind × Nat) :=
  let orJunk := fun (k : LexemeKind) (n : Option Nat) =>
    match n with
    | some n => some (k, n)
    | none => if d.isTolerant then some (.operator, 1) else none
  match cs with
  | [] => none
  | c :: rest =>
    if c = '\n' then some (.lineEnd, 1)
    else if isLineBlank d c then some (.blank, runLength (isLineBlank d) cs)
    else if c = '#' then some (.comment, runLength (· ≠ '\n') cs)
    else if c = '\\' then orJunk .continuation (continuationLength? d cs)
    else match marks? d .none cs with
      | some m => orJunk .string ((quotedLength? d m (cs.drop m.length)).map (· + m.length))
      | none =>
        if c.isDigit || (c = '.' && rest.head?.any Char.isDigit) then
          match d with
          | .strict => (strictNumber? cs).map fun n => (.number, n)
          | .tolerant => some (.number, tolerantNumber cs)
        else if isWordChar c then orJunk .word (wordLength? d cs)
        else some (.operator, operatorLength cs)

end Scan

def lexemesFrom (d : Dialect) (row : Nat) (cs : List Char) : Option (List Lexeme) :=
  match cs with
  | [] => some []
  | c :: rest =>
    match Scan.next d (c :: rest) with
    | none => none
    | some (kind, length) =>
      let lexeme : Lexeme := ⟨kind, c :: rest.take (length - 1), row⟩
      (lexemesFrom d lexeme.rowAfter (rest.drop (length - 1))).map (lexeme :: ·)
  termination_by cs.length

def lexemes (d : Dialect) (cs : List Char) : Option (List Lexeme) := lexemesFrom d 0 cs

end TestImpact.Source
