import TestImpact.Decimal.Binary64
import TestImpact.Text.Digit
import TestImpact.Text.Letter
import TestImpact.Text.Lines

/-
  Reading numbers.

  Digits may be those of any script, and an underscore may stand between two
  of them. `wholeNumber?` reads decimal digits, leading zeros allowed;
  `basedNumber?` takes a base from the front part `0x`, `0o` or `0b` and else
  allows no leading zero; `floatNumber?` reads a number with a point or an
  exponent, an infinity, or the number that is none. Blanks around a number do
  not count, and no whole decimal number has more than 4300 digits.

  `isStrict` is the format's own rule on top of that: where underscores and
  zeros may not stand.
-/

namespace TestImpact.Toml

/-- The values of digits, with an underscore allowed between each two of them. -/
def groupedDigits? (digit : Char → Option Nat) (afterDigit : Bool) :
    List Char → Option (List Nat)
  | [] => if afterDigit then some [] else none
  | c :: cs =>
    match digit c with
    | some d => (groupedDigits? digit true cs).map (d :: ·)
    | none => if c = '_' ∧ afterDigit then groupedDigits? digit false cs else none

def ofDigits (base : Nat) (digits : List Nat) : Nat := digits.foldl (fun n d => base * n + d) 0

/-- Takes a sign off the front of a text; whether it was a minus. -/
def signed : List Char → Bool × List Char
  | '-' :: cs => (true, cs)
  | '+' :: cs => (false, cs)
  | cs => (false, cs)

def withSign (negative : Bool) (n : Nat) : Int := if negative then -(n : Int) else n

/-- The greatest count of digits of a decimal number. -/
def digitLimit : Nat := 4300

def wholeNumber? (text : List Char) : Option Int :=
  let (negative, cs) := signed (Text.trim text)
  match groupedDigits? Text.digitValue? false cs with
  | some digits => if digits.length ≤ digitLimit then some (withSign negative (ofDigits 10 digits))
    else none
  | none => none

/-- The base that stands before a number, and the rest. -/
def basePart : List Char → Option (Nat × List Char)
  | '0' :: c :: cs =>
    if c = 'x' ∨ c = 'X' then some (16, cs)
    else if c = 'o' ∨ c = 'O' then some (8, cs)
    else if c = 'b' ∨ c = 'B' then some (2, cs)
    else none
  | _ => none

def digitInBase? (base : Nat) (c : Char) : Option Nat :=
  let value :=
    match Text.digitValue? c with
    | some d => some d
    | none =>
      if 'a' ≤ c ∧ c ≤ 'f' then some (c.toNat - 87)
      else if 'A' ≤ c ∧ c ≤ 'F' then some (c.toNat - 55)
      else none
  value.filter (· < base)

/-- Reads a number that may have a base before it; a decimal one other than zero does not
begin with a zero. -/
def basedNumber? (text : List Char) : Option Int :=
  let (negative, cs) := signed (Text.trim text)
  match basePart cs with
  | some (base, ds) =>
    (groupedDigits? (digitInBase? base) false ds).map fun digits =>
      withSign negative (ofDigits base digits)
  | none =>
    match groupedDigits? Text.digitValue? false cs with
    | some digits =>
      if digitLimit < digits.length ∨ (digits.head? = some 0 ∧ digits.any (· ≠ 0)) then none
      else some (withSign negative (ofDigits 10 digits))
    | none => none

/-- A text in small letters, as far as it is ASCII. -/
def lowered (cs : List Char) : List Char := cs.map Char.toLower

/-- Digits that may be missing. -/
def digitsOrNone? (cs : List Char) : Option (List Nat) :=
  if cs.isEmpty then some [] else groupedDigits? Text.digitValue? false cs

def exponent? (cs : List Char) : Option Int :=
  let (negative, ds) := signed cs
  (groupedDigits? Text.digitValue? false ds).map fun digits =>
    withSign negative (ofDigits 10 digits)

/-- Reads digits with a point and an exponent, either of which may be missing. -/
def decimal? (cs : List Char) : Option Decimal := do
  let isMark := fun c => c == 'e' || c == 'E'
  let mantissa := cs.takeWhile (!isMark ·)
  let exponent ←
    match cs.dropWhile (!isMark ·) with
    | [] => some 0
    | _ :: rest => exponent? rest
  let whole := mantissa.takeWhile (· ≠ '.')
  let part := (mantissa.dropWhile (· ≠ '.')).drop 1
  let front ← digitsOrNone? whole
  let back ← digitsOrNone? part
  if front.isEmpty ∧ back.isEmpty then none
  else some ⟨ofDigits 10 (front ++ back), exponent - back.length⟩

def floatNumber? (text : List Char) : Option Binary64 :=
  let (negative, cs) := signed (Text.trim text)
  let value :=
    if lowered cs = "inf".toList ∨ lowered cs = "infinity".toList then some (.infinite false)
    else if lowered cs = "nan".toList then some .notANumber
    else (decimal? cs).map .ofDecimal
  value.map fun x => if negative then x.negated else x

/-- Whether two characters stand side by side in a text. -/
def adjoin (a b : Char) : List Char → Bool
  | c :: d :: cs => (c == a && d == b) || adjoin a b (d :: cs)
  | _ => false

/-- Whether underscores and leading zeros stand only where the format allows them. -/
def isStrict (text : List Char) : Bool :=
  let n := Text.trim text
  match n with
  | [] => false
  | c :: rest =>
    if c = '_' ∨ n.getLast? = some '_' then false
    else if adjoin '_' '.' n ∨ adjoin '.' '_' n then false
    else match rest with
      | [] => true
      | d :: more =>
        if c = '0' ∧ ¬ ['.', 'o', 'b', 'x'].contains d then false
        else if c = '+' ∨ c = '-' then
          if d = '0' ∧ more ≠ [] ∧ more.head? ≠ some '.' then false
          else !adjoin '_' '_' rest
        else !adjoin '_' '_' n

end TestImpact.Toml
