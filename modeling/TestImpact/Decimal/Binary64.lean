/-
  Numbers in the 64-bit binary format, and the decimals that stand for them.

  A finite number is `mantissa * 2 ^ exponent`. A decimal is read to the
  nearest number of the format, an exact half to the even mantissa. A number
  is written with the fewest digits that read back as it: the decimals of a
  given number of digits form a grid, and if any of them reads back, one of
  the number's two neighbours on the grid does. All of this is done in exact
  arithmetic.
-/

namespace TestImpact

/-- A number of the format. Zero has mantissa 0 and no sign. -/
inductive Binary64 where
  | finite (negative : Bool) (mantissa : Nat) (exponent : Int)
  | infinite (negative : Bool)
  | notANumber
  deriving DecidableEq, Repr

/-- The number `digits * 10 ^ exponent`. -/
structure Decimal where
  digits : Nat
  exponent : Int
  deriving DecidableEq, Repr

namespace Decimal

/-- Numerator and denominator. -/
def fraction (d : Decimal) : Nat × Nat :=
  if d.exponent < 0 then (d.digits, Nat.pow 10 d.exponent.natAbs)
  else (d.digits * Nat.pow 10 d.exponent.natAbs, 1)

def digitCount (n : Nat) : Nat := (Nat.toDigits 10 n).length

end Decimal

namespace Binary64

/-- The least exponent, and the greatest. -/
def leastExponent : Int := -1074
def greatestExponent : Int := 971

/-- A fraction in units of `2 ^ e`: numerator and denominator. -/
def scaled (num den : Nat) (e : Int) : Nat × Nat :=
  if e < 0 then (num * Nat.pow 2 e.natAbs, den) else (num, den * Nat.pow 2 e.natAbs)

/-- The quotient rounded to the nearest whole number, a half to the even one. -/
def roundHalfEven (num den : Nat) : Nat :=
  let q := num / den
  let r := 2 * (num % den)
  if r < den then q else if den < r then q + 1 else q + q % 2

/-- The exponent at which a fraction has a mantissa of 53 bits, or the least one. -/
def exponentFor (num den : Nat) : Int :=
  let guess : Int := (num.log2 : Int) - den.log2 - 53
  let fits := fun e =>
    let (n, d) := scaled num den e
    n / d < Nat.pow 2 53
  let e := if fits guess then guess else if fits (guess + 1) then guess + 1 else guess + 2
  max e leastExponent

/-- The number nearest to a fraction. -/
def nearest (num den : Nat) : Binary64 :=
  if num = 0 ∨ den = 0 then finite false 0 0
  else
    let e := exponentFor num den
    let (n, d) := scaled num den e
    let m := roundHalfEven n d
    let (m, e) := if m = Nat.pow 2 53 then (Nat.pow 2 52, e + 1) else (m, e)
    if greatestExponent < e then infinite false
    else if m = 0 then finite false 0 0
    else finite false m e

/-- The number nearest to a decimal. Exponents far outside of the format are not worked out. -/
def ofDecimal (d : Decimal) : Binary64 :=
  let order := d.exponent + Decimal.digitCount d.digits
  if d.digits = 0 ∨ order < -400 then finite false 0 0
  else if 400 < order then infinite false
  else nearest d.fraction.1 d.fraction.2

/-- The number with the other sign; zero has none. -/
def negated : Binary64 → Binary64
  | finite s m e => if m = 0 then finite s m e else finite (!s) m e
  | infinite s => infinite !s
  | notANumber => notANumber

/-- The number without its sign as a fraction: numerator and denominator. -/
def fraction (mantissa : Nat) (exponent : Int) : Nat × Nat :=
  if exponent < 0 then (mantissa, Nat.pow 2 exponent.natAbs)
  else (mantissa * Nat.pow 2 exponent.natAbs, 1)

def times : Binary64 → Binary64 → Binary64
  | finite _ m e, finite _ m' e' =>
    let (n, d) := fraction m e
    let (n', d') := fraction m' e'
    nearest (n * n') (d * d')
  | notANumber, _ => notANumber
  | _, notANumber => notANumber
  | _, _ => infinite false

/-- The whole part of a number without its sign. -/
def wholePart? : Binary64 → Option Nat
  | finite _ m e => some ((fraction m e).1 / (fraction m e).2)
  | _ => none

/-- Twice the distance of the ends of the interval that reads back, in units of a quarter of
the last bit: below and above. -/
def margins (mantissa : Nat) (exponent : Int) : Nat × Nat :=
  if mantissa = Nat.pow 2 52 ∧ leastExponent < exponent then (1, 2) else (2, 2)

/-- Whether a decimal reads back as `mantissa * 2 ^ exponent`. -/
def readsBack (mantissa : Nat) (exponent : Int) (d : Decimal) : Bool :=
  let (below, above) := margins mantissa exponent
  let (n, den) := d.fraction
  let (n, den) := scaled n den (exponent - 2)
  let low := (4 * mantissa - below) * den
  let high := (4 * mantissa + above) * den
  if mantissa % 2 = 0 then low ≤ n && n ≤ high else low < n && n < high

/-- The power of ten below a fraction: the greatest whose value does not exceed it. -/
def orderOf (num den : Nat) : Int :=
  if den ≤ num then (Decimal.digitCount (num / den) : Int) - 1
  else -(Decimal.digitCount ((den + num - 1) / num - 1) : Int)

/-- The neighbours of a fraction among the decimals of an exponent that read back, nearest
first. -/
def neighbours (num den mantissa : Nat) (exponent gridExponent : Int) : List Decimal :=
  let (n, d) :=
    if gridExponent < 0 then (num * Nat.pow 10 gridExponent.natAbs, den)
    else (num, den * Nat.pow 10 gridExponent.natAbs)
  let q := n / d
  let r := 2 * (n % d)
  let lower : Decimal := ⟨q, gridExponent⟩
  let upper : Decimal := ⟨q + 1, gridExponent⟩
  let both := if r < d ∨ (r = d ∧ q % 2 = 0) then [lower, upper] else [upper, lower]
  both.filter (readsBack mantissa exponent)

/-- The decimal with the fewest digits that reads back, tried from `digits` digits on. -/
def shortestFrom (num den mantissa : Nat) (exponent order : Int) :
    (more digits : Nat) → Decimal
  | 0, digits => ⟨num * Nat.pow 10 digits / den, -digits⟩
  | more + 1, digits =>
    match neighbours num den mantissa exponent (order - digits + 1) with
    | d :: _ => d
    | [] => shortestFrom num den mantissa exponent order more (digits + 1)

/-- A decimal without zeros at its end; `n` of them at most. -/
def withoutZeros (d : Decimal) : Nat → Decimal
  | 0 => d
  | n + 1 =>
    if d.digits % 10 = 0 ∧ d.digits ≠ 0 then withoutZeros ⟨d.digits / 10, d.exponent + 1⟩ n
    else d

/-- The decimal with the fewest digits that reads back as `mantissa * 2 ^ exponent`. -/
def shortest (mantissa : Nat) (exponent : Int) : Decimal :=
  let (num, den) := fraction mantissa exponent
  withoutZeros (shortestFrom num den mantissa exponent (orderOf num den) 17 1) 20

/-! Layout -/

/-- The layout of numbers: which decimal orders are written with a point alone, and the least
count of digits of an exponent. -/
structure Layout where
  leastOrder : Int
  ordersEnd : Int
  exponentDigits : Nat

/-- Numbers from a ten-thousandth up to ten to the sixteenth have a point and always a digit
after it; an exponent has a sign and two digits. -/
def plainLayout : Layout := ⟨-4, 16, 2⟩

def zeros (n : Nat) : String := String.ofList (List.replicate n '0')

def Layout.decimal (l : Layout) (d : Decimal) : String :=
  let digits := toString d.digits
  let count := digits.length
  let order : Int := d.exponent + count - 1
  if l.leastOrder ≤ order ∧ order < l.ordersEnd then
    if order < 0 then "0." ++ zeros (order.natAbs - 1) ++ digits
    else if 0 ≤ d.exponent then digits ++ zeros d.exponent.natAbs ++ ".0"
    else
      String.ofList (digits.toList.take (order.natAbs + 1)) ++ "."
        ++ String.ofList (digits.toList.drop (order.natAbs + 1))
  else
    let rest := String.ofList (digits.toList.drop 1)
    let exponent := toString order.natAbs
    String.ofList (digits.toList.take 1) ++ (if rest.isEmpty then "" else "." ++ rest)
      ++ (if order < 0 then "e-" else "e+") ++ zeros (l.exponentDigits - exponent.length)
      ++ exponent

def text (x : Binary64) : String :=
  match x with
  | finite s m e =>
    (if s then "-" else "")
      ++ plainLayout.decimal (if m = 0 then ⟨0, 0⟩ else shortest m e)
  | infinite s => if s then "-inf" else "inf"
  | notANumber => "nan"

end Binary64

end TestImpact
