import TestImpact.Toml.Fault
import TestImpact.Toml.Number

/-
  Dates and times.

  A time is two digits each for hour, minute and second, and may have three to
  six digits after a point; only the front part of a text is looked at. A date
  is a text of ten characters, and a longer one that has a dash after its first
  character is a date with a time; their fields stand at fixed places and are
  read as numbers, whatever stands between them. An offset that cannot be read
  is left out.

  The digits after the point of a time count millionths of a second, also if
  there are fewer than six; those of a date with a time are a fraction.
-/

namespace TestImpact.Toml

structure Date where
  year : Nat
  month : Nat
  day : Nat
  deriving DecidableEq, Repr

structure ClockTime where
  hour : Nat
  minute : Nat
  second : Nat
  millionths : Nat
  deriving DecidableEq, Repr

/-- A point in time, more or less of it given. An offset is in minutes. -/
inductive Moment where
  | date (d : Date)
  | time (t : ClockTime)
  | dateTime (d : Date) (t : ClockTime) (offset : Option Int)
  deriving DecidableEq, Repr

/-! Fields -/

def isLeap (year : Nat) : Bool := year % 4 == 0 && (year % 100 != 0 || year % 400 == 0)

def daysIn (year month : Nat) : Nat :=
  if month = 2 then if isLeap year then 29 else 28
  else if [4, 6, 9, 11].contains month then 30 else 31

def Date.of? (year month day : Int) : Option Date :=
  let d : Date := ⟨year.toNat, month.toNat, day.toNat⟩
  if 1 ≤ year ∧ year ≤ 9999 ∧ 1 ≤ month ∧ month ≤ 12 ∧ 1 ≤ day ∧ day ≤ daysIn d.year d.month
  then some d else none

def ClockTime.of? (hour minute second : Int) (millionths : Nat) : Option ClockTime :=
  if 0 ≤ hour ∧ hour < 24 ∧ 0 ≤ minute ∧ minute < 60 ∧ 0 ≤ second ∧ second < 60
    ∧ millionths < 1000000
  then some ⟨hour.toNat, minute.toNat, second.toNat, millionths⟩ else none

/-! Reading -/

/-- The characters of a text from one place up to another one. -/
def slice (text : List Char) (first next : Nat) : List Char := (text.take next).drop first

/-- The number that stands from one place up to another one. -/
def fieldAt? (text : List Char) (first next : Nat) : Option Int :=
  wholeNumber? (slice text first next)

/-- The ASCII digits that a text begins with, up to a given count. -/
def asciiDigits (most : Nat) (text : List Char) : List Char :=
  (text.take most).takeWhile Char.isDigit

def timeFields? (text : List Char) : Option (Nat × Nat × Nat × Nat) :=
  match text with
  | h :: h' :: ':' :: m :: m' :: ':' :: s :: s' :: rest =>
    if [h, h', m, m', s, s'].all Char.isDigit then
      let digits := match rest with
        | '.' :: more => asciiDigits 6 more
        | _ => []
      let millionths := if digits.length < 3 then 0 else Text.numberOf digits
      some (Text.numberOf [h, h'], Text.numberOf [m, m'], Text.numberOf [s, s'], millionths)
    else none
  | _ => none

def offset? (text : List Char) : Option Int :=
  if text = ['Z'] then some 0
  else do
    let hours ← fieldAt? text 1 3
    let minutes ← fieldAt? text 4 6
    return (if text.head? = some '-' then -1 else 1) * (60 * hours + minutes)

/-- The digits after the point, and the offset behind them if there is one. -/
def splitFraction (text : List Char) : List Char × Option (List Char) :=
  if text.getLast? = some 'Z' ∨ text.getLast? = some 'z' then (text.dropLast, some ['Z'])
  else if text.contains '+' then
    (text.takeWhile (· ≠ '+'), some (text.dropWhile (· ≠ '+')))
  else if text.contains '-' then
    (text.takeWhile (· ≠ '-'), some (text.dropWhile (· ≠ '-')))
  else (text, none)

/-- The power of ten with a negative exponent. -/
def tenthPower (n : Nat) : Binary64 := .ofDecimal ⟨1, -n⟩

/-- Millionths of a second from the digits after the point. More than six digits are scaled
down in the binary format. -/
def millionths? (digits : List Char) : Except Fault (Option Nat) :=
  match wholeNumber? digits with
  | none => .ok none
  | some n =>
    if digits.length ≤ 6 then .ok (some (n.toNat * Nat.pow 10 (6 - digits.length)))
    else match Binary64.nearest n.toNat 1 with
      | .infinite _ => .error .fractionTooLarge
      | x => .ok (x.times (tenthPower (digits.length - 6))).wholePart?

/-- What follows the seconds: millionths and offset. If either cannot be read, both are left out. -/
def tail? (text : List Char) : Except Fault (Nat × Option Int) :=
  match text with
  | [] => .ok (0, none)
  | '.' :: rest =>
    let (digits, offsetText) := splitFraction rest
    match offsetText.map offset? with
    | some none => .ok (0, none)
    | offset => do
      match ← millionths? digits with
      | some n => return (n, offset.join)
      | none => return (0, none)
  | offset => .ok (0, offset? offset)

/-- Reads a date, or a date with a time. -/
def dateOf? (text : List Char) : Except Fault (Option Moment) := do
  let (millionths, offset) ← tail? (text.drop 19)
  if ¬ (text.drop 1).contains '-' then return none
  let date := do Date.of? (← fieldAt? text 0 4) (← fieldAt? text 5 7) (← fieldAt? text 8 10)
  if text.length = 10 then return date.map .date
  return do
    let d ← date
    let t ← ClockTime.of? (← fieldAt? text 11 13) (← fieldAt? text 14 16) (← fieldAt? text 17 19)
      millionths
    return .dateTime d t offset

/-! Writing -/

/-- A number with at least the given count of digits. -/
def padded (count n : Nat) : String :=
  let digits := toString n
  String.ofList (List.replicate (count - digits.length) '0') ++ digits

def Date.text (d : Date) : String :=
  padded 4 d.year ++ "-" ++ padded 2 d.month ++ "-" ++ padded 2 d.day

def ClockTime.text (t : ClockTime) : String :=
  padded 2 t.hour ++ ":" ++ padded 2 t.minute ++ ":" ++ padded 2 t.second
    ++ (if t.millionths = 0 then "" else "." ++ padded 6 t.millionths)

/-- The text of an offset: none if it is a day or more. -/
def offsetText? (minutes : Int) : Option String :=
  let n := minutes.natAbs
  if n < 1440 then
    some ((if minutes < 0 then "-" else "+") ++ padded 2 (n / 60) ++ ":" ++ padded 2 (n % 60))
  else none

def Moment.text? : Moment → Option String
  | date d => some d.text
  | time t => some t.text
  | dateTime d t none => some (d.text ++ "T" ++ t.text)
  | dateTime d t (some offset) =>
    (offsetText? offset).map fun o => d.text ++ "T" ++ t.text ++ o

def Moment.kind : Moment → String
  | date _ => "datetime.date"
  | time _ => "datetime.time"
  | dateTime .. => "datetime.datetime"

end TestImpact.Toml
