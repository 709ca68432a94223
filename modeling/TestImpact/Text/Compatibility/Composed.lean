import TestImpact.Text.Compatibility.Decomposition
import TestImpact.Text.Compatibility.Combining

/-
  The compatibility-composed form of a text (normalization form KC).

  Every character is decomposed fully, runs of combining marks are put into
  the order of their combining classes, and then each mark is composed with
  the last starter before it where a primary composition exists and no mark of
  the same or a higher class stands between them. Hangul syllables are
  decomposed and composed by arithmetic.
-/

namespace TestImpact.Text

/-- The first of the Hangul syllables, and how many there are. -/
def hangulFirst : Nat := 0xac00
def hangulCount : Nat := 11172

/-- A code point decomposed: Hangul by arithmetic, others by the table. The letters that Hangul
syllables are made of stand for themselves. -/
def decomposeCode (n : Nat) : List Nat :=
  if isJamo n then [n]
  else if hangulFirst ≤ n && n < hangulFirst + hangulCount then
    let s := n - hangulFirst
    let front := [0x1100 + s / 588, 0x1161 + (s % 588) / 28]
    if s % 28 = 0 then front else front ++ [0x11a7 + s % 28]
  else (decompositions.findCode? n).getD [n]

/-- Puts a mark behind all marks of the same or a lower class, in a run that is sorted backwards. -/
def insertMark (n : Nat) : List Nat → List Nat
  | [] => [n]
  | m :: ms =>
    if combiningClass n < combiningClass m then m :: insertMark n ms else n :: m :: ms

/-- Canonical order; `run` holds the marks since the last starter, the last one first. -/
def orderMarks : List Nat → List Nat → List Nat
  | run, [] => run.reverse
  | run, n :: rest =>
    if combiningClass n = 0 then run.reverse ++ n :: orderMarks [] rest
    else orderMarks (insertMark n run) rest

/-- The second of the pair that starts with `n`, in a list of pairs. -/
def pairedWith (n : Nat) : List Nat → Option Nat
  | a :: b :: rest => if a = n then some b else pairedWith n rest
  | _ => none

def composePair (a b : Nat) : Option Nat :=
  if 0x1100 ≤ a && a < 0x1113 && 0x1161 ≤ b && b < 0x1176 then
    some (hangulFirst + ((a - 0x1100) * 21 + (b - 0x1161)) * 28)
  else if hangulFirst ≤ a && a < hangulFirst + hangulCount && (a - hangulFirst) % 28 = 0
      && 0x11a7 < b && b < 0x11c3 then
    some (a + (b - 0x11a7))
  else (compositions.findCode? a).bind (pairedWith b)

/-- Composition behind a starter. `kept` holds the marks since the starter that were not
composed with it, the last one first; a mark is blocked when the last of them has its class
or a higher one. -/
def composeFrom (starter : Nat) (kept : List Nat) : List Nat → List Nat
  | [] => starter :: kept.reverse
  | n :: rest =>
    let blocked := match kept with
      | [] => false
      | m :: _ => combiningClass n ≤ combiningClass m
    match if blocked then none else composePair starter n with
    | some composed => composeFrom composed kept rest
    | none =>
      if combiningClass n = 0 then starter :: kept.reverse ++ composeFrom n [] rest
      else composeFrom starter (n :: kept) rest

def composeAll : List Nat → List Nat
  | [] => []
  | n :: rest =>
    if combiningClass n = 0 then composeFrom n [] rest else n :: composeAll rest

/-- The compatibility-composed form of a text; a text in ASCII is its own. -/
def composed (cs : List Char) : List Char :=
  if cs.all (·.toNat < 128) then cs
  else (composeAll (orderMarks [] (cs.flatMap fun c => decomposeCode c.toNat))).map Char.ofNat

end TestImpact.Text
