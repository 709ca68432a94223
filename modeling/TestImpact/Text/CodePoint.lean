import TestImpact.Text.Lines

/-
  Properties of characters, kept as sorted tables of code-point ranges.

  A table is written as a text of words, in base 16 and in increasing order,
  and is read once. A look-up halves the table until at most one range is
  left, so it takes about as many steps as the table's size has binary digits.
-/

namespace TestImpact.Text

/-- The code points from `first` to `last`, and the value they share. -/
structure CodePointRange (β : Type) where
  first : Nat
  last : Nat
  value : β
  deriving Repr

/-- A partial map from code points to values: ranges in increasing order, none overlapping. -/
structure CodePointMap (β : Type) where
  ranges : Array (CodePointRange β)

def hexDigitValue (c : Char) : Nat :=
  if c.isDigit then c.toNat - 48 else c.toNat - 87

def hexNumber (cs : List Char) : Nat :=
  cs.foldl (fun n c => 16 * n + hexDigitValue c) 0

/-- The numbers of each word of a table: words part at blanks and line ends, numbers at
hyphens. -/
def tableWords (table : String) : List (List Nat) :=
  (((lines table.toList).flatMap (splitAt ' ')).filter (· ≠ [])).map fun word =>
    (splitAt '-' word).map hexNumber

namespace CodePointMap

variable {β : Type}

/-- The set of the listed code points and ranges `first-last`. -/
def ofRanges (table : String) : CodePointMap Unit where
  ranges := ((tableWords table).filterMap fun
    | [a] => some ⟨a, a, ()⟩
    | [a, b] => some ⟨a, b, ()⟩
    | _ => none).toArray

/-- The map that takes the first number of each word to the others, of which there is one at
least. -/
def ofWords (table : String) : CodePointMap (List Nat) where
  ranges := ((tableWords table).filterMap fun
    | a :: n :: ns => some ⟨a, a, n :: ns⟩
    | _ => none).toArray

/-- The map that takes the range `first-last` of each word `first-last-value` to the value. -/
def ofTriples (table : String) : CodePointMap Nat where
  ranges := ((tableWords table).filterMap fun
    | [a, b, n] => some ⟨a, b, n⟩
    | _ => none).toArray

/-- The range that holds `n`, looked for among the ranges from `lo` up to, not including, `hi`. -/
def search (m : CodePointMap β) (n lo hi : Nat) : Option (CodePointRange β) :=
  if lo < hi then
    match m.ranges[(lo + hi) / 2]? with
    | none => none
    | some r =>
      if n < r.first then search m n lo ((lo + hi) / 2)
      else if r.last < n then search m n ((lo + hi) / 2 + 1) hi
      else some r
  else none
  termination_by hi - lo

def findRange? (m : CodePointMap β) (n : Nat) : Option (CodePointRange β) :=
  m.search n 0 m.ranges.size

def rangeOf? (m : CodePointMap β) (c : Char) : Option (CodePointRange β) := m.findRange? c.toNat

def findCode? (m : CodePointMap β) (n : Nat) : Option β := (m.findRange? n).map (·.value)

def find? (m : CodePointMap β) (c : Char) : Option β := m.findCode? c.toNat

def contains (m : CodePointMap β) (c : Char) : Bool := (m.rangeOf? c).isSome

end CodePointMap

end TestImpact.Text
