/-
  Closed ranges of lines.

  Lines count from 1, and a range holds at least one line; both facts are part
  of the type. `LineRange.make` is the way in for numbers that are not known
  to be in order: it names the first of the two faults.
-/

namespace TestImpact

/-- The lines from `first` to `last`, both included. -/
structure LineRange where
  first : Int
  last : Int
  one_le_first : 1 ≤ first
  first_le_last : first ≤ last
  deriving DecidableEq

inductive LineRangeError where
  | startBelowOne (start : Int)
  | endBelowStart (start finish : Int)
  deriving DecidableEq, Repr

def LineRangeError.message : LineRangeError → String
  | startBelowOne start => s!"start must be >= 1, but was {start}"
  | endBelowStart start finish => s!"end must be >= start, but was {finish} < {start}"

namespace LineRange

/-- The range between two numbers, if they bound one; the start is looked at first. -/
def make (first last : Int) : Except LineRangeError LineRange :=
  if h : first < 1 then .error (.startBelowOne first)
  else if h' : last < first then .error (.endBelowStart first last)
  else .ok ⟨first, last, by omega, by omega⟩

/-- The range that covers two rows, counted from 0, in either order. The rows of a parsed tree never
come with the later one first, so nothing that `make` refuses is let in here. -/
def ofRows (a b : Nat) : LineRange :=
  ⟨min a b + 1, max a b + 1, by omega, by omega⟩

def contains (r : LineRange) (line : Int) : Bool := r.first ≤ line && line ≤ r.last

def containsAny (r : LineRange) (lines : List Int) : Bool := lines.any r.contains

/-- Whether two ranges share a line, told by their ends. -/
def overlaps (r s : LineRange) : Bool := r.first ≤ s.last && s.first ≤ r.last

def text (r : LineRange) : String := s!"L{r.first}-{r.last}"

end LineRange

end TestImpact
