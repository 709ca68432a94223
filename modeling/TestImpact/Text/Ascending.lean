/-
  Ascending lists without repetition.

  `ascending` turns any list into the strictly ascending list of its members.
  It is the one form in which sets are answered and written, so that neither
  order nor repetition of what was collected can be seen.
-/

namespace TestImpact.Text

/-- Puts a member into a strictly ascending list; one that is there already stays. -/
def insertAscending {α : Type} [LT α] [DecidableLT α] (x : α) : List α → List α
  | [] => [x]
  | y :: ys =>
    if x < y then x :: y :: ys
    else if y < x then y :: insertAscending x ys
    else y :: ys

/-- The members of a list, strictly ascending. -/
def ascending {α : Type} [LT α] [DecidableLT α] (xs : List α) : List α :=
  xs.foldl (fun sorted x => insertAscending x sorted) []

/-- The members of a list in the order of their first occurrence, each once. -/
def distinct {α : Type} [DecidableEq α] : List α → List α
  | [] => []
  | x :: xs => x :: (distinct xs).filter (· ≠ x)

end TestImpact.Text
