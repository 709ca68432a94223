import TestImpact.Text.Ascending

/-
  Names that are close to a mistyped one.

  Two names are compared by the characters that they share: the longest run
  that occurs in both, of several the first one, and then in the same way what
  stands on its left and on its right in both. A name is close if the shared
  characters are at least three fifths of all.
-/

namespace TestImpact.CommandLine

/-- The count of characters that two texts begin with in common. -/
def commonFront : List Char → List Char → Nat
  | a :: as, b :: bs => if a = b then commonFront as bs + 1 else 0
  | _, _ => 0

/-- A run that two texts share: its places in them and its length. -/
structure SharedRun where
  left : Nat
  right : Nat
  length : Nat

/-- The longest shared run, of several the first one in the one text and then in the other. -/
def longestRun (as bs : List Char) : SharedRun :=
  let runs := (List.range as.length).flatMap fun i =>
    (List.range bs.length).map fun j => ⟨i, j, commonFront (as.drop i) (bs.drop j)⟩
  runs.foldl (fun best run => if best.length < run.length then run else best) ⟨0, 0, 0⟩

/-- The count of shared characters, found in at most `fuel` cuts. -/
def sharedWithin : Nat → List Char → List Char → Nat
  | 0, _, _ => 0
  | fuel + 1, as, bs =>
    let run := longestRun as bs
    if run.length = 0 then 0
    else run.length
      + sharedWithin fuel (as.take run.left) (bs.take run.right)
      + sharedWithin fuel (as.drop (run.left + run.length)) (bs.drop (run.right + run.length))

/-- The count of shared characters. -/
def shared (as bs : List Char) : Nat := sharedWithin (as.length + 1) as bs

/-- Whether one name comes before another one as a suggestion for a third. -/
def isCloser (word a b : String) : Bool :=
  let score := fun (s : String) => shared s.toList word.toList
  let total := fun (s : String) => s.length + word.length
  let l := score a * total b
  let r := score b * total a
  r < l || (l == r && b < a)

/-- Puts a name before all that are less close. -/
def insertByCloseness (word name : String) : List String → List String
  | [] => [name]
  | other :: more =>
    if isCloser word name other then name :: other :: more
    else other :: insertByCloseness word name more

/-- The names that are close to a word: at most three, the closest first. -/
def closeNames (word : String) (names : List String) : List String :=
  let close := names.filter fun name =>
    3 * (name.length + word.length) ≤ 10 * shared name.toList word.toList
  (close.foldr (insertByCloseness word) []).take 3

end TestImpact.CommandLine
