import TestImpact.Text.Width
import TestImpact.Text.Letter
import TestImpact.Text.Lines

/-
  Lines of a given width.

  A line that is too wide is broken before the first word that does not fit.
  A word that fits on no line is either folded, cut into pieces of the full
  width, or it is cropped and ends with an ellipsis. Widths are counted in
  columns; a character may take none, one or two of them.
-/

namespace TestImpact.Display

inductive Overflow where
  | fold
  | ellipsis
  deriving DecidableEq, Repr

inductive Alignment where
  | left
  | center
  deriving DecidableEq, Repr

/-- A place in a text, seen from the nearest word. -/
inductive WordPart where
  | before
  | within
  | behind
  deriving DecidableEq, Repr

/-- The words of a text, each with the blanks behind it; the first one also with those before.
`taken` is the word begun, backwards. -/
def wordsFrom (part : WordPart) (taken : List Char) : List Char → List (List Char)
  | [] => if part = .before then [] else [taken.reverse]
  | c :: cs =>
    match part, Text.isBlank c with
    | .before, true => wordsFrom .before (c :: taken) cs
    | .behind, false => taken.reverse :: wordsFrom .within [c] cs
    | _, true => wordsFrom .behind (c :: taken) cs
    | _, false => wordsFrom .within (c :: taken) cs

def words (cs : List Char) : List (List Char) := wordsFrom .before [] cs

/-- Cuts clusters into pieces of a width; `taken` is the piece begun, and `used` its columns. -/
def chopFrom (width : Nat) (taken : List Char) (used : Nat) : List Text.Cluster → List (List Char)
  | [] => [taken]
  | k :: ks =>
    if width < used + k.columns then taken :: chopFrom width k.chars k.columns ks
    else chopFrom width (taken ++ k.chars) (used + k.columns) ks

/-- Cuts a text into pieces of a width. -/
def chop (width : Nat) (cs : List Char) : List (List Char) :=
  chopFrom width [] 0 (Text.clusters cs)

/-- Breaks words into lines. `line` is the line begun and `used` the columns counted on it;
`first` says that nothing stands before it. -/
def breakLines (overflow : Overflow) (width : Nat) (first : Bool) (line : List Char) (used : Nat) :
    List (List Char) → List (List Char)
  | [] => [line]
  | word :: more =>
    let front := if first ∧ line.isEmpty then [] else [line]
    if used + Text.width (Text.trimRight word) ≤ width then
      breakLines overflow width first (line ++ word) (used + Text.width word) more
    else if width < Text.width (Text.trimRight word) ∧ overflow = .fold then
      let pieces := chop width word
      let last := pieces.getLastD []
      front ++ pieces.dropLast ++ breakLines overflow width false last (Text.width last) more
    else front ++ breakLines overflow width false word (Text.width word) more

/-- Leaves out blanks at the end of a line as far as it is longer than its width. -/
def dropExcess (width : Nat) (line : List Char) : List Char :=
  let blanks := (line.reverse.takeWhile Text.isBlank).length
  line.take (line.length - min blanks (line.length - width))

/-- The clusters at the front that take at most a given number of columns together. -/
def frontClusters (width : Nat) : List Text.Cluster → List Text.Cluster
  | [] => []
  | k :: ks => if k.columns ≤ width then k :: frontClusters (width - k.columns) ks else []

/-- The front part of a line that takes at most a given number of columns. -/
def frontPart (width : Nat) (line : List Char) : List Char :=
  (frontClusters width (Text.clusters line)).flatMap (·.chars)

def blanks (n : Nat) : List Char := List.replicate n ' '

/-- A line with blanks behind it up to a width. -/
def fill (width : Nat) (line : List Char) : List Char := line ++ blanks (width - Text.width line)

/-- A line that is not wider than a given width. -/
def crop (overflow : Overflow) (width : Nat) (line : List Char) : List Char :=
  if Text.width line ≤ width then line
  else match overflow with
    | .fold => fill width (frontPart width line)
    | .ellipsis => fill (width - 1) (frontPart (width - 1) line) ++ ['…']

/-- A line at its place, filled up to the full width. -/
def align (overflow : Overflow) (alignment : Alignment) (width : Nat) (line : List Char) :
    List Char :=
  match alignment with
  | .left => fill width (crop overflow width line)
  | .center =>
    let line := crop overflow width (Text.trimRight line)
    fill width (blanks ((width - Text.width line) / 2) ++ line)

/-- A line with blanks in the place of tabs, up to the next multiple of eight columns. -/
def expandTabs (line : List Char) : List Char :=
  let parts := Text.splitAt '\t' line
  let padded := fun part => part ++ blanks (8 - Text.width part % 8)
  parts.dropLast.flatMap padded ++ parts.getLastD []

def wrap (overflow : Overflow) (alignment : Alignment) (width : Nat) (text : List Char) :
    List (List Char) :=
  (Text.splitAt '\n' text).flatMap fun line =>
    let line := expandTabs line
    let broken := match words line with
      | [] => [line]
      | ws => breakLines overflow width true [] 0 ws
    broken.map fun l => align overflow alignment width (dropExcess width l)

end TestImpact.Display
