/-
  Lines of a text.

  A text is cut at its line boundaries: line feed, carriage return, vertical
  tab, form feed, the three information separators FS GS RS, NEL, and the
  Unicode line and paragraph separators. A carriage return directly before a
  line feed makes one boundary with it. A boundary ends a line and opens none,
  so a text that ends in one has no empty last line.

  `unifyLineEnds` is the other reading of line ends, the one of a file opened
  as text: there only CR LF and CR count, and each becomes a line feed.
-/

namespace TestImpact.Text

def isLineBoundary (c : Char) : Bool :=
  c == '\n' || c == '\r' || c == '\x0b' || c == '\x0c' || c == '\x1c' || c == '\x1d'
    || c == '\x1e' || c == '\u0085' || c == '\u2028' || c == '\u2029'

/-- Puts a character in front of the first line, opening a line if there is none. -/
def consToFirst (c : Char) : List (List Char) → List (List Char)
  | [] => [[c]]
  | l :: ls => (c :: l) :: ls

/-- The lines of a text, without their boundaries. -/
def lines : List Char → List (List Char)
  | [] => []
  | '\r' :: '\n' :: rest => [] :: lines rest
  | c :: rest => if isLineBoundary c then [] :: lines rest else consToFirst c (lines rest)

/-- Every CR LF and every lone CR becomes one line feed. -/
def unifyLineEnds : List Char → List Char
  | [] => []
  | '\r' :: '\n' :: rest => '\n' :: unifyLineEnds rest
  | '\r' :: rest => '\n' :: unifyLineEnds rest
  | c :: rest => c :: unifyLineEnds rest

/-- Cuts a list at every place where a separator stands; there is always at least one piece. -/
def splitAt (sep : Char) : List Char → List (List Char)
  | [] => [[]]
  | c :: rest =>
    if c = sep then [] :: splitAt sep rest
    else match splitAt sep rest with
      | [] => [[c]]
      | p :: ps => (c :: p) :: ps

/-- The rest of a list after a given front part, if it begins with that part. -/
def afterFront? : List Char → List Char → Option (List Char)
  | [], cs => some cs
  | _ :: _, [] => none
  | p :: ps, c :: cs => if p = c then afterFront? ps cs else none

end TestImpact.Text
