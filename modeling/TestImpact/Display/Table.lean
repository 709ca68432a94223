import TestImpact.Display.Markup
import TestImpact.Display.Wrap

/-
  Tables in boxes.

  A table has a title, a heading for each column, and rows. A column is as wide
  as its widest line. If that is more than there is room for, the widest columns
  give way first, down to the next narrower ones, and then all of them together.
  The box has a heavy head.
-/

namespace TestImpact.Display

/-- A table; without a title there is none above it. -/
structure Table where
  title : String
  headings : List String
  rows : List (List String)
  overflow : Overflow

def consoleWidth : Nat := 80

/-! Widths of columns -/

/-- The quotient to the nearest whole number, a half to the even one. -/
def roundedQuotient (n d : Nat) : Nat :=
  let q := n / d
  let r := 2 * (n % d)
  if r < d then q else if d < r then q + 1 else q + q % 2

/-- Takes `total` off the marked widths, in even parts of at most `most` each. -/
def reduceMarked (most total marked : Nat) : List (Nat × Bool) → List Nat
  | [] => []
  | (w, isMarked) :: ws =>
    if isMarked ∧ 0 < marked then
      let part := min most (roundedQuotient total marked)
      (w - part) :: reduceMarked most (total - part) (marked - 1) ws
    else w :: reduceMarked most total marked ws

/-- Narrows widths until their sum is at most `room`; at most `fuel` steps. -/
def narrow (room : Nat) : (fuel : Nat) → List Nat → List Nat
  | 0, ws => ws
  | fuel + 1, ws =>
    if Text.total ws ≤ room then ws
    else
      let widest := ws.foldl max 0
      let next := (ws.filter (· ≠ widest)).foldl max 0
      let excess := Text.total ws - room
      let most := min excess (widest - next)
      if most = 0 then ws
      else
        let marked := ws.map fun w => (w, w == widest)
        narrow room fuel (reduceMarked most excess (ws.count widest) marked)

/-- The columns of the widest line of a cell. -/
def naturalWidth (cell : List Char) : Nat := ((Text.lines cell).map Text.width).foldl max 0

/-- Rows turned into columns, of which there are as many as said. -/
def turned {α : Type} [Inhabited α] (rows : List (List α)) : Nat → List (List α)
  | 0 => []
  | n + 1 => rows.map (·.headD default) :: turned (rows.map List.tail) n

/-- The widths of columns, with a blank on both sides. Beside the cells there is room for the
lines of the box. -/
def columnWidths (columns : List (List (List Char))) : List Nat :=
  let room := consoleWidth - (columns.length + 1)
  let natural := columns.map fun cells =>
    min room ((cells.map naturalWidth).foldl max 0 + 2)
  narrow room (Text.total natural + 1) natural

/-! Lines of the box -/

/-- The four kinds of signs of a line: at its left end, along cells, between them, at its right
end. -/
structure Rule where
  left : Char
  along : Char
  between : Char
  right : Char

/-- Parts between an opening and a closing sign. -/
def enclosed (left between right : Char) (parts : List (List Char)) : List Char :=
  left :: (([between] : List Char).intercalate parts ++ [right])

def Rule.line (r : Rule) (widths : List Nat) : List Char :=
  enclosed r.left r.between r.right (widths.map fun w => List.replicate w r.along)

def topRule : Rule := ⟨'┏', '━', '┳', '┓'⟩
def headRule : Rule := ⟨'┡', '━', '╇', '┩'⟩
def bottomRule : Rule := ⟨'└', '─', '┴', '┘'⟩

/-- The lines of a cell with a blank on both sides. -/
def cellLines (overflow : Overflow) (width : Nat) (cell : List Char) : List (List Char) :=
  (wrap overflow .left (width - 2) cell).map fun line => ' ' :: (line ++ [' '])

/-- The n-th line of each cell, blank where a cell has fewer. -/
def lineAt (cells : List (Nat × List (List Char))) (n : Nat) : List (List Char) :=
  cells.map fun (width, lines) => (lines[n]?).getD (blanks width)

def rowLines (overflow : Overflow) (edge : Char) (widths : List Nat) (row : List (List Char)) :
    List (List Char) :=
  let cells := (widths.zip row).map fun (w, cell) => (w, cellLines overflow w cell)
  let height := (cells.map (·.2.length)).foldl max 1
  (List.range height).map fun n => enclosed edge edge edge (lineAt cells n)

namespace Table

/-- The lines of a table. The columns are looked at one after another, the title at last. -/
def lines (t : Table) : Except MarkupFault (List (List Char)) := do
  let given := turned (t.headings :: t.rows) t.headings.length
  let columns ← given.mapM fun cells => cells.mapM shownText
  let title ← shownText t.title
  let widths := columnWidths columns
  let rows := turned columns (t.rows.length + 1)
  return (if t.title.isEmpty then []
      else wrap .fold .center (Text.total widths + widths.length + 1) title)
    ++ [topRule.line widths]
    ++ rowLines t.overflow '┃' widths (rows.headD [])
    ++ [headRule.line widths]
    ++ rows.tail.flatMap (rowLines t.overflow '│' widths)
    ++ [bottomRule.line widths]

def text (t : Table) : Except MarkupFault String :=
  t.lines.map fun ls => String.ofList (ls.flatMap fun l => l ++ ['\n'])

end Table

end TestImpact.Display
