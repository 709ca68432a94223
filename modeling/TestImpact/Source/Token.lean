import TestImpact.Source.Lexeme

/-
  The tokens of a source text: its significant lexemes, with the ends of
  logical lines and the starts and ends of indented blocks among them.

  Inside brackets lines do not end. In the strict dialect every logical line
  opens a block if it is indented more than the lines of the block around it,
  and otherwise must stand at the indentation of an open block; indentation is
  measured twice, with tabs up to the next multiple of eight and with tabs of
  one column, and both measures must agree. In the tolerant dialect a block is
  opened only after a colon at the end of a line, and a line may stand
  anywhere.

  The row of a token that ends a line or a block is the row of what stands
  last in it. In the tolerant dialect comments belong to a block too, as long
  as they are indented like its lines.
-/

namespace TestImpact.Source

inductive TokenKind where
  | word
  | number
  | string
  | operator
  | lineEnd
  | blockStart
  | blockEnd
  | textEnd
  deriving DecidableEq, Repr

/-- A token, with the rows of its first and its last character. -/
structure Token where
  kind : TokenKind
  text : String
  first : Nat
  last : Nat
  deriving DecidableEq, Repr

namespace Token

def mark (kind : TokenKind) (row : Nat) : Token := ⟨kind, "", row, row⟩

def onRow (row : Nat) (t : Token) : Token := { t with first := row, last := row }

def ofLexeme (kind : TokenKind) (l : Lexeme) : Token :=
  ⟨kind, String.ofList l.text, l.row, l.rowAfter⟩

/-- The kind of token that a lexeme makes, if it is significant. -/
def kindOf : LexemeKind → Option TokenKind
  | .word => some .word
  | .number => some .number
  | .string => some .string
  | .operator => some .operator
  | _ => none

end Token

/-! Brackets -/

/-- The most brackets that may be open at once. -/
def bracketLimit : Nat := 200

/-- The bracket that closes one. -/
def closing (c : Char) : Option Char :=
  if c = '(' then some ')'
  else if c = '[' then some ']'
  else if c = '{' then some '}'
  else none

/-- The brackets that must be closed after a lexeme, innermost first. In the strict dialect
brackets must match. -/
def bracketsAfter (d : Dialect) (l : Lexeme) (open_ : List Char) : Option (List Char) :=
  match l.kind, l.text with
  | .operator, [c] =>
    match closing c with
    | some close =>
      if d = .strict ∧ bracketLimit ≤ open_.length then none else some (close :: open_)
    | none =>
      if c = ')' ∨ c = ']' ∨ c = '}' then
        match open_ with
        | [] => if d.isTolerant then some [] else none
        | close :: outer => if d.isTolerant ∨ c = close then some outer else none
      else some open_
  | _, _ => some open_

namespace Layout

/-! Strict layout -/

/-- The indentation of a line: two measures of its blanks, and the first measure as it was at
a hidden line end inside them. -/
structure Indent where
  column : Nat
  altColumn : Nat
  hidden : Nat
  deriving DecidableEq, Repr

/-- The indentation after one more blank. -/
def Indent.add (i : Indent) (c : Char) : Indent :=
  if c = '\t' then { i with column := (i.column / 8 + 1) * 8, altColumn := i.altColumn + 1 }
  else if c = '\x0c' then { i with column := 0, altColumn := 0 }
  else { i with column := i.column + 1, altColumn := i.altColumn + 1 }

def Indent.measures (i : Indent) : Nat × Nat :=
  if i.hidden = 0 then (i.column, i.altColumn) else (i.hidden, i.hidden)

/-- The most blocks that may be open at once. -/
def blockLimit : Nat := 99

/-- The blocks left, and how many end, when a line stands at a column. -/
def unwind (column : Nat) : List (Nat × Nat) → List (Nat × Nat) × Nat
  | [] => ([], 0)
  | block :: outer =>
    if column < block.1 then
      let (left, n) := unwind column outer
      (left, n + 1)
    else (block :: outer, 0)

/-- What a strict layout keeps from lexeme to lexeme: the indentation if it is at the start of
a line, the open blocks with their measures, the open brackets, and the last significant row. -/
structure StrictState where
  lineStart : Option Indent
  blocks : List (Nat × Nat)
  brackets : List Char
  row : Nat

/-- The tokens that stand before the first lexeme of a logical line, and the blocks open then. -/
def strictLineStart (s : StrictState) (i : Indent) : Option (List Token × List (Nat × Nat)) :=
  let (column, altColumn) := i.measures
  let (outerColumn, outerAlt) := s.blocks.headD (0, 0)
  if column = outerColumn then if altColumn = outerAlt then some ([], s.blocks) else none
  else if outerColumn < column then
    if blockLimit ≤ s.blocks.length || altColumn ≤ outerAlt then none
    else some ([.mark .blockStart s.row], (column, altColumn) :: s.blocks)
  else
    let (left, n) := unwind column s.blocks
    if left.headD (0, 0) = (column, altColumn) then
      some (List.replicate n (.mark .blockEnd s.row), left)
    else none

def strictStep (s : StrictState) (l : Lexeme) : Option (List Token × StrictState) :=
  match l.kind with
  | .comment => some ([], s)
  | .blank =>
    match s.lineStart with
    | some i => some ([], { s with lineStart := some (l.text.foldl Indent.add i) })
    | none => some ([], s)
  | .continuation =>
    match s.lineStart with
    | some i =>
      let hidden := if i.hidden = 0 then i.column else i.hidden
      some ([], { s with lineStart := some { i with hidden := hidden } })
    | none => some ([], s)
  | .lineEnd =>
    let fresh := { s with lineStart := some ⟨0, 0, 0⟩ }
    if s.lineStart.isSome || !s.brackets.isEmpty then some ([], fresh)
    else some ([.mark .lineEnd s.row], fresh)
  | kind =>
    match Token.kindOf kind, bracketsAfter .strict l s.brackets with
    | some kind, some brackets =>
      let token := Token.ofLexeme kind l
      let next := { s with lineStart := none, brackets := brackets, row := l.rowAfter }
      match s.lineStart with
      | none => some ([token], next)
      | some i =>
        if !s.brackets.isEmpty then some ([token], next)
        else (strictLineStart s i).map fun (front, blocks) =>
          (front ++ [token], { next with blocks := blocks })
    | _, _ => none

/-- The tokens of lexemes; at the end of the text all brackets must be closed. -/
def strictTokens (s : StrictState) : List Lexeme → Option (List Token)
  | [] =>
    if s.brackets.isEmpty then some (s.blocks.map fun _ => .mark .blockEnd s.row) else none
  | l :: rest =>
    match strictStep s l with
    | none => none
    | some (tokens, next) => (strictTokens next rest).map (tokens ++ ·)

/-- The text whose lexemes the strict dialect reads: with unified line ends, the last line
ended. A text that ends in CR LF has one more line, an empty one. -/
def endedLines (cs : List Char) : List Char :=
  let unified := Text.unifyLineEnds cs
  if unified.getLast? = some '\n' ∧ ¬ ['\r', '\n'].isSuffixOf cs then unified
  else unified ++ ['\n']

/-! Tolerant layout -/

/-- A comment on a line of its own: its indentation and its row. -/
structure OwnComment where
  indent : Nat
  row : Nat

/-- What a tolerant layout keeps: the indentation if it is at the start of a line, whether a
logical line is under way and whether its last token is a colon, the comments met since the
last token, latest first, the indentations of the open blocks, the open brackets, and the last
row. -/
structure TolerantState where
  lineStart : Option Nat
  inLine : Bool
  afterColon : Bool
  comments : List OwnComment
  blocks : List Nat
  brackets : List Char
  row : Nat

/-- The indentation after one more blank: a tab counts eight, a carriage return or a form feed
starts anew. -/
def addLoose (n : Nat) (c : Char) : Nat :=
  if c = '\t' then n + 8 else if c = '\r' ∨ c = '\x0c' then 0 else n + 1

/-- The row after the comments at the front that are indented at least to a column, and the
other comments. -/
def takeComments (column row : Nat) : List OwnComment → Nat × List OwnComment
  | [] => (row, [])
  | c :: rest => if column ≤ c.indent then takeComments column c.row rest else (row, c :: rest)

/-- Ends the blocks that are indented more than a line, innermost first: their tokens, the
blocks left, and the last row. -/
def endBlocks (column row : Nat) (comments : List OwnComment) :
    List Nat → List Token × List Nat × Nat
  | [] => ([], [], row)
  | block :: outer =>
    if column < block then
      let (row, comments) := takeComments block row comments
      let (tokens, left, last) := endBlocks column row comments outer
      (.mark .blockEnd row :: tokens, left, last)
    else ([], block :: outer, row)

/-- The tokens between the last token of a logical line and the first of the next one, and the
blocks open then. -/
def tolerantLineStart (s : TolerantState) (column : Nat) : List Token × List Nat × Nat :=
  let lineEnd := if s.inLine then [Token.mark .lineEnd s.row] else []
  if s.inLine && s.afterColon && s.blocks.headD 0 < column then
    (lineEnd ++ [.mark .blockStart s.row], column :: s.blocks, s.row)
  else
    let (tokens, left, last) := endBlocks column s.row s.comments.reverse s.blocks
    (lineEnd ++ tokens, left, last)

def tolerantStep (s : TolerantState) (l : Lexeme) : List Token × TolerantState :=
  match l.kind with
  | .comment =>
    match s.lineStart with
    | some n => ([], { s with comments := ⟨n, l.row⟩ :: s.comments })
    | none => ([], s)
  | .blank =>
    match s.lineStart with
    | some n => ([], { s with lineStart := some (l.text.foldl addLoose n) })
    | none => ([], s)
  | .continuation => ([], s)
  | .lineEnd => ([], { s with lineStart := some 0 })
  | kind =>
    match Token.kindOf kind, bracketsAfter .tolerant l s.brackets with
    | some kind, some brackets =>
      let token := Token.ofLexeme kind l
      let next : TolerantState :=
        { lineStart := none, inLine := true, afterColon := l.text = [':'], comments := [],
          blocks := s.blocks, brackets := brackets, row := l.rowAfter }
      match s.lineStart with
      | none => ([token], next)
      | some column =>
        if !s.brackets.isEmpty then ([token], next)
        else
          let (front, blocks, _) := tolerantLineStart s column
          (front ++ [token], { next with blocks := blocks })
    | _, _ => ([], s)

/-- The tokens of lexemes; the end of the text stands at column 0. -/
def tolerantTokens (s : TolerantState) : List Lexeme → List Token
  | [] => (tolerantLineStart s 0).1
  | l :: rest =>
    let (tokens, next) := tolerantStep s l
    tokens ++ tolerantTokens next rest

end Layout

/-- The tokens of a text, if it has any reading as tokens. -/
def tokens (d : Dialect) (cs : List Char) : Option (List Token) :=
  match d with
  | .strict =>
    (lexemes d (Layout.endedLines cs)).bind (Layout.strictTokens ⟨some ⟨0, 0, 0⟩, [], [], 0⟩)
  | .tolerant =>
    (lexemes d cs).map (Layout.tolerantTokens ⟨some 0, false, false, [], [], [], 0⟩)

end TestImpact.Source
