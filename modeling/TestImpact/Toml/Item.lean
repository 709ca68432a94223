import TestImpact.Toml.Quoted
import TestImpact.Toml.Value

/-
  Items of lists and of tables on one line.

  Both are cut at their commas first, and pieces that belong together are put
  together again: pieces of a quoted text, and pieces of a value that is not
  complete. A list of lists is cut at the commas outside of the inner brackets,
  a list of tables at the braces.
-/

namespace TestImpact.Toml

def isTextList (cs : List Char) : Bool := ((Text.trim (inner cs)).head?.map isQuote).getD false

/-- Whether a text ends with the quote that it begins with. -/
def isBounded (cs : List Char) : Bool :=
  match cs with
  | [] => true
  | c :: rest =>
    match rest.reverse with
    | [] => true
    | d :: before => c == d && (before.takeWhile (· == '\\')).length % 2 == 0

/-- Whether a text begins with three quotes and does not end in them. -/
def isOpenBlock (cs : List Char) : Bool :=
  match cs, cs.reverse with
  | a :: b :: c :: _, _ :: y :: z :: _ => a == b && b == c && y != a && z != a
  | _, _ => false

/-- Whether a piece is not a whole quoted text. -/
def isUnfinished (piece : List Char) : Bool :=
  let cs := Text.trim piece
  !isBounded cs || isOpenBlock cs

/-- Puts the pieces of quoted texts together. The last piece is taken as it is, unless it was
needed to go on with the one before it. -/
def rejoinTexts (joined : Bool) (piece : List Char) :
    List (List Char) → Except Fault (List (List Char))
  | [] => if joined ∧ isUnfinished piece then .error .noItem else .ok [piece]
  | next :: more =>
    if isUnfinished piece then rejoinTexts true (piece ++ ',' :: next) more
    else (rejoinTexts false next more).map (piece :: ·)

/-- Where a cut through a list of tables is: inside of a table, right behind one, or on the
way to the next one. -/
inductive TablePart where
  | within (taken : List Char) (quoted : Bool)
  | behind
  | between

/-- Cuts a list of tables at the braces, `depth` of which are open. -/
def tableItems (part : TablePart) (depth : Nat) : List Char → List (List Char)
  | [] => []
  | c :: cs =>
    match part with
    | .behind => tableItems .between depth cs
    | .between =>
      if c = '\x7b' then tableItems (.within [c] false) depth cs else tableItems .between depth cs
    | .within taken quoted =>
      let quoted :=
        if isQuote c then !quoted || (taken.takeWhile (· == '\\')).length % 2 == 1 else quoted
      let depth := if !quoted ∧ c = '\x7b' then depth + 1 else depth
      if quoted ∨ c ≠ '\x7d' then tableItems (.within (c :: taken) quoted) depth cs
      else if 1 < depth then tableItems (.within (c :: taken) quoted) (depth - 1) cs
      else (c :: taken).reverse :: tableItems .behind depth cs

/-- Cuts a list at the commas outside of brackets, `depth` of which are open. -/
def nestedItems (depth : Int) : List Char → List (List Char)
  | [] => [[]]
  | c :: cs =>
    if c = '[' then Text.consToFirst c (nestedItems (depth + 1) cs)
    else if c = ']' then Text.consToFirst c (nestedItems (depth - 1) cs)
    else if c = ',' ∧ depth = 0 then [] :: nestedItems depth cs
    else Text.consToFirst c (nestedItems depth cs)

def listItems (cs : List Char) : Except Fault (List (List Char)) :=
  let within := inner cs
  if within.contains '[' ∧ Text.trim (within.takeWhile (· ≠ '[')) = [] then
    .ok (nestedItems 0 within)
  else if (Text.trim within).head? = some '\x7b' then
    match within with
    | [] => .ok []
    | c :: rest => .ok (tableItems (.within [c] false) (if c = '\x7b' then 1 else 0) rest)
  else match Text.splitAt ',' within with
    | piece :: more => if isTextList cs then rejoinTexts false piece more else .ok (piece :: more)
    | [] => .ok []

/-- Whether a value looks complete by its first and last character. -/
def looksComplete (value : List Char) : Except Fault Bool :=
  match value.head?, value.getLast? with
  | some c, some d =>
    .ok ((isQuote c && c == d) || c == '-' || c.isDigit || value == "true".toList
      || value == "false".toList || (c == '[' && d == ']') || (c == '\x7b' && d == '\x7d'))
  | _, _ => .error .noCharacter

def tableFields (piece : List Char) (more : List (List Char)) :
    Except Fault (List (List Char)) := do
  match piece.dropWhile (· ≠ '=') with
  | [] => throw .malformed
  | _ :: value =>
    let complete ← looksComplete (Text.trim value)
    match more with
    | [] => if complete then return [piece] else throw .malformed
    | next :: rest =>
      if complete then return piece :: (← tableFields next rest)
      else tableFields (piece ++ ',' :: next) rest

/-- The fields of a table on one line. -/
def inlineFields (cs : List Char) : Except Fault (List (List Char)) :=
  match Text.splitAt ',' (inner cs) with
  | [piece] => if Text.trim piece = [] then .ok [] else tableFields piece []
  | piece :: more => tableFields piece more
  | [] => .ok []

end TestImpact.Toml
