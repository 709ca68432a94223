import TestImpact.Toml.Item
import TestImpact.Text.Dotted

/-
  Reading values, and lines that set a field.

  What stands before the equals sign is a name, or several names with dots
  between them, which lead from table to table; missing tables are made on the
  way. What stands behind it is a value. A text in three quotes may begin on
  the line and not end there: the field is then left open as a `Block`.

  An equals sign may stand inside of quotes, so the place to cut is looked for:
  the first one outside of quotes, and further ones as long as what follows is
  neither a number nor a date nor a time.
-/

namespace TestImpact.Toml

/-- A field whose text goes on in the lines to come. `escaped` says that the line ended in a
backslash. -/
structure Block where
  name : String
  text : List Char
  escaped : Bool

structure Draft where
  document : Value
  place : Place

/-- Pieces of a text that are by turns outside and inside of quotes. -/
def quotePieces (cs : List Char) : List (List Char) :=
  match Text.splitAt '"' cs with
  | first :: next :: more =>
    if first.contains '\'' then
      let (singles, left) := regroup (Text.splitAt '\'' first) (next :: more)
      singles ++ firstCut left
    else firstCut (first :: next :: more)
  | pieces => firstCut pieces
where
  /-- An apostrophe that is open goes on over quotation marks. -/
  regroup (singles : List (List Char)) :
      List (List Char) → List (List Char) × List (List Char)
    | [] => (singles, [])
    | piece :: pieces =>
      if singles.length % 2 = 0 then
        let last := singles.getLastD [] ++ '"' :: piece
        regroup (singles.dropLast ++ Text.splitAt '\'' last) pieces
      else (singles, piece :: pieces)
  firstCut : List (List Char) → List (List Char)
    | [] => []
    | piece :: pieces => Text.splitAt '\'' piece ++ pieces

/-- How many separators stand inside of quotes before the first one outside of them. -/
def quotedSeparators (count : List Char → Nat) (quoted : Bool) : List (List Char) → Nat
  | [] => 0
  | piece :: pieces =>
    if !quoted ∧ 0 < count piece then 0
    else count piece + quotedSeparators count (!quoted) pieces

/-! The cut between name and value -/

/-- Whether a text is not looked at closer as the value of a field. -/
def isPlainValue (v : List Char) : Bool :=
  match v with
  | [] => true
  | c :: _ =>
    c == ' ' || c == '\t' || isQuote c || c == '[' || c == '\x7b'
      || Text.trim v == "true".toList || Text.trim v == "false".toList

/-- Whether a text is a number, a date or a time. -/
def isScalar (v : List Char) : Except Fault Bool := do
  if (floatNumber? v).isSome then return true
  if (← dateOf? v).isSome then return true
  return (timeFields? v).isSome

/-- Whether the cut may stay before a value. -/
def isSettled (v : List Char) : Except Fault Bool := if isPlainValue v then .ok true else isScalar v

/-- Moves the cut on over equals signs until it may stay. `name` and `rest` are the pieces
before and behind it, `v` is the value as it was last read. -/
def settle (name rest : List (List Char)) (v : List Char) (strict : Bool) :
    Except Fault (List (List Char) × List Char × Bool) := do
  if ← isSettled v then return (name, v, strict)
  match rest with
  | [] => throw .malformed
  | [last] =>
    if v = last then throw .malformed
    if ← isSettled last then return (name, last, strict && isStrict last) else throw .malformed
  | piece :: more =>
    let next := joinWith ['='] more
    if v = next then throw .malformed
    settle (name ++ [piece]) more next (strict && isStrict next)

/-- Cuts a line: the name, the value, and whether a number there would be strict. -/
def cutField (line : List Char) : Except Fault (List Char × List Char × Bool) := do
  let pieces := Text.splitAt '=' line
  let count := fun piece => (Text.splitAt '=' piece).length - 1
  let n := min (1 + quotedSeparators count false (quotePieces line)) (pieces.length - 1)
  let v := joinWith ['='] (pieces.drop n)
  let bare := if (v.head?.map Char.isDigit).getD false then v.filter (· ≠ '_') else v
  let (name, value, strict) ← settle (pieces.take n) (pieces.drop n) bare (isStrict v)
  return (Text.trim (joinWith ['='] name), Text.trim value, strict)

/-! Names -/

/-- The names of a dotted name. Between quotes a dot is a dot. -/
def nameParts (cs : List Char) : List (List Char) :=
  if cs.any isQuote then parts false (quotePieces cs) else Text.splitAt '.' cs
where
  parts (quoted : Bool) : List (List Char) → List (List Char)
    | [] => []
    | piece :: pieces =>
      (if quoted then [piece] else (Text.splitAt '.' piece).map Text.trim) ++ parts (!quoted) pieces

/-- The name that a value has no dots in. -/
def plainName (cs : List Char) : Except Fault (List Char) :=
  match cs.head?, cs.getLast? with
  | some c, some d => if isQuote c ∧ c = d then unescape (inner cs) else .ok cs
  | _, _ => .error .noCharacter

/-- Goes into a field of the value at a place; a missing one is made if there is a table. -/
def Draft.enter (d : Draft) (name : String) (missing : Value) : Except Fault Draft :=
  let inside := d.place ++ [.field name]
  match d.document.at? d.place with
  | some (.table t) =>
    match Table.get? t name with
    | some _ => .ok { d with place := inside }
    | none => .ok ⟨d.document.setAt d.place (.table (Table.set t name missing)), inside⟩
  | some (.array _) => .error .listByName
  | some (.text s) =>
    .error (if Text.occursIn name.toList s.toList then .textByName else .textIsFixed)
  | some v => .error (.noContents v.kind)
  | none => .error .malformed

/-- Goes along the names of a dotted name up to the last one, and gives that. -/
def Draft.enterAll (d : Draft) : List (List Char) → Except Fault (Draft × List Char)
  | [] => .error .noItem
  | [last] => .ok (d, Text.trim last)
  | name :: names => do
    let d ← if name.isEmpty then pure d else d.enter (String.ofList name) (.table [])
    d.enterAll names

/-- Pieces without the empty ones at their end. -/
def withoutEmptyEnd (names : List (List Char)) : List (List Char) :=
  (names.reverse.dropWhile List.isEmpty).reverse

/-- The table that a name leads to, and the name in it. -/
def Draft.resolve (d : Draft) (name : List Char) : Except Fault (Draft × List Char) :=
  if name.contains '.' then d.enterAll (withoutEmptyEnd (nameParts name))
  else (plainName name).map fun n => (d, n)

/-! Texts over several lines -/

/-- The last item of a list that has begun, given as its pieces from the last one on. -/
def lastTextItem (piece : List Char) : List (List Char) → Except Fault (List Char)
  | [] => .ok piece
  | before :: more =>
    match piece with
    | [] => .error .noCharacter
    | c :: _ => if isQuote c then .ok piece else lastTextItem (before ++ ',' :: piece) more

/-- Where a text in three quotes stands that a value does not close: the value itself, or its
last item. -/
def openPart (v : List Char) : Except Fault (Option (List Char)) := do
  if v.length < 3 then return none
  let part ←
    if v.head? = some '[' ∧ (Text.trim v).getLast? ≠ some ']' ∧ isTextList v then
      match (Text.splitAt ',' (Text.trim v.tail)).reverse with
      | piece :: more => lastTextItem piece more
      | [] => throw .noCharacter
    else pure v
  match part with
  | [] => throw .noCharacter
  | c :: rest =>
    if !isQuote c then return none
    match rest with
    | [] => throw .noCharacter
    | d :: rest =>
      if c ≠ d then return none
      match rest with
      | [] => throw .noCharacter
      | e :: _ =>
        if c ≠ e then return none
        if 5 < part.length ∧ part.reverse.take 3 = [c, c, c] then return none
        return some part

/-- The text of a block after a line: a backslash at its end joins it to the next one. -/
def blockText (escaped : Bool) (text : List Char) : List Char :=
  if escaped then text.dropLast else text ++ ['\n']

/-! Values -/

/-- Sets a field of a draft's place: its line ends before or within the value. The place stays. -/
def Draft.assign (value : List Char → Bool → Except Fault Value) (d : Draft) (line : List Char) :
    Except Fault (Draft × Option Block) := do
  let (nameText, v, strict) ← cutField line
  let (inside, name) ← d.resolve nameText
  let name := String.ofList name
  let given ← match ← openPart v with
    | some part => pure (.inr (endsInEscape part))
    | none => Sum.inl <$> value v strict
  match inside.document.at? inside.place with
  | some (.table t) =>
    if (Table.get? t name).isSome then throw .malformed
    match given with
    | .inl w =>
      let document := inside.document.setAt inside.place (.table (Table.set t name w))
      return (⟨document, d.place⟩, none)
    | .inr escaped =>
      if name.isEmpty then throw .namelessBlock
      return (⟨inside.document, d.place⟩, some ⟨name, blockText escaped v, escaped⟩)
  | _ => throw .malformed

/-- Sets fields one after the other, up to the first one that is left open. -/
def Draft.assignAll (value : List Char → Bool → Except Fault Value) (d : Draft) :
    List (List Char) → Except Fault Draft
  | [] => .ok d
  | line :: lines => do
    match ← d.assign value line with
    | (d, none) => d.assignAll value lines
    | (d, some _) => return d

/-- Sets the fields of a table on one line. -/
def Draft.assignInline (value : List Char → Bool → Except Fault Value) (d : Draft)
    (cs : List Char) : Except Fault Draft := do
  d.assignAll value (← inlineFields cs)

/-- Reads the items of a list; all must be of one kind. Blank ones do not count. -/
def readItems (value : List Char → Except Fault Value) (kind : Option String) :
    List (List Char) → Except Fault (List Value)
  | [] => .ok []
  | item :: items =>
    if Text.trim item = [] then readItems value kind items
    else do
      let v ← value (Text.trim item)
      match kind with
      | some k => if k ≠ v.itemKind then throw .malformed
      | none => pure ()
      return v :: (← readItems value (some v.itemKind) items)

def readNumber (cs : List Char) : Option Value :=
  let (negative, digits) := signed cs
  let v := digits.filter (· ≠ '_')
  if v.contains '.' ∨ (¬ v.contains 'x' ∧ (v.contains 'e' ∨ v.contains 'E')) then
    if v.contains '.' ∧ (v.dropWhile (· ≠ '.')).drop 1 = [] then none
    else if (v.head?.map Char.isDigit).getD false then number negative v
    else none
  else if lowered v = "inf".toList ∨ lowered v = "nan".toList then number negative v
  else (basedNumber? v).map fun n => .int (if negative then -n else n)
where
  number (negative : Bool) (v : List Char) : Option Value :=
    (floatNumber? v).map fun x => .float (if negative then x.negated else x)

/-- Reads a value that is neither quoted nor in brackets. -/
def readScalar (cs : List Char) (strict : Bool) : Except Fault Value := do
  match timeFields? cs with
  | some (h, m, s, n) =>
    match ClockTime.of? h m s n with
    | some t => return .moment (.time t)
    | none => throw .malformed
  | none =>
    match ← dateOf? cs with
    | some m => return .moment m
    | none =>
      if !strict then throw .malformed
      match readNumber cs with
      | some v => return v
      | none => throw .malformed

/-- Reads a value, brackets nested to a given depth. -/
def readNested : Nat → List Char → Bool → Except Fault Value
  | 0, _, _ => .error .malformed
  | depth + 1, cs, strict =>
    match cs with
    | [] => .error .malformed
    | c :: _ =>
      if cs = "true".toList then .ok (.bool true)
      else if cs = "false".toList then .ok (.bool false)
      else if lowered cs = "true".toList ∨ lowered cs = "false".toList then .error .malformed
      else if isQuote c then (Quoted.read cs).map fun t => .text (String.ofList t)
      else if c = '[' then do
        let items ← listItems (Text.trim cs)
        return .array (← readItems (readNested depth · true) none items)
      else if c = '\x7b' then
        (Draft.assignInline (readNested depth) ⟨.table [], []⟩ cs).map (·.document)
      else readScalar cs strict

/-- Reads a value. Brackets cannot be nested deeper than the text is long. -/
def readValue (cs : List Char) (strict : Bool) : Except Fault Value :=
  readNested (cs.length + 1) cs strict

end TestImpact.Toml
