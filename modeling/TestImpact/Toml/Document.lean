import TestImpact.Toml.Field
import TestImpact.Toml.Line

/-
  Reading documents.

  A line in brackets names the table that the lines after it belong to; in
  double brackets it adds a table to a list of tables. Tables on the way to a
  named one are made if they are missing; such a table may be named once more
  later on. Where the way leads over a list, it goes on in the last item.

  A line that sets a field may leave it open; the lines up to the closing
  quotes then belong to its text.
-/

namespace TestImpact.Toml

/-- A document in the making, with what was read of a field that is open. `implied` are the
names of tables that were made on the way to others. -/
structure Reading where
  draft : Draft := ⟨.table [], []⟩
  implied : List String := []
  block : Option Block := none

/-! Headers -/

/-- The pieces of a header between its closing brackets. -/
def headerPieces (isList : Bool) (cs : List Char) : List (List Char) :=
  if isList then splitAtPair ']' ']' cs else Text.splitAt ']' cs

/-- What stands in the brackets of a header, given what follows the opening ones. Closing
brackets inside of quotes do not close it, and nothing may follow. -/
def headerText (isList : Bool) (cs : List Char) : Except Fault (List Char) :=
  let pieces := headerPieces isList cs
  let count := fun piece => (headerPieces isList piece).length - 1
  let n := 1 + quotedSeparators count false (quotePieces cs)
  let sep := if isList then [']', ']'] else [']']
  if pieces.length ≤ n ∨ Text.trim (joinWith sep (pieces.drop n)) ≠ [] then .error .malformed
  else .ok (joinWith sep (pieces.take n))

def isBareChar (c : Char) : Bool := c.isAlphanum || c == '_' || c == '-'

/-- The names of a header, from the pieces between its dots. A quoted name goes on over dots
until it ends with its quote; `begun` is what was read of one. -/
def headerNames (begun : Option (List Char)) : List (List Char) → Except Fault (List (List Char))
  | [] => if begun.isSome then .error .malformed else .ok []
  | piece :: pieces =>
    let raw := match begun with
      | some front => front ++ '.' :: piece
      | none => Text.trim piece
    let name := Text.trim raw
    if (name.head?.map isQuote).getD false then
      if 1 < name.length ∧ name.head? = name.getLast? then
        (headerNames none pieces).map (inner name :: ·)
      else headerNames (some raw) pieces
    else if name ≠ [] ∧ name.all isBareChar then (headerNames none pieces).map (name :: ·)
    else .error .malformed

/-- Adds a table to the list at a place. -/
def Draft.extend (d : Draft) (place : Place) : Except Fault Draft :=
  match d.document.at? place with
  | some (.array items) =>
    .ok { d with document := d.document.setAt place (.array (items ++ [.table []])) }
  | _ => .error .notAList

/-- What a header makes where nothing is. -/
def missingTable (isLast isList : Bool) : Value :=
  if isLast ∧ isList then .array [.table []] else .table []

/-- Goes into what a name of a header names, or makes it. -/
def Reading.enter (r : Reading) (isLast isList : Bool) (name : String) : Except Fault Reading :=
  let d := r.draft
  let missing := missingTable isLast isList
  match d.document.at? d.place with
  | some (.table t) =>
    let inside := d.place ++ [.field name]
    if (Table.get? t name).isNone then
      (d.enter name missing).map fun d =>
        { r with draft := d, implied := if isLast then r.implied else r.implied ++ [name] }
    else if !isLast then .ok { r with draft := { d with place := inside } }
    else if r.implied.contains name then
      if isList then .error .malformed
      else .ok { r with draft := { d with place := inside }, implied := r.implied.erase name }
    else if isList then
      (d.extend inside).map fun d => { r with draft := { d with place := inside } }
    else .error .malformed
  | some (.array items) =>
    if items.isEmpty then .error .noItem
    else (({ d with place := d.place ++ [Step.lastItem] } : Draft).enter name missing).map fun d =>
      { r with draft := d }
  | some (.text s) =>
    match s.toList.getLast? with
    | none => .error .noCharacter
    | some c => .error (if name.toList = [c] then .textByName else .textIsFixed)
  | some v => .error (.noMembers v.kind)
  | none => .error .malformed

/-- A header of a list goes into the last item of each list on its way. -/
def Reading.enterLast (r : Reading) : Except Fault Reading :=
  let d := r.draft
  match d.document.at? d.place with
  | some (.table _) => .ok r
  | some (.array items) =>
    if items.isEmpty then .error .noItem
    else .ok { r with draft := { d with place := d.place ++ [Step.lastItem] } }
  | some (.text s) => if s.isEmpty then .error .noCharacter else .ok r
  | some v => .error (.noMembers v.kind)
  | none => .error .malformed

/-- Goes along the names of a header. -/
def Reading.enterAll (r : Reading) (isList : Bool) : List (List Char) → Except Fault Reading
  | [] => .ok r
  | name :: names => do
    if name.isEmpty then throw .malformed
    let r ← r.enter names.isEmpty isList (String.ofList name)
    let r ← if isList then r.enterLast else pure r
    r.enterAll isList names

def Reading.header (r : Reading) (line : List Char) : Except Fault Reading := do
  let (isList, cs) ← match line with
    | [] => throw .malformed
    | '[' :: cs => pure (true, cs)
    | cs => pure (false, cs)
  let names ← headerNames none (Text.splitAt '.' (← headerText isList cs))
  { r with draft := { r.draft with place := [] } }.enterAll isList names

/-! Lines -/

/-- Whether a block ends with a line, the text of both put together. -/
def closesBlock (text line : List Char) : Except Fault Bool :=
  match text with
  | '[' :: _ =>
    match line.getLast? with
    | some c => .ok (c = ']')
    | none => .error .noCharacter
  | c :: _ => .ok (line.reverse.take 3 = [c, c, c])
  | [] => .ok false

/-- A line of a block. -/
def Reading.goOn (r : Reading) (b : Block) (line : List Char) : Except Fault Reading := do
  let text := b.text ++ line
  if ← closesBlock text line then
    let v ← readValue text true
    let d := r.draft
    let document := match d.document.at? d.place with
      | some (.table t) => d.document.setAt d.place (.table (Table.set t b.name v))
      | _ => d.document
    return { r with draft := { d with document := document }, block := none }
  else
    let escaped := endsInEscape text
    return { r with block := some ⟨b.name, blockText escaped text, escaped⟩ }

/-- A line outside of blocks. -/
def Reading.line (r : Reading) (line : List Char) : Except Fault Reading :=
  match line with
  | [] => .ok r
  | c :: rest =>
    if c = '[' then r.header rest
    else if c = '\x7b' then
      if line.getLast? ≠ some '\x7d' then .error .malformed
      else (r.draft.assignInline readValue line).map fun d => { r with draft := d }
    else if line.contains '=' then
      (r.draft.assign readValue line).map fun (d, block) => { r with draft := d, block := block }
    else .ok r

/-- One line of the document. The lines of a block keep their blanks, as soon as it has a line
end in it. -/
def Reading.step (r : Reading) (line : List Char) : Except Fault Reading :=
  match r.block with
  | none => r.line (Text.trim line)
  | some b =>
    let line := if b.escaped ∨ ¬ b.text.contains '\n' then Text.trim line else line
    if line.isEmpty ∧ b.escaped then .ok r else r.goOn b line

/-- Reads a document. A field that is still open at the end is left out. -/
def readDocument (text : List Char) : Except Fault Table := do
  let r ← (← documentLines text).foldlM Reading.step ({} : Reading)
  match r.draft.document with
  | .table t => return t
  | _ => throw .malformed

end TestImpact.Toml
