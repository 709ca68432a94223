import TestImpact.Toml.Quoted
import TestImpact.Toml.Value
import TestImpact.Text.Dotted

/-
  Writing documents.

  The plain fields of a table come first, then its lists of tables, each table
  of a list with all that is in it. The tables of the document follow under
  their headers, level by level: first all that lie directly in the document,
  then those one level deeper. A table that holds nothing but tables has no
  header of its own. A blank line stands between two tables.

  A list that holds no table is written on one line; a table inside of a list
  inside of a list is written as the list of its names.
-/

namespace TestImpact.Toml

/-- Why a document cannot be written. -/
inductive WriteFault where
  /-- A text that begins with the escape of a control character. -/
  | leadingControl
  /-- An offset of a day or more. -/
  | wideOffset
  /-- A list holds tables and a value of this kind. -/
  | notATable (kind : String)
  /-- A list holds tables and a text. -/
  | textAsTable
  /-- A list holds tables and a list. -/
  | listAsTable
  deriving DecidableEq, Repr

def WriteFault.message : WriteFault → String
  | leadingControl => "list index out of range"
  | wideOffset =>
    "offset must be a timedelta strictly between -timedelta(hours=24) and timedelta(hours=24)."
  | notATable kind => s!"'{kind}' object is not iterable"
  | textAsTable => "string indices must be integers, not 'str'"
  | listAsTable => "list indices must be integers or slices, not str"

def quotedText (s : String) : Except WriteFault String :=
  match Quoted.write? s with
  | some q => .ok q
  | none => .error .leadingControl

/-- Whether a name is written without quotes. A line end behind it does not count. -/
def isBareName (cs : List Char) : Bool :=
  let name := if cs.getLast? = some '\n' then cs.dropLast else cs
  name ≠ [] && name.all fun c => c.isAlphanum || c == '_' || c == '-'

def nameText (name : String) : Except WriteFault String :=
  if isBareName name.toList then .ok name else quotedText name

/-- A number as it is written: without the zero before a single digit of an exponent. -/
def shortExponent : List Char → List Char
  | 'e' :: '+' :: '0' :: cs => 'e' :: '+' :: shortExponent cs
  | 'e' :: '-' :: '0' :: cs => 'e' :: '-' :: shortExponent cs
  | c :: cs => c :: shortExponent cs
  | [] => []

/-- The offset of no minutes is written as a letter. -/
def shortOffset (text : String) : String :=
  if Text.endsWith text "+00:00" then String.ofList (text.toList.take (text.length - 6)) ++ "Z"
  else text

mutual

def inlineText : Value → Except WriteFault String
  | .bool b => .ok (if b then "true" else "false")
  | .int n => .ok (toString n)
  | .float x => .ok (String.ofList (shortExponent x.text.toList))
  | .text s => quotedText s
  | .moment m =>
    match m.text? with
    | some t => .ok (shortOffset t)
    | none => .error .wideOffset
  | .array items => (itemTexts items).map fun ts => "[" ++ ts ++ "]"
  | .table fields => (fieldNameTexts fields).map fun ts => "[" ++ ts ++ "]"

/-- The items of a list, each with a comma behind it. -/
def itemTexts : List Value → Except WriteFault String
  | [] => .ok ""
  | v :: vs => do return " " ++ (← inlineText v) ++ "," ++ (← itemTexts vs)

/-- The names of fields as the items of a list. -/
def fieldNameTexts : Table → Except WriteFault String
  | [] => .ok ""
  | (name, _) :: fields => do
    return " " ++ (← quotedText name) ++ "," ++ (← fieldNameTexts fields)

end

/-- Tables that are still to be written, under their headers. -/
abbrev Sections := List (String × Table)

def Value.isTable : Value → Bool
  | .table _ => true
  | _ => false

def Value.isTableList : Value → Bool
  | .array items => items.any Value.isTable
  | _ => false

/-- Why a value cannot stand in a list of tables. Texts and lists without items can; else their
first item is taken for a name. -/
def Value.tableFault? : Value → Option WriteFault
  | .text s =>
    match s.toList with
    | [] => none
    | c :: _ => some (nameFault c.toString |>.getD .textAsTable)
  | .array [] => none
  | .array (.text s :: _) => some (nameFault s |>.getD .listAsTable)
  | .array _ => some .listAsTable
  | v => some (.notATable v.kind)
where
  nameFault (name : String) : Option WriteFault :=
    match nameText name with
    | .ok _ => none
    | .error fault => some fault

/-- The header of what a name means below another header. -/
def headerOf (front name : String) : String := if front.isEmpty then name else front ++ "." ++ name

/-- Sections with a header before their own. -/
def Sections.below (sections : Sections) (front : String) : Sections :=
  sections.map fun (name, t) => (front ++ "." ++ name, t)

/-- Puts sections behind others; a name that is there already keeps its place. -/
def Sections.add (sections more : Sections) : Sections :=
  more.foldl (fun all (name, t) => Table.set all name t) sections

/-- What is written of a table: its plain fields, its lists of tables, and the tables in it that
are not written yet. -/
structure Written where
  plain : String := ""
  lists : String := ""
  sections : Sections := []

/-- The text of a table without the tables directly in it. -/
def Written.text (w : Written) : String := w.plain ++ w.lists

mutual

/-- Writes the fields of a table, with lists of tables nested to a given depth. -/
def writeFields : Nat → String → Table → Except WriteFault Written
  | 0, _, _ => .ok {}
  | depth + 1, front, fields =>
    fields.foldlM (fun w (name, v) => do
      let quoted ← nameText name
      match v with
      | .table t => return { w with sections := Table.set w.sections quoted t }
      | .array items =>
        if v.isTableList then
          let text ← items.foldlM (fun text item => do
            return text ++ (← writeItem depth (headerOf front quoted) item)) ""
          return { w with lists := w.lists ++ text }
        else return { w with plain := w.plain ++ quoted ++ " = " ++ (← inlineText v) ++ "\n" }
      | _ => return { w with plain := w.plain ++ quoted ++ " = " ++ (← inlineText v) ++ "\n" })
      {}

/-- Writes an item of a list of tables, with all that is in it. -/
def writeItem : Nat → String → Value → Except WriteFault String
  | 0, _, _ => .ok ""
  | depth + 1, header, item => do
    let w ← match item with
      | .table t => writeFields depth header t
      | v => match v.tableFault? with
        | some fault => throw fault
        | none => pure {}
    let below ← writeBelow depth header w.sections
    let text := w.text
    let own := if Text.startsWith text "[" then "\n" ++ text else text ++ "\n"
    return "[[" ++ header ++ "]]\n" ++ own ++ below

/-- Writes the tables below a table of a list, level by level. -/
def writeBelow : Nat → String → Sections → Except WriteFault String
  | 0, _, _ => .ok ""
  | depth + 1, header, sections => do
    if sections.isEmpty then return ""
    let (text, deeper) ← sections.foldlM (fun (text, deeper) (name, t) => do
      let w ← writeFields depth (headerOf header name) t
      let own := if w.text.isEmpty then "" else "[" ++ headerOf header name ++ "]\n" ++ w.text
      return (text ++ own, Sections.add deeper (w.sections.below name))) ("", [])
    return text ++ (← writeBelow depth header deeper)

end

/-- A section behind what is written already: with its header, if it has fields or holds
nothing at all. -/
def appendSection (written header : String) (w : Written) : String :=
  if w.text.isEmpty ∧ ¬ w.sections.isEmpty then written
  else
    (if written.isEmpty ∨ Text.endsWith written "\n\n" then written else written ++ "\n")
      ++ "[" ++ header ++ "]\n" ++ w.text

/-- Writes sections level by level behind what is written already. -/
def writeSections : Nat → String → Sections → Except WriteFault String
  | 0, written, _ => .ok written
  | depth + 1, written, sections => do
    let (written, deeper) ← sections.foldlM (fun (written, deeper) (name, t) => do
      let w ← writeFields (depth + 1) name t
      return (appendSection written name w, Sections.add deeper (w.sections.below name)))
      (written, [])
    writeSections depth written deeper

def writeDocument (document : Table) : Except WriteFault String := do
  let depth := (Value.table document).depth
  let w ← writeFields depth "" document
  writeSections depth w.text w.sections

end TestImpact.Toml
