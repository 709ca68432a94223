import TestImpact.Toml.Moment

/-
  Values of a document.

  A document is a table, and a table lists its fields in the order in which
  they were first set. A `Place` says how to get from the document to a value
  in it: by the name of a field, or to the last item of a list. `setAt` changes
  the value at a place and nothing else.
-/

namespace TestImpact.Toml

inductive Value where
  | bool (b : Bool)
  | int (n : Int)
  | float (x : Binary64)
  | text (s : String)
  | moment (m : Moment)
  | array (items : List Value)
  | table (fields : List (String × Value))

/-- Named values, in the order of their first setting. -/
abbrev Table := List (String × Value)

namespace Table

def get? (t : Table) (name : String) : Option Value := (t.find? (·.1 = name)).map (·.2)

/-- Sets a field: in its place if it is there, and behind all others if not. -/
def set {α : Type} : List (String × α) → String → α → List (String × α)
  | [], name, v => [(name, v)]
  | (n, w) :: t, name, v => if n = name then (n, v) :: t else (n, w) :: set t name v

def erase (t : Table) (name : String) : Table := t.filter (·.1 ≠ name)

end Table

namespace Value

def kind : Value → String
  | bool _ => "bool"
  | int _ => "int"
  | float _ => "float"
  | text _ => "str"
  | moment m => m.kind
  | array _ => "list"
  | table _ => "dict"

/-- The kind of a value as an item: a list holds items of one kind. -/
def itemKind : Value → String
  | moment (.date _) => "date"
  | moment (.dateTime ..) => "date"
  | v => v.kind

mutual

/-- How deep lists and tables are nested in a value. -/
def depth : Value → Nat
  | array items => itemsDepth items + 1
  | table fields => fieldsDepth fields + 1
  | _ => 0

def itemsDepth : List Value → Nat
  | [] => 0
  | v :: vs => max (depth v) (itemsDepth vs)

def fieldsDepth : Table → Nat
  | [] => 0
  | (_, v) :: fields => max (depth v) (fieldsDepth fields)

end

end Value

/-- A step from a value into it. -/
inductive Step where
  | field (name : String)
  | lastItem
  deriving DecidableEq, Repr

/-- The way from a document to a value in it. -/
abbrev Place := List Step

namespace Value

def step? : Value → Step → Option Value
  | table t, .field name => Table.get? t name
  | array items, .lastItem => items.getLast?
  | _, _ => none

def at? (v : Value) (p : Place) : Option Value := p.foldlM step? v

/-- A value with another one in place of that at one step into it. -/
def setStep : Value → Step → Value → Value
  | table t, .field name, w => table (Table.set t name w)
  | array items, .lastItem, w => array (items.dropLast ++ [w])
  | v, _, _ => v

def setAt (v : Value) : Place → Value → Value
  | [], w => w
  | s :: p, w =>
    match v.step? s with
    | some inner => v.setStep s (setAt inner p w)
    | none => v

end Value

end TestImpact.Toml
