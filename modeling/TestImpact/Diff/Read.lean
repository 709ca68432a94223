import TestImpact.Diff.Basic
import TestImpact.Diff.Line
import TestImpact.Note

/-
  Reading a diff text.

  The lines are taken one after the other. A file header files the ranges
  collected for the file before it, if there are any, and opens its own file;
  a hunk header adds the range of its new lines to the open file. A hunk with
  count 0 only deletes lines and adds nothing. The file that is open at the
  end is filed too.

  Numbers of more than `digitLimit` digits are refused, and so is a hunk that
  has lines and starts at 0; both end the reading.
-/

namespace TestImpact.Diff

open TestImpact.Text

/-- The most digits that a number may have. -/
def digitLimit : Nat := 4300

inductive ReadError where
  | tooManyDigits (count : Nat)
  | badRange (fault : LineRangeError)
  deriving DecidableEq, Repr

def ReadError.message : ReadError → String
  | tooManyDigits count =>
    s!"Exceeds the limit ({digitLimit} digits) for integer string conversion: value has " ++
      s!"{count} digits; use sys.set_int_max_str_digits() to increase the limit"
  | badRange fault => fault.message

/-- The number that digits stand for, if there are not too many. -/
def readNumber (digits : List Char) : Except ReadError Nat :=
  if digitLimit < digits.length then .error (.tooManyDigits digits.length)
  else .ok (numberOf digits)

/-- The new lines of a hunk, none if it only deletes. A missing count is 1. -/
def HunkHeader.lines? (h : HunkHeader) : Except ReadError (Option LineRange) := do
  let start ← readNumber h.start
  let count ← match h.count with
    | none => pure 1
    | some digits => readNumber digits
  if count = 0 then return none
  match LineRange.make start (start + count - 1) with
  | .ok range => return some range
  | .error fault => .error (.badRange fault)

/-- How far a reading has come: the files filed, the open file, the notes, latest first. -/
structure Reading where
  filed : Diff
  current : Option FileDiff
  notes : List Note

namespace Reading

/-- The files, the open one included if it has a range. -/
def flushed (r : Reading) : Diff :=
  match r.current with
  | some d => if d.ranges.isEmpty then r.filed else Diff.file d r.filed
  | none => r.filed

def step (r : Reading) (line : List Char) : Except ReadError Reading :=
  match Line.read line with
  | .fileHeader path => .ok { r with filed := r.flushed, current := some ⟨String.ofList path, []⟩ }
  | .content => .ok r
  | .malformed text => .ok { r with notes := .malformedHunk (String.ofList text) :: r.notes }
  | .hunk header =>
    match r.current with
    | none => .ok { r with notes := .orphanHunk (String.ofList line) :: r.notes }
    | some d =>
      match header.lines? with
      | .error fault => .error fault
      | .ok none => .ok r
      | .ok (some range) => .ok { r with current := some { d with ranges := d.ranges ++ [range] } }

/-- The reading after some more lines; the first fault ends it. -/
def run (r : Reading) : List (List Char) → Except ReadError Reading
  | [] => .ok r
  | line :: rest =>
    match r.step line with
    | .error fault => .error fault
    | .ok next => next.run rest

end Reading

/-- Reads a diff text: its files, and what was remarkable about its lines. -/
def read (text : String) : Except ReadError (Diff × List Note) :=
  match Reading.run ⟨[], none, []⟩ (lines text.toList) with
  | .error fault => .error fault
  | .ok reading => .ok (reading.flushed, reading.notes.reverse)

end TestImpact.Diff
