import TestImpact.Text.Digit
import TestImpact.Text.Lines

/-
  The lines of a diff text.

  Two kinds of lines count. A file header is `diff --git a/`, a text, ` b/`
  and the path; where ` b/` stands at several places, the last one that leaves
  something on both sides counts. A hunk header is
  `@@ -D[,D] +start[,count] @@` and anything after it, where every number is a
  run of decimal digits of any script. A line that begins with `@@` and is no
  hunk header is malformed; all other lines are content.
-/

namespace TestImpact.Diff

open TestImpact.Text

/-- The text after the last ` b/` with something after it. -/
def afterLastMark : List Char → Option (List Char)
  | [] => none
  | c :: rest =>
    match afterLastMark rest with
    | some path => some path
    | none =>
      match afterFront? [' ', 'b', '/'] (c :: rest) with
      | some (p :: path) => some (p :: path)
      | _ => none

/-- The path that a file header names; the text before the mark is not empty. -/
def headerPath? (line : List Char) : Option (List Char) :=
  match afterFront? "diff --git a/".toList line with
  | some (_ :: rest) => afterLastMark rest
  | _ => none

/-- A run of at least one digit, and the rest. -/
def number? (cs : List Char) : Option (List Char × List Char) :=
  match digitRun cs with
  | ([], _) => none
  | run => some run

/-- A comma and a number, if a comma stands there; the number may not be missing then. -/
def commaNumber? : List Char → Option (Option (List Char) × List Char)
  | ',' :: cs => (number? cs).map fun (digits, rest) => (some digits, rest)
  | cs => some (none, cs)

/-- The digits of the new start and of the new count, as a hunk header writes them. -/
structure HunkHeader where
  start : List Char
  count : Option (List Char)
  deriving DecidableEq

/-- The hunk header that a line is. -/
def hunkHeader? (line : List Char) : Option HunkHeader := do
  let (_, afterOld) ← number? (← afterFront? "@@ -".toList line)
  let (_, afterOldCount) ← commaNumber? afterOld
  let (start, afterNew) ← number? (← afterFront? " +".toList afterOldCount)
  let (count, afterNewCount) ← commaNumber? afterNew
  let _ ← afterFront? " @@".toList afterNewCount
  return ⟨start, count⟩

inductive Line where
  | fileHeader (path : List Char)
  | hunk (header : HunkHeader)
  | malformed (line : List Char)
  | content

/-- Tells what a line is; a file header is looked for first. -/
def Line.read (line : List Char) : Line :=
  match headerPath? line with
  | some path => .fileHeader path
  | none =>
    match afterFront? ['@', '@'] line with
    | none => .content
    | some _ =>
      match hunkHeader? line with
      | some header => .hunk header
      | none => .malformed line

end TestImpact.Diff
