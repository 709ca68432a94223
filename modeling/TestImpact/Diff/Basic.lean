import TestImpact.LineRange
import TestImpact.Text.Dotted

/-
  Changed lines, file by file.

  A diff is kept as the list of its files. No path occurs twice: a file that
  is filed again keeps its place and takes the new ranges.
-/

namespace TestImpact

/-- The added or modified lines of one file. -/
structure FileDiff where
  path : String
  ranges : List LineRange
  deriving DecidableEq

namespace FileDiff

def containsLine (d : FileDiff) (line : Int) : Bool := d.ranges.any (·.contains line)

/-- Whether one of the changed ranges shares a line with a range. -/
def overlaps (d : FileDiff) (r : LineRange) : Bool := d.ranges.any (·.overlaps r)

def hasExtension (d : FileDiff) (extensions : List String) : Bool :=
  extensions.any (Text.endsWith d.path)

end FileDiff

/-- The files of a diff, in the order in which each was filed first. -/
abbrev Diff := List FileDiff

namespace Diff

/-- Files a file's ranges: in its old place if its path is known, else at the end. -/
def file (d : FileDiff) : Diff → Diff
  | [] => [d]
  | e :: rest => if e.path = d.path then d :: rest else e :: file d rest

/-- The changed lines of the file with a path. -/
def find? (diff : Diff) (path : String) : Option FileDiff :=
  List.find? (fun d => d.path = path) diff

/-- The files whose paths end with one of the endings. -/
def restrict (extensions : List String) (diff : Diff) : Diff :=
  diff.filter (·.hasExtension extensions)

def paths (diff : Diff) : List String := diff.map (·.path)

end Diff

end TestImpact
