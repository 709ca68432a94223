import TestImpact.Note
import TestImpact.Text.Letter

/-
  Asking version control for a diff.

  The process itself is outside of this library: what it would do is given,
  and the answer says how it was asked.
-/

namespace TestImpact

/-- What comes of starting version control. -/
inductive VersionControlRun where
  | ended (code : Int) (output complaint : String)
  | notStarted (reason : String)
  deriving DecidableEq, Repr

/-- How version control was called, and from where. -/
structure VersionControlCall where
  command : List String
  directory : String
  deriving DecidableEq, Repr

/-- The revision that is compared with if none is given. -/
def defaultBase : String := "HEAD"

/-- The call for the changed lines since a revision. -/
def diffCall (directory base : String) : VersionControlCall :=
  ⟨["git", "diff", "--unified=0", base], directory⟩

/-- The diff that a run gives: its output if it ended well, and otherwise nothing. -/
def VersionControlRun.diff : VersionControlRun → String × List Note
  | notStarted reason => ("", [.versionControlNotRun reason])
  | ended code output complaint =>
    if code = 0 then (output, [])
    else ("", [.versionControlFailed code
      (String.ofList (Text.trim complaint.toList))])

end TestImpact
