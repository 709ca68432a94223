/-
  The two ways to read a source text.

  The strict dialect accepts exactly the texts of the language; a text with a
  fault anywhere is refused as a whole. The tolerant dialect follows a wider
  grammar, with statements of an older edition of the language, and keeps what
  it can read of a text with faults.
-/

namespace TestImpact.Source

inductive Dialect where
  | strict
  | tolerant
  deriving DecidableEq, Repr

def Dialect.isTolerant (d : Dialect) : Bool := d = .tolerant

/-- The words that are never identifiers. -/
def keywords : List String :=
  ["False", "None", "True", "and", "as", "assert", "async", "await", "break", "class",
   "continue", "def", "del", "elif", "else", "except", "finally", "for", "from", "global",
   "if", "import", "in", "is", "lambda", "nonlocal", "not", "or", "pass", "raise", "return",
   "try", "while", "with", "yield"]

end TestImpact.Source
