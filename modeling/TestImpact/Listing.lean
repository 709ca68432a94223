import TestImpact.Text.Ascending
import TestImpact.Text.Dotted

/-
  The listing of a set of functions: one name a line, ascending, each once,
  and no line end after the last one.
-/

namespace TestImpact

def listing (ids : List String) : String := Text.joined "\n" (Text.ascending ids)

end TestImpact
