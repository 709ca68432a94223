import TestImpact.Text.Dotted
import TestImpact.Text.Printable

/-
  Telling tests by their names.

  A function is a test if its simple name begins with one of the test
  prefixes, or if what stands before its last dot ends with one of the test
  suffixes. Letters are compared as they are, small and capital ones apart.
-/

namespace TestImpact

/-- The beginnings of test names and the endings of test containers. -/
structure Naming where
  prefixes : List String
  suffixes : List String
  deriving DecidableEq, Repr

namespace Naming

def standard : Naming where
  prefixes := ["test"]
  suffixes := ["Test", "Tests", "Spec", "かどうか", "テスト"]

def isTest (n : Naming) (id : String) : Bool :=
  n.prefixes.any (Text.startsWith (Text.simpleName id))
    || n.suffixes.any (Text.endsWith (Text.container id))

/-- The quoted members of a list in parentheses; a single one is followed by a comma. -/
def tupleText : List String → String
  | [] => "()"
  | [s] => "(" ++ Text.quoted s ++ ",)"
  | ss => "(" ++ Text.joined ", " (ss.map Text.quoted) ++ ")"

def text (n : Naming) : String :=
  "NamingConventionClassifier(name_prefixes=" ++ tupleText n.prefixes
    ++ ", container_suffixes=" ++ tupleText n.suffixes ++ ")"

end Naming

end TestImpact
