/-
  Why a text has no document.

  Most of these texts are just malformed, and who reads a document may pass
  over them. The other faults are texts that go on where nothing is left: they
  end before a character or an item that is asked for, or they use a value as
  though it were a table. They are kept apart from the malformed ones.
-/

namespace TestImpact.Toml

/-- Why a text has no document. -/
inductive Fault where
  /-- The text does not follow the format. -/
  | malformed
  /-- A part of the text ends before a character that is asked for. -/
  | noCharacter
  /-- A list ends before an item that is asked for. -/
  | noItem
  /-- A value of this kind is asked for a member. -/
  | noMembers (kind : String)
  /-- A value of this kind is asked whether something is in it. -/
  | noContents (kind : String)
  /-- A text is asked to take up a member. -/
  | textIsFixed
  /-- A text is asked for a member by its name. -/
  | textByName
  /-- A list is asked for a member by its name. -/
  | listByName
  /-- A table is to be added to something that is no list. -/
  | notAList
  /-- A text over several lines has the empty name. -/
  | namelessBlock
  /-- A code point does not fit into 31 bits. -/
  | codePointTooLarge
  /-- A fraction of a second is beyond the range of numbers. -/
  | fractionTooLarge
  deriving DecidableEq, Repr

def Fault.message : Fault → String
  | malformed => "malformed"
  | noCharacter => "string index out of range"
  | noItem => "list index out of range"
  | noMembers kind => s!"'{kind}' object is not subscriptable"
  | noContents kind => s!"argument of type '{kind}' is not iterable"
  | textIsFixed => "'str' object does not support item assignment"
  | textByName => "string indices must be integers, not 'str'"
  | listByName => "list indices must be integers or slices, not str"
  | notAList => "You can only load a file descriptor, filename or list"
  | namelessBlock => "cannot access local variable 'value' where it is not associated with a value"
  | codePointTooLarge => "Python int too large to convert to C int"
  | fractionTooLarge => "int too large to convert to float"

end TestImpact.Toml
