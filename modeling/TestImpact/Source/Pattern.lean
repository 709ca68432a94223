import TestImpact.Source.Expression

/-
  Reading the patterns of a `match` statement.

  A pattern is a literal, a name to bind, the wildcard, a dotted name, a
  group, a sequence, a mapping or a class with patterns for its fields;
  patterns may be alternatives and may be bound as a whole.
-/

namespace TestImpact.Source

open Parse

namespace Grammar

variable (g : Grammar)

/-- A number, and whether it is imaginary. -/
def numberLiteral : Parse Bool := do
  let t ← expectKind .number
  return Scan.imaginaryLength (t.text.toList.reverse.take 1) = 1

/-- A number that may be signed, or the sum of a real and an imaginary one. -/
def numberPattern : Parse Unit := do
  let _ ← accept "-"
  let imaginary ← numberLiteral
  if ← seesAny ["+", "-"] then
    let _ ← take
    let second ← numberLiteral
    check (!imaginary && second)

/-- A literal that a pattern may compare with. -/
def literalPattern : Parse Tree := do
  let first ← row
  let t ← peek
  if t.kind = .string then g.strings
  else if t.kind = .number || isText t "-" then
    numberPattern
    nodeFrom first .other []
  else
    check (["None", "True", "False"].any (isText t))
    let _ ← take
    nodeFrom first .other []

def dottedName : Parse Tree := do
  let first ← row
  let x ← identifier
  let names ← many do
    expect "."
    identifier
  nodeFrom first (if names.isEmpty then .identifier else .member) (x :: names)

def captureName : Parse Unit := do
  check (!(← sees "_"))
  let _ ← identifier
  check (!(← seesAny [".", "(", "="]))

def starPattern : Parse Tree := do
  let first ← row
  expect "*"
  let _ ← identifier
  nodeFrom first .splat []

def sequenceItem : Parse Tree := do
  if ← sees "*" then starPattern else g.read .pattern

def keyPattern : Parse Tree := do
  let first ← row
  let key ← g.literalPattern <|> do
    let x ← dottedName
    check (x.kind = .member)
    return x
  expect ":"
  nodeFrom first .pair [key, ← g.read .pattern]

/-- The name that takes the rest of a mapping. -/
def restPattern : Parse Tree := do
  let first ← row
  expect "**"
  captureName
  nodeFrom first .other []

/-- The mapping between braces; what takes the rest stands last. -/
def mappingPattern : Parse Tree := do
  let first ← row
  expect "\x7b"
  let items ← optionally (separated "," g.keyPattern)
  let rest ← optionally do
    if !items.isEmpty then expect ","
    restPattern
  if !(items.isEmpty && rest.isEmpty) then
    let _ ← accept ","
  expect "\x7d"
  nodeFrom first .dictionary (items.flatten ++ rest)

def classArgument : Parse Tree := do
  let first ← row
  let keyword : Parse Tree := do
    let _ ← identifier
    expect "="
    nodeFrom first .keywordArgument [← g.read .pattern]
  keyword <|> g.read .pattern

/-- The sequence between two brackets, or a group. -/
def bracketedPattern (open_ close : String) (isGroup : Bool) : Parse Tree := do
  let first ← row
  expect open_
  if ← accept close then nodeFrom first .other []
  else
    let (xs, comma) ← commaList g.sequenceItem
    expect close
    check (comma || !isGroup || xs.all (·.kind ≠ .splat))
    nodeFrom first .other xs

/-- A name: the wildcard, a value, a class, or a name to bind. -/
def namePattern : Parse Tree := do
  let first ← row
  if ← sees "_" then
    let _ ← take
    nodeFrom first .other []
  else
    let x ← dottedName
    if ← accept "(" then
      if ← accept ")" then nodeFrom first .other []
      else
        let (xs, _) ← commaList g.classArgument
        expect ")"
        check (argumentsOrdered 0 (xs.map fun x =>
          if x.kind = .keywordArgument then .keywordArgument else .other))
        nodeFrom first .other xs
    else
      check (!(← seesAny [".", "="]) || (x.kind = .identifier && g.isTolerant))
      nodeFrom first .other []

/-- A pattern that is neither bound as a whole nor an alternative. -/
def closedPattern : Parse Tree := do
  if ← sees "(" then g.bracketedPattern "(" ")" true
  else if ← sees "[" then g.bracketedPattern "[" "]" false
  else if ← sees "\x7b" then g.mappingPattern
  else g.literalPattern <|> g.namePattern

def pattern : Parse Tree := do
  let x ← chain ["|"] g.closedPattern
  if ← accept "as" then captureName
  return x

/-- What stands behind `case`: a pattern, or a sequence without brackets. -/
def openPattern : Parse Tree := do
  let first ← row
  let (xs, comma) ← commaList do
    if ← sees "*" then starPattern else g.pattern
  check (comma || xs.all (·.kind ≠ .splat))
  nodeFrom first .other xs

end Grammar

end TestImpact.Source
