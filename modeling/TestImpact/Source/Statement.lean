import TestImpact.Source.Pattern

/-
  Reading statements and whole texts.

  Simple statements share a line, with semicolons between; a compound
  statement has a header that ends in a colon and a block, which is an
  indented one or the rest of the line. In the tolerant grammar a block may be
  missing, two statements of an older edition of the language exist besides,
  and a place that no rule reads is left out and marked as damaged.

  `Grammar.ofDepth` closes the circle of the rules: it lets goals be asked for
  inside each other a given number of times. A text asks for no goal without
  taking a token first, so a depth that exceeds the number of tokens is never
  used up.
-/

namespace TestImpact.Source

open Parse

namespace Grammar

variable (g : Grammar)

/-! Simple statements -/

/-- What may be assigned: a `yield` or values. -/
def assigned : Parse Tree := do
  if ← sees "yield" then g.yieldExpression else g.read .values

def augmentedOperators : List String :=
  ["+=", "-=", "*=", "@=", "/=", "%=", "&=", "|=", "^=", "<<=", ">>=", "**=", "//="]

/-- The values of a chain of assignments, each but the last of them a target. There are at most
as many as tokens in a list. -/
def assignments (x : Tree) : List Token → Parse (List Tree)
  | [] => return [x]
  | _ :: n => do
    if ← sees "=" then
      check (x.isTarget true)
      expect "="
      return x :: (← assignments (← g.assigned) n)
    else return [x]

/-- An expression as a statement, or an assignment. -/
def expressionStatement : Parse Tree := do
  let first ← row
  if ← sees "yield" then
    let x ← g.yieldExpression
    nodeFrom first .other [x]
  else
    let x ← g.values
    if ← sees "=" then nodeFrom first .other (← g.assignments x (← get).rest)
    else if ← seesAny augmentedOperators then
      check x.isSingleTarget
      let _ ← take
      nodeFrom first .other [x, ← g.assigned]
    else if ← sees ":" then
      check x.isSingleTarget
      expect ":"
      let note ← g.read .expression
      if ← accept "=" then nodeFrom first .other [x, note, ← g.assigned]
      else nodeFrom first .other [x, note]
    else return x

/-- A statement that begins with a keyword and holds expressions that may be missing. -/
def keywordStatement (keyword : String) (parts : Parse (List Tree)) : Parse Tree := do
  let first ← row
  expect keyword
  nodeFrom first .other (← parts)

def raised : Parse (List Tree) := do
  let what ← optionally (if g.isTolerant then g.read .values else g.read .expression)
  if ← acceptIf (!what.isEmpty) "from" then return what ++ [← g.read .expression]
  else return what

def asserted : Parse (List Tree) := do
  let test ← g.read .expression
  if ← accept "," then return [test, ← g.read .expression] else return [test]

def deleted : Parse (List Tree) := do
  let x ← g.read .values
  check x.isDeletable
  return [x]

def names : Parse (List Tree) := do
  let _ ← separated "," identifier
  return []

/-- A name in an import, and maybe another name for it. -/
def importedName (name : Parse Unit) : Parse Unit := do
  name
  if ← accept "as" then let _ ← identifier

def moduleName : Parse Unit := do
  let _ ← separated "." identifier

def importStatement : Parse Tree := do
  let first ← row
  expect "import"
  let _ ← separated "," (importedName moduleName)
  nodeFrom first .other []

def importFromStatement : Parse Tree := do
  let first ← row
  expect "from"
  let dots ← many do
    check (← seesAny [".", "..."])
    take
  if dots.isEmpty then moduleName
  else
    let _ ← optionally moduleName
  expect "import"
  let plain := importedName do let _ ← identifier
  if ← accept "*" then pure ()
  else if ← accept "(" then
    let _ ← commaList plain
    expect ")"
  else
    let _ ← separated "," plain
  nodeFrom first .other []

/-- The statements that only the tolerant grammar has: printing and executing as statements,
and names for types. -/
def olderStatement : Parse Tree := do
  check g.isTolerant
  let first ← row
  if ← accept "print" then
    let _ ← accept ">>"
    nodeFrom first .other [← g.read .values]
  else if ← accept "exec" then
    let code ← g.read .operand
    if ← accept "in" then nodeFrom first .other [code, ← g.read .values]
    else nodeFrom first .other [code]
  else
    expect "type"
    let name ← g.read .expression
    expect "="
    nodeFrom first .other [name, ← g.read .expression]

def simpleEnds : Parse Bool := do return (← sees ";") || (← seesKind .lineEnd)

def simpleStatement : Parse Tree := do
  let t ← peek
  if t.kind = .word then
    match t.text with
    | "pass" | "break" | "continue" => keywordStatement t.text (pure [])
    | "return" => keywordStatement "return" (optionally (g.read .values))
    | "raise" => keywordStatement "raise" g.raised
    | "assert" => keywordStatement "assert" g.asserted
    | "del" => keywordStatement "del" g.deleted
    | "global" | "nonlocal" => keywordStatement t.text names
    | "import" => importStatement
    | "from" => importFromStatement
    | _ => (g.expressionStatement <* do check (← simpleEnds)) <|> g.olderStatement
  else g.expressionStatement

def simpleStatements : Parse (List Tree) := do
  let x ← g.simpleStatement
  let xs ← many do
    expect ";"
    g.simpleStatement
  let _ ← accept ";"
  let _ ← expectKind .lineEnd
  return x :: xs

/-! Blocks -/

/-- Leaves out tokens up to the end of the line, at most as many as there are in a list. -/
def skipLine : List Token → Parse Unit
  | [] => return
  | _ :: n => do
    let t ← take
    if t.kind ≠ .lineEnd then skipLine n

/-- Leaves out an indented block; `depth` blocks are open inside it. -/
def skipBlock (depth : Nat) : List Token → Parse Unit
  | [] => return
  | _ :: n => do
    let t ← take
    if t.kind = .blockStart then skipBlock (depth + 1) n
    else if t.kind = .blockEnd then
      if depth = 0 then return else skipBlock (depth - 1) n
    else skipBlock depth n

/-- A place that no rule reads, in the tolerant grammar: a line and the block under it. -/
def damagedPlace : Parse Tree := do
  check g.isTolerant
  let first ← row
  let n := (← get).rest
  check (!(← seesKind .blockEnd) && !(← seesKind .textEnd))
  skipLine n
  if ← seesKind .blockStart then
    let _ ← take
    skipBlock 0 n
  nodeFrom first .damaged []

/-- What follows the colon of a compound statement. -/
def block : Parse Tree := do
  let first ← row
  if ← seesKind .lineEnd then
    let _ ← take
    if ← seesKind .blockStart then
      let _ ← take
      let xs ← many (g.read .statement)
      check !xs.isEmpty
      let _ ← expectKind .blockEnd
      nodeFrom first .block xs
    else
      check g.isTolerant
      nodeFrom first .block []
  else nodeFrom first .block (← g.simpleStatements)

def colonBlock : Parse Tree := do
  expect ":"
  g.read .block

/-- A clause that begins with a keyword, if it stands here. -/
def clause? (keyword : String) (parts : Parse (List Tree)) : Parse (List Tree) := do
  if ← accept keyword then
    let xs ← parts
    return xs ++ [← g.colonBlock]
  else return []

def elseClause : Parse (List Tree) := g.clause? "else" (pure [])

/-! Compound statements -/

def condition : Parse (List Tree) := do return [← g.read .named]

def ifStatement : Parse Tree := do
  let first ← row
  expect "if"
  let test ← g.condition
  let body ← g.colonBlock
  let others ← many do
    check (← sees "elif")
    g.clause? "elif" g.condition
  let last ← g.elseClause
  nodeFrom first .other (test ++ body :: others.flatten ++ last)

def whileStatement : Parse Tree := do
  let first ← row
  expect "while"
  let test ← g.condition
  let body ← g.colonBlock
  nodeFrom first .other (test ++ body :: (← g.elseClause))

def forStatement (first : Nat) : Parse Tree := do
  expect "for"
  let left ← g.read .targets
  expect "in"
  let right ← g.read .values
  let body ← g.colonBlock
  nodeFrom first .other (left :: right :: body :: (← g.elseClause))

/-- An item of `with`, and the place it is bound to. -/
def withItem : Parse (List Tree) := do
  let x ← g.read .expression
  if ← accept "as" then
    let first ← row
    let y ← if ← acceptIf (!g.isTolerant) "*" then do nodeFrom first .splat [← g.primary]
      else g.primary
    check (y.isTarget true)
    return [x, y]
  else return [x]

/-- The items of `with`, in parentheses or not, up to the colon. -/
def withItems : Parse (List Tree) :=
  (do
    expect "("
    let (items, _) ← commaList g.withItem
    expect ")"
    check (← sees ":")
    return items.flatten)
  <|> do
    let items ← separated "," g.withItem
    return items.flatten

def withStatement (first : Nat) : Parse Tree := do
  expect "with"
  let items ← g.withItems
  nodeFrom first .other (items ++ [← g.colonBlock])

/-- What an `except` clause catches, and the name it is bound to. -/
def caught : Parse (List Tree) := do
  let x ← g.read .expression
  if ← accept "as" then
    let _ ← identifier
    return [x]
  else if ← acceptIf g.isTolerant "," then return [x, ← g.read .expression]
  else return [x]

/-- An `except` clause; tells whether it has a star. -/
def exceptClause : Parse (Bool × List Tree) := do
  expect "except"
  let starred ← accept "*"
  if ← sees ":" then
    check !starred
    return (false, [← g.colonBlock])
  else
    let xs ← g.caught
    return (starred, xs ++ [← g.colonBlock])

def tryStatement : Parse Tree := do
  let first ← row
  expect "try"
  let body ← g.colonBlock
  let handlers ← many g.exceptClause
  let others ← if handlers.isEmpty then pure [] else g.elseClause
  let last ← g.clause? "finally" (pure [])
  check (g.isTolerant || !(handlers.isEmpty && last.isEmpty))
  check (g.isTolerant || handlers.all (·.1) || handlers.all (!·.1))
  nodeFrom first .other (body :: handlers.flatMap (·.2) ++ others ++ last)

def caseClause : Parse (List Tree) := do
  expect "case"
  let what ← g.openPattern
  let guard ← if ← accept "if" then g.condition else pure []
  return what :: guard ++ [← g.colonBlock]

/-- The header of `match`, up to the start of its block. -/
def matchHeader : Parse Tree := do
  expect "match"
  let first ← row
  let (xs, comma) ← commaList g.displayItem
  check (comma || xs.all (·.kind ≠ .splat))
  expect ":"
  let _ ← expectKind .lineEnd
  let _ ← expectKind .blockStart
  nodeFrom first .other xs

def matchStatement : Parse Tree := do
  let first ← row
  let subject ← g.matchHeader
  let cases ← many g.caseClause
  check !cases.isEmpty
  let _ ← expectKind .blockEnd
  nodeFrom first .other (subject :: cases.flatten)

/-- The names of type variables in a header of the tolerant grammar. -/
def typeVariables : Parse Unit := do
  if g.isTolerant && (← sees "[") then
    let _ ← g.brackets

def functionDefinition (first : Nat) : Parse Tree := do
  expect "def"
  let name ← g.memberName
  g.typeVariables
  expect "("
  let ps ← g.parameters true ")"
  expect ")"
  let result ← if ← accept "->" then (fun x => [x]) <$> g.read .expression else pure []
  let body ← g.colonBlock
  nodeFrom first .functionDefinition
    (name.labelled .name :: ps ++ result ++ [body.labelled .body])

def classDefinition : Parse Tree := do
  let first ← row
  expect "class"
  let name ← g.memberName
  g.typeVariables
  let bases ← if ← sees "(" then (fun x => [x]) <$> g.arguments false else pure []
  let body ← g.colonBlock
  nodeFrom first .classDefinition (name.labelled .name :: bases ++ [body.labelled .body])

def definition : Parse Tree := do
  let first ← row
  if ← sees "class" then g.classDefinition
  else
    let _ ← accept "async"
    g.functionDefinition first

/-- A decorator: an expression on a line of its own. -/
def decorator : Parse Tree := do
  let first ← row
  expect "@"
  let x ← g.read .named
  let _ ← expectKind .lineEnd
  nodeFrom first .decorator [x]

def decorated : Parse Tree := do
  let first ← row
  let d ← g.decorator
  let ds ← many g.decorator
  let definition ← g.definition
  nodeFrom first .decoratedDefinition (d :: ds ++ [definition.labelled .definition])

def asyncStatement : Parse Tree := do
  let first ← row
  expect "async"
  if ← sees "for" then g.forStatement first
  else if ← sees "with" then g.withStatement first
  else g.functionDefinition first

/-- The simple statements of a line, as one node. -/
def simpleLine : Parse Tree := do
  let first ← row
  match ← g.simpleStatements with
  | [x] => return x
  | xs => nodeFrom first .other xs

/-- A statement that some rule reads. -/
def soundStatement : Parse Tree := do
  let first ← row
  let t ← peek
  if t.kind = .word then
    match t.text with
    | "if" => g.ifStatement
    | "while" => g.whileStatement
    | "for" => g.forStatement first
    | "try" => g.tryStatement
    | "with" => g.withStatement first
    | "def" | "class" => g.definition
    | "async" => g.asyncStatement
    | "match" => g.matchStatement <|> g.simpleLine
    | _ => g.simpleLine
  else if isText t "@" then g.decorated
  else g.simpleLine

/-- A statement, or in the tolerant grammar a damaged place. -/
def statement : Parse Tree := g.soundStatement <|> g.damagedPlace

/-! The circle of the rules -/

def rule : Goal → Parse Tree
  | .expression => g.expression
  | .named => g.named
  | .values => g.values
  | .disjunction => g.disjunction
  | .operand => g.operand
  | .factor => g.factor
  | .targets => g.targets
  | .pattern => g.pattern
  | .statement => g.statement
  | .block => g.block

/-- The grammar that lets goals be asked for inside each other so many times. -/
def ofDepth (d : Dialect) : Nat → Grammar
  | 0 => ⟨d, fun _ => failure⟩
  | n + 1 => ⟨d, (ofDepth d n).rule⟩

end Grammar

/-- A text as a tree: the node of all its statements. -/
def Tree.ofText? (d : Dialect) (text : List Char) : Option Tree := do
  let ts ← tokens d text
  let g := Grammar.ofDepth d (4 * text.length + 100)
  let (statements, rest) ← (Parse.many (g.read .statement)).run ⟨ts, 0⟩
  if rest.rest.isEmpty then return .node .other none "" 0 rest.row statements else none

end TestImpact.Source
