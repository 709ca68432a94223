import TestImpact.Source.Parse

/-
  Reading expressions.

  From the loosest to the tightest: assignment expressions, conditional
  expressions and lambdas, `or`, `and`, `not`, comparisons, the bit operators,
  the arithmetic operators, signs and powers, and then the primary
  expressions: atoms followed by attributes, calls and subscripts. Operators
  of one level that stand in a row make one node.

  In the tolerant grammar an assignment expression may stand wherever an
  expression may, and a star in front of a name binds tighter than a call.
-/

namespace TestImpact.Source

open Parse

/-! Checks on finished lists -/

/-- Whether arguments come in order: positional ones, which may be starred; keywords and starred
ones; keywords and doubly starred ones. `phase` counts what was met already. -/
def argumentsOrdered : (phase : Nat) → List Kind → Bool
  | _, [] => true
  | phase, k :: rest =>
    match k with
    | .keywordArgument => argumentsOrdered (max phase 1) rest
    | .doubleSplat => argumentsOrdered 2 rest
    | .splat => phase ≤ 1 && argumentsOrdered phase rest
    | _ => phase = 0 && argumentsOrdered phase rest

/-- Whether the parameters behind a star are in order: named ones, and at last those for all
other keywords. -/
def keywordParametersOrdered : List Kind → Bool
  | [] => true
  | [.doubleStarParameter] => true
  | k :: rest => (k = .parameter || k = .defaultParameter) && keywordParametersOrdered rest

/-- Whether parameters are in order: plain ones, ones with a default, and then those behind a
star. A slash stands behind a parameter and only once, and a bare star in front of one.
`plain` tells that a parameter without a default may come, `slash` that a slash may. -/
def parametersOrdered (plain slash : Bool) : List Kind → Bool
  | [] => true
  | [.doubleStarParameter] => true
  | .parameter :: .slash :: rest => plain && slash && parametersOrdered plain false rest
  | .defaultParameter :: .slash :: rest => slash && parametersOrdered false false rest
  | .parameter :: rest => plain && parametersOrdered plain slash rest
  | .defaultParameter :: rest => parametersOrdered false slash rest
  | .starParameter :: rest => keywordParametersOrdered rest
  | .star :: k :: rest =>
    (k = .parameter || k = .defaultParameter) && keywordParametersOrdered rest
  | _ => false

namespace Grammar

variable (g : Grammar)

/-! Parameters -/

/-- The annotation of a parameter; behind a star it may be starred itself. -/
def annotation (starred : Bool) : Parse (List Tree) := do
  if ← accept ":" then
    let first ← row
    if ← acceptIf starred "*" then
      return [← nodeFrom first .splat [← g.read .operand]]
    else return [← g.read .expression]
  else return []

/-- One parameter, with an annotation only where there may be one. -/
def parameter (annotated : Bool) : Parse Tree := do
  let first ← row
  let note := fun starred => if annotated then g.annotation starred else pure []
  if ← accept "**" then
    let _ ← identifier
    nodeFrom first .doubleStarParameter (← note false)
  else if ← accept "*" then
    if ← seesAny [",", ")", ":"] then nodeFrom first .star []
    else
      let _ ← identifier
      nodeFrom first .starParameter (← note true)
  else if ← accept "/" then nodeFrom first .slash []
  else
    if g.isTolerant && (← sees "(") then
      let _ ← g.read .factor
    else
      let _ ← identifier
    let notes ← note false
    if ← accept "=" then
      let value ← g.read .expression
      nodeFrom first .defaultParameter (notes ++ [value])
    else nodeFrom first .parameter notes

def parameters (annotated : Bool) (close : String) : Parse (List Tree) := do
  if ← sees close then return []
  let (ps, _) ← commaList (g.parameter annotated)
  check (g.isTolerant || parametersOrdered true true (ps.map Tree.kind))
  return ps

/-! Operators -/

/-- Operands with operators between; a single operand stands for itself. -/
def chain (operators : List String) (operand : Parse Tree) : Parse Tree := do
  let first ← row
  let x ← operand
  let xs ← many do
    check (← seesAny operators)
    let _ ← take
    operand
  if xs.isEmpty then return x else nodeFrom first .other (x :: xs)

/-- An operand behind signs that may be repeated. -/
def signed (signs : List String) (operand : Parse Tree) : Parse Tree := do
  let first ← row
  let xs ← many do
    check (← seesAny signs)
    take
  let x ← operand
  if xs.isEmpty then return x else nodeFrom first .other [x]

def comparisonOperator : Parse Unit := do
  if ← accept "not" then expect "in"
  else if ← accept "is" then
    let _ ← accept "not"
  else
    check (← seesAny ["==", "!=", "<", ">", "<=", ">=", "in"])
      <|> do check (g.isTolerant && (← sees "<>"))
    let _ ← take

/-! Primary expressions -/

/-- An expression that may be named in passing. -/
def walrus (expression : Parse Tree) : Parse Tree := do
  let first ← row
  let x ← expression
  if ← acceptIf (x.kind = .identifier) ":=" then
    let value ← g.read .expression
    nodeFrom first .walrus [x, value]
  else return x

def starOperand : Parse Tree := g.read (if g.isTolerant then .expression else .operand)

/-- What may stand in a display: an expression, or a starred one. -/
def displayItem : Parse Tree := do
  let first ← row
  if ← accept "*" then nodeFrom first .splat [← g.starOperand] else g.read .named

def seesClauses : Parse Bool := seesAny ["for", "async"]

def clauses : Parse (List Tree) := do
  let clause : Parse (List Tree) := do
    let _ ← accept "async"
    expect "for"
    let left ← g.read .targets
    expect "in"
    let right ← g.read .disjunction
    let conditions ← many do
      expect "if"
      g.read .disjunction
    return left :: right :: conditions
  let cs ← clause
  return cs ++ (← many clause).flatten

/-- A comprehension behind its first expression, up to the closing token. -/
def comprehension (first : Nat) (x : Tree) (close : String) : Parse Tree := do
  check (x.kind ≠ .splat)
  let cs ← g.clauses
  expect close
  nodeFrom first .other (x :: cs)

/-- What follows the first item of a display: more items, up to the closing token. The node is
of kind `one` for a single item without a comma. -/
def displayRest (first : Nat) (x : Tree) (item : Parse Tree) (close : String)
    (one several : Kind) : Parse Tree := do
  let xs ← many do
    expect ","
    item
  let trailing ← accept ","
  expect close
  nodeFrom first (if xs.isEmpty && !trailing then one else several) (x :: xs)

/-- Expressions with commas between, outside of brackets. -/
def openList (item : Parse Tree) : Parse Tree := do
  let first ← row
  let (xs, comma) ← commaList item
  match xs, comma with
  | [x], false => return x
  | _, _ => nodeFrom first .tuple xs

def yieldExpression : Parse Tree := do
  let first ← row
  expect "yield"
  if ← accept "from" then nodeFrom first .other [← g.read .expression]
  else nodeFrom first .other (← optionally (g.read .values))

/-- Parentheses: a tuple, a generator, or an expression in parentheses. -/
def parentheses : Parse Tree := do
  let first ← row
  expect "("
  if ← accept ")" then nodeFrom first .tuple []
  else if ← sees "yield" then
    let x ← g.yieldExpression
    expect ")"
    nodeFrom first .group [x]
  else
    let x ← g.displayItem
    if ← seesClauses then g.comprehension first x ")"
    else
      let t ← displayRest first x g.displayItem ")" .group .tuple
      check (t.kind = .tuple || x.kind ≠ .splat || g.isTolerant)
      return t

/-- Brackets: a list or a list comprehension. -/
def brackets : Parse Tree := do
  let first ← row
  expect "["
  if ← accept "]" then nodeFrom first .list []
  else
    let x ← g.displayItem
    if ← seesClauses then g.comprehension first x "]"
    else displayRest first x g.displayItem "]" .list .list

/-- A member of a dictionary: a key and its value, or a doubly starred expression. -/
def dictionaryMember : Parse Tree := do
  let first ← row
  if ← accept "**" then nodeFrom first .doubleSplat [← g.starOperand]
  else
    let key ← g.read .expression
    expect ":"
    nodeFrom first .pair [key, ← g.read .expression]

/-- Braces: a dictionary, a set, or a comprehension of either. -/
def braces : Parse Tree := do
  let first ← row
  expect "\x7b"
  if ← accept "\x7d" then nodeFrom first .dictionary []
  else if ← sees "**" then
    let member ← g.dictionaryMember
    displayRest first member g.dictionaryMember "\x7d" .dictionary .dictionary
  else
    let start ← row
    let x ← g.displayItem
    if ← acceptIf (x.kind ≠ .splat && x.kind ≠ .walrus) ":" then
      let pair ← nodeFrom start .pair [x, ← g.read .expression]
      if ← seesClauses then g.comprehension first pair "\x7d"
      else displayRest first pair g.dictionaryMember "\x7d" .dictionary .dictionary
    else if ← seesClauses then g.comprehension first x "\x7d"
    else displayRest first x g.displayItem "\x7d" .other .other

/-- The expressions inside the strings that stand in a row. The strict grammar does not mix
strings of characters and of bytes. -/
def strings : Parse Tree := do
  let first ← row
  let one : Parse Literal := do
    let t ← expectKind .string
    match Literal.read g.dialect t.text.toList with
    | some literal => return literal
    | none => failure
  let x ← one
  let xs ← many one
  check (!(← seesKind .string))
  check (g.isTolerant || xs.all (·.bytes = x.bytes))
  let parts ← ((x :: xs).flatMap (·.expressions)).mapM fun text =>
    match tokens g.dialect ('(' :: text ++ [')']) with
    | some ts => within ts (g.read .expression)
    | none => failure
  nodeFrom first .other parts

def argument : Parse Tree := do
  let first ← row
  if ← accept "**" then nodeFrom first .doubleSplat [← g.read .expression]
  else if ← accept "*" then nodeFrom first .splat [← g.read .expression]
  else
    let x ← g.read .named
    if ← acceptIf (x.kind = .identifier) "=" then
      nodeFrom first .keywordArgument [← g.read .expression]
    else return x

def isPositional (k : Kind) : Bool := k ≠ .splat && k ≠ .doubleSplat && k ≠ .keywordArgument

/-- The arguments between the parentheses of a call or of a class header. A generator may
stand alone in those of a call. -/
def arguments (isCall : Bool) : Parse Tree := do
  let first ← row
  expect "("
  if ← accept ")" then nodeFrom first .arguments []
  else
    let x ← g.argument
    if isCall && isPositional x.kind && (← seesClauses) then
      let generator ← g.comprehension first x ")"
      nodeFrom first .arguments [generator]
    else
      let t ← displayRest first x g.argument ")" .arguments .arguments
      check (g.isTolerant || argumentsOrdered 0 (t.children.map Tree.kind))
      return t

/-- What may stand between the commas of a subscript. -/
def slice : Parse Tree := do
  let first ← row
  let bound : Parse (List Tree) := do
    if ← seesAny [":", ",", "]"] then return [] else return [← g.read .expression]
  if ← acceptIf (!g.isTolerant) "*" then nodeFrom first .splat [← g.read .expression]
  else
    let lower ← if ← sees ":" then pure [] else (fun x => [x]) <$> g.read .named
    match lower, ← sees ":" with
    | [x], false => return x
    | _, _ =>
      check (g.isTolerant || lower.all (·.kind ≠ .walrus))
      expect ":"
      let upper ← bound
      let step ← if ← accept ":" then bound else pure []
      nodeFrom first .other (lower ++ upper ++ step)

/-- The subscript behind an expression that starts in a row. -/
def subscript (first : Nat) (x : Tree) : Parse Tree := do
  expect "["
  let (items, _) ← commaList g.slice
  expect "]"
  nodeFrom first .subscript (x :: items)

def member (first : Nat) (x : Tree) : Parse Tree := do
  expect "."
  let name ← g.memberName
  nodeFrom first .member [x.labelled .object, name.labelled .member]

def call (first : Nat) (x : Tree) : Parse Tree := do
  let arguments ← g.arguments true
  nodeFrom first .call [x.labelled .function, arguments]

/-- Whatever attributes, subscripts and calls stand behind an expression; `calls` tells whether
there may be calls among them. There are at most as many as tokens in a list. -/
def trailers (calls : Bool) (first : Nat) (x : Tree) : List Token → Parse Tree
  | [] => return x
  | _ :: n => do
    if ← sees "." then trailers calls first (← g.member first x) n
    else if ← sees "[" then trailers calls first (← g.subscript first x) n
    else if calls && (← sees "(") then trailers calls first (← g.call first x) n
    else return x

/-- A starred name of the tolerant grammar, with its attributes and subscripts. -/
def starredName : Parse Tree := do
  let first ← row
  expect "*"
  let start ← row
  let x ← identifier
  nodeFrom first .splat [← g.trailers false start x (← get).rest]

def atom : Parse Tree := do
  let t ← peek
  match t.kind with
  | .word =>
    if t.text = "True" || t.text = "False" || t.text = "None" then
      let _ ← take
      nodeFrom t.first .other []
    else identifier
  | .number =>
    let _ ← take
    nodeFrom t.first .other []
  | .string => g.strings
  | .operator =>
    if t.text = "(" then g.parentheses
    else if t.text = "[" then g.brackets
    else if t.text = "\x7b" then g.braces
    else if t.text = "..." then
      let _ ← take
      nodeFrom t.first .other []
    else if t.text = "*" && g.isTolerant then g.starredName
    else failure
  | _ => failure

/-- An atom and what stands behind it. -/
def primary : Parse Tree := do
  let first ← row
  let x ← g.atom
  g.trailers true first x (← get).rest

/-! Operators, from the tightest to the loosest -/

/-- A primary expression that may be awaited and raised to a power. -/
def power : Parse Tree := do
  let first ← row
  let awaited ← accept "await"
  let x ← g.primary
  let base ← if awaited then nodeFrom first .other [x] else pure x
  if ← accept "**" then nodeFrom first .other [base, ← g.read .factor] else return base

/-- A power behind signs. -/
def factor : Parse Tree := signed ["+", "-", "~"] g.power

/-- The arithmetic and the bit operators. -/
def operand : Parse Tree :=
  chain ["|"] <| chain ["^"] <| chain ["&"] <| chain ["<<", ">>"] <| chain ["+", "-"] <|
    chain ["*", "/", "//", "%", "@"] g.factor

def comparison : Parse Tree := do
  let first ← row
  let x ← g.operand
  let xs ← many do
    g.comparisonOperator
    g.operand
  if xs.isEmpty then return x else nodeFrom first .other (x :: xs)

def disjunction : Parse Tree :=
  chain ["or"] <| chain ["and"] <| signed ["not"] g.comparison

def lambda : Parse Tree := do
  let first ← row
  expect "lambda"
  let ps ← g.parameters false ":"
  expect ":"
  let body ← g.read .expression
  nodeFrom first .lambda (ps ++ [body.labelled .body])

def conditional : Parse Tree := do
  if ← sees "lambda" then g.lambda
  else
    let first ← row
    let x ← g.disjunction
    if ← accept "if" then
      let test ← g.read .disjunction
      expect "else"
      nodeFrom first .conditional [x, test, ← g.read .expression]
    else return x

def expression : Parse Tree := if g.isTolerant then g.walrus g.conditional else g.conditional

/-- An expression that may be named in passing. -/
def named : Parse Tree := g.walrus g.conditional

def values : Parse Tree :=
  openList do
    let first ← row
    if ← acceptIf (!g.isTolerant) "*" then nodeFrom first .splat [← g.operand]
    else g.expression

/-- Places for an assignment: primary expressions that may be assigned to. -/
def targets : Parse Tree := do
  let t ← openList do
    let first ← row
    if ← acceptIf (!g.isTolerant) "*" then nodeFrom first .splat [← g.primary]
    else g.primary
  check (t.isTarget true)
  return t

end Grammar

end TestImpact.Source
