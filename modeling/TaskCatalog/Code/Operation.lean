import TaskCatalog.Code.Phrase

/-!
Rules for operators, from those that bind most strongly to those that bind least, and for what
is put together from whole expressions.
-/

namespace TaskCatalog.Code

open TaskCatalog.Code.Parser

namespace Rule

/-- Operands with operators between them that associate to the left. -/
def chain (table : List (String × BinaryOperator)) (operand : Parser Placed) : Parser Placed := do
  let at' ← line
  let first ← operand
  let more ← many (do
    let o ← oneOf table
    return (o, ← operand))
  return more.foldl
    (fun left (o, right) => .value at' (.binary o left.expression right.expression)) first

def product (go : Rules) : Parser Placed :=
  chain [("*", .multiply), ("/", .divide), ("//", .floorDivide), ("%", .remainder),
    ("@", .matrixMultiply)] (go .factor)

def sum (go : Rules) : Parser Placed := chain [("+", .add), ("-", .subtract)] (product go)

def shift (go : Rules) : Parser Placed := chain [("<<", .shiftLeft), (">>", .shiftRight)] (sum go)

def bitAnd (go : Rules) : Parser Placed := chain [("&", .bitAnd)] (shift go)

def bitXor (go : Rules) : Parser Placed := chain [("^", .bitXor)] (bitAnd go)

def bitOr (go : Rules) : Parser Placed := chain [("|", .bitOr)] (bitXor go)

def relation : Parser Relation :=
  oneOf [("==", .equal), ("!=", .notEqual), ("<", .less), ("<=", .atMost), (">", .greater),
    (">=", .atLeast)]
  <|> (do word "not"; word "in"; return .notWithin)
  <|> (do word "in"; return .within)
  <|> (do word "is"; return if ← accept (word "not") then .notSame else .same)

def comparison (go : Rules) : Parser Placed := do
  let at' ← line
  let first ← bitOr go
  let links ← many (do
    let r ← relation
    return Link.mk r (← bitOr go).expression)
  return if links.isEmpty then first else .comparison at' first links

def inversion (go : Rules) : Parser Placed :=
  (do
    let at' ← line
    word "not"
    return .value at' (.unary .not (← go .inversion).expression))
  <|> comparison go

/-- Operands with a word between them, which are one operand if they are alone. -/
def connected (c : Connective) (w : String) (operand : Parser Placed) : Parser Placed := do
  let at' ← line
  match ← separated (word w) operand with
  | [p] => return p
  | ps => return .value at' (.connected c (ps.map (·.expression)))

def conjunction (go : Rules) : Parser Placed := connected .and "and" (go .inversion)

def disjunction (go : Rules) : Parser Placed := connected .or "or" (conjunction go)

def isBinding : Parser Bool :=
  ahead do
    let _ ← name
    mark ":="

def binding (go : Rules) : Parser Placed := do
  let at' ← line
  let n ← name
  mark ":="
  return .value at' (.bound (.name n) (← go .expression).expression)

def starred (go : Rules) : Parser Placed := do
  let at' ← line
  mark "*"
  return .starred at' (← bitOr go)

def starNamed (go : Rules) : Parser Placed := starred go <|> go .named

def starExpression (go : Rules) : Parser Placed := starred go <|> go .expression

/-- One item, or a tuple of several or of one with a comma. -/
def tupled (p : Parser Placed) : Parser Placed := do
  let at' ← line
  match ← commaList p with
  | ([e], false) => return e
  | (es, _) => return .display at' .tuple es

def starExpressions (go : Rules) : Parser Placed := tupled (starExpression go)

def yield (go : Rules) : Parser Placed := do
  let at' ← line
  word "yield"
  if ← accept (word "from") then return .value at' (.yieldFrom (← go .expression).expression)
  return .value at' (.yield ((← optional (starExpressions go)).map (·.expression)))

def yieldOrStar (go : Rules) : Parser Placed := yield go <|> starExpressions go

/-! Targets. -/

def target (go : Rules) : Parser Placed := do
  let at' ← line
  let isStarred ← accept (mark "*")
  let e ← go .primary
  if !e.isTarget .assign then stuck
  return if isStarred then .starred at' e else e

def targets (go : Rules) : Parser Placed := tupled (target go)

def refusedLine (use : TargetUse) (p : Placed) : Parser Nat :=
  match p.refused use with
  | some l => return l
  | none => stuck

/-- The targets of a loop and the word behind them. Where they are not followed by it, something else
was meant to be a target. -/
def loopTargets (go : Rules) : Parser Expression := do
  match ← optional (do let t ← targets go; word "in"; return t) with
  | some t => return t.expression
  | none =>
    mistake (do refusedLine .loop (← starExpressions go))
    stuck

def clause (go : Rules) : Parser Clause := do
  let isAsync ← accept (word "async")
  word "for"
  let t ← loopTargets go
  let source ← disjunction go
  let conditions ← many (do
    word "if"
    return (← disjunction go).expression)
  return .mk isAsync t source.expression conditions

def clauses (go : Rules) : Parser (List Clause) := some1 (clause go)

end Rule

end TaskCatalog.Code
