import TaskCatalog.Code.Atom

/-!
Rules for what follows an atom to reach into it: names behind a dot, arguments and indices.
-/

namespace TaskCatalog.Code

open TaskCatalog.Code.Parser

/-- An argument of a call. -/
inductive Argument where
  | positional (p : Placed)
  | keyword (k : Keyword)

/-- What an argument list has come to; positional arguments go first, spread mappings last. -/
inductive ArgumentStage where
  | positional
  | keyword
  | spread
  deriving DecidableEq, Repr

namespace Argument

def positional? : Argument → Option Placed
  | positional p => some p
  | keyword _ => none

def positionals (as : List Argument) : List Expression := (as.filterMap positional?).map (·.expression)

def keywords (as : List Argument) : List Keyword :=
  as.filterMap fun
    | positional _ => none
    | keyword k => some k

end Argument

namespace Rule

/-! Names on the way. -/

/-- What is wrong where an expression that began at a place is followed by the sign of a binding or an
equals sign: it cannot get a name, or a comparison was meant. -/
def bindingMistakes (go : Rules) (begin_ : List Token) (e : Placed) : Parser Unit := do
  mistake (do
    mark ":="
    let _ ← go .expression
    return e.line)
  mistake (do
    mark "="
    if !(← fitsAt begin_ (do let _ ← bitOr go; mark "=")) then stuck
    if ← fitsAt begin_ (manifold go) then stuck
    let _ ← bitOr go
    without (mark "=" <|> mark ":=")
    return e.line)

def named (go : Rules) : Parser Placed := do
  if ← isBinding then binding go
  else
    let begin_ ← left
    let e ← go .expression
    bindingMistakes go begin_ e
    without (mark ":=")
    return e

/-! Arguments. -/

/-- Whether a name and an equals sign are the next tokens. -/
def isKeyword : Parser Bool :=
  ahead do
    let _ ← name
    mark "="

def starArgument (go : Rules) (stage : ArgumentStage) : Parser (Argument × ArgumentStage) := do
  if stage = .spread then stuck
  return (.positional (← spread go), stage)

def spreadArgument (go : Rules) : Parser (Argument × ArgumentStage) := do
  mark "**"
  return (.keyword (.mk none (← go .expression).expression), .spread)

def keywordArgument (go : Rules) (stage : ArgumentStage) : Parser (Argument × ArgumentStage) := do
  let at' ← line
  let n ← name
  mark "="
  let value ← go .expression
  mistake (do let _ ← clauses go; return at')
  return (.keyword (.mk (some n) value.expression), if stage = .spread then .spread else .keyword)

/-- An expression without a name of its own. Only a name can be given a value here. -/
def plainArgument (go : Rules) : Parser Placed := do
  if ← isBinding then
    let e ← binding go
    without (mark "=")
    return e
  else
    let isKeyword ← isKeyword
    let e ← go .expression
    if !isKeyword then mistake (do mark "="; return e.line)
    without (mark "=" <|> mark ":=")
    return e

/-- An argument at a stage of its list, and the stage after it. -/
def argument (go : Rules) (stage : ArgumentStage) : Parser (Argument × ArgumentStage) :=
  starArgument go stage
  <|> spreadArgument go
  <|> keywordArgument go stage
  <|> (do
    if stage ≠ .positional then stuck
    return (.positional (← plainArgument go), .positional))

/-- Arguments with commas between, at most as many as there are tokens in a list. -/
def argumentsFrom (go : Rules) : List Token → ArgumentStage → Parser (List Argument × ArgumentStage)
  | [], _ => stuck
  | _ :: fuel, stage => do
    let (a, next) ← argument go stage
    (do
      comma
      let (more, last) ← argumentsFrom go fuel next
      return (a :: more, last))
    <|> (return ([a], next))

def argumentList (go : Rules) (stage : ArgumentStage) : Parser (List Argument × ArgumentStage) := do
  argumentsFrom go (← left) stage

/-- An expression that comes too late among arguments, where it can be told from an assignment or a
generator. -/
def latePlain (go : Rules) : Parser Unit := do
  if ← isBinding then
    let _ ← binding go
    without (mark "=")
  else if ← isKeyword then stuck
  else
    let e ← go .expression
    if ← ahead (mark "=" <|> (do let _ ← clauses go)) then fail e.line
    without (mark ":=")

/-- A positional argument behind arguments by name or spread mappings. -/
def lateArgument (go : Rules) (stage : ArgumentStage) : Parser Unit :=
  strictly do
    let at' ← line
    comma
    (do
      if stage ≠ .spread then stuck
      let _ ← spread go
      if !(← ahead (mark "=")) then fail at')
    <|> latePlain go
    let _ ← optional (do comma; argumentList go .positional)
    failFarthest (α := Unit)

/-- A generator without parentheses behind other arguments. -/
def lateGenerator (go : Rules) (as : List Argument) : Parser Unit :=
  match (as.filterMap Argument.positional?).reverse with
  | last :: _ :: _ => mistake (do let _ ← clauses go; return last.line)
  | _ => return

def argumentsRest (go : Rules) (first : Argument) (stage : ArgumentStage) : Parser (List Argument) := do
  let (more, stage) ← (do comma; argumentList go stage) <|> (return ([], stage))
  let as := first :: more
  lateGenerator go as
  if stage ≠ .positional then lateArgument go stage
  let _ ← accept comma
  return as

/-- A generator that is the only argument, which needs no parentheses of its own. -/
def onlyGenerator (go : Rules) (isBinding : Bool) (p : Placed) (cs : List Clause) : Parser (List Argument) := do
  if !isBinding then
    mistake (do
      comma
      let _ ← optional ((do let _ ← argumentList go .positional)
        <|> (do let _ ← go .expression; let _ ← clauses go))
      return p.line)
  return [.positional (.value p.line (.comprehension .generator p.expression cs))]

def argumentClauses (go : Rules) (mayGenerate : Bool) : Parser (Option (List Clause)) := do
  if mayGenerate || (← isStrict) then optional (clauses go) else return none

/-- At least one argument; `mayGenerate` tells whether a generator can be the only one. -/
def arguments (go : Rules) (mayGenerate : Bool) : Parser (List Argument) := do
  let isBinding ← isBinding
  let (first, stage) ← argument go .positional
  match first with
  | .positional p =>
    if p.isStarred then
      if mayGenerate then mistake (do let _ ← clauses go; return p.line)
    else if let some cs ← argumentClauses go mayGenerate then
      let generator ← onlyGenerator go isBinding p cs
      if mayGenerate then return generator else stuck
    argumentsRest go first stage
  | .keyword _ => argumentsRest go first stage

/-- The arguments of a call or a class in their parentheses; there can be none. -/
def callArguments (go : Rules) (mayGenerate : Bool) : Parser (List Argument) := do
  mark "("
  (do mark ")"; return []) <|> (do
    let as ← arguments go mayGenerate
    mark ")"
    return as)

/-! Indices. -/

def sliceItem (go : Rules) : Parser Placed := do
  if ← isBinding then binding go
  else spread go <|> (do
    let at' ← line
    let begin_ ← left
    let lower ← optional (go .expression)
    if ← accept (mark ":") then
      let upper ← optional (go .expression)
      let step ← optional (do mark ":"; optional (go .expression))
      return .value at' (.slice (lower.map (·.expression)) (upper.map (·.expression))
        ((step.getD none).map (·.expression)))
    match lower with
    | some e =>
      bindingMistakes go begin_ e
      without (mark ":=")
      return e
    | none => stuck)

def index (go : Rules) : Parser Expression := do
  mark "["
  let (items, isTuple) ← commaList (sliceItem go)
  mark "]"
  match items, isTuple with
  | [p], false => return if p.isStarred then .tuple [p.expression] else p.expression
  | ps, _ => return .tuple (ps.map (·.expression))

/-! What reaches into an atom. -/

def trailer (go : Rules) : Parser (Expression → Expression × Bool) :=
  (do
    mark "."
    let n ← name
    return fun e => (.member e n, true))
  <|> (do
    let as ← callArguments go true
    return fun e => (.call e (Argument.positionals as) (Argument.keywords as), false))
  <|> (do
    let i ← index go
    return fun e => (.item e i, true))

def reachInto (at' : Nat) (p : Placed) (reach : Expression → Expression × Bool) : Placed :=
  match reach p.expression with
  | (e, true) => .place at' e
  | (e, false) => .value at' e

def primary (go : Rules) : Parser Placed := do
  let at' ← line
  let p ← atom go
  return (← many (trailer go)).foldl (reachInto at') p

def power (go : Rules) : Parser Placed := do
  let at' ← line
  let isAwaited ← accept (word "await")
  let p ← go .primary
  let base := if isAwaited then .value at' (.await p.expression) else p
  (do
    mark "**"
    return .value at' (.binary .power base.expression (← go .factor).expression))
  <|> (return base)

def factor (go : Rules) : Parser Placed :=
  (do
    let at' ← line
    let o ← oneOf [("+", UnaryOperator.plus), ("-", .minus), ("~", .invert)]
    return .value at' (.unary o (← go .factor).expression))
  <|> power go

end Rule

end TaskCatalog.Code
