import TaskCatalog.Code.Constant

/-!
Rules for what needs no operator: names, literals, and displays in brackets.
-/

namespace TaskCatalog.Code

open TaskCatalog.Code.Parser

namespace Rule

def spreadOperand (go : Rules) : Parser Placed := go .expression <|> failFarthest

/-- A star before any expression, which only arguments may have. -/
def spread (go : Rules) : Parser Placed := do
  let at' ← line
  mark "*"
  return .starred at' (← spreadOperand go)

/-- A star has no place before what a comprehension builds. -/
def spreadInComprehension (go : Rules) : Parser Unit :=
  mistake (do
    let p ← spread go
    let _ ← clauses go
    return p.line)

/-- What is in parentheses. -/
inductive Enclosed where
  | tuple
  | group
  | generator
  deriving DecidableEq, Repr

/-- What follows the first item in parentheses that begin on a line. -/
def parenthesesRest (go : Rules) (at' : Nat) (first : Placed) : Parser (Placed × Enclosed) :=
  (do
    comma
    let rest ← optional (commaList (starNamed go))
    mark ")"
    return (.display at' .tuple (first :: (rest.map (·.1)).getD []), .tuple))
  <|> (do
    if first.isStarred then stuck
    mark ")"
    return (first, .group))
  <|> (do
    if first.isStarred then stuck
    let cs ← clauses go
    mark ")"
    return (.value at' (.comprehension .generator first.expression cs), .generator))

/-- Stars before a single expression in parentheses have nothing to spread it into. -/
def spreadInGroup (go : Rules) : Parser Unit := do
  mistake (do
    let p ← spread go
    mark ")"
    return p.line)
  mistake (do
    let at' ← line
    mark "**"
    let _ ← go .expression
    mark ")"
    return at')

def parentheses (go : Rules) : Parser (Placed × Enclosed) := do
  let at' ← line
  mark "("
  (do mark ")"; return (.display at' .tuple [], .tuple))
    <|> (do let e ← yield go; mark ")"; return (e, .group))
    <|> (do parenthesesRest go at' (← starNamed go))
    <|> (do spreadInGroup go; spreadInComprehension go; stuck)

def itemsRest (go : Rules) (close : String) (first : Placed) : Parser (List Placed ⊕ List Clause) :=
  (do
    let more ← many (do comma; starNamed go)
    let isEnded ← accept comma
    if !more.isEmpty || isEnded then
      mistake (do let _ ← clauses go; return first.line)
    mark close
    return .inl (first :: more))
  <|> (do
    if first.isStarred then stuck
    let cs ← clauses go
    mark close
    return .inr cs)

def list (go : Rules) : Parser Placed := do
  let at' ← line
  mark "["
  (do mark "]"; return .display at' .list [])
    <|> (do
      let first ← starNamed go
      match ← itemsRest go "]" first with
      | .inl items => return .display at' .list items
      | .inr cs => return .value at' (.comprehension .list first.expression cs))
    <|> (do spreadInComprehension go; stuck)

def entryValue (go : Rules) : Parser Expression := do
  let at' ← line
  mark ":"
  mistake (do return (← starred go).line)
  mistake (do mark "\x7d" <|> comma; return at')
  return (← go .expression).expression

def entry (go : Rules) : Parser Entry :=
  (do mark "**"; return .spread (← bitOr go).expression)
  <|> (do
    let key ← go .expression
    mistake (do without (mark ":"); return key.line)
    return .pair key.expression (← entryValue go))

def entriesRest (go : Rules) (at' : Nat) (first : Entry) : Parser Placed := do
  let more ← many (do comma; entry go)
  let _ ← accept comma
  mark "\x7d"
  return .value at' (.dictionary (first :: more))

/-- A mapping whose first entry is a pair, after the key. -/
def pairsRest (go : Rules) (at' : Nat) (key : Placed) : Parser Placed := do
  let value ← entryValue go
  (do
    let cs ← clauses go
    mark "\x7d"
    return .value at' (.dictionaryOf key.expression value cs))
  <|> entriesRest go at' (.pair key.expression value)

def spreadRest (go : Rules) (at' : Nat) : Parser Placed := do
  let star ← line
  mark "**"
  let e ← bitOr go
  entriesRest go at' (.spread e.expression)
    <|> (do
      mistake (do
        let _ ← clauses go
        mark "\x7d"
        return star)
      stuck)

def braces (go : Rules) : Parser Placed := do
  let at' ← line
  mark "\x7b"
  (do mark "\x7d"; return .value at' (.dictionary []))
    <|> spreadRest go at'
    <|> (do
      let isBinding ← isBinding
      let first ← starNamed go
      if ← ahead (mark ":") then
        if first.isStarred || isBinding then stuck
        pairsRest go at' first
      else
        match ← itemsRest go "\x7d" first with
        | .inl items => return .value at' (.set (items.map (·.expression)))
        | .inr cs => return .value at' (.comprehension .set first.expression cs))
    <|> (do spreadInComprehension go; stuck)

def literalWord (w : String) (s : Scalar) : Parser Expression := do
  word w
  return .constant s false

def atom (go : Rules) : Parser Placed := do
  let at' ← line
  match (← peek).lexeme with
  | .number _ => return .value at' (.constant (← number) false)
  | .string _ => return .value at' (← strings go)
  | .name "None" => return .value at' (← literalWord "None" .null)
  | .name "True" => return .value at' (← literalWord "True" (.truth true))
  | .name "False" => return .value at' (← literalWord "False" (.truth false))
  | .name _ => return .place at' (.name (← name))
  | .mark "(" => return (← parentheses go).1
  | .mark "[" => list go
  | .mark "\x7b" => braces go
  | .mark "..." => do mark "..."; return .value at' (.constant .ellipsis false)
  | _ => stuck

/-- What looks like several values that belong together, or one of the words for values. -/
def manifold (go : Rules) : Parser Unit :=
  (do
    if (← parentheses go).2 = .group then stuck)
  <|> (do
    match (← list go).expression with
    | .list _ => return
    | _ => stuck)
  <|> word "True" <|> word "None" <|> word "False"

end Rule

end TaskCatalog.Code
