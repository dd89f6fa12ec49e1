import TaskCatalog.Code.ExpressionRule

/-!
Rules for the patterns of cases. Nothing is kept of them: a pattern declares nothing.
-/

namespace TaskCatalog.Code

open TaskCatalog.Code.Parser

namespace Rule

def isComplex : Scalar → Bool
  | .complex .. => true
  | _ => false

/-- A number with a sign, perhaps with an imaginary part behind it. -/
def patternNumber : Parser Unit := do
  let _ ← accept (mark "-")
  let realLine ← line
  let real ← number
  if ← accept (mark "+" <|> mark "-") then
    if isComplex real then fail realLine
    let imaginaryLine ← line
    if !isComplex (← number) then fail imaginaryLine

def patternConstant (go : Rules) : Parser Unit :=
  patternNumber <|> (do let _ ← strings go) <|> word "None" <|> word "True" <|> word "False"

/-- What may not follow a name that gets what is matched. -/
def noReach : Parser Unit := without (mark "." <|> mark "(" <|> mark "=")

/-- A name that gets what is matched; the underscore gets nothing and is none. -/
def captured : Parser Unit := do
  if (← rawName) = "_" then stuck
  noReach

def dotted : Parser Unit := do
  let _ ← rawName
  let _ ← some1 (do mark "."; rawName)

def keywordPattern (go : Rules) : Parser Unit := do
  let _ ← rawName
  mark "="
  let _ ← go .pattern

def keywordPatterns (go : Rules) : Parser Unit := do
  let _ ← separated comma (keywordPattern go)
  mistake (do comma; go .pattern)

/-- The patterns of a class in its parentheses, by position first. -/
def classPatterns (go : Rules) : Parser Unit := do
  let _ ← rawName
  let _ ← many (do mark "."; rawName)
  mark "("
  if ← accept (mark ")") then return
  keywordPatterns go <|> (do
    let _ ← separated comma (go .pattern)
    let _ ← optional (do comma; keywordPatterns go))
  let _ ← accept comma
  mark ")"

/-- A pattern, or a star with a name for all that is left; with its line, and whether it is starred. -/
def starPattern (go : Rules) : Parser (Nat × Bool) :=
  (do
    let at' ← line
    mark "*"
    captured <|> word "_"
    return (at', true))
  <|> (do return (← go .pattern, false))

/-- Patterns in parentheses: several, or a single one in a group, whose line is its own. -/
def enclosedPattern (go : Rules) (at' : Nat) : Parser Nat := do
  mark "("
  let inner ← match ← optional (commaList (starPattern go)) with
    | some ([(_, true)], false) => stuck
    | some ([(inner, false)], false) => pure inner
    | _ => pure at'
  mark ")"
  return inner

def listPattern (go : Rules) : Parser Unit := do
  mark "["
  let _ ← optional (commaList (starPattern go))
  mark "]"

def entryPattern (go : Rules) : Parser Unit := do
  dotted <|> patternConstant go
  mark ":"
  let _ ← go .pattern

def restPattern : Parser Unit := do
  mark "**"
  captured

def mappingPattern (go : Rules) : Parser Unit := do
  mark "\x7b"
  (do
    let _ ← separated comma (entryPattern go)
    let _ ← optional (do comma; restPattern))
  <|> (do let _ ← optional restPattern)
  let _ ← accept comma
  mark "\x7d"

def closedPattern (go : Rules) : Parser Nat := do
  let at' ← line
  enclosedPattern go at' <|> (do
    patternConstant go <|> captured <|> word "_" <|> (do dotted; noReach) <|> listPattern go
      <|> mappingPattern go <|> classPatterns go
    return at')

/-- What cannot get what is matched: the underscore, and all that is no name. -/
def captureMistakes (go : Rules) : Parser Unit := do
  mistake (do
    let at' ← line
    word "_"
    return at')
  mistake (do
    without rawName
    return (← go .expression).line)

def pattern (go : Rules) : Parser Nat := do
  let at' ← line
  let alternatives ← separated (mark "|") (closedPattern go)
  let own := if alternatives.length = 1 then alternatives.headD at' else at'
  (do
    word "as"
    captured <|> (do captureMistakes go; stuck)
    return at')
  <|> (return own)

/-- The patterns of a case; without brackets a comma makes a sequence of them. -/
def casePatterns (go : Rules) : Parser Unit := do
  match ← commaList (starPattern go) with
  | ([(_, true)], false) => stuck
  | _ => return

end Rule

end TaskCatalog.Code
