import TaskCatalog.Code.PatternRule

/-!
Rules for statements. A statement of one line gives one or more, a compound statement holds those of
its blocks.
-/

namespace TaskCatalog.Code

open TaskCatalog.Code.Parser

namespace Rule

/-! Statements of one line. -/

def operators : List (String × Unit) := [
  ("+=", ()), ("-=", ()), ("*=", ()), ("/=", ()), ("//=", ()), ("%=", ()), ("@=", ()), ("&=", ()),
  ("|=", ()), ("^=", ()), ("<<=", ()), (">>=", ()), ("**=", ())]

def place (go : Rules) : Parser Placed := do
  let p ← go .primary
  if p.isPlace then return p else stuck

/-- A place with an annotation, and perhaps with a value. -/
def annotation (go : Rules) : Parser Statement := do
  let at' ← line
  let p ← place go
  mark ":"
  let a ← go .expression
  let _ ← optional (do
    mark "="
    yieldOrStar go)
  return .annotated at' p.expression a.expression

def targetBefore (go : Rules) : Parser Expression := do
  let t ← targets go
  mark "="
  return t.expression

def plainAssignment (go : Rules) : Parser Statement := do
  let at' ← line
  let ts ← some1 (targetBefore go)
  let _ ← yieldOrStar go
  without (mark "=")
  return .assignment at' ts

def augmentedAssignment (go : Rules) : Parser Statement := do
  let _ ← place go
  oneOf operators
  let _ ← yieldOrStar go
  return .compound []

def annotatedDisplay (go : Rules) : Parser Nat := do
  let p ← atom go
  match p.expression with
  | .list _ | .tuple _ => return p.line
  | _ => stuck

/-- What is wrong with the targets of what looks like an assignment. -/
def assignmentMistakes (go : Rules) : Parser Unit := do
  let hinted : Parser Unit := do
    mark ":"
    let _ ← go .expression
  mistake (do
    let at' ← annotatedDisplay go
    hinted
    return at')
  mistake (do
    let first ← starNamed go
    comma
    let _ ← many (commaList (starNamed go))
    hinted
    return first.line)
  mistake (do
    let e ← go .expression
    hinted
    return e.line)
  mistake (do
    let _ ← many (targetBefore go)
    let e ← starExpressions go
    mark "="
    refusedLine .assign e)
  mistake (do
    let _ ← many (targetBefore go)
    let e ← yield go
    mark "="
    return e.line)
  mistake (do
    let e ← starExpressions go
    oneOf operators
    let _ ← yieldOrStar go
    return e.line)

def assignment (go : Rules) : Parser Statement :=
  annotation go <|> plainAssignment go <|> augmentedAssignment go <|> (do
    assignmentMistakes go
    return .expression (← yieldOrStar go).expression)

def dottedName : Parser Unit := do
  let _ ← separated (mark ".") rawName

def asOther : Parser Unit := do
  let _ ← optional (do
    word "as"
    rawName)

def importNames : Parser Unit := do
  let _ ← separated comma (do
    dottedName
    asOther)

def importedNames : Parser Unit :=
  mark "*"
  <|> (do
    mark "("
    let _ ← commaList (do
      let _ ← rawName
      asOther)
    mark ")")
  <|> (do
    let _ ← separated comma (do
      let _ ← rawName
      asOther)
    without comma)

def importFrom : Parser Unit := do
  let dots ← many (mark "." <|> mark "...")
  if dots.isEmpty then dottedName else let _ ← optional dottedName
  word "import"
  importedNames

def deletionTarget (go : Rules) : Parser Unit := do
  if !(← go .primary).isTarget .delete then stuck

def deletion (go : Rules) : Parser Unit :=
  (do
    let _ ← commaList (deletionTarget go)
    if !(← ahead (mark ";" <|> newline)) then stuck)
  <|> (do
    mistake (do refusedLine .delete (← starExpressions go))
    stuck)

def names : Parser Unit := do
  let _ ← separated comma rawName

/-- A statement that begins with a keyword and declares nothing. -/
def plainStatement (go : Rules) : String → Option (Parser Unit)
  | "pass" | "break" | "continue" => some (return ())
  | "return" => some do let _ ← optional (starExpressions go)
  | "import" => some importNames
  | "from" => some importFrom
  | "raise" =>
    some do
      if let some _ ← optional (go .expression) then
        let _ ← optional (do
          word "from"
          go .expression)
  | "del" => some (deletion go)
  | "assert" =>
    some do
      let _ ← go .expression
      let _ ← optional (do
        comma
        go .expression)
  | "global" | "nonlocal" => some names
  | _ => none

def simpleStatement (go : Rules) : Parser Statement := do
  match (← peek).lexeme with
  | .name w =>
    match plainStatement go w with
    | some rest => do
      word w
      rest
      return .compound []
    | none => assignment go
  | _ => assignment go

def simpleStatements (go : Rules) : Parser (List Statement) := do
  let ss ← separated (mark ";") (simpleStatement go)
  let _ ← accept (mark ";")
  newline
  return ss

/-! Compound statements. -/

def indented {α : Type} (p : Parser α) : Parser α := do
  newline
  strictly (do without indent; failFarthest (α := Unit))
  indent
  let a ← p
  dedent
  return a

/-- The statements after a colon, on the same line or on lines that are indented. -/
def suite (go : Rules) : Parser (List Statement) := indented (go .statements) <|> simpleStatements go

def block (go : Rules) : Parser (List Statement) := do
  mark ":"
  suite go

/-- A block behind a word that nothing but a colon can follow. -/
def expectedBlock (go : Rules) : Parser (List Statement) := do
  expect ":"
  suite go

def orElse (go : Rules) : Parser (List Statement) := do
  return (← optional (do
    word "else"
    expectedBlock go)).getD []

/-- A condition with its block, and what is done otherwise. -/
def branches (go : Rules) : List Token → Parser (List Statement)
  | [] => stuck
  | _ :: fuel => do
    let _ ← go .named
    let body ← block go
    let other ← (do
        word "elif"
        return [Statement.compound (← branches go fuel)])
      <|> orElse go
    return body ++ other

def loop (go : Rules) : Parser (List Statement) := do
  let body ← block go
  return body ++ (← orElse go)

def forLoop (go : Rules) : Parser (List Statement) := do
  let _ ← loopTargets go
  let _ ← starExpressions go
  loop go

def contextEnd : Parser Unit := do
  if !(← ahead (comma <|> mark ")" <|> mark ":")) then stuck

def withItem (go : Rules) : Parser Unit := do
  let _ ← go .expression
  let _ ← optional (do
    word "as"
    (do
      let _ ← target go
      contextEnd)
    <|> (do
      mistake (do
        let e ← go .expression
        contextEnd
        refusedLine .assign e)
      stuck))

def withBlock (go : Rules) : Parser (List Statement) :=
  (do
    mark "("
    let _ ← commaList (withItem go)
    mark ")"
    block go)
  <|> (do
    let _ ← separated comma (withItem go)
    block go)

def caught (go : Rules) : Parser Unit := do
  let _ ← go .expression
  asOther

/-- What is wrong behind the word of a handler: several kinds of errors without parentheses, or none
behind a star. -/
def handlerMistakes (go : Rules) : Parser Unit := do
  mistake (do
    let _ ← accept (mark "*")
    let e ← go .expression
    comma
    let _ ← commaList (go .expression)
    asOther
    mark ":"
    return e.line)
  strictly (do
    mark "*"
    newline <|> mark ":"
    failFarthest (α := Unit))

/-- A handler, for groups of errors or for single ones. -/
def handler (go : Rules) (isGroup : Bool) : Parser Statement := do
  word "except"
  (do
    if isGroup then
      mark "*"
      caught go
    else
      let _ ← optional (caught go)
    return .compound (← block go))
  <|> (do
    handlerMistakes go
    stuck)

def otherHandler (go : Rules) (isGroup : Bool) : Parser Nat := do
  let at' ← line
  word "except"
  if isGroup then
    let _ ← optional (caught go)
  else
    mark "*"
    caught go
  mark ":"
  return at'

def handlers (go : Rules) (isGroup : Bool) : Parser (List Statement) := do
  let hs ← some1 (handler go isGroup)
  mistake (otherHandler go isGroup)
  return hs

def finalBlock (go : Rules) : Parser (List Statement) := do
  word "finally"
  expectedBlock go

def tryBlock (go : Rules) : Parser (List Statement) := do
  let body ← expectedBlock go
  strictly (do without (word "except" <|> word "finally"); failFarthest (α := Unit))
  (return body ++ (← finalBlock go))
    <|> (do
      let hs ← handlers go false <|> handlers go true
      let other ← orElse go
      let final ← optional (finalBlock go)
      return body ++ hs ++ other ++ final.getD [])

def classBlock (go : Rules) (at' : Nat) (decorators : List Expression) : Parser Statement := do
  let n ← name
  let _ ← optional (callArguments go false)
  return .classDefinition at' n decorators (← block go)

def functionBlock (go : Rules) (at' : Nat) (decorators : List Expression) : Parser Statement := do
  let n ← name
  expect "("
  let s ← signature go true
  mark ")"
  let _ ← optional (do
    mark "->"
    go .expression)
  return .functionDefinition at' n decorators s (← expectedBlock go)

def definition (go : Rules) (decorators : List Expression) : Parser Statement := do
  let at' ← line
  (do word "class"; classBlock go at' decorators)
    <|> (do
      let _ ← accept (word "async")
      word "def"
      functionBlock go at' decorators)

def decorated (go : Rules) : Parser Statement := do
  let decorators ← some1 (do
    mark "@"
    let e ← go .named
    newline
    return e.expression)
  definition go decorators

def caseBlock (go : Rules) : Parser Statement := do
  word "case"
  casePatterns go
  let _ ← optional (do
    word "if"
    go .named)
  return .compound (← block go)

def matchBlock (go : Rules) : Parser Statement := do
  word "match"
  match ← commaList (starNamed go) with
  | ([p], false) => if p.isStarred then stuck
  | _ => pure ()
  mark ":"
  return .compound (← indented (some1 (caseBlock go)))

/-- The rest of a compound statement after its keyword. -/
def compoundRest (go : Rules) : String → Option (Parser (List Statement))
  | "if" => some do branches go (← left)
  | "while" =>
    some do
      let _ ← go .named
      loop go
  | "for" => some (forLoop go)
  | "with" => some (withBlock go)
  | "try" => some (tryBlock go)
  | _ => none

def compound (go : Rules) (w : String) : Parser Statement :=
  match compoundRest go w with
  | some rest => do
    word w
    return .compound (← rest)
  | none => stuck

def statement (go : Rules) : Parser (List Statement) := do
  match (← peek).lexeme with
  | .mark "@" => return [← decorated go]
  | .name "class" | .name "def" => return [← definition go []]
  | .name "async" =>
    (return [← definition go []]) <|> (do
      word "async"
      return [← compound go "for" <|> compound go "with"])
  | .name "match" => (return [← matchBlock go]) <|> simpleStatements go
  | .name w => if (compoundRest go w).isSome then return [← compound go w] else simpleStatements go
  | _ => simpleStatements go

def statements (go : Rules) : Parser (List Statement) := do
  return (← some1 (statement go)).flatten

end Rule

/-- The rules for the phrases that contain themselves, given those for the phrases inside them. -/
def rules (go : Rules) : Rules
  | .named => Rule.named go
  | .expression => Rule.expression go
  | .inversion => Rule.inversion go
  | .factor => Rule.factor go
  | .primary => Rule.primary go
  | .pattern => Rule.pattern go
  | .statements => Rule.statements go

/-- The rules for phrases that are nested at most so deep. -/
def rulesWithin : Nat → Rules
  | 0 => fun _ => Parser.stuck
  | depth + 1 => fun p => rules (fun q => rulesWithin depth q) p

def wholeFile (go : Rules) : Parser (List Statement) := do
  let ss ← Parser.optional (go .statements)
  Parser.endOfFile
  return ss.getD []

/-- Why a text is no source file. -/
inductive SourceFault where
  | line (n : Nat)
  /-- A character that no source may hold. -/
  | zeroCharacter
  deriving DecidableEq, Repr

def parse (source : List Char) : Except SourceFault (List Statement) :=
  if source.contains '\x00' then .error .zeroCharacter
  else ((wholeFile (rulesWithin (8 * source.length + 8))).run (tokensOf 1 source)).mapError .line

end TaskCatalog.Code
