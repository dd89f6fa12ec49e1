import TaskCatalog.Code.Call
import TaskCatalog.Code.SignatureRule

/-!
The rule for whole expressions: functions without a name, conditions, and all that operators build.
-/

namespace TaskCatalog.Code

open TaskCatalog.Code.Parser

namespace Rule

def lambda (go : Rules) : Parser Placed := do
  let at' ← line
  word "lambda"
  let s ← signature go false
  mark ":"
  return .value at' (.lambda s (← go .expression).expression)

def softKeywords : List String := ["_", "case", "match"]

/-- Whether what begins here may stand before another expression for a reason of its own. -/
def isExcused (tokens : List Token) : Bool :=
  match tokens with
  | ⟨.name n, _, _, _⟩ :: ⟨.string _, _, _, _⟩ :: _ => !keywords.contains n
  | ⟨.name n, _, _, _⟩ :: _ => softKeywords.contains n
  | _ => false

/-- Names of statements that used to stand before their operands. -/
def isOldStatement : Expression → Bool
  | .name n => n = ("print" : Text) || n = ("exec" : Text)
  | _ => false

/-- Where two expressions stand side by side in brackets a comma was forgotten, and the fault is that of
the first. -/
def forgottenComma (go : Rules) (first : Placed) : Parser Unit :=
  mistake (do
    let (_, last) ← withLast (lenient (go .expression))
    if (last.map (·.depth)).getD 0 = 0 then stuck
    return first.line)

/-- The name of an old statement before its operands, which are in parentheses now. -/
def oldStatement (go : Rules) (isStrict : Bool) : Parser Unit := do
  let at' ← line
  if !isOldStatement (.name (← name)) then stuck
  without (mark "(")
  let _ ← if isStrict then starExpressions go else lenient (starExpressions go)
  fail at'

/-- What is wrong where an expression that began at a place cannot go on. -/
def adjacencyMistakes (go : Rules) (begin_ : List Token) (e : Placed) : Parser Unit := do
  let isExcused := isExcused begin_
  let isOld := isOldStatement e.expression
  if !isExcused && !isOld then forgottenComma go e
  strictly (do let _ ← fitsAt begin_ (oldStatement go (isExcused || !isOld)))

/-- The rest of a condition after the value that it has if the test holds. -/
def conditionRest (go : Rules) (at' : Nat) (body : Placed) : Parser Placed := do
  word "if"
  let test ← disjunction go
  mistake (do without (word "else" <|> mark ":"); return body.line)
  word "else"
  return .value at' (.conditional body.expression test.expression (← go .expression).expression)

def expression (go : Rules) : Parser Placed :=
  lambda go <|> (do
    let at' ← line
    let begin_ ← left
    let body ← disjunction go
    adjacencyMistakes go begin_ body
    conditionRest go at' body <|> (return body))

end Rule

end TaskCatalog.Code
