import TaskCatalog.Code.Phrase
import TaskCatalog.Code.Operation
import TaskCatalog.Code.StringLiteral
import TaskCatalog.Number.Spelling

/-!
Literal numbers and texts. Literals in a row are one, and a formatted text keeps its fields.
-/

namespace TaskCatalog.Code

open TaskCatalog.Code.Parser Number

/-- The value of a number; whole numbers with too many decimal digits have none. -/
def numberValue? (cs : List Char) : Option Scalar :=
  let cs := (cs.filter (· != '_')).map Char.toLower
  match cs with
  | '0' :: 'x' :: digits => (digits? 16 digits).map fun n => .whole n
  | '0' :: 'o' :: digits => (digits? 8 digits).map fun n => .whole n
  | '0' :: 'b' :: digits => (digits? 2 digits).map fun n => .whole n
  | cs =>
    if cs.getLast? = some 'j' then (decimal? cs.dropLast).map fun x => .complex 0.0 x
    else if cs.contains '.' || cs.contains 'e' then (decimal? cs).map .real
    else if decimalLimit < cs.length then none
    else (digits? 10 cs).map fun n => .whole n

/-- Pieces without empty texts, neighbouring texts put together. -/
def mergePieces : List Piece → List Piece
  | [] => []
  | .text [] :: rest => mergePieces rest
  | .text t :: rest =>
    match mergePieces rest with
    | .text u :: more => .text (t ++ u) :: more
    | more => .text t :: more
  | p :: rest => p :: mergePieces rest

mutual

/-- Reads the expressions of a formatted text, each from the line on which it stands. -/
def readDrafts (read : Nat → List Char → Except Nat Expression) : List Draft → Except Nat (List Piece)
  | [] => .ok []
  | .text t :: rest => do return .text t :: (← readDrafts read rest)
  | .field source line conversion format :: rest => do
    let e ← read line source
    let f ← readFormat read format
    return .field e conversion f :: (← readDrafts read rest)

def readFormat (read : Nat → List Char → Except Nat Expression) :
    Option (List Draft) → Except Nat (Option (List Piece))
  | none => .ok none
  | some drafts => do return some (mergePieces (← readDrafts read drafts))

end

namespace Rule

def number : Parser Scalar := do
  let at' ← line
  match numberValue? (← Parser.number) with
  | some s => return s
  | none => fail at'

/-- The expression of a field, which may be broken into lines as if in brackets. -/
def fieldExpression (go : Rules) (line : Nat) (source : List Char) : Except Nat Expression :=
  (do return (← starExpressions go).expression).run (tokensOf line ('(' :: source ++ [')']))

/-- The pieces of one literal; a fault is put down to the line that follows. -/
def literalPieces (go : Rules) (next : Nat) (at' : Nat) (token : List Char) : Parser (List Piece) := do
  let l := StringLiteral.ofToken token
  if l.isFormatted then
    match Draft.ofBody l.isRaw (at' + token.count '\n') l.body with
    | none => fail next
    | some drafts =>
      match readDrafts (fieldExpression go) drafts with
      | .ok pieces => return pieces
      | .error faulty => fail faulty
  else
    match StringLiteral.textOf l.isRaw l.body with
    | some t => return [.text t]
    | none => fail next

def literalBytes (next at' : Nat) (token : List Char) : Parser Text.Bytes := do
  let l := StringLiteral.ofToken token
  if l.body.any (127 < ·.toNat) then fail at'
  match StringLiteral.bytesOf l.isRaw l.body with
  | some b => return b
  | none => fail next

def strings (go : Rules) : Parser Expression := do
  let tokens ← some1 (do
    let at' ← line
    return (at', ← Parser.string))
  let next ← line
  let literals := tokens.map fun (_, token) => StringLiteral.ofToken token
  if literals.all (·.isBytes) then
    let parts ← tokens.mapM fun (at', token) => literalBytes next at' token
    return .constant (.bytes parts.flatten) false
  if literals.any (·.isBytes) then fail next
  let pieces ← tokens.mapM fun (at', token) => literalPieces go next at' token
  let merged := mergePieces pieces.flatten
  if literals.any (·.isFormatted) then return .formatted merged
  let text := merged.flatMap fun
    | .text t => t
    | .field .. => []
  return .constant (.text text) (literals.head?.any (·.isMarked))

end Rule

end TaskCatalog.Code
