import TaskCatalog.Code.Operation

/-!
Rules for the parameters of functions. Parameters without a default come first; a slash ends those
that are given by position only, a star begins those that are given by name only.
-/

namespace TaskCatalog.Code

open TaskCatalog.Code.Parser

/-- The parameters that were read, and what that leaves to come. -/
structure SignatureDraft where
  positionalOnly : Option (List Binder)
  positional : List Binder
  /-- Whether a parameter by position has a default. -/
  isDefaulted : Bool
  hasStar : Bool
  rest : Option Binder
  named : List Binder
  others : Option Binder

namespace SignatureDraft

def empty : SignatureDraft := ⟨none, [], false, false, none, [], none⟩

def hasDefault : Binder → Bool
  | .mk _ _ default => default.isSome

/-- Whether a parameter without a default comes too late. -/
def isLate (d : SignatureDraft) (b : Binder) : Bool := !d.hasStar && d.isDefaulted && !hasDefault b

def add (d : SignatureDraft) (b : Binder) : SignatureDraft :=
  if d.hasStar then { d with named := d.named ++ [b] }
  else { d with positional := d.positional ++ [b], isDefaulted := hasDefault b }

def addSlash (d : SignatureDraft) : SignatureDraft :=
  { d with positionalOnly := some d.positional, positional := [] }

def signature (d : SignatureDraft) : Signature :=
  .mk (d.positionalOnly.getD []) d.positional d.rest d.named d.others

end SignatureDraft

namespace Rule

/-! Single parameters. -/

/-- What ends the parameters of a function, with a name or without. -/
def closing (isAnnotated : Bool) : String := if isAnnotated then ")" else ":"

def hint (isAnnotated : Bool) (p : Parser Placed) : Parser (Option Expression) :=
  if isAnnotated then optional (do mark ":"; return (← p).expression) else return none

def defaultValue (go : Rules) : Parser Expression := do
  let at' ← line
  mark "="
  (do return (← go .expression).expression)
    <|> (do
      mistake (do mark ")" <|> comma; return at')
      stuck)

def binder (go : Rules) (isAnnotated : Bool) : Parser Binder := do
  let n ← name
  let a ← hint isAnnotated (go .expression)
  let d ← optional (defaultValue go)
  return .mk n a d

/-- A parameter that takes all that is left; it has no default. -/
def collector (isAnnotated : Bool) (p : Parser Placed) : Parser Binder := do
  let n ← name
  return .mk n (← hint isAnnotated p) none

/-! Mistakes among parameters. -/

/-- The end of a parameter: a comma, or the end of all of them, which is not taken. -/
def parameterEnd (isAnnotated : Bool) : Parser Unit :=
  comma <|> (do if !(← ahead (mark (closing isAnnotated))) then stuck)

def bareParameter (go : Rules) (isAnnotated : Bool) : Parser Nat := do
  let at' ← line
  let _ ← collector isAnnotated (go .expression)
  return at'

def plainParameter (go : Rules) (isAnnotated : Bool) : Parser Nat := do
  let at' ← bareParameter go isAnnotated
  parameterEnd isAnnotated
  return at'

/-- A parameter in a row, with its line. -/
structure RowItem where
  line : Nat
  isDefaulted : Bool

def parameterRow (go : Rules) (isAnnotated : Bool) : Parser (List RowItem) :=
  many (do
    let at' ← line
    let b ← binder go isAnnotated
    parameterEnd isAnnotated
    return ⟨at', SignatureDraft.hasDefault b⟩)

/-- Whether there are parameters in a row, and those with defaults come last. -/
def isOrdered (row : List RowItem) : Bool :=
  !row.isEmpty && (row.dropWhile (!·.isDefaulted)).all (·.isDefaulted)

def slash (isAnnotated : Bool) : Parser Unit := do
  mark "/"
  parameterEnd isAnnotated

def markLine (m : String) : Parser Nat := do
  let at' ← line
  mark m
  return at'

def nestedParameters (go : Rules) (isAnnotated : Bool) : Parser Unit := do
  if isAnnotated then
    let _ ← some1 (plainParameter go isAnnotated)
  else
    let _ ← separated comma name
  let _ ← accept comma
  mark ")"

/-- A parameter without a default behind one with a default. -/
def lateParameter (go : Rules) (isAnnotated : Bool) (row : List RowItem) : Parser Unit := do
  let defaulted := row.dropWhile (!·.isDefaulted)
  if defaulted.isEmpty then return
  match defaulted.dropWhile (·.isDefaulted) with
  | late :: _ => fail late.line
  | [] =>
    mistake (do
      slash isAnnotated
      plainParameter go isAnnotated)

/-- A star behind parameters, with what may follow it, and more parameters. -/
def starredRow (go : Rules) (isAnnotated : Bool) : Parser Unit := do
  mark "*"
  comma <|> (do let _ ← plainParameter go isAnnotated)
  let _ ← parameterRow go isAnnotated

def slashMistakes (go : Rules) (isAnnotated : Bool) (row : List RowItem) : Parser Unit := do
  let slashedRow : Parser Unit := do
    if !isOrdered row then stuck
    slash isAnnotated
    let _ ← parameterRow go isAnnotated
  if row.isEmpty then
    mistake (do
      let at' ← markLine "/"
      comma
      return at')
  mistake (do
    slashedRow
    markLine "/")
  mistake (do
    let _ ← optional slashedRow
    starredRow go isAnnotated
    markLine "/")
  if !row.isEmpty then
    mistake (do
      mark "/"
      markLine "*")

def orderMistakes (go : Rules) (isAnnotated : Bool) : Parser Unit :=
  strictly do
    let row ← parameterRow go isAnnotated
    lateParameter go isAnnotated row
    if row.all (!·.isDefaulted) then
      mistake (do
        let at' ← markLine "("
        nestedParameters go isAnnotated
        return at')
    slashMistakes go isAnnotated row

def idleStar (isAnnotated : Bool) : Parser Nat := do
  let at' ← markLine "*"
  let ending := mark (closing isAnnotated)
  ending <|> (do comma; ending <|> mark "**")
  return at'

def starMistakes (go : Rules) (isAnnotated : Bool) : Parser Unit := do
  if isAnnotated then mistake (idleStar isAnnotated)
  else strictly (do let _ ← idleStar isAnnotated; failFarthest (α := Unit))
  mistake (do
    mark "*"
    let _ ← bareParameter go isAnnotated
    markLine "=")
  mistake (do
    starredRow go isAnnotated
    let at' ← markLine "*"
    comma <|> (do let _ ← plainParameter go isAnnotated)
    return at')

def doubleStarMistakes (go : Rules) (isAnnotated : Bool) : Parser Unit := do
  let first : Parser Unit := do
    mark "**"
    let _ ← bareParameter go isAnnotated
  mistake (do
    first
    markLine "=")
  mistake (do
    first
    comma
    bareParameter go isAnnotated <|> markLine "*" <|> markLine "**" <|> markLine "/")

/-! All parameters. -/

/-- One parameter, a slash or a star, and whether more may follow. -/
def signatureItem (go : Rules) (isAnnotated : Bool) (d : SignatureDraft) : Parser (SignatureDraft × Bool) :=
  (do
    mark "/"
    if d.positionalOnly.isSome || d.positional.isEmpty || d.hasStar then stuck
    return (d.addSlash, true))
  <|> (do
    if d.hasStar then stuck
    starMistakes go isAnnotated
    mark "*"
    let rest ← optional (collector isAnnotated (starExpression go))
    if rest.isNone then
      if !(← ahead (do comma; name)) then stuck
    return ({ d with hasStar := true, rest }, true))
  <|> (do
    doubleStarMistakes go isAnnotated
    mark "**"
    let b ← collector isAnnotated (go .expression)
    return ({ d with others := some b }, false))
  <|> (do
    let b ← binder go isAnnotated
    if d.isLate b then stuck
    return (d.add b, true))

/-- Parameters with commas between; a comma may stand behind the last. -/
def signatureWithin (go : Rules) (isAnnotated : Bool) : List Token → SignatureDraft → Parser SignatureDraft
  | [], d => return d
  | _ :: fuel, d =>
    (do
      let (d, isOpen) ← signatureItem go isAnnotated d
      if ← accept comma then
        if isOpen then signatureWithin go isAnnotated fuel d else return d
      else return d)
    <|> (return d)

def signature (go : Rules) (isAnnotated : Bool) : Parser Signature := do
  orderMistakes go isAnnotated
  return (← signatureWithin go isAnnotated (← left) .empty).signature

end Rule

end TaskCatalog.Code
