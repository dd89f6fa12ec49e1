import TaskCatalog.Code.Tree
import TaskCatalog.Value.Equality

/-!
The values of literal expressions: constants, signed and complex numbers, and collections of them.
-/

namespace TaskCatalog.Code

inductive EvaluationFault where
  | notLiteral
  /-- A whole number that no real number can stand for. -/
  | tooLarge
  deriving DecidableEq, Repr

namespace Expression

def number? : Expression → Option Scalar
  | .constant (.whole n) _ => some (.whole n)
  | .constant (.real x) _ => some (.real x)
  | .constant (.complex re im) _ => some (.complex re im)
  | _ => none

def signedNumber? : Expression → Option Scalar
  | .unary .plus e => e.number?
  | .unary .minus e =>
    e.number?.map fun
      | .whole n => .whole (-n)
      | .real x => .real (-x)
      | .complex re im => .complex (-re) (-im)
      | s => s
  | e => e.number?

def realOf : Scalar → Except EvaluationFault Float
  | .whole n =>
    let x := Number.ofDecimal n.natAbs 0
    if x.isFinite then .ok (if n < 0 then -x else x) else .error .tooLarge
  | .real x => .ok x
  | _ => .error .notLiteral

/-- A complex number as the sum or the difference of its parts. -/
def complexOf (isSum : Bool) (left right : Expression) : Except EvaluationFault Value :=
  match left.signedNumber?, right.number? with
  | some l, some (.complex re im) => do
    let x ← realOf l
    return if isSum then .complex (x + re) (0.0 + im) else .complex (x - re) (0.0 - im)
  | _, _ => .error .notLiteral

def isSetName : Expression → Bool
  | .name n => n = ("set" : Text)
  | _ => false

mutual

def value : Expression → Except EvaluationFault Value
  | .constant s _ => .ok (.scalar s)
  | .tuple es => (values es).map .tuple
  | .list es => (values es).map .list
  | .set es => do
    let vs ← values es
    if vs.all Value.isKey then return .set (Value.setOfItems vs) else .error .notLiteral
  | .dictionary entries => (entryValues entries).map fun es => .map (Value.mapOfEntries es)
  | .call f [] [] => if isSetName f then .ok (.set []) else .error .notLiteral
  | .binary .add left right => complexOf true left right
  | .binary .subtract left right => complexOf false left right
  | e =>
    match e.signedNumber? with
    | some s => .ok (.scalar s)
    | none => .error .notLiteral

def values : List Expression → Except EvaluationFault (List Value)
  | [] => .ok []
  | e :: rest => do return (← value e) :: (← values rest)

def entryValues : List Entry → Except EvaluationFault (List (Value × Value))
  | [] => .ok []
  | .spread _ :: _ => .error .notLiteral
  | .pair key e :: rest => do
    let k ← value key
    let v ← value e
    if k.isKey then return (k, v) :: (← entryValues rest) else .error .notLiteral

end

end Expression

end TaskCatalog.Code
