import TaskCatalog.Value.Basic
import TaskCatalog.Number.Shortest

/-!
When two values are the same key. Numbers are compared by what they count, whatever their kind:
the truth value true, one and 1.0 are one key.
-/

namespace TaskCatalog

open Number

/-- Whether a number with a fraction counts the same as a whole one. -/
def equalsWhole (x : Float) (n : Int) : Bool :=
  match binary? x with
  | none => false
  | some b =>
    let magnitude := b.significand * Nat.pow 2 b.exponent.toNat
    magnitude == n.natAbs * Nat.pow 2 (-b.exponent).toNat && (magnitude == 0 || b.negative == decide (n < 0))

namespace Scalar

/-- The whole number that a truth value or a whole number counts. -/
def whole? : Scalar → Option Int
  | truth b => some (if b then 1 else 0)
  | whole n => some n
  | _ => none

def equals (a b : Scalar) : Bool :=
  match a.whole?, b.whole?, a, b with
  | some m, some n, _, _ => m == n
  | some m, none, _, real x => equalsWhole x m
  | none, some n, real x, _ => equalsWhole x n
  | some m, none, _, complex re im => equalsWhole re m && im == 0
  | none, some n, complex re im, _ => equalsWhole re n && im == 0
  | _, _, real x, real y => x == y
  | _, _, real x, complex re im => x == re && im == 0
  | _, _, complex re im, real y => re == y && im == 0
  | _, _, complex re im, complex re' im' => re == re' && im == im'
  | _, _, a, b => decide (a = b)

end Scalar

namespace Value

mutual

def equals : Value → Value → Bool
  | .scalar a, .scalar b => a.equals b
  | .tuple a, .tuple b => equalItems a b
  | .list a, .list b => equalItems a b
  | _, _ => false

def equalItems : List Value → List Value → Bool
  | [], [] => true
  | a :: as, b :: bs => equals a b && equalItems as bs
  | _, _ => false

end

mutual

/-- Whether a value may be a key: it is no collection that could still change. -/
def isKey : Value → Bool
  | .scalar _ => true
  | .tuple items => areKeys items
  | _ => false

def areKeys : List Value → Bool
  | [] => true
  | v :: rest => isKey v && areKeys rest

end

/-- A map with a key set: an equal key keeps its place and its spelling. -/
def setEntry (key value : Value) : List (Value × Value) → List (Value × Value)
  | [] => [(key, value)]
  | (k, v) :: rest => if k.equals key then (k, value) :: rest else (k, v) :: setEntry key value rest

def mapOfEntries (entries : List (Value × Value)) : List (Value × Value) :=
  entries.foldl (fun done (k, v) => setEntry k v done) []

def addMember (v : Value) (members : List Value) : List Value :=
  if members.any (·.equals v) then members else members ++ [v]

def setOfItems (items : List Value) : List Value := items.foldl (fun done v => addMember v done) []

def lookup? (entries : List (Value × Value)) (key : Text) : Option Value :=
  (entries.find? fun (k, _) => k == .text key).map (·.2)

end Value

end TaskCatalog
