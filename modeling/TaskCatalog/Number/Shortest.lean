import TaskCatalog.Text.Basic

/-!
The shortest decimal that reads back as a given binary number, and the decimals that are read.
A finite positive number is a significand times a power of two; the decimals that round to it form
an interval around it, whose ends belong to it when the significand is even.
-/

namespace TaskCatalog.Number

/-- `significand * 2 ^ exponent`, negated or not. -/
structure Binary where
  negative : Bool
  significand : Nat
  exponent : Int
  deriving DecidableEq, Repr

def binary? (x : Float) : Option Binary :=
  let bits : Nat := x.toBits.toNat
  let negative := Nat.pow 2 63 ≤ bits
  let field : Nat := bits / Nat.pow 2 52 % Nat.pow 2 11
  let fraction := bits % Nat.pow 2 52
  if field = Nat.pow 2 11 - 1 then none
  else if field = 0 then some ⟨negative, fraction, -1074⟩
  else some ⟨negative, Nat.pow 2 52 + fraction, (field : Int) - 1075⟩

/-- `digits * 10 ^ exponent` -/
structure Decimal where
  digits : Nat
  exponent : Int
  deriving DecidableEq, Repr

/-- Quarters of the last binary place from a significand to the lower end of its interval. -/
def lowerQuarters (b : Binary) : Nat :=
  if b.significand = Nat.pow 2 52 ∧ -1074 < b.exponent then 1 else 2

/-- Factors by which `c * 10 ^ place` and quarters of the last binary place become comparable. -/
def gridFactors (b : Binary) (place : Int) : Nat × Nat :=
  (Nat.pow 10 place.toNat * Nat.pow 2 (2 - b.exponent).toNat,
    Nat.pow 2 (b.exponent - 2).toNat * Nat.pow 10 (-place).toNat)

def roundsTo (b : Binary) (c : Nat) (place : Int) : Bool :=
  let (grid, quarter) := gridFactors b place
  let low := (4 * b.significand - lowerQuarters b) * quarter
  let high := (4 * b.significand + 2) * quarter
  if b.significand % 2 = 0 then low ≤ c * grid && c * grid ≤ high
  else low < c * grid && c * grid < high

/-- The nearer of the number's two neighbours on a decimal grid, among those that round to it. -/
def gridPoint? (b : Binary) (place : Int) : Option Nat :=
  let (grid, quarter) := gridFactors b place
  let value := 4 * b.significand * quarter
  let below := value / grid
  let rest := value % grid
  match roundsTo b below place, roundsTo b (below + 1) place with
  | true, true =>
    if 2 * rest < grid ∨ (2 * rest = grid ∧ below % 2 = 0) then some below else some (below + 1)
  | true, false => some below
  | false, true => some (below + 1)
  | false, false => none

/-- The first of `count` grids, each ten times finer than the one before, with a point that rounds to the number. -/
def shortestFrom (b : Binary) : Nat → Int → Decimal
  | 0, place => ⟨0, place⟩
  | count + 1, place =>
    match gridPoint? b place with
    | some c => ⟨c, place⟩
    | none => shortestFrom b count (place - 1)

/-- The decimal of fewest digits that rounds to a positive number. -/
def shortest (b : Binary) : Decimal :=
  let magnitude := ((Nat.log2 b.significand : Int) + b.exponent) * 30103 / 100000
  shortestFrom b 24 (magnitude + 2)

def ofDecimal (digits : Nat) (exponent : Int) : Float :=
  let magnitude : Int := (Nat.repr digits).length + exponent
  if digits = 0 ∨ magnitude ≤ -324 then 0.0
  else if 310 < magnitude then 1.0 / 0.0
  else if 0 ≤ exponent then Float.ofScientific (digits * Nat.pow 10 exponent.toNat) false 0
  else Float.ofScientific digits true (-exponent).toNat

end TaskCatalog.Number
