import TaskCatalog.Number.Shortest

/-!
Numbers from their digits, in any base, and from decimals with a point and an exponent.
-/

namespace TaskCatalog.Number

def digitValue? (base : Nat) (c : Char) : Option Nat :=
  let v := if c.isDigit then c.toNat - '0'.toNat
    else if 'a' ≤ c && c ≤ 'z' then c.toNat - 'a'.toNat + 10
    else if 'A' ≤ c && c ≤ 'Z' then c.toNat - 'A'.toNat + 10
    else base
  if v < base then some v else none

def digits? (base : Nat) (cs : List Char) : Option Nat :=
  if cs.isEmpty then none
  else cs.foldlM (fun n c => (digitValue? base c).map (base * n + ·)) 0

def decimalLimit : Nat := 4300

def signed : List Char → Bool × List Char
  | '-' :: rest => (true, rest)
  | '+' :: rest => (false, rest)
  | cs => (false, cs)

def withSign (negative : Bool) (n : Int) : Int := if negative then -n else n

/-- The digits of a number with a fraction and an exponent; each may be left out, not both digits. -/
def decimal? (cs : List Char) : Option Float := do
  let whole := cs.takeWhile Char.isDigit
  let rest := cs.drop whole.length
  let (fraction, rest) := match rest with
    | '.' :: rest => (rest.takeWhile Char.isDigit, rest.dropWhile Char.isDigit)
    | _ => ([], rest)
  if whole.isEmpty && fraction.isEmpty then none
  let exponent ← match rest with
    | [] => some 0
    | 'e' :: rest =>
      let (negative, digits) := signed rest
      (digits? 10 digits).map fun (n : Nat) => withSign negative n
    | _ => none
  return ofDecimal (← digits? 10 (whole ++ fraction)) (exponent - fraction.length)

end TaskCatalog.Number
