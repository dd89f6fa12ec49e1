import TaskCatalog.Number.Shortest

/-!
How a number with a fraction is written: positionally when its first digit stands between the
fourth place after the point and the sixteenth before it, else with an exponent of two digits or more.
-/

namespace TaskCatalog.Number

open Text

/-- What the formats decide differently. -/
structure FloatStyle where
  infinity : Text
  notANumber : Text
  /-- Whole numbers end in `.0`. -/
  wholePoint : Bool
  /-- A single digit before an exponent is followed by `.0`. -/
  exponentPoint : Bool

def FloatStyle.literal : FloatStyle := ⟨"inf", "nan", true, false⟩

def FloatStyle.bare : FloatStyle := ⟨"inf", "nan", false, false⟩

def decimalDigits (n : Nat) : List Char := (Nat.repr n).toList

def exponentText (e : Int) : Text :=
  let digits := decimalDigits e.natAbs
  ofChars ('e' :: (if e < 0 then '-' else '+') :: (if digits.length < 2 then '0' :: digits else digits))

def decimalText (style : FloatStyle) (d : Decimal) : Text :=
  let digits := decimalDigits d.digits
  let count := digits.length
  /- The place of the first digit, counted from the one before the point. -/
  let first : Int := d.exponent + count - 1
  if -4 ≤ first ∧ first < 16 then
    if 0 ≤ d.exponent then
      ofChars (digits ++ List.replicate d.exponent.toNat '0') ++ if style.wholePoint then ".0" else ""
    else if 0 ≤ first then
      ofChars (digits.take (first + 1).toNat ++ '.' :: digits.drop (first + 1).toNat)
    else
      ofChars ('0' :: '.' :: List.replicate (-first - 1).toNat '0' ++ digits)
  else
    ofChars (match digits with
      | [c] => if style.exponentPoint then [c, '.', '0'] else [c]
      | c :: more => c :: '.' :: more
      | [] => []) ++ exponentText first

def floatText (style : FloatStyle) (x : Float) : Text :=
  match binary? x with
  | none => if x.isNaN then style.notANumber else if x < 0 then "-" ++ style.infinity else style.infinity
  | some b =>
    let magnitude : Text :=
      if b.significand = 0 then (if style.wholePoint then "0.0" else "0")
      else decimalText style (shortest b)
    if b.negative then "-" ++ magnitude else magnitude

end TaskCatalog.Number
