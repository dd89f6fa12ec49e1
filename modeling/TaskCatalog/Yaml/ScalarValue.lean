import TaskCatalog.Number.Spelling
import TaskCatalog.Text.Blank
import TaskCatalog.Text.LowerCase
import TaskCatalog.Value.Basic
import TaskCatalog.Yaml.Tag
import TaskCatalog.Yaml.Cursor

/-!
What the text of a scalar denotes under its tag. A stated tag may stand before any text, so each
reading can fail.
-/

namespace TaskCatalog.Yaml

open Text Number

namespace ScalarValue

/-- The characters of a text without the blanks around it. -/
def trimmed (cs : List Char) : List Char := ((trim (ofChars cs)).chars?).getD []

def dropBase (base : Nat) : List Char → List Char
  | '0' :: c :: rest =>
    let letter := if base = 2 then 'b' else if base = 8 then 'o' else 'x'
    if base ≠ 10 ∧ c.toLower = letter then rest else '0' :: c :: rest
  | cs => cs

/-- A whole number with blanks and a sign around its digits. -/
def whole? (base : Nat) (cs : List Char) : Option Int :=
  let (negative, digits) := signed (trimmed cs)
  let digits := dropBase base digits
  if base = 10 ∧ decimalLimit < digits.length then none
  else (digits? base digits).map fun n => if negative then -(n : Int) else n

def numberOf {α : Type} : Option α → Except Fault α
  | some a => .ok a
  | none => .error .badNumber

def sixtieths (places : List Int) : Int := places.foldl (fun n d => 60 * n + d) 0

def withoutLowLines (cs : List Char) : List Char := cs.filter (· != '_')

def whole (cs : List Char) : Except Fault Int :=
  let cs := withoutLowLines cs
  let (negative, cs') := signed cs
  match cs, cs' with
  | [], _ | _, [] => .error .noDigits
  | _, ['0'] => .ok 0
  | _, '0' :: 'b' :: rest => (numberOf (whole? 2 rest)).map (withSign negative)
  | _, '0' :: 'x' :: rest => (numberOf (whole? 16 rest)).map (withSign negative)
  | _, '0' :: rest => (numberOf (whole? 8 ('0' :: rest))).map (withSign negative)
  | _, cs =>
    let places := Spelling.pieces ':' cs
    (numberOf (places.mapM (whole? 10))).map fun ds => withSign negative (sixtieths ds)

def infinity : Float := 1.0 / 0.0

/-- A number with a fraction, in lower case, with blanks and a sign around it. -/
def real? (cs : List Char) : Option Float :=
  let (negative, cs) := signed (trimmed cs)
  let x := if ["inf", "infinity"].contains (String.ofList cs) then some infinity
    else if String.ofList cs = "nan" then some (0.0 / 0.0)
    else decimal? cs
  x.map fun x => if negative then -x else x

/-- Places to the base of sixty with fractions, the lowest first. -/
def realSixtieths (base : Nat) (sum : Float) : List Float → Float
  | [] => sum
  | x :: rest => realSixtieths (base * 60) (sum + x * ofDecimal base 0) rest

def real (t : Text) : Except Fault Float :=
  match (lower t).chars? with
  | none => .error .badNumber
  | some cs =>
    let cs := withoutLowLines cs
    let (negative, cs') := signed cs
    let withSign (x : Float) : Float := if negative then -x else x
    if cs.isEmpty then .error .noDigits
    else if cs' = ".inf".toList then .ok (withSign infinity)
    else if cs' = ".nan".toList then .ok (0.0 / 0.0)
    else if cs'.contains ':' then
      (numberOf ((Spelling.pieces ':' cs').mapM real?)).map fun xs =>
        withSign (realSixtieths 1 0.0 xs.reverse)
    else (numberOf (real? cs')).map withSign

def truth (t : Text) : Except Fault Bool :=
  let word := (lower t).toString
  if ["yes", "true", "on"].contains word then .ok true
  else if ["no", "false", "off"].contains word then .ok false
  else .error .unknownTruth

def sextet? (c : Char) : Option Nat :=
  if 'A' ≤ c && c ≤ 'Z' then some (c.toNat - 'A'.toNat)
  else if 'a' ≤ c && c ≤ 'z' then some (c.toNat - 'a'.toNat + 26)
  else if c.isDigit then some (c.toNat - '0'.toNat + 52)
  else if c = '+' then some 62
  else if c = '/' then some 63
  else none

/-- The bytes of groups of four characters; `place` counts in the group, `left` are the bits left over,
`pads` the marks since the last character. Other characters are passed over. -/
def groups (place left pads : Nat) : List Char → Except Fault Bytes
  | [] => if place = 0 then .ok [] else .error .malformed
  | c :: rest =>
    if c = '=' then
      if 2 ≤ place then
        if 4 ≤ place + pads + 1 then .ok [] else groups place left (pads + 1) rest
      else groups place left pads rest
    else match sextet? c with
      | none => groups place left pads rest
      | some v =>
        match place with
        | 0 => groups 1 v 0 rest
        | 1 => (groups 2 (v % 16) 0 rest).map (UInt8.ofNat (left * 4 + v / 16) :: ·)
        | 2 => (groups 3 (v % 4) 0 rest).map (UInt8.ofNat (left * 16 + v / 4) :: ·)
        | _ => (groups 0 0 0 rest).map (UInt8.ofNat (left * 64 + v) :: ·)

def binary (t : Text) : Except Fault Bytes :=
  match t.chars? with
  | some cs => if cs.all fun c => c.toNat < 128 then groups 0 0 0 cs else .error .malformed
  | none => .error .malformed

def number (cs : List Char) : Nat := (digits? 10 cs).getD 0

def millionths (cs : List Char) : Nat :=
  let digits := cs.take 6
  number (digits ++ List.replicate (6 - digits.length) '0')

def zoneOffset : Option Char × List Char × List Char → Int
  | (none, _, _) => 0
  | (some sign, hours, minutes) =>
    let n : Int := number hours * 60 + number minutes
    if sign = '-' then -n else n

def moment (t : Text) : Except Fault Scalar :=
  match t.chars?.bind fun cs => Spelling.moment? (Spelling.dropLastFeed cs) with
  | none => .error .noTime
  | some m =>
    let day : Day := ⟨number m.year, number m.month, number m.day⟩
    match m.time with
    | none => if day.isValid then .ok (.day day) else .error .impossibleTime
    | some (hour, minute, second, fraction) =>
      let moment : Moment :=
        ⟨day, number hour, number minute, number second, millionths fraction, m.zone.map zoneOffset⟩
      if moment.isValid then .ok (.moment moment) else .error .impossibleTime

end ScalarValue

end TaskCatalog.Yaml
