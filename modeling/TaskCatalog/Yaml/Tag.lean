import TaskCatalog.Text.Basic

/-!
Tags: what kind of value a node is to become. A plain scalar gets its kind from its spelling.
-/

namespace TaskCatalog.Yaml

open Text

inductive Kind where
  | null
  | truth
  | whole
  | real
  | binary
  | moment
  | orderedMap
  | pairs
  | set
  | text
  | sequence
  | mapping
  /-- A key whose mappings are merged into its own. -/
  | merge
  /-- A key whose value stands for the whole mapping. -/
  | value
  deriving DecidableEq, Repr

inductive Tag where
  | known (k : Kind)
  | unknown
  deriving DecidableEq, Repr

namespace Tag

def standard : Text := "tag:yaml.org,2002:"

def kinds : List (String × Kind) := [
  ("null", .null), ("bool", .truth), ("int", .whole), ("float", .real), ("binary", .binary),
  ("timestamp", .moment), ("omap", .orderedMap), ("pairs", .pairs), ("set", .set), ("str", .text),
  ("seq", .sequence), ("map", .mapping), ("merge", .merge), ("value", .value)]

def ofText (t : Text) : Tag :=
  match kinds.find? fun (name, _) => t = standard ++ (name : Text) with
  | some (_, k) => .known k
  | none => .unknown

end Tag

namespace Spelling

def dropSign : List Char → List Char
  | '+' :: rest => rest
  | '-' :: rest => rest
  | cs => cs

def isDigitOrLow (c : Char) : Bool := c.isDigit || c == '_'

def isDigits : List Char → Bool
  | [] => false
  | c :: rest => c.isDigit && rest.all isDigitOrLow

/-- The pieces between the occurrences of a character. -/
def pieces (separator : Char) : List Char → List (List Char)
  | [] => [[]]
  | c :: rest =>
    if c = separator then [] :: pieces separator rest
    else match pieces separator rest with
      | [] => [[c]]
      | piece :: more => (c :: piece) :: more

/-- A place below the first of a number to the base of sixty. -/
def isSixtieth : List Char → Bool
  | [c] => c.isDigit
  | [c, d] => '0' ≤ c && c ≤ '5' && d.isDigit
  | _ => false

def truthWords : List String := [
  "yes", "Yes", "YES", "no", "No", "NO", "true", "True", "TRUE", "false", "False", "FALSE",
  "on", "On", "ON", "off", "Off", "OFF"]

def nullWords : List String := ["", "~", "null", "Null", "NULL"]

def isTruth (cs : List Char) : Bool := truthWords.contains (String.ofList cs)

def isNull (cs : List Char) : Bool := nullWords.contains (String.ofList cs)

def isBaseDigit (base : Nat) (c : Char) : Bool :=
  c == '_' || (c.isDigit && c.toNat - '0'.toNat < base)
    || (base == 16 && (('a' ≤ c && c ≤ 'f') || ('A' ≤ c && c ≤ 'F')))

def isWhole (cs : List Char) : Bool :=
  match dropSign cs with
  | '0' :: 'b' :: rest => !rest.isEmpty && rest.all (isBaseDigit 2)
  | '0' :: 'x' :: rest => !rest.isEmpty && rest.all (isBaseDigit 16)
  | '0' :: rest => rest.all (isBaseDigit 8)
  | cs =>
    match pieces ':' cs with
    | first :: more => isDigits first && more.all isSixtieth
    | [] => false

def isExponent : List Char → Bool
  | [] => true
  | e :: sign :: digits =>
    (e == 'e' || e == 'E') && (sign == '+' || sign == '-') && !digits.isEmpty && digits.all Char.isDigit
  | _ => false

def infinityWords : List String := [".inf", ".Inf", ".INF"]

def notANumberWords : List String := [".nan", ".NaN", ".NAN"]

def isReal (cs : List Char) : Bool :=
  let unsigned := dropSign cs
  let whole := unsigned.takeWhile (· != '.')
  let fraction := (unsigned.drop (whole.length + 1))
  let tail := fraction.dropWhile isDigitOrLow
  if whole.length = unsigned.length then false
  else if whole.isEmpty then
    infinityWords.contains (String.ofList unsigned) || notANumberWords.contains (String.ofList cs)
      || (unsigned.length == cs.length && isDigits (fraction.takeWhile isDigitOrLow) && isExponent tail)
  else match pieces ':' whole with
    | [digits] => isDigits digits && isExponent tail
    | first :: more => isDigits first && more.all isSixtieth && tail.isEmpty
    | [] => false

end Spelling

/-- A day, and a time of it where one is spelled out. -/
structure MomentSpelling where
  year : List Char
  month : List Char
  day : List Char
  time : Option (List Char × List Char × List Char × List Char)
  /-- The sign, the hours and the minutes of the distance to universal time. -/
  zone : Option (Option Char × List Char × List Char)
  deriving DecidableEq, Repr

namespace Spelling

/-- Digits at the front, at least `least` and at most `most`. -/
def digitsAt (least most : Nat) (cs : List Char) : Option (List Char × List Char) :=
  let digits := (cs.take most).takeWhile Char.isDigit
  if least ≤ digits.length then some (digits, cs.drop digits.length) else none

def expect (c : Char) : List Char → Option (List Char)
  | d :: rest => if d = c then some rest else none
  | [] => none

def zone? (cs : List Char) : Option (Option (Option Char × List Char × List Char)) :=
  match cs, cs.dropWhile fun c => c == ' ' || c == '\t' with
  | [], _ => some none
  | _, ['Z'] => some (some (none, [], []))
  | _, sign :: rest =>
    if sign = '+' ∨ sign = '-' then
      match digitsAt 1 2 rest with
      | some (hours, []) => some (some (some sign, hours, []))
      | some (hours, ':' :: rest) =>
        match digitsAt 2 2 rest with
        | some (minutes, []) => some (some (some sign, hours, minutes))
        | _ => none
      | _ => none
    else none
  | _, [] => none

def timeSeparator? : List Char → Option (List Char)
  | [] => none
  | c :: rest =>
    if c = 'T' ∨ c = 't' then some rest
    else if c = ' ' ∨ c = '\t' then some (rest.dropWhile fun c => c == ' ' || c == '\t')
    else none

def moment? (cs : List Char) : Option MomentSpelling := do
  let (year, cs) ← digitsAt 4 4 cs
  let (month, cs) ← digitsAt 1 2 (← expect '-' cs)
  let (day, cs) ← digitsAt 1 2 (← expect '-' cs)
  if cs.isEmpty then return ⟨year, month, day, none, none⟩
  let (hour, cs) ← digitsAt 1 2 (← timeSeparator? cs)
  let (minute, cs) ← digitsAt 2 2 (← expect ':' cs)
  let (second, cs) ← digitsAt 2 2 (← expect ':' cs)
  let (fraction, cs) := match cs with
    | '.' :: rest => rest.span Char.isDigit
    | _ => ([], cs)
  let zone ← zone? cs
  return ⟨year, month, day, some (hour, minute, second, fraction), zone⟩

/-- A day by itself is spelled with two digits for the month and for the day. -/
def isMoment (cs : List Char) : Bool :=
  match moment? cs with
  | some m => m.time.isSome || (m.month.length == 2 && m.day.length == 2)
  | none => false

def dropLastFeed (cs : List Char) : List Char :=
  match cs.getLast? with
  | some '\n' => if cs.length = 1 then cs else cs.dropLast
  | _ => cs

end Spelling

def Tag.ofSpelling (t : Text) : Tag :=
  match t.chars? with
  | none => .known .text
  | some cs =>
    let cs := Spelling.dropLastFeed cs
    if Spelling.isNull cs then .known .null
    else if Spelling.isTruth cs then .known .truth
    else if Spelling.isReal cs then .known .real
    else if Spelling.isWhole cs then .known .whole
    else if Spelling.isMoment cs then .known .moment
    else if cs = ['<', '<'] then .known .merge
    else if cs = ['='] then .known .value
    else if ["!", "&", "*"].contains (String.ofList cs) then .unknown
    else .known .text

end TaskCatalog.Yaml
