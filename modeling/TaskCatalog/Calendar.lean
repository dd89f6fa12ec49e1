import TaskCatalog.Text.Basic

/-!
Days and moments, as metadata files state them, and their text in the international order.
-/

namespace TaskCatalog

open Text

structure Day where
  year : Nat
  month : Nat
  day : Nat
  deriving DecidableEq, Repr

/-- A time of a day; `offset` is the distance to universal time in minutes, where it is stated. -/
structure Moment extends Day where
  hour : Nat
  minute : Nat
  second : Nat
  microsecond : Nat
  offset : Option Int
  deriving DecidableEq, Repr

namespace Day

def isLeap (year : Nat) : Bool := year % 4 == 0 && (year % 100 != 0 || year % 400 == 0)

def monthLength (year month : Nat) : Nat :=
  if month = 2 then (if isLeap year then 29 else 28)
  else if [4, 6, 9, 11].contains month then 30 else 31

def isValid (d : Day) : Bool :=
  1 ≤ d.year && d.year ≤ 9999 && 1 ≤ d.month && d.month ≤ 12
    && 1 ≤ d.day && d.day ≤ monthLength d.year d.month

end Day

def zeroPadded (width n : Nat) : Text :=
  let digits := (Nat.repr n).toList
  ofChars (List.replicate (width - digits.length) '0' ++ digits)

def Day.text (d : Day) : Text :=
  zeroPadded 4 d.year ++ "-" ++ zeroPadded 2 d.month ++ "-" ++ zeroPadded 2 d.day

namespace Moment

def isValid (m : Moment) : Bool :=
  m.toDay.isValid && m.hour < 24 && m.minute < 60 && m.second < 60
    && m.offset.all fun o => -1440 < o && o < 1440

def offsetText : Option Int → Text
  | none => []
  | some 0 => "Z"
  | some o =>
    (if o < 0 then "-" else "+") ++ zeroPadded 2 (o.natAbs / 60) ++ ":" ++ zeroPadded 2 (o.natAbs % 60)

def text (m : Moment) : Text :=
  m.toDay.text ++ "T" ++ zeroPadded 2 m.hour ++ ":" ++ zeroPadded 2 m.minute ++ ":"
    ++ zeroPadded 2 m.second
    ++ (if m.microsecond = 0 then [] else .scalar '.' :: zeroPadded 6 m.microsecond)
    ++ offsetText m.offset

end Moment

end TaskCatalog
