import TaskCatalog.Text.Lines
import TaskCatalog.Value.Print

/-!
Literals over several lines. What fits into the line stays in it; a collection that does not is
broken after every entry, a text that does not between its lines and words.
-/

namespace TaskCatalog

open Text

namespace Layout

def lineWidth : Nat := 80

def spacedWords (fuel : Nat) (t : Text) : List Text :=
  match fuel, t with
  | 0, _ | _, [] => []
  | fuel + 1, t =>
    let word := t.takeWhile (!isBlank ·)
    let blanks := (t.drop word.length).takeWhile isBlank
    (word ++ blanks) :: spacedWords fuel (t.drop (word.length + blanks.length))

/-- Whether a literal needs more columns than there are from `start` on. -/
def exceeds (t : Text) (start : Nat) : Bool := lineWidth < (quoted t).length + start

/-- Words put together as long as they fit; the last of all has `allowance` columns less. -/
def fillWords (start allowance : Nat) (last : Bool) (current : Text) : List Text → List Text
  | [] => if current.isEmpty then [] else [current]
  | word :: rest =>
    let start' := if last && rest.isEmpty then start + allowance else start
    if exceeds (current ++ word) start' then
      (if current.isEmpty then [] else [current]) ++ fillWords start allowance last word rest
    else fillWords start allowance last (current ++ word) rest

def pieces (start allowance : Nat) : List Text → List Text
  | [] => []
  | line :: rest =>
    let last := rest.isEmpty
    let start' := if last then start + allowance else start
    (if exceeds line start' then fillWords start allowance last [] (spacedWords line.length line)
      else [line]) ++ pieces start allowance rest

def newLine (indent : Nat) : Text := .scalar '\n' :: List.replicate indent (.scalar ' ')

def brokenText (start allowance : Nat) (t : Text) : Text :=
  if t.isEmpty then quoted t
  else join (newLine start) ((pieces start allowance (brokenLines t)).map quoted)

mutual

/-- The literal of a value from column `start` on, with `allowance` columns needed after it. -/
def value (start allowance : Nat) : Value → Text
  | .scalar (.text t) => if exceeds t (start + allowance) then brokenText start allowance t else quoted t
  | .list items =>
    if lineWidth < (Value.literal (.list items)).length + start + allowance then
      "[" ++ join ("," ++ newLine (start + 1)) (itemLines (start + 1) (allowance + 1) items) ++ "]"
    else Value.literal (.list items)
  | .map entries =>
    if lineWidth < (Value.literal (.map entries)).length + start + allowance then
      "\x7b" ++ join ("," ++ newLine (start + 1)) (entryLines (start + 1) (allowance + 1) entries) ++ "\x7d"
    else Value.literal (.map entries)
  | v => v.literal

def itemLines (start allowance : Nat) : List Value → List Text
  | [] => []
  | v :: rest => value start (if rest.isEmpty then allowance else 1) v :: itemLines start allowance rest

def entryLines (start allowance : Nat) : List (Value × Value) → List Text
  | [] => []
  | (k, v) :: rest =>
    let key := k.literal ++ ": "
    (key ++ value (start + key.length) (if rest.isEmpty then allowance else 1) v)
      :: entryLines start allowance rest

end

end Layout

/-- The literal of a value, broken into lines where it is too long for one. -/
def Value.laidOut (v : Value) : Text := Layout.value 0 0 v

end TaskCatalog
