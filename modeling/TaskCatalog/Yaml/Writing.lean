import TaskCatalog.Number.FloatText
import TaskCatalog.Value.Plain
import TaskCatalog.Yaml.Cursor
import TaskCatalog.Yaml.Tag

/-!
Plain data as a metadata document: one entry or item a line, nested by two blanks, lists on the
column of the key before them. Texts are plain where they read back as texts, else quoted; long
lines are broken at single blanks.
-/

namespace TaskCatalog.Yaml

open Text Number

namespace Writing

def lineWidth : Nat := 80

def blank : Letter := .scalar ' '

def isBreakLetter (l : Letter) : Bool := l.satisfies isBreak

/-- Blanks and breaks, as they part an indicator from what is around it. -/
def isGap (l : Letter) : Bool :=
  l.satisfies fun c => c == '\x00' || c == ' ' || c == '\t' || c == '\r' || isBreak c

def isOpening (l : Letter) : Bool := l.satisfies fun c => "#,[]\x7b\x7d&*!|>'\"%@\x60".toList.contains c

/-- Whether an indicator stands where it would be read as one; `previous` is the letter before. -/
def hasIndicator (previous : Option Letter) : Text → Bool
  | [] => false
  | l :: rest =>
    let alone := rest.head?.all isGap
    let here := match previous with
      | none => isOpening l || (alone && l.satisfies fun c => c == '?' || c == ':' || c == '-')
      | some p => (alone && l == .scalar ':') || (l == .scalar '#' && isGap p)
    here || hasIndicator (some l) rest

def isMarked (t : Text) : Bool :=
  List.isPrefixOf ("---" : Text) t || List.isPrefixOf ("..." : Text) t || hasIndicator none t

def isSpecial (l : Letter) : Bool :=
  !l.satisfies fun c =>
    c == '\n' || (' ' ≤ c && c ≤ '~') || c == '\u0085'
      || (0xA0 ≤ c.toNat && c.toNat ≠ 0xFEFF && c.toNat ≠ 0xFFFE && c.toNat ≠ 0xFFFF && c.toNat ≠ 0x10FFFF)

def hasNeighbours (p q : Letter → Bool) : Text → Bool
  | l :: m :: rest => (p l && q m) || hasNeighbours p q (m :: rest)
  | _ => false

def isBlankLetter (l : Letter) : Bool := l == blank

def isEdge (l : Letter) : Bool := isBlankLetter l || isBreakLetter l

def isMultiline (t : Text) : Bool := t.any isBreakLetter

def canBePlain (t : Text) : Bool :=
  Tag.ofSpelling t == .known .text && !t.isEmpty && !isMultiline t && !t.any isSpecial
    && !(t.head?.any isEdge) && !(t.getLast?.any isEdge) && !isMarked t

def canBeSingle (t : Text) : Bool :=
  !t.any isSpecial && !hasNeighbours isBreakLetter isBlankLetter t
    && !hasNeighbours isBlankLetter isBreakLetter t

def spaces (n : Nat) : Text := List.replicate n blank

def newLine (indent : Nat) : Text := .scalar '\n' :: spaces indent

/-- Where a text is written: on which column it starts, and how far its later lines are indented.
A key is not broken. -/
structure Spot where
  column : Nat
  indent : Nat
  breakable : Bool

/-- Letters of one kind in a row. -/
inductive Run where
  | word (t : Text)
  | blanks (n : Nat)
  | breaks (t : Text)

def runs : Text → List Run
  | [] => []
  | l :: rest =>
    if isBlankLetter l then
      match runs rest with
      | .blanks n :: more => .blanks (n + 1) :: more
      | more => .blanks 1 :: more
    else if isBreakLetter l then
      match runs rest with
      | .breaks t :: more => .breaks (l :: t) :: more
      | more => .breaks [l] :: more
    else match runs rest with
      | .word t :: more => .word (l :: t) :: more
      | more => .word [l] :: more

def doubleQuotes (t : Text) : Text := replace (.scalar '\'') "''" t

/-- Runs from a column on. A single blank between words beyond the line's width becomes a break, and
a break an empty line. -/
def folded (s : Spot) (quoted first : Bool) (column : Nat) : List Run → Text
  | [] => []
  | .word t :: rest =>
    let t := if quoted then doubleQuotes t else t
    t ++ folded s quoted false (column + t.length) rest
  | .blanks n :: rest =>
    if n = 1 ∧ lineWidth < column ∧ s.breakable ∧ !first ∧ !rest.isEmpty then
      newLine s.indent ++ folded s quoted false s.indent rest
    else spaces n ++ folded s quoted false (column + n) rest
  | .breaks t :: rest =>
    (if t.head? = some (.scalar '\n') then "\n" else "")
      ++ t ++ spaces s.indent ++ folded s quoted false s.indent rest

def escapes : List (Char × Char) := [
  ('\x00', '0'), ('\x07', 'a'), ('\x08', 'b'), ('\t', 't'), ('\n', 'n'), ('\x0b', 'v'), ('\x0c', 'f'),
  ('\r', 'r'), ('\x1b', 'e'), ('"', '"'), ('\\', '\\'), ('\u0085', 'N'), ('\u00a0', '_'),
  ('\u2028', 'L'), ('\u2029', 'P')]

/-- Letters that stand for themselves between double quotes. -/
def isBare (l : Letter) : Bool :=
  l.satisfies fun c =>
    c != '"' && c != '\\' && ((' ' ≤ c && c ≤ '~')
      || (0xA0 ≤ c.toNat && c.toNat < 0xFFFE && c.toNat ≠ 0xFEFF && c.toNat ≠ 0x2028 && c.toNat ≠ 0x2029))

def upperHex (width n : Nat) : Text := ofChars ((hex width n).map Char.toUpper)

def escaped (l : Letter) : Text :=
  let named := match l with
    | .scalar c => escapes.lookup c
    | .half _ => none
  match named with
  | some c => [.scalar '\\', .scalar c]
  | none =>
    if l.code < 0x100 then "\\x" ++ upperHex 2 l.code
    else if l.code < 0x10000 then "\\u" ++ upperHex 4 l.code
    else "\\U" ++ upperHex 8 l.code

/-- A break inside double quotes; a blank after it is escaped. -/
def quotedBreak (s : Spot) (next : Option Letter) : Text × Nat :=
  if next = some blank then (.scalar '\\' :: newLine s.indent ++ "\\", s.indent + 1)
  else (.scalar '\\' :: newLine s.indent, s.indent)

/-- Letters between double quotes from a column on. `first` holds for the first letter of the text,
`fresh` where no letter has been written as it is since the last escape or break. -/
def doubleText (s : Spot) (first fresh : Bool) (column : Nat) : Text → Text
  | [] => []
  | l :: rest =>
    let inner := s.breakable && !first && !rest.isEmpty
    if isBare l then
      if inner && (l == blank || fresh) && lineWidth < column then
        let (break', column) := quotedBreak s (some l)
        break' ++ l :: doubleText s false false (column + 1) rest
      else l :: doubleText s false false (column + 1) rest
    else
      let e := escaped l
      let column := column + e.length
      if inner && lineWidth + 1 < column then
        let (break', column) := quotedBreak s rest.head?
        e ++ break' ++ doubleText s false true column rest
      else e ++ doubleText s false true column rest

/-- A text at its spot, with the blank or the quote that it begins with. -/
def text (s : Spot) (t : Text) : Text :=
  if canBePlain t then folded s false true s.column (runs t)
  else if canBeSingle t && (s.breakable || !isMultiline t) then
    "'" ++ folded s true true (s.column + 1) (runs t) ++ "'"
  else "\"" ++ doubleText s true true (s.column + 1) t ++ "\""

def numberStyle : FloatStyle := ⟨".inf", ".nan", true, true⟩

/-- Whether a key stands before its colon on one line. -/
def isSimpleKey (key : Text) : Bool := key.length + 5 < 128 && !key.isEmpty && !isMultiline key

/-- What is left of an entry whose key is on one line, or on lines of its own. -/
def keyText (indent : Nat) (key : Text) : Text :=
  if isSimpleKey key then text ⟨indent, indent + 2, false⟩ key ++ ":"
  else "? " ++ text ⟨indent + 2, indent + 2, true⟩ key ++ newLine indent ++ ":"

def keyEnd (indent : Nat) (key : Text) : Nat :=
  if isSimpleKey key then indent + (keyText indent key).length else indent + 1

mutual

/-- A value after the indicator of its entry, which ends at `column`. In an entry of a mapping
indented by `indent` collections go to the next line, after a dash or a lone colon they do not. -/
def value (inLine : Bool) (indent column : Nat) : Plain → Text
  | .null => " null"
  | .truth b => if b then " true" else " false"
  | .whole n => " " ++ ofInt n
  | .real x => " " ++ floatText numberStyle x
  | .text t => " " ++ text ⟨column + 1, indent + 2, true⟩ t
  | .list is =>
    if is.isEmpty then " []"
    else if inLine then " " ++ join (newLine (indent + 2)) (items (indent + 2) is)
    else newLine indent ++ join (newLine indent) (items indent is)
  | .map es =>
    if es.isEmpty then " \x7b\x7d"
    else
      let start : Text := if inLine then " " else newLine (indent + 2)
      start ++ join (newLine (indent + 2)) (entries (indent + 2) es)

def items (indent : Nat) : List Plain → List Text
  | [] => []
  | item :: rest => ("-" ++ value true indent (indent + 1) item) :: items indent rest

def entries (indent : Nat) : List (Text × Plain) → List Text
  | [] => []
  | (key, v) :: rest =>
    (keyText indent key ++ value (!isSimpleKey key) indent (keyEnd indent key) v) :: entries indent rest

end

mutual

/-- Whether all whole numbers in plain data have few enough digits to be spelled out. -/
def isSpelled : Plain → Bool
  | .whole n => (Nat.repr n.natAbs).length ≤ decimalLimit
  | .list is => areSpelled is
  | .map es => entriesSpelled es
  | _ => true

def areSpelled : List Plain → Bool
  | [] => true
  | p :: rest => isSpelled p && areSpelled rest

def entriesSpelled : List (Text × Plain) → Bool
  | [] => true
  | (_, p) :: rest => isSpelled p && entriesSpelled rest

end

end Writing

def write (entries : List (Text × Plain)) : Text :=
  match Writing.entries 0 entries with
  | [] => "\x7b\x7d\n"
  | lines => join "\n" lines ++ "\n"

end TaskCatalog.Yaml
