import TaskCatalog.Text.CharacterNames.Alphabetic
import TaskCatalog.Text.CharacterNames.EastAsian
import TaskCatalog.Text.CharacterNames.Historic
import TaskCatalog.Text.CharacterNames.Pictorial
import TaskCatalog.Text.CharacterNames.Symbolic
import TaskCatalog.Text.CodeRange

/-!
Characters by their names. Syllables and ideographs are named by rule, and all other characters in
tables.
-/

namespace TaskCatalog.Text

/-- A code and the words of its name. -/
structure NamedCode where
  code : Nat
  words : List (List Char)
  deriving DecidableEq, Repr

namespace NamedCode

def name (n : NamedCode) : List Char := [' '].intercalate n.words

/-- The words of a row; a digit in front counts those that are as in the row before. -/
def wordsAfter (previous : List (List Char)) : List Char → List (List Char)
  | [] => []
  | c :: cs =>
    if c.isDigit then previous.take (c.toNat - '0'.toNat) ++ tableWords [] cs else tableWords [] (c :: cs)

/-- Reads a row: a code and a colon, unless the code is the next one, and the words. -/
def ofRow (previous : NamedCode) (row : List Char) : NamedCode :=
  match cutAt ':' row with
  | (words, []) => ⟨previous.code + 1, wordsAfter previous.words words⟩
  | (code, words) => ⟨hexCode code, wordsAfter previous.words words⟩

def ofRows (previous : NamedCode) : List (List Char) → List NamedCode
  | [] => []
  | row :: rows => ofRow previous row :: ofRows (ofRow previous row) rows

/-- The rows of a table: commas part them, and line feeds and blanks behind a comma belong to none.
`row` is the one begun, in reverse. -/
def rowsOf (row : List Char) : List Char → List (List Char)
  | [] => [row.reverse]
  | c :: cs =>
    if c = ',' then row.reverse :: rowsOf [] cs
    else if row.isEmpty && (c = ' ' || c = '\n') then rowsOf [] cs
    else rowsOf (c :: row) cs

def readAll (table : String) : List NamedCode := ofRows ⟨0, []⟩ (rowsOf [] table.toList)

end NamedCode

/-- Names of one character each, listed by what the characters are for. -/
def nameTables : List String :=
  [alphabeticNames, symbolicNames, alternativeNames, eastAsianNames, pictorialNames, historicNames]

/-- The code of a name, in capitals, that a table lists. -/
def listedCode? (name : List Char) : Option Nat :=
  nameTables.findSome? fun table => ((NamedCode.readAll table).find? (·.name == name)).map (·.code)

def after? (front : String) (name : List Char) : Option (List Char) :=
  if front.toList.isPrefixOf name then some (name.drop front.length) else none

/-- The number that hexadecimal digits in capitals write. -/
def capitalHex? (digits : List Char) : Option Nat :=
  if digits.all fun c => c.isDigit || ('A' ≤ c && c ≤ 'F') then some (hexCode (digits.map Char.toLower)) else none

/-- Fronts of names that end in the character's own code, and the codes. -/
def numberedNames : List (String × List CodeRange) := [
  ("CJK COMPATIBILITY IDEOGRAPH-", CodeRange.readAll "f900-fa6d fa70-fad9 2f800-2fa1d"),
  ("NUSHU CHARACTER-", CodeRange.readAll "1b170-1b2fb"),
  ("KHITAN SMALL SCRIPT CHARACTER-", CodeRange.readAll "18b00-18cd5")]

def numberedCode? (name : List Char) : Option Nat :=
  numberedNames.findSome? fun (front, ranges) =>
    (after? front name).bind fun digits =>
      (capitalHex? digits).filter fun n => ranges.any (·.covers n) && digits.head? != some '0'

def ideographs : List CodeRange := CodeRange.readAll
  "3400-4dbf 4e00-9fff 20000-2a6df 2a700-2b738 2b740-2b81d 2b820-2cea1 2ceb0-2ebe0 30000-3134a"

/-- The code of an ideograph, which its name gives in four or five digits. -/
def ideograph? (digits : List Char) : Option Nat :=
  (capitalHex? digits).filter fun n =>
    (digits.length = 4 || digits.length = 5) && ideographs.any (·.covers n)

/-- The letters that a syllable begins with, as its name spells them; one of them has no sound. -/
def initialLetters : List String :=
  ["G", "GG", "N", "D", "DD", "R", "M", "B", "BB", "S", "SS", "", "J", "JJ", "C", "K", "T", "P", "H"]

def medialLetters : List String :=
  ["A", "AE", "YA", "YAE", "EO", "E", "YEO", "YE", "O", "WA", "WAE", "OE", "YO", "U", "WEO", "WE", "WI", "YU",
    "EU", "YI", "I"]

def finalLetters : List String :=
  ["", "G", "GG", "GS", "N", "NJ", "NH", "D", "L", "LG", "LM", "LB", "LS", "LT", "LP", "LH", "M", "B", "BS",
    "S", "SS", "NG", "J", "C", "K", "T", "P", "H"]

/-- The place of the longest spelling that the letters start with, and the letters after it. -/
def longest? (spellings : List String) (cs : List Char) : Option (Nat × List Char) :=
  let fitting := spellings.zipIdx.filter fun (s, _) => s.toList.isPrefixOf cs
  (fitting.find? fun (s, _) => fitting.all fun (other, _) => other.length ≤ s.length).map fun (s, i) =>
    (i, cs.drop s.length)

def syllable? (cs : List Char) : Option Nat := do
  let (first, cs) ← longest? initialLetters cs
  let (middle, cs) ← longest? medialLetters cs
  let (last, cs) ← longest? finalLetters cs
  if cs.isEmpty then some (0xAC00 + (first * 21 + middle) * 28 + last) else none

/-- The code of the character with a name. The names of syllables and ideographs are in capitals, and
the case of the others does not matter. -/
def codeOfName? (name : List Char) : Option Nat :=
  match after? "HANGUL SYLLABLE " name, after? "CJK UNIFIED IDEOGRAPH-" name with
  | some letters, _ => syllable? letters
  | none, some digits => ideograph? digits
  | none, none =>
    let name := name.map Char.toUpper
    (numberedCode? name).or (listedCode? name)

end TaskCatalog.Text
