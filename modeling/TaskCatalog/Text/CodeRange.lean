/-!
Ranges of character codes, and how the tables of the neighbouring modules write them: hexadecimal
numbers parted by blanks, the two ends of a range by a dash, the images of a mapping by commas.
-/

namespace TaskCatalog.Text

structure CodeRange where
  first : Nat
  last : Nat

/-- A range of codes and what it is mapped to. -/
structure CodeMapping extends CodeRange where
  images : List Nat

def hexDigit (c : Char) : Nat :=
  if c.isDigit then c.toNat - '0'.toNat else c.toNat - 'a'.toNat + 10

def CodeRange.covers (r : CodeRange) (n : Nat) : Bool := r.first ≤ n && n ≤ r.last

/-- The runs of other characters than blanks and line feeds; `word` is the run begun, in reverse. -/
def tableWords (word : List Char) : List Char → List (List Char)
  | [] => if word.isEmpty then [] else [word.reverse]
  | c :: cs =>
    if c == ' ' || c == '\n' then
      if word.isEmpty then tableWords [] cs else word.reverse :: tableWords [] cs
    else tableWords (c :: word) cs

def hexCode (cs : List Char) : Nat := cs.foldl (fun n c => 16 * n + hexDigit c) 0

/-- The parts before and after the first occurrence of a character. -/
def cutAt (separator : Char) (cs : List Char) : List Char × List Char :=
  (cs.takeWhile (· != separator), (cs.dropWhile (· != separator)).drop 1)

def CodeRange.ofWord (cs : List Char) : CodeRange :=
  let (first, last) := cutAt '-' cs
  ⟨hexCode first, hexCode (if last.isEmpty then first else last)⟩

def CodeRange.readAll (table : String) : List CodeRange :=
  (tableWords [] table.toList).map CodeRange.ofWord

/-- Numbers parted by commas; `n` is the number begun. -/
def codeList (n : Nat) : List Char → List Nat
  | [] => [n]
  | c :: cs => if c == ',' then n :: codeList 0 cs else codeList (16 * n + hexDigit c) cs

def CodeMapping.ofWord (cs : List Char) : CodeMapping :=
  let (range, images) := cutAt '=' cs
  ⟨CodeRange.ofWord range, codeList 0 images⟩

def CodeMapping.readAll (table : String) : List CodeMapping :=
  (tableWords [] table.toList).map CodeMapping.ofWord

/-- The images of a code: those of a run count up from its first, those of a single code are as listed. -/
def CodeMapping.lookup? (table : List CodeMapping) (n : Nat) : Option (List Nat) :=
  (table.find? (·.covers n)).map fun m =>
    match m.images with
    | [image] => [image + (n - m.first)]
    | images => images

/-- Whether a code is that of a character in names: of ASCII, only letters, digits and the underscore are. -/
def isNameCode (n : Nat) : Bool :=
  let c := Char.ofNat n
  c.isAlphanum || c == '_' || 127 < c.toNat

/-- Whether all codes that a mapping leads to are those of characters in names. -/
def CodeMapping.staysInNames (m : CodeMapping) : Bool :=
  (List.range (m.last - m.first + 1)).all fun offset => m.images.all fun image => isNameCode (image + offset)

end TaskCatalog.Text
