import TaskCatalog.Code.Token
import TaskCatalog.Text.CharacterName
import TaskCatalog.Text.Encoding

/-!
String literals: the letters in front, the escapes, and the fields of formatted texts. A field's
expression is left as it stands, with its line, for the grammar to read.
-/

namespace TaskCatalog.Code

open Text

/-- A string literal without its quotes. -/
structure StringLiteral where
  isRaw : Bool
  isBytes : Bool
  isFormatted : Bool
  /-- Whether the letter that marks texts stands in front. -/
  isMarked : Bool
  body : List Char
  /-- The number of characters before the body. -/
  start : Nat
  deriving DecidableEq, Repr

namespace StringLiteral

def ofToken (cs : List Char) : StringLiteral :=
  let mark := cs.takeWhile (!Scan.isQuote ·)
  let rest := cs.drop mark.length
  let isTriple := 6 ≤ rest.length && rest.take 3 == List.replicate 3 (rest.headD ' ')
  let width := if isTriple then 3 else 1
  let has (a b : Char) : Bool := mark.contains a || mark.contains b
  { isRaw := has 'r' 'R', isBytes := has 'b' 'B', isFormatted := has 'f' 'F'
    isMarked := mark.head? = some 'u'
    body := (rest.drop width).take (rest.length - 2 * width)
    start := mark.length + width }

def escapes : List (Char × List Char) := [
  ('\n', []), ('\\', ['\\']), ('\'', ['\'']), ('"', ['"']), ('a', ['\x07']), ('b', ['\x08']),
  ('f', ['\x0c']), ('n', ['\n']), ('r', ['\r']), ('t', ['\t']), ('v', ['\x0b'])]

def hexValue (cs : List Char) : Nat :=
  cs.foldl (fun n c => 16 * n + (if c.isDigit then c.toNat - 48 else c.toLower.toNat - 87)) 0

def octalValue (cs : List Char) : Nat := cs.foldl (fun n c => 8 * n + (c.toNat - 48)) 0

/-- The digits that an escape asks for, all of them hexadecimal. -/
def hexDigits? (count : Nat) (cs : List Char) : Option Nat :=
  let digits := cs.take count
  if digits.length = count && digits.all Scan.isHexDigit then some (hexValue digits) else none

def octalDigits (cs : List Char) : List Char := (cs.take 3).takeWhile Scan.isOctalDigit

def nameIn? : List Char → Option (List Char)
  | '\x7b' :: rest =>
    let name := rest.takeWhile (· != '\x7d')
    if name.isEmpty || name.length = rest.length then none else some name
  | _ => none

/-- What an escape stands for and how many characters it takes after the backslash. -/
abbrev Escape := List Nat × Nat

/-- An escape of a text or of bytes; none if it is malformed. -/
def escapeAt (isBytes : Bool) (cs : List Char) : Option Escape :=
  match cs with
  | [] => some ([0x5C], 0)
  | c :: rest =>
    match escapes.lookup c with
    | some meant => some (meant.map Char.toNat, 1)
    | none =>
      if Scan.isOctalDigit c then
        let digits := octalDigits cs
        some ([octalValue digits], digits.length)
      else if c = 'x' then (hexDigits? 2 rest).map fun n => ([n], 3)
      else if isBytes then some ([0x5C, c.toNat], 1)
      else if c = 'u' then (hexDigits? 4 rest).map fun n => ([n], 5)
      else if c = 'U' then (hexDigits? 8 rest).bind fun n => if n < 0x110000 then some ([n], 9) else none
      else if c = 'N' then (nameIn? rest).bind fun name => (codeOfName? name).map fun n => ([n], name.length + 3)
      else some ([0x5C, c.toNat], 1)

/-- The codes that a body stands for, after `skip` characters. -/
def codes (isBytes : Bool) (skip : Nat) : List Char → Option (List Nat)
  | [] => some []
  | c :: rest =>
    match skip with
    | skip + 1 => codes isBytes skip rest
    | 0 =>
      if c = '\\' then
        (escapeAt isBytes rest).bind fun (meant, length) => (codes isBytes length rest).map (meant ++ ·)
      else (codes isBytes 0 rest).map (c.toNat :: ·)

def textOf (isRaw : Bool) (body : List Char) : Option Text :=
  if isRaw then some (ofChars body)
  else (codes false 0 body).map fun ns => ns.filterMap Letter.ofCode?

def bytesOf (isRaw : Bool) (body : List Char) : Option Bytes :=
  (if isRaw then some (body.map Char.toNat) else codes true 0 body).map fun ns =>
    ns.map UInt8.ofNat

end StringLiteral

/-- A part of a formatted text before its fields' expressions are read. -/
inductive Draft where
  | text (t : Text)
  | field (source : List Char) (line : Nat) (conversion : Option Char) (format : Option (List Draft))

namespace Draft

def isBrace (c : Char) : Bool := c == '\x7b' || c == '\x7d'

/-- Plain text up to a brace: the text, whether two braces ended it that stand for one in it, and the
rest. There is none before a closing brace that nothing opened. -/
def plain (isRaw isInner inName : Bool) : List Char → Option (List Char × Bool × List Char)
  | [] => some ([], false, [])
  | c :: rest =>
    let goOn (inName : Bool) : Option (List Char × Bool × List Char) :=
      (plain isRaw isInner inName rest).map fun (t, twice, after) => (c :: t, twice, after)
    if inName then goOn (c ≠ '\x7d')
    else if isBrace c then
      if isInner then some ([], false, c :: rest)
      else if rest.head? = some c then some ([c], true, rest.drop 1)
      else if c = '\x7d' then none
      else some ([], false, c :: rest)
    else if c = '\\' && !isRaw then
      match rest with
      | 'N' :: '\x7b' :: after =>
        (plain isRaw isInner true after).map fun (t, twice, left) => ('\\' :: 'N' :: '\x7b' :: t, twice, left)
      | d :: after =>
        if isBrace d then goOn false
        else (plain isRaw isInner false after).map fun (t, twice, left) => (c :: d :: t, twice, left)
      | [] => goOn false
    else goOn false

def closes (opening c : Char) : Bool := Scan.closing? opening == some c

/-- The quote of a string literal inside an expression, and how many of it end the literal. -/
abbrev Quote := Char × Nat

/-- The expression at the front of a field and what follows it: a mark that can end it, outside of
brackets and strings. -/
def expression (skip : Nat) (quote : Option Quote) (opened : List Char) :
    List Char → Option (List Char × List Char)
  | [] => none
  | c :: rest =>
    let goOn (skip : Nat) (quote : Option Quote) (opened : List Char) : Option (List Char × List Char) :=
      (expression skip quote opened rest).map fun (e, after) => (c :: e, after)
    match skip, quote with
    | skip + 1, _ => if c = '\\' then none else goOn skip quote opened
    | 0, some (q, count) =>
      if c = '\\' then none
      else if c = q && (count = 1 || rest.take 2 = [q, q]) then goOn (count - 1) none opened
      else goOn 0 quote opened
    | 0, none =>
      if c = '\\' || c = '#' then none
      else if Scan.isQuote c then
        if rest.take 2 = [c, c] then goOn 2 (some (c, 3)) opened else goOn 0 (some (c, 1)) opened
      else if (Scan.closing? c).isSome then goOn 0 none (c :: opened)
      else match opened with
        | [] =>
          if "!=<>".toList.contains c && rest.head? = some '=' then goOn 1 none []
          else if "!:=\x7d".toList.contains c then some ([], c :: rest)
          else if Scan.isClosing c then none
          else goOn 0 none []
        | opening :: outer =>
          if Scan.isClosing c then (if closes opening c then goOn 0 none outer else none)
          else goOn 0 none opened

def isSpace (c : Char) : Bool := c == ' ' || (9 ≤ c.toNat && c.toNat ≤ 13)

/-- The label of an expression that shows itself: its text up to the equals sign and the blanks after it. -/
def label (source : List Char) : List Char → List Char × List Char
  | '=' :: rest =>
    let blanks := rest.takeWhile isSpace
    (source ++ '=' :: blanks, rest.drop blanks.length)
  | rest => ([], rest)

def conversion : List Char → Option (Option Char × List Char)
  | '!' :: c :: rest => if c = 's' || c = 'r' || c = 'a' then some (some c, rest) else none
  | '!' :: [] => none
  | rest => some (none, rest)

def lineBreaks (cs : List Char) : Nat := cs.count '\n'

/-- The parts of a formatted text, or of a format inside one, up to the brace that closes it. The text
ends on the line `last`, from which the lines of the fields are counted back. -/
def read (isRaw : Bool) (last : Nat) : Nat → Nat → List Char → Option (List Draft × List Char)
  | 0, _, _ => none
  | fuel + 1, level, cs => do
    let (body, twice, rest) ← plain isRaw (level != 0) false cs
    let t ← StringLiteral.textOf isRaw body
    if twice then
      return (← read isRaw last fuel level rest).map (.text t :: ·) id
    match rest with
    | '\x7b' :: rest =>
      if 2 ≤ level then none
      let line := last - lineBreaks rest
      let (source, rest) ← expression 0 none [] rest
      if source.all isSpace then none
      let (shown, rest) := label source rest
      let (mark, rest) ← conversion rest
      let (format, rest) ← match rest with
        | ':' :: rest =>
          if rest.isEmpty then none
          else (read isRaw last fuel (level + 1) rest).map fun (ds, after) => (some ds, after)
        | rest => some (none, rest)
      match rest with
      | '\x7d' :: rest =>
        let mark := if mark.isNone && format.isNone && !shown.isEmpty then some 'r' else mark
        let (more, after) ← read isRaw last fuel level rest
        return (.text t :: .text (ofChars shown) :: .field source line mark format :: more, after)
      | _ => none
    | rest => if level = 0 || !rest.isEmpty then return ([.text t], rest) else none

/-- The parts of a formatted text that ends on the line `last`. -/
def ofBody (isRaw : Bool) (last : Nat) (body : List Char) : Option (List Draft) :=
  (read isRaw last (body.length + 2) 0 body).map (·.1)

end Draft

end TaskCatalog.Code
