import TaskCatalog.Text.Identifier

/-!
Tokens of a source file. Line breaks and indentation are tokens of their own, except inside brackets.
The list of tokens ends with the end of the file, or with the first fault in its characters.
-/

namespace TaskCatalog.Code

open Text

/-- A fault in the characters of a file. -/
structure ScanFault where
  line : Nat
  /-- Whether it counts even if no rule reads on to it. -/
  stated : Bool
  /-- The line of the innermost bracket that is still open. -/
  opening : Option Nat
  deriving DecidableEq, Repr

inductive Lexeme where
  | name (text : String)
  | number (text : List Char)
  /-- A string literal with its letters in front and its quotes. -/
  | string (text : List Char)
  | mark (text : String)
  | newline
  | indent
  | dedent
  | endOfFile
  | fault (f : ScanFault)
  deriving DecidableEq, Repr

structure Token where
  lexeme : Lexeme
  line : Nat
  /-- The number of brackets open behind it. -/
  depth : Nat
  index : Nat
  deriving DecidableEq, Repr

namespace Scan

/-! Numbers: what follows one in the text, or nothing if it is malformed. -/

def isNameStart (c : Char) : Bool := c.isAlpha || c == '_' || 127 < c.toNat

def isNamePart (c : Char) : Bool := isNameStart c || c.isDigit

def wordsAfterNumber : List (List Char) :=
  ["and", "else", "for", "if", "in", "is", "or"].map String.toList

def mayEndBefore (cs : List Char) : Bool :=
  wordsAfterNumber.any (·.isPrefixOf cs) || !(cs.head?.any isNamePart)

def endBefore (cs : List Char) : Option (List Char) := if mayEndBefore cs then some cs else none

def afterDigits (isDigit : Char → Bool) : List Char → Option (List Char)
  | [] => some []
  | '_' :: d :: rest => if isDigit d then afterDigits isDigit rest else none
  | c :: rest =>
    if c = '_' then none else if isDigit c then afterDigits isDigit rest else some (c :: rest)

def isBinaryDigit (c : Char) : Bool := c == '0' || c == '1'

def isOctalDigit (c : Char) : Bool := '0' ≤ c && c ≤ '7'

def isHexDigit (c : Char) : Bool := c.isDigit || ('a' ≤ c && c ≤ 'f') || ('A' ≤ c && c ≤ 'F')

/-- The digits of a base after its letter; they may begin with an underscore. -/
def afterBase (isDigit : Char → Bool) (cs : List Char) : Option (List Char) :=
  let digits := match cs with
    | '_' :: rest => rest
    | _ => cs
  match digits with
  | d :: rest =>
    if isDigit d then
      (afterDigits isDigit rest).bind fun rest =>
        if rest.head?.any Char.isDigit then none else endBefore rest
    else none
  | [] => none

def afterImaginary (cs : List Char) : Option (List Char) :=
  match cs with
  | 'j' :: rest | 'J' :: rest => endBefore rest
  | _ => endBefore cs

/-- An exponent, if there is one, and what may follow it. -/
def afterExponent (cs : List Char) : Option (List Char) :=
  match cs with
  | e :: rest =>
    if e = 'e' || e = 'E' then
      match rest with
      | '+' :: d :: rest | '-' :: d :: rest =>
        if d.isDigit then (afterDigits Char.isDigit rest).bind afterImaginary else none
      | ['+'] | ['-'] => none
      | d :: rest' => if d.isDigit then (afterDigits Char.isDigit rest').bind afterImaginary else endBefore cs
      | [] => endBefore cs
    else afterImaginary cs
  | [] => some []

def afterPoint (cs : List Char) : Option (List Char) :=
  match cs with
  | d :: rest => if d.isDigit then (afterDigits Char.isDigit rest).bind afterExponent else afterExponent cs
  | [] => some []

/-- What follows the whole part; `isOctalLike` if it begins with a zero and is none. -/
def afterWhole (isOctalLike : Bool) (cs : List Char) : Option (List Char) :=
  match cs with
  | '.' :: rest => afterPoint rest
  | c :: _ =>
    if c = 'e' || c = 'E' || c = 'j' || c = 'J' then afterExponent cs
    else if isOctalLike then none else endBefore cs
  | [] => if isOctalLike then none else some []

def afterNumber (cs : List Char) : Option (List Char) :=
  match cs with
  | '.' :: rest => afterPoint rest
  | '0' :: rest =>
    match rest with
    | 'x' :: rest | 'X' :: rest => afterBase isHexDigit rest
    | 'o' :: rest | 'O' :: rest => afterBase isOctalDigit rest
    | 'b' :: rest | 'B' :: rest => afterBase isBinaryDigit rest
    | rest =>
      (afterDigits Char.isDigit rest).bind fun after =>
        let digits := rest.take (rest.length - after.length)
        afterWhole (digits.any fun c => c != '0' && c != '_') after
  | _ :: rest => (afterDigits Char.isDigit rest).bind (afterWhole false)
  | [] => none

/-! String literals. -/

def isQuote (c : Char) : Bool := c == '"' || c == '\''

/-- The letters that may stand before a string literal. -/
def stringMarks : List String := ["r", "u", "b", "f", "br", "rb", "fr", "rf"]

/-- The number of letters before the quote, if a string literal begins here. -/
def stringMark? (cs : List Char) : Option Nat :=
  match cs with
  | a :: rest =>
    if isQuote a then some 0
    else match rest with
      | b :: rest =>
        if isQuote b then (if stringMarks.contains (String.singleton a.toLower) then some 1 else none)
        else if rest.head?.any isQuote && stringMarks.contains (String.ofList [a.toLower, b.toLower]) then
          some 2
        else none
      | [] => none
  | [] => none

/-- What follows the closing quote of a line's string. -/
def afterSingle (quote : Char) : List Char → Option (List Char)
  | [] => none
  | '\\' :: _ :: rest => afterSingle quote rest
  | c :: rest => if c = quote then some rest else if c = '\n' then none else afterSingle quote rest

def afterTriple (quote : Char) : List Char → Option (List Char)
  | [] => none
  | '\\' :: _ :: rest => afterTriple quote rest
  | a :: rest => if a = quote && rest.take 2 = [quote, quote] then some (rest.drop 2) else afterTriple quote rest

/-- What follows a string literal that begins with its quote. -/
def afterString (cs : List Char) : Option (List Char) :=
  match cs with
  | quote :: rest =>
    if rest.take 2 = [quote, quote] then afterTriple quote (rest.drop 2) else afterSingle quote rest
  | [] => none

/-! Marks. -/

def longMarks : List String := ["**=", "//=", "<<=", ">>=", "..."]

def doubleMarks : List String := [
  "!=", "%=", "&=", "**", "*=", "+=", "-=", "->", "//", "/=", ":=", "<<", "<=", "<>", "==", ">=",
  ">>", "@=", "^=", "|="]

def markAt (cs : List Char) : String :=
  let long := String.ofList (cs.take 3)
  let double := String.ofList (cs.take 2)
  if longMarks.contains long then long
  else if doubleMarks.contains double then double
  else String.ofList (cs.take 1)

def closing? : Char → Option Char
  | '(' => some ')'
  | '[' => some ']'
  | '\x7b' => some '\x7d'
  | _ => none

def isClosing (c : Char) : Bool := c == ')' || c == ']' || c == '\x7d'

/-! Lines. -/

/-- How far a line is indented, with tabs up to multiples of eight and with tabs as single columns. -/
structure Margin where
  wide : Nat
  narrow : Nat
  deriving DecidableEq, Repr

structure Cursor where
  rest : List Char
  line : Nat
  /-- The margins of the open blocks, the innermost first. -/
  margins : List Margin
  /-- The open brackets by what closes them, and their lines, the innermost first. -/
  brackets : List (Char × Nat)

namespace Cursor

def opening (c : Cursor) : Option Nat := c.brackets.head?.map (·.2)

def faultAt (c : Cursor) (line : Nat) (stated : Bool) : Lexeme := .fault ⟨line, stated, c.opening⟩

/-- The end of the text where it may not end: an open bracket is to blame, if there is one. -/
def endFault (c : Cursor) (line : Nat) : Lexeme := .fault ⟨c.opening.getD line, false, c.opening⟩

/-- Measures the blanks at the front of a line. A backslash joins the next line, and then the first of
them counts, unless it has no margin. -/
def margin (c : Cursor) (m : Margin) (joined line : Nat) : List Char → Except Lexeme (Margin × Nat × List Char)
  | ' ' :: rest => c.margin ⟨m.wide + 1, m.narrow + 1⟩ joined line rest
  | '\t' :: rest => c.margin ⟨(m.wide / 8 + 1) * 8, m.narrow + 1⟩ joined line rest
  | '\x0c' :: rest => c.margin ⟨0, 0⟩ joined line rest
  | ['\\', '\n'] => .error (c.endFault line)
  | '\\' :: '\n' :: rest => c.margin m (if joined = 0 then m.wide else joined) (line + 1) rest
  | '\\' :: _ => .error (c.faultAt line false)
  | rest => .ok (if joined = 0 then m else ⟨joined, joined⟩, line, rest)

/-- A file has fewer blocks inside each other than this. -/
def blockLimit : Nat := 100

def bracketLimit : Nat := 200

/-- The tokens of a line's margin, and the margins that are open after them. -/
def enter (c : Cursor) (m : Margin) : Except Lexeme (List Lexeme × List Margin) :=
  let fault := c.faultAt c.line false
  match c.margins.head? with
  | none => .error fault
  | some top =>
    if top.wide = m.wide then (if top.narrow = m.narrow then .ok ([], c.margins) else .error fault)
    else if top.wide < m.wide then
      if blockLimit ≤ c.margins.length || m.narrow ≤ top.narrow then .error fault
      else .ok ([.indent], m :: c.margins)
    else
      let left := c.margins.dropWhile fun n => m.wide < n.wide
      if left.head? = some m then .ok (List.replicate (c.margins.length - left.length) .dedent, left)
      else .error fault

def isGap (c : Char) : Bool := c == ' ' || c == '\t' || c == '\x0c'

def mark (c : Cursor) : Lexeme × Cursor :=
  let text := markAt c.rest
  let after := { c with rest := c.rest.drop text.length }
  let fault := (c.faultAt c.line true, c)
  match c.rest.head? with
  | none => fault
  | some first =>
    if isClosing first then
      match c.brackets with
      | (close, _) :: outer => if close = first then (.mark text, { after with brackets := outer }) else fault
      | [] => fault
    else match closing? first with
      | some close =>
        if bracketLimit ≤ c.brackets.length then fault
        else (.mark text, { after with brackets := (close, c.line) :: c.brackets })
      | none => if first.toNat < 32 || first.toNat = 127 then fault else (.mark text, after)

/-- A name; the characters of other scripts in it must be those of identifiers. -/
def name (c : Cursor) : Lexeme × Cursor :=
  let word := c.rest.takeWhile isNamePart
  let after := { c with rest := c.rest.drop word.length }
  if word.head?.any isIdentifierStart && word.all isIdentifierPart then (.name (String.ofList word), after)
  else (c.faultAt c.line true, c)

def string (c : Cursor) (mark : Nat) : Lexeme × Cursor :=
  match afterString (c.rest.drop mark) with
  | some rest =>
    let text := c.rest.take (c.rest.length - rest.length)
    (.string text, { c with rest, line := c.line + text.count '\n' })
  | none => (c.faultAt c.line true, c)

def number (c : Cursor) : Lexeme × Cursor :=
  match afterNumber c.rest with
  | some rest => (.number (c.rest.take (c.rest.length - rest.length)), { c with rest })
  | none => (c.faultAt c.line true, c)

/-- The lexeme at the front of a text that begins neither with a blank nor with a line break. -/
def lexeme (c : Cursor) : Lexeme × Cursor :=
  match stringMark? c.rest, c.rest with
  | some mark, _ => c.string mark
  | none, first :: rest =>
    if isNameStart first then c.name
    else if first.isDigit || (first = '.' && rest.head?.any Char.isDigit) then c.number
    else c.mark
  | none, [] => c.mark

end Cursor

/-- Tokens without their numbers; each has the line on which it begins and the brackets open behind it. -/
abbrev Located := Lexeme × Nat × Nat

def located (l : Lexeme) (line : Nat) (c : Cursor) : Located := (l, line, c.brackets.length)

/-- The tokens of a text, at the front of a line or inside it. -/
def tokens (fuel : Nat) (atFront : Bool) (c : Cursor) : List Located :=
  match fuel with
  | 0 => []
  | fuel + 1 =>
    if atFront then
      match c.margin ⟨0, 0⟩ 0 c.line c.rest with
      | .error fault => [located fault c.line c]
      | .ok (m, line, rest) =>
        let c := { c with rest, line }
        if rest.head? = some '#' || rest.head? = some '\n' then
          tokens fuel true { c with rest := (rest.dropWhile (· ≠ '\n')).drop 1, line := line + 1 }
        else if c.brackets.isEmpty then
          let here := if rest.isEmpty then line - 1 else line
          match { c with line := here }.enter m with
          | .error fault => [located fault here c]
          | .ok (marks, margins) => marks.map (located · here c) ++ tokens fuel false { c with margins }
        else tokens fuel false c
    else
      match c.rest.dropWhile Cursor.isGap with
      | [] =>
        if c.brackets.isEmpty then [located .endOfFile (c.line - 1) c]
        else [located (c.endFault c.line) (c.line - 1) c]
      | '#' :: rest => tokens fuel false { c with rest := rest.dropWhile (· ≠ '\n') }
      | '\n' :: rest =>
        let next := { c with rest, line := c.line + 1 }
        if c.brackets.isEmpty then located .newline c.line c :: tokens fuel true next
        else tokens fuel true next
      | ['\\', '\n'] => [located (c.endFault c.line) c.line c]
      | '\\' :: '\n' :: rest => tokens fuel false { c with rest, line := c.line + 1 }
      | '\\' :: _ => [located (c.faultAt c.line false) c.line c]
      | rest =>
        match { c with rest }.lexeme with
        | (.fault f, _) => [located (.fault f) c.line c]
        | (l, next) => located l c.line next :: tokens fuel false next

end Scan

def withLastBreak (cs : List Char) : List Char :=
  if cs.getLast? = some '\n' then cs else cs ++ ['\n']

/-- The tokens of a text whose first line has the given number. -/
def tokensOf (firstLine : Nat) (cs : List Char) : List Token :=
  let cs := withLastBreak cs
  (Scan.tokens (2 * cs.length + 2) true ⟨cs, firstLine, [⟨0, 0⟩], []⟩).zipIdx.map
    fun ((lexeme, line, depth), index) => ⟨lexeme, line, depth, index⟩

end TaskCatalog.Code
