import TaskCatalog.Text.Encoding
import TaskCatalog.Yaml.ScalarText

/-!
The tokens of a metadata document. Layout is told by tokens of its own: a block opens where a line
is indented further and ends where one is indented less. A key without a mark is known as a key
only by the colon after it, so its token is put in afterwards.
-/

namespace TaskCatalog.Yaml

open Text

inductive Token where
  | streamEnd
  | version (major : Nat)
  | tagHandle (handle expansion : Text)
  | directive
  | documentStart
  | documentEnd
  | blockSequence
  | blockMapping
  | blockEnd
  | flowSequence
  | flowSequenceEnd
  | flowMapping
  | flowMappingEnd
  | blockEntry
  | flowEntry
  | key
  | value
  | alias (name : Text)
  | anchor (name : Text)
  | tag (handle : Option Text) (suffix : Text)
  | scalar (text : Text) (plain : Bool)
  deriving DecidableEq, Repr

/-- A token that turns out to begin a key if a colon follows on its line. -/
structure PossibleKey where
  number : Nat
  required : Bool
  index : Nat
  line : Nat
  column : Nat
  deriving DecidableEq, Repr

structure Scanner where
  cursor : Cursor
  tokens : Array Token
  /-- One more than the indentation of the innermost block; zero outside of all blocks. -/
  margin : Nat
  margins : List Nat
  depth : Nat
  keyAllowed : Bool
  /-- The possible key of every depth. -/
  keys : List (Nat × PossibleKey)

namespace Scanner

def start (text : List Char) : Scanner :=
  { cursor := .start text, tokens := #[], margin := 0, margins := [], depth := 0,
    keyAllowed := true, keys := [] }

def push (s : Scanner) (t : Token) : Scanner := { s with tokens := s.tokens.push t }

def at? (s : Scanner) (p : Char → Bool) : Bool := s.cursor.at? p

/-- Moves over blanks, comments and breaks; a break outside of brackets allows a key. -/
def toNextToken : Nat → Scanner → Scanner
  | 0, s => s
  | fuel + 1, s =>
    let c := (s.cursor.skipWhile (· == ' ')).skipComment
    match c.lineBreak with
    | ([], _) => { s with cursor := c }
    | (_, next) =>
      toNextToken fuel { s with cursor := next, keyAllowed := s.keyAllowed || s.depth == 0 }

/-- A key stays possible on its line, for at most 1024 characters. -/
def isStale (c : Cursor) (k : PossibleKey) : Bool := k.line != c.line || 1024 < c.index - k.index

def dropStaleKeys (s : Scanner) : Except Fault Scanner :=
  if s.keys.any fun (_, k) => isStale s.cursor k && k.required then .error .malformed
  else .ok { s with keys := s.keys.filter fun (_, k) => !isStale s.cursor k }

def key? (s : Scanner) : Option PossibleKey := s.keys.lookup s.depth

def forgetKey (s : Scanner) : Scanner := { s with keys := s.keys.filter (·.1 != s.depth) }

def removeKey (s : Scanner) : Except Fault Scanner :=
  if s.key?.any (·.required) then .error .malformed else .ok s.forgetKey

def saveKey (s : Scanner) : Except Fault Scanner :=
  if s.keyAllowed then do
    let s ← s.removeKey
    let c := s.cursor
    let required := s.depth == 0 && s.margin == c.column + 1
    return { s with keys := (s.depth, ⟨s.tokens.size, required, c.index, c.line, c.column⟩) :: s.keys }
  else .ok s

def closeBlocks (s : Scanner) (margin : Nat) : Scanner :=
  if s.depth = 0 then go s.tokens s.margin s.margins else s
where
  go (tokens : Array Token) (current : Nat) : List Nat → Scanner
    | outer :: margins =>
      if margin < current then go (tokens.push .blockEnd) outer margins
      else { s with tokens := tokens, margin := current, margins := outer :: margins }
    | [] => { s with tokens := tokens, margin := current, margins := [] }

/-- Opens a block at a column if it lies deeper than the innermost one; its token goes to `place`. -/
def openBlock (s : Scanner) (column : Nat) (t : Token) (place : Nat) : Scanner :=
  if s.margin < column + 1 then
    { s with
      tokens := s.tokens.insertIdxIfInBounds place t
      margin := column + 1
      margins := s.margin :: s.margins }
  else s

def skip (s : Scanner) (n : Nat) : Scanner := { s with cursor := s.cursor.skip n }

/-- A token of `n` characters that needs nothing else. -/
def simple (s : Scanner) (n : Nat) (t : Token) : Scanner := (s.skip n).push t

def endStream (s : Scanner) : Except Fault Scanner := do
  let s ← (s.closeBlocks 0).removeKey
  return { s with keyAllowed := false, keys := [] }.push .streamEnd

def documentMark (s : Scanner) (t : Token) : Except Fault Scanner := do
  let s ← (s.closeBlocks 0).removeKey
  return { s with keyAllowed := false }.simple 3 t

def isNameChar (c : Char) : Bool := c.isAlphanum || c == '-' || c == '_'

def isUriChar (c : Char) : Bool := c.isAlphanum || "-;/?:@&=+$,_.!~*'()[]".toList.contains c

def uriBytes : Nat → Cursor → Except Fault (Bytes × Cursor)
  | 0, c => .ok ([], c)
  | fuel + 1, c =>
    match c.rest with
    | '%' :: a :: b :: _ =>
      if Cursor.isHexDigit a && Cursor.isHexDigit b then do
        let (bytes, last) ← uriBytes fuel (c.skip 3)
        return (UInt8.ofNat (Cursor.hexNumber [a, b]) :: bytes, last)
      else .error .malformed
    | '%' :: _ => .error .malformed
    | _ => .ok ([], c)

def uriParts : Nat → Cursor → Except Fault (List Char × Cursor)
  | 0, c => .ok ([], c)
  | fuel + 1, c => do
    let (run, c) := c.span isUriChar
    if c.at? (· == '%') then
      let (bytes, c) ← uriBytes (fuel + 1) c
      match decodeUtf8 bytes with
      | .ok cs =>
        let (more, last) ← uriParts fuel c
        return (run ++ cs ++ more, last)
      | .error _ => .error .malformed
    else return (run, c)

def uri (c : Cursor) : Except Fault Scanned := do
  let (cs, last) ← uriParts (c.rest.length + 1) c
  if cs.isEmpty && last.index == c.index then .error .malformed else return (ofChars cs, last)

/-- A handle between exclamation marks, or a single one before a blank. -/
def handle (c : Cursor) : Except Fault Scanned :=
  match c.rest with
  | '!' :: ' ' :: _ => .ok ("!", c.advance)
  | '!' :: rest =>
    let name := rest.takeWhile isNameChar
    if (rest.drop name.length).head? = some '!' then
      .ok (ofChars ('!' :: name ++ ['!']), c.skip (name.length + 2))
    else .error .malformed
  | _ => .error .malformed

def wholeNumber (c : Cursor) : Except Fault (Nat × Cursor) :=
  let (digits, c) := c.span Char.isDigit
  if digits.isEmpty then .error .malformed
  else .ok (digits.foldl (fun n d => 10 * n + (d.toNat - '0'.toNat)) 0, c)

def versionDirective (c : Cursor) : Except Fault (Token × Cursor) := do
  let (major, c) ← wholeNumber (c.skipWhile (· == ' '))
  if !c.at? (· == '.') then throw .malformed
  let (_, c) ← wholeNumber c.advance
  if c.endsOr 0 Cursor.isBreakOrSpace then return (.version major, c) else throw .malformed

def tagDirective (c : Cursor) : Except Fault (Token × Cursor) := do
  let (name, c) ← handle (c.skipWhile (· == ' '))
  if !c.at? (· == ' ') then throw .malformed
  let (expansion, c) ← uri (c.skipWhile (· == ' '))
  if c.endsOr 0 Cursor.isBreakOrSpace then return (.tagHandle name expansion, c) else throw .malformed

def directive (s : Scanner) : Except Fault Scanner := do
  let s ← (s.closeBlocks 0).removeKey
  let (name, c) := s.cursor.advance.span isNameChar
  if name.isEmpty || !c.endsOr 0 Cursor.isBreakOrSpace then throw .malformed
  let (t, c) ←
    if name = "YAML".toList then versionDirective c
    else if name = "TAG".toList then tagDirective c
    else pure (Token.directive, c.skipWhile (!isBreak ·))
  return { s with cursor := ← c.endOfLine, keyAllowed := false }.push t

def openFlow (s : Scanner) (t : Token) : Except Fault Scanner := do
  let s ← s.saveKey
  return { s with depth := s.depth + 1, keyAllowed := true }.simple 1 t

def closeFlow (s : Scanner) (t : Token) : Except Fault Scanner := do
  let s ← s.removeKey
  return { s with depth := s.depth - 1, keyAllowed := false }.simple 1 t

def flowEntry (s : Scanner) : Except Fault Scanner := do
  let s ← s.removeKey
  return { s with keyAllowed := true }.simple 1 .flowEntry

/-- A mark that opens a block of its kind at its own column. -/
def openByMark (s : Scanner) (t : Token) : Except Fault Scanner :=
  if s.depth ≠ 0 then .ok s
  else if s.keyAllowed then .ok (s.openBlock s.cursor.column t s.tokens.size)
  else .error .malformed

def blockEntry (s : Scanner) : Except Fault Scanner := do
  let s ← (← s.openByMark .blockSequence).removeKey
  return { s with keyAllowed := true }.simple 1 .blockEntry

def keyMark (s : Scanner) : Except Fault Scanner := do
  let s ← (← s.openByMark .blockMapping).removeKey
  return { s with keyAllowed := s.depth == 0 }.simple 1 .key

def valueMark (s : Scanner) : Except Fault Scanner :=
  match s.key? with
  | some k =>
    let s := { s.forgetKey with tokens := s.tokens.insertIdxIfInBounds k.number .key }
    let s := if s.depth = 0 then s.openBlock k.column .blockMapping k.number else s
    .ok ({ s with keyAllowed := false }.simple 1 .value)
  | none => do
    let s ← (← s.openByMark .blockMapping).removeKey
    return { s with keyAllowed := s.depth == 0 }.simple 1 .value

def nameEnds (c : Char) : Bool :=
  Cursor.isBreakOrBlank c || "?:,]\x7d%@\x60".toList.contains c

def named (s : Scanner) (make : Text → Token) : Except Fault Scanner := do
  let s ← s.saveKey
  let (name, c) := s.cursor.advance.span isNameChar
  if name.isEmpty || !c.endsOr 0 nameEnds then throw .malformed
  return { s with cursor := c, keyAllowed := false }.push (make (ofChars name))

/-- Whether an exclamation mark stands before the next blank. -/
def hasHandle (cs : List Char) : Bool := (cs.takeWhile (!Cursor.isBreakOrSpace ·)).contains '!'

def tagAt (c : Cursor) : Except Fault (Token × Cursor) :=
  match c.rest.drop 1 with
  | '<' :: _ => do
    let (suffix, c) ← uri (c.skip 2)
    if c.at? (· == '>') then return (.tag none suffix, c.advance) else throw .malformed
  | rest =>
    if rest.head?.all Cursor.isBreakOrBlank then .ok (.tag none "!", c.advance)
    else if hasHandle rest then do
      let (name, c) ← handle c
      let (suffix, c) ← uri c
      return (.tag (some name) suffix, c)
    else do
      let (suffix, c) ← uri c.advance
      return (.tag (some "!") suffix, c)

def tag (s : Scanner) : Except Fault Scanner := do
  let s ← s.saveKey
  let (t, c) ← tagAt s.cursor
  if !c.endsOr 0 Cursor.isBreakOrSpace then throw .malformed
  return { s with cursor := c, keyAllowed := false }.push t

def block (s : Scanner) (folded : Bool) : Except Fault Scanner := do
  let s ← s.removeKey
  let (text, c) ← s.cursor.advance.blockScalar folded s.margin
  return { s with cursor := c, keyAllowed := true }.push (.scalar text false)

def quotedText (s : Scanner) (double : Bool) : Except Fault Scanner := do
  let s ← s.saveKey
  let (text, c) ← s.cursor.advance.quotedScalar double (s.cursor.rest.length + 1)
  return { s with cursor := c, keyAllowed := false }.push (.scalar text false)

def plainText (s : Scanner) : Except Fault Scanner := do
  let s ← s.saveKey
  let p := s.cursor.plainScalar (s.depth != 0) s.margin (s.cursor.rest.length + 1) []
  return { s with cursor := p.stop, keyAllowed := p.afterBreak }.push (.scalar (ofChars p.text) true)

def standsAlone (s : Scanner) : Bool := s.cursor.endsOr 1 Cursor.isBreakOrBlank

def isIndicator (c : Char) : Bool := "-?:,[]\x7b\x7d#&*!|>'\"%@\x60".toList.contains c

def beginsPlain (s : Scanner) (c : Char) : Bool :=
  !(Cursor.isBreakOrBlank c || isIndicator c)
    || (!s.standsAlone && (c == '-' || (s.depth == 0 && (c == '?' || c == ':'))))

/-- The token at the cursor, which stands at no blank. -/
def token (s : Scanner) : Except Fault Scanner :=
  match s.cursor.rest with
  | [] => s.endStream
  | c :: _ =>
    let atLineStart := s.cursor.column == 0
    if c = '%' ∧ atLineStart then s.directive
    else if atLineStart ∧ s.cursor.isMark '-' then s.documentMark .documentStart
    else if atLineStart ∧ s.cursor.isMark '.' then s.documentMark .documentEnd
    else if c = '[' then s.openFlow .flowSequence
    else if c = '\x7b' then s.openFlow .flowMapping
    else if c = ']' then s.closeFlow .flowSequenceEnd
    else if c = '\x7d' then s.closeFlow .flowMappingEnd
    else if c = ',' then s.flowEntry
    else if c = '-' ∧ s.standsAlone then s.blockEntry
    else if c = '?' ∧ (s.depth ≠ 0 ∨ s.standsAlone) then s.keyMark
    else if c = ':' ∧ (s.depth ≠ 0 ∨ s.standsAlone) then s.valueMark
    else if c = '*' then s.named .alias
    else if c = '&' then s.named .anchor
    else if c = '!' then s.tag
    else if c = '|' ∧ s.depth = 0 then s.block false
    else if c = '>' ∧ s.depth = 0 then s.block true
    else if c = '\'' then s.quotedText false
    else if c = '"' then s.quotedText true
    else if s.beginsPlain c then s.plainText
    else .error .malformed

/-- Moves to the next token and settles what the blanks before it mean. -/
def prepare (s : Scanner) : Except Fault Scanner := do
  let s ← (s.toNextToken (s.cursor.rest.length + 1)).dropStaleKeys
  return s.closeBlocks (s.cursor.column + 1)

/-- The tokens that are settled: a reader waits at a possible key until it is known what it is. -/
def settled (s : Scanner) : List Token :=
  match (s.keys.map (·.2.number)).min? with
  | some n => s.tokens.toList.take n
  | none => s.tokens.toList

end Scanner

/-- The tokens of a document, and the fault at which they stop, if there is one. -/
structure Tokens where
  tokens : List Token
  fault : Option Fault
  deriving DecidableEq, Repr

namespace Tokens

def scan : Nat → Scanner → Tokens
  | 0, s => ⟨s.settled, some .malformed⟩
  | fuel + 1, s =>
    match s.prepare with
    | .error e => ⟨s.settled, some e⟩
    | .ok s =>
      match s.token with
      | .error e => ⟨s.settled, some e⟩
      | .ok next => if s.cursor.atEnd then ⟨next.tokens.toList, none⟩ else scan fuel next

def isAllowed (c : Char) : Bool :=
  c == '\t' || c == '\n' || c == '\r' || (' ' ≤ c && c ≤ '~') || c == '\u0085'
    || (0xA0 ≤ c.toNat && c.toNat != 0xFFFE && c.toNat != 0xFFFF)

def ofChars (text : List Char) : Tokens :=
  if text.all isAllowed then
    let c := Cursor.start text
    scan (text.length + 2) { Scanner.start text with cursor := if c.at? (· == '\uFEFF') then c.advance else c }
  else ⟨[], some .malformed⟩

end Tokens

end TaskCatalog.Yaml
