import TaskCatalog.Text.Basic

/-!
A place in a metadata document: what follows it, and the line and the column that layout is judged by.
Documents come with line feeds for all breaks but the rare ones of other scripts.
-/

namespace TaskCatalog.Yaml

/-- Why a document cannot be read. -/
inductive Fault where
  | malformed
  /-- A character escape beyond the last character; `huge` beyond any machine word. -/
  | badCode (huge : Bool)
  | badNumber
  /-- A number without digits. -/
  | noDigits
  | unknownTruth
  /-- A day or time that no calendar has. -/
  | impossibleTime
  | noTime
  deriving DecidableEq, Repr

def isBreak (c : Char) : Bool :=
  c == '\n' || c == '\u0085' || c == '\u2028' || c == '\u2029'

def isSpaceOrTab (c : Char) : Bool := c == ' ' || c == '\t'

structure Cursor where
  rest : List Char
  index : Nat
  line : Nat
  column : Nat
  deriving DecidableEq, Repr

namespace Cursor

def start (text : List Char) : Cursor := ⟨text, 0, 0, 0⟩

/-- One character on; a mark of byte order takes no column. -/
def advance (c : Cursor) : Cursor :=
  match c.rest with
  | [] => c
  | ch :: rest =>
    if isBreak ch then ⟨rest, c.index + 1, c.line + 1, 0⟩
    else ⟨rest, c.index + 1, c.line, if ch = '\uFEFF' then c.column else c.column + 1⟩

def skip (c : Cursor) : Nat → Cursor
  | 0 => c
  | n + 1 => c.advance.skip n

/-- The longest run of characters of a class, and the place after it. -/
def span (p : Char → Bool) (c : Cursor) : List Char × Cursor :=
  let run := c.rest.takeWhile p
  (run, c.skip run.length)

def skipWhile (p : Char → Bool) (c : Cursor) : Cursor := (c.span p).2

theorem advance_rest (c : Cursor) : c.advance.rest = c.rest.drop 1 := by
  unfold advance
  split
  · next h => simp [h]
  · next h => split <;> simp [h]

theorem skip_rest (c : Cursor) (n : Nat) : (c.skip n).rest = c.rest.drop n := by
  induction n generalizing c with
  | zero => rfl
  | succ n ih => simp [skip, ih, advance_rest]

/-- A run and what follows it are what there was. -/
theorem span_append (p : Char → Bool) (c : Cursor) : (c.span p).1 ++ (c.span p).2.rest = c.rest := by
  simp only [span, skip_rest]
  induction c.rest with
  | nil => rfl
  | cons ch rest ih => by_cases h : p ch <;> simp_all

/-- Whether the document ends `n` characters on, or a character of a class stands there. -/
def endsOr (c : Cursor) (n : Nat) (p : Char → Bool) : Bool := (c.rest[n]?).all p

def isBreakOrSpace (ch : Char) : Bool := ch == ' ' || isBreak ch

def isBreakOrBlank (ch : Char) : Bool := isSpaceOrTab ch || isBreak ch

def atEnd (c : Cursor) : Bool := c.rest.isEmpty

def at? (c : Cursor) (p : Char → Bool) : Bool := c.rest.head?.any p

/-- The break at the place, if there is one: the two separators as they are, any other as a line feed. -/
def lineBreak (c : Cursor) : List Char × Cursor :=
  match c.rest with
  | ch :: _ =>
    if isBreak ch then
      ((if ch = '\u2028' ∨ ch = '\u2029' then [ch] else ['\n']), c.advance)
    else ([], c)
  | [] => ([], c)

/-- Whether a line that begins here is a mark between documents. -/
def isMark (c : Cursor) (mark : Char) : Bool :=
  [mark, mark, mark].isPrefixOf c.rest && c.endsOr 3 isBreakOrBlank

def isAnyMark (c : Cursor) : Bool := c.isMark '-' || c.isMark '.'

/-- The breaks of empty lines, each indented by less than `indent` blanks; `fuel` bounds their number. -/
def emptyLines (indent : Nat) : Nat → Cursor → List Char × Cursor
  | 0, c => ([], c)
  | fuel + 1, c =>
    let c := c.skip ((c.rest.takeWhile (· == ' ')).length.min (indent - c.column))
    match c.lineBreak with
    | ([], _) => ([], c)
    | (br, next) =>
      let (more, last) := emptyLines indent fuel next
      (br ++ more, last)

def skipComment (c : Cursor) : Cursor :=
  if c.at? (· == '#') then c.skipWhile (!isBreak ·) else c

def endOfLine (c : Cursor) : Except Fault Cursor :=
  let c := (c.skipWhile (· == ' ')).skipComment
  if c.endsOr 0 isBreak then .ok c.lineBreak.2 else .error .malformed

end Cursor

end TaskCatalog.Yaml
