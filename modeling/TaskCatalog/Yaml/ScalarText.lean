import TaskCatalog.Yaml.Cursor

/-!
The text of a scalar in its five spellings. Line breaks inside a scalar fold: one break is a blank,
and each further one stands for itself. A scalar is scanned from its first character on.
-/

namespace TaskCatalog.Yaml

open Text

/-- The text of a scalar and the place after it. -/
abbrev Scanned := Text × Cursor

namespace Cursor

/-- What a run of breaks folds to, given the first of them. -/
def fold (first more : List Char) : List Char :=
  if first ≠ ['\n'] then first ++ more else if more.isEmpty then [' '] else more

/-- The breaks in a quoted scalar, with the blanks around them; no mark may begin a line there. -/
def quotedBreaks : Nat → Cursor → Except Fault (List Char × Cursor)
  | 0, c => .ok ([], c)
  | fuel + 1, c =>
    if c.isAnyMark then .error .malformed
    else
      let c := c.skipWhile isSpaceOrTab
      match c.lineBreak with
      | ([], _) => .ok ([], c)
      | (br, next) => do
        let (more, last) ← quotedBreaks fuel next
        return (br ++ more, last)

/-- Blanks in a quoted scalar: kept inside a line, folded around a break. -/
def quotedSpaces (fuel : Nat) (c : Cursor) : Except Fault (List Char × Cursor) :=
  let (blanks, c) := c.span isSpaceOrTab
  if c.atEnd then .error .malformed
  else match c.lineBreak with
    | ([], _) => .ok (blanks, c)
    | (first, next) => do
      let (more, last) ← quotedBreaks fuel next
      return (fold first more, last)

def singleEscapes : List (Char × Char) := [
  ('0', '\x00'), ('a', '\x07'), ('b', '\x08'), ('t', '\x09'), ('\t', '\x09'), ('n', '\n'),
  ('v', '\x0b'), ('f', '\x0c'), ('r', '\r'), ('e', '\x1b'), (' ', ' '), ('"', '"'), ('\\', '\\'),
  ('/', '/'), ('N', '\u0085'), ('_', '\u00a0'), ('L', '\u2028'), ('P', '\u2029')]

def isHexDigit (c : Char) : Bool :=
  c.isDigit || ('a' ≤ c && c ≤ 'f') || ('A' ≤ c && c ≤ 'F')

def hexValue (c : Char) : Nat :=
  if c.isDigit then c.toNat - '0'.toNat
  else if 'a' ≤ c then c.toNat - 'a'.toNat + 10
  else c.toNat - 'A'.toNat + 10

def hexNumber (digits : List Char) : Nat := digits.foldl (fun n c => 16 * n + hexValue c) 0

def codeEscape (width : Nat) (c : Cursor) : Except Fault (Letter × Cursor) :=
  let digits := c.rest.take width
  if digits.length = width ∧ digits.all isHexDigit then
    match Letter.ofCode? (hexNumber digits) with
    | some l => .ok (l, c.skip width)
    | none => .error (.badCode (Nat.pow 2 31 ≤ hexNumber digits))
  else .error .malformed

/-- What an escape stands for; the place is after its backslash. -/
def escape (fuel : Nat) (c : Cursor) : Except Fault Scanned :=
  match c.rest with
  | [] => .error .malformed
  | ch :: _ =>
    match singleEscapes.lookup ch with
    | some meant => .ok ([.scalar meant], c.advance)
    | none =>
      if ch = 'x' ∨ ch = 'u' ∨ ch = 'U' then do
        let (l, c) ← codeEscape (if ch = 'x' then 2 else if ch = 'u' then 4 else 8) c.advance
        return ([l], c)
      else if isBreak ch then do
        let (breaks, c) ← quotedBreaks fuel c.lineBreak.2
        return (ofChars breaks, c)
      else .error .malformed

def quotedScalar (double : Bool) : Nat → Cursor → Except Fault Scanned
  | 0, _ => .error .malformed
  | fuel + 1, c =>
    let quote := if double then '"' else '\''
    let (run, c) := c.span fun ch =>
      !(ch == '\'' || ch == '"' || ch == '\\' || isBreakOrBlank ch)
    let continued (part : Text) (c : Cursor) : Except Fault Scanned := do
      let (t, last) ← quotedScalar double fuel c
      return (ofChars run ++ part ++ t, last)
    match c.rest with
    | [] => .error .malformed
    | ch :: next =>
      if isBreakOrBlank ch then do
        let (blanks, c) ← quotedSpaces (fuel + 1) c
        continued (ofChars blanks) c
      else if ch = '\\' && double then do
        let (part, c) ← escape (fuel + 1) c.advance
        continued part c
      else if ch = quote then
        if !double && next.head? == some '\'' then continued "'" (c.skip 2)
        else .ok (ofChars run, c.advance)
      else continued [.scalar ch] c.advance

/-- Whether a plain scalar ends before the character at the place. -/
def plainEnds (inFlow : Bool) (c : Char) (next : Option Char) : Bool :=
  isBreakOrBlank c
    || (c == ':' && next.all fun n => isBreakOrBlank n || (inFlow && ",[]\x7b\x7d".toList.contains n))
    || (inFlow && ",?[]\x7b\x7d".toList.contains c)

/-- The characters of a plain scalar up to a blank, a break or an indicator. -/
def plainRun (inFlow : Bool) : List Char → List Char
  | [] => []
  | c :: rest => if plainEnds inFlow c rest.head? then [] else c :: plainRun inFlow rest

/-- Empty lines after a break in a plain scalar, with the blanks around them; none if a mark follows. -/
def plainBreaks : Nat → Cursor → Option (List Char) × Cursor
  | 0, c => (some [], c)
  | fuel + 1, c =>
    if c.isAnyMark then (none, c)
    else
      let c := c.skipWhile (· == ' ')
      match c.lineBreak with
      | ([], _) => (some [], c)
      | (br, next) =>
        match plainBreaks fuel next with
        | (some more, last) => (some (br ++ more), last)
        | (none, last) => (none, last)

/-- A plain scalar, the place after it, and whether the last thing passed was a break. -/
structure PlainScalar where
  text : List Char
  stop : Cursor
  afterBreak : Bool

/-- A plain scalar; it goes on over blanks, and over breaks as long as the lines are indented. -/
def plainScalar (inFlow : Bool) (indent : Nat) : Nat → List Char → Cursor → PlainScalar
  | 0, _, c => ⟨[], c, false⟩
  | fuel + 1, spaces, c =>
    let run := if c.at? (· == '#') then [] else plainRun inFlow c.rest
    if run.isEmpty then ⟨[], c, false⟩
    else
      let (blanks, c) := (c.skip run.length).span (· == ' ')
      let continued (spaces : List Char) (broken : Bool) (c : Cursor) : PlainScalar :=
        if spaces.isEmpty || c.at? (· == '#') || (!inFlow && c.column < indent) then ⟨[], c, broken⟩
        else
          let more := plainScalar inFlow indent fuel spaces c
          if more.text.isEmpty then ⟨[], more.stop, broken⟩ else more
      let tail := match c.lineBreak with
        | ([], _) => continued blanks false c
        | (first, next) =>
          match plainBreaks (fuel + 1) next with
          | (some more, last) => continued (fold first more) true last
          | (none, last) => ⟨[], last, true⟩
      { tail with text := spaces ++ run ++ tail.text }

/-- How the breaks at the end of a block are kept. -/
inductive Chomping where
  | strip
  | clip
  | keep
  deriving DecidableEq, Repr

def chomping? : Char → Option Chomping
  | '-' => some .strip
  | '+' => some .keep
  | _ => none

/-- The header of a block: its chomping and its stated indentation, in either order. -/
def blockHeader (c : Cursor) : Except Fault (Chomping × Option Nat × Cursor) := do
  let (chomping, c) := chompingAt c
  let (indent, c) := digitAt c
  let (chomping, c) := match chomping, indent with
    | none, some _ => chompingAt c
    | _, _ => (chomping, c)
  if indent = some 0 then .error .malformed
  else if c.endsOr 0 isBreakOrSpace then return (chomping.getD .clip, indent, ← c.endOfLine)
  else .error .malformed
where
  chompingAt (c : Cursor) : Option Chomping × Cursor :=
    match c.rest.head?.bind chomping? with
    | some chomping => (some chomping, c.advance)
    | none => (none, c)
  digitAt (c : Cursor) : Option Nat × Cursor :=
    match c.rest with
    | ch :: _ => if ch.isDigit then (some (ch.toNat - '0'.toNat), c.advance) else (none, c)
    | [] => (none, c)

/-- The empty lines at the front of a block, and the deepest column reached in them. -/
def leadingLines : Nat → Nat → Cursor → List Char × Nat × Cursor
  | 0, deepest, c => ([], deepest, c)
  | fuel + 1, deepest, c =>
    let c := c.skipWhile (· == ' ')
    let deepest := max deepest c.column
    match c.lineBreak with
    | ([], _) => ([], deepest, c)
    | (br, next) =>
      let (more, deepest, last) := leadingLines fuel deepest next
      (br ++ more, deepest, last)

/-- The lines of a block at its indentation, `breaks` before the first of them. -/
def blockLines (folded : Bool) (chomping : Chomping) (indent : Nat) :
    Nat → List Char → Cursor → List Char × Cursor
  | 0, _, c => ([], c)
  | fuel + 1, breaks, c =>
    if c.column ≠ indent ∨ c.atEnd then
      (if chomping = .keep then breaks else [], c)
    else
      let leadsText := !c.at? isSpaceOrTab
      let (line, c) := c.span (!isBreak ·)
      let (br, c) := c.lineBreak
      let (empty, c) := c.emptyLines indent (fuel + 1)
      if c.column = indent ∧ !c.atEnd then
        let between :=
          if folded && br == ['\n'] && leadsText && !c.at? isSpaceOrTab then
            (if empty.isEmpty then [' '] else [])
          else br
        let (more, last) := blockLines folded chomping indent fuel empty c
        (breaks ++ line ++ between ++ more, last)
      else
        (breaks ++ line ++ (if chomping = .strip then [] else br)
          ++ (if chomping = .keep then empty else []), c)

/-- A block after its indicator, inside a collection indented by `outer`. -/
def blockScalar (folded : Bool) (outer : Nat) (c : Cursor) : Except Fault Scanned := do
  let (chomping, stated, c) ← blockHeader c
  let least := max outer 1
  let fuel := c.rest.length + 1
  let (indent, breaks, c) := match stated with
    | none =>
      let (breaks, deepest, c) := leadingLines fuel 0 c
      (max least deepest, breaks, c)
    | some n =>
      let (breaks, c) := c.emptyLines (least + n - 1) fuel
      (least + n - 1, breaks, c)
  let (text, c) := blockLines folded chomping indent fuel breaks c
  return (ofChars text, c)

end Cursor

end TaskCatalog.Yaml
