import TaskCatalog.Code.Token
import TaskCatalog.Text.Basic
import TaskCatalog.Text.CompatibilityForm

/-!
Rules that read tokens. A rule that does not fit leaves the next one to be tried, but how far it has
looked is kept: where the rules looked farthest, the fault of the file is. A strict reading also looks
for what was probably meant, and then tells the fault from there.
-/

namespace TaskCatalog.Code

open Text

/-- A fault of a file. -/
structure Fault where
  /-- The line; none stands for that of the farthest token that was looked at. -/
  line : Option Nat
  /-- Whether faults of the characters behind it may hide it. -/
  isHideable : Bool
  deriving DecidableEq, Repr

/-- What came of a rule, and the number of the farthest token that it looked at. -/
inductive Outcome (α : Type) where
  | parsed (a : α) (rest : List Token) (seen : Nat)
  | stuck (seen : Nat)
  | faulty (f : Fault) (seen : Nat)

/-- A rule, given whether the reading is strict, the tokens left and the farthest that was looked at. It takes tokens
from the front only: those that it leaves are the end of those that it was given. -/
structure Parser (α : Type) where
  outcome : Bool → List Token → Nat → Outcome α
  leaves : ∀ {strict tokens seen a rest last}, outcome strict tokens seen = .parsed a rest last → rest <:+ tokens

namespace Parser

variable {α β : Type}

instance : CoeFun (Parser α) fun _ => Bool → List Token → Nat → Outcome α := ⟨outcome⟩

def give (a : α) : Parser α where
  outcome _ tokens seen := .parsed a tokens seen
  leaves given := by
    cases given
    exact List.suffix_refl _

def andThen (p : Parser α) (f : α → Parser β) : Parser β where
  outcome strict tokens seen :=
    match p strict tokens seen with
    | .parsed a rest seen => f a strict rest seen
    | .stuck seen => .stuck seen
    | .faulty e seen => .faulty e seen
  leaves given := by
    split at given
    · next first => exact ((f _).leaves given).trans (p.leaves first)
    · cases given
    · cases given

instance : Monad Parser where
  pure := give
  bind := andThen

def stuck : Parser α := ⟨fun _ _ seen => .stuck seen, nofun⟩

/-- The first rule, or the second where the first does not fit. -/
def orElse (p : Parser α) (q : Unit → Parser α) : Parser α where
  outcome strict tokens seen :=
    match p strict tokens seen with
    | .stuck seen => q () strict tokens seen
    | outcome => outcome
  leaves given := by
    split at given
    · exact (q ()).leaves given
    · exact p.leaves given

instance : OrElse (Parser α) := ⟨orElse⟩

theorem orElse_stuck (p : Parser α) : p.orElse (fun _ => stuck) = p := by
  obtain ⟨outcome, leaves⟩ := p
  simp only [orElse, mk.injEq]
  funext strict tokens seen
  split <;> simp_all [stuck]

instance : Inhabited (Parser α) := ⟨stuck⟩

def isStrict : Parser Bool where
  outcome strict tokens seen := .parsed strict tokens seen
  leaves given := by
    cases given
    exact List.suffix_refl _

/-- A rule that is read without looking for what was meant. -/
def lenient (p : Parser α) : Parser α := ⟨fun _ tokens seen => p false tokens seen, p.leaves⟩

def left : Parser (List Token) where
  outcome _ tokens seen := .parsed tokens tokens seen
  leaves given := by
    cases given
    exact List.suffix_refl _

def fail (line : Nat) : Parser α := ⟨fun _ _ seen => .faulty ⟨some line, true⟩ seen, nofun⟩

/-- A fault on the line of the farthest token that was looked at. -/
def failFarthest : Parser α := ⟨fun _ _ seen => .faulty ⟨none, true⟩ seen, nofun⟩

def peek : Parser Token where
  outcome _ tokens seen :=
    match tokens with
    | [] => .stuck seen
    | t :: _ =>
      match t.lexeme with
      | .fault f => .faulty ⟨some f.line, false⟩ (max seen t.index)
      | _ => .parsed t tokens (max seen t.index)
  leaves given := by
    split at given
    · cases given
    · split at given
      · cases given
      · cases given
        exact List.suffix_refl _

/-- Goes on to the next token. -/
def advance (a : α) : Parser α where
  outcome _ tokens seen := .parsed a (tokens.drop 1) seen
  leaves given := by
    cases given
    exact List.drop_suffix 1 _

def take (kind : Lexeme → Option α) : Parser α := do
  match kind (← peek).lexeme with
  | some a => advance a
  | none => stuck

def line : Parser Nat := do return (← peek).line

/-- Whether a rule would fit where some tokens are left, without taking anything. -/
def fitsAt (place : List Token) (p : Parser α) : Parser Bool where
  outcome strict tokens seen :=
    match p strict place seen with
    | .parsed _ _ seen => .parsed true tokens seen
    | .stuck seen => .parsed false tokens seen
    | .faulty e seen => .faulty e seen
  leaves given := by
    split at given
    · cases given
      exact List.suffix_refl _
    · cases given
      exact List.suffix_refl _
    · cases given

/-- Whether a rule would fit, without taking anything. -/
def ahead (p : Parser α) : Parser Bool := do fitsAt (← left) p

def without (p : Parser α) : Parser Unit := do
  if ← ahead p then stuck

/-- A rule that is tried in a strict reading only, without taking anything; all that counts is a fault. -/
def strictly (p : Parser α) : Parser Unit := do
  if ← isStrict then let _ ← ahead p

/-- What a strict reading takes for a mistake: where the rule fits, the fault is on the line it gives. -/
def mistake (p : Parser Nat) : Parser Unit := strictly (do fail (α := Unit) (← p))

def optional (p : Parser α) : Parser (Option α) := (do return some (← p)) <|> give none

def accept (p : Parser Unit) : Parser Bool := (do p; return true) <|> give false

/-- A rule as often as it fits, at most once for each of the tokens in a list. -/
def manyWithin (p : Parser α) : List Token → Parser (List α)
  | [] => give []
  | _ :: fuel => (do
      let a ← p
      return a :: (← manyWithin p fuel)) <|> give []

def many (p : Parser α) : Parser (List α) := do manyWithin p (← left)

def some1 (p : Parser α) : Parser (List α) := do
  let a ← p
  return a :: (← many p)

/-- A rule that fits once or more, with a separator between. -/
def separated (separator : Parser Unit) (p : Parser α) : Parser (List α) := do
  let a ← p
  return a :: (← many (do separator; p))

def withLast (p : Parser α) : Parser (α × Option Token) := do
  let before ← left
  let a ← p
  let after ← left
  return (a, (before.take (before.length - after.length)).getLast?)

/-! Single tokens. -/

def mark (m : String) : Parser Unit :=
  take fun l => if l = .mark m then some () else none

def oneOf (table : List (String × α)) : Parser α :=
  take fun
    | .mark m => table.lookup m
    | _ => none

def keywords : List String := [
  "False", "None", "True", "and", "as", "assert", "async", "await", "break", "class", "continue",
  "def", "del", "elif", "else", "except", "finally", "for", "from", "global", "if", "import", "in",
  "is", "lambda", "nonlocal", "not", "or", "pass", "raise", "return", "try", "while", "with", "yield"]

/-- A keyword, or a name that has a meaning of its own at some places. -/
def word (w : String) : Parser Unit :=
  take fun l => if l = .name w then some () else none

def rawName : Parser String :=
  take fun
    | .name t => if keywords.contains t then none else some t
    | _ => none

/-- Any name that is no keyword, in its composed form. -/
def name : Parser Text := do return ofChars (compatibilityForm (← rawName).toList)

def number : Parser (List Char) :=
  take fun
    | .number t => some t
    | _ => none

def string : Parser (List Char) :=
  take fun
    | .string t => some t
    | _ => none

def newline : Parser Unit := take fun l => if l = .newline then some () else none

def indent : Parser Unit := take fun l => if l = .indent then some () else none

def dedent : Parser Unit := take fun l => if l = .dedent then some () else none

def endOfFile : Parser Unit := take fun l => if l = .endOfFile then some () else none

def comma : Parser Unit := mark ","

def expect (m : String) : Parser Unit := mark m <|> (do fail (← line))

/-- Items with commas between, and whether a comma is behind the last. -/
def commaList (p : Parser α) : Parser (List α × Bool) := do
  let items ← separated comma p
  return (items, ← accept comma)

end Parser

/-- Why a text is not what a rule describes: where the rules looked farthest, unless something was found
to be meant or an error in the characters comes behind it. -/
def faultLine (tokens : List Token) (found : Option Fault) (first seen : Nat) : Nat :=
  let lineAt (n : Nat) : Nat := (tokens[n]?.map (·.line)).getD 0
  let isMargin := match tokens[first]?.map (·.lexeme) with
    | some .indent | some .dedent => true
    | _ => false
  let fault : Fault := found.getD
    (if isMargin then ⟨none, false⟩ else ⟨some (lineAt first), true⟩)
  let line := fault.line.getD (lineAt seen)
  if fault.isHideable then
    let last : Option Lexeme := tokens.getLast?.map (·.lexeme)
    match last with
    | some (.fault f) =>
      if f.stated then f.line
      else match f.opening with
        | some opening => if opening < lineAt seen then opening else line
        | none => line
    | _ => line
  else line

/-- Reads all that a rule describes, or the line of the fault. -/
def Parser.run {α : Type} (p : Parser α) (tokens : List Token) : Except Nat α :=
  match p false tokens 0 with
  | .parsed a _ _ => .ok a
  | .faulty f seen => .error (faultLine tokens (some f) seen seen)
  | .stuck first =>
    match p true tokens first with
    | .faulty f seen => .error (faultLine tokens (some f) first seen)
    | .parsed _ _ seen | .stuck seen => .error (faultLine tokens none first seen)

end TaskCatalog.Code
