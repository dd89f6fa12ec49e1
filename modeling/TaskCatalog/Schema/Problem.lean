import TaskCatalog.Catalog.GoalName
import TaskCatalog.Value.Print

/-!
What is wrong with data that was to become a model: a list of problems, each at a place inside the data.
-/

namespace TaskCatalog

open Text

inductive Place where
  | key (name : Text)
  | index (n : Nat)
  /-- A mapping key that is a number. -/
  | number (n : Int)
  deriving DecidableEq, Repr

def Place.text : Place → Text
  | key name => name
  | index n => ofNat n
  | number n => ofInt n

inductive ProblemKind where
  | missing
  | notText
  /-- Bytes or lone halves that are no text. -/
  | brokenText
  | tooShort
  | unclearTruth
  | notTruth
  | notTuple
  | notList
  | notMapping
  | notSet
  | notModel (model : Text)
  | extra
  | badKey
  | notPath
  | notLevel
  | tooManyDigits
  | goalName (name : Text) (fault : GoalName.Fault)
  | repeatedParameter (task parameter : Text)
  | repeatedTasks (names : List Text)
  deriving DecidableEq, Repr

structure Problem where
  places : List Place
  kind : ProblemKind
  deriving DecidableEq, Repr

def ProblemKind.message : ProblemKind → Text
  | missing => "Field required"
  | notText => "Input should be a valid string"
  | brokenText => "Input should be a valid string, unable to parse raw data as a unicode string"
  | tooShort => "String should have at least 1 character"
  | unclearTruth => "Input should be a valid boolean, unable to interpret input"
  | notTruth => "Input should be a valid boolean"
  | notTuple => "Input should be a valid tuple"
  | notList => "Input should be a valid list"
  | notMapping => "Input should be a valid dictionary"
  | notSet => "Input should be a valid frozenset"
  | notModel model => "Input should be a valid dictionary or instance of " ++ model
  | extra => "Extra inputs are not permitted"
  | badKey => "Keys should be strings"
  | notPath => "Input is not a valid path for <class 'pathlib.Path'>"
  | notLevel => "Input should be 'DEBUG', 'INFO', 'WARNING', 'ERROR' or 'CRITICAL'"
  | tooManyDigits =>
    "Value error, Exceeds the limit (" ++ ofNat Number.decimalLimit
      ++ " digits) for integer string conversion; use sys.set_int_max_str_digits() to increase the limit"
  | goalName name fault => "Value error, " ++ fault.message name
  | repeatedParameter task parameter =>
    "Value error, task '" ++ task ++ "' declares parameter '" ++ parameter ++ "' more than once"
  | repeatedTasks names => "Value error, duplicate task names: " ++ join ", " names

/-- A problem in one line; a problem of the whole is put down to `whole`. -/
def Problem.summary (whole : Text) (p : Problem) : Text :=
  let place := join "." (p.places.map Place.text)
  (if place.isEmpty then whole else place) ++ ": " ++ p.kind.message

def summarize (whole : Text) (ps : List Problem) : Text := join "; " (ps.map (·.summary whole))

/-- Data that was checked: a model, or all that is wrong. -/
inductive Checked (α : Type) where
  | ok (a : α)
  | error (problems : List Problem)

namespace Checked

variable {α β : Type}

def problem (kind : ProblemKind) : Checked α := .error [⟨[], kind⟩]

def map (f : α → β) : Checked α → Checked β
  | .ok a => .ok (f a)
  | .error ps => .error ps

/-- Applies a checked function to a checked argument and keeps the problems of both. -/
def apply : Checked (α → β) → Checked α → Checked β
  | .ok f, .ok a => .ok (f a)
  | .ok _, .error ps => .error ps
  | .error ps, .ok _ => .error ps
  | .error ps, .error qs => .error (ps ++ qs)

instance : Applicative Checked where
  pure a := .ok a
  map f c := c.map f
  seq f c := f.apply (c ())

/-- A check of what an earlier check found; it is made only if that found no problem. -/
def andThen (c : Checked α) (check : α → Checked β) : Checked β :=
  match c with
  | .ok a => check a
  | .error ps => .error ps

def located (place : Place) : Checked α → Checked α
  | .ok a => .ok a
  | .error ps => .error (ps.map fun p => { p with places := place :: p.places })

def each (check : α → Checked β) (n : Nat) : List α → Checked (List β)
  | [] => .ok []
  | a :: rest => List.cons <$> located (.index n) (check a) <*> each check (n + 1) rest

theorem apply_eq_ok_iff {f : Checked (α → β)} {c : Checked α} {b : β} :
    f.apply c = .ok b ↔ ∃ g a, f = .ok g ∧ c = .ok a ∧ g a = b := by
  cases f <;> cases c <;> simp [apply]

end Checked

end TaskCatalog
