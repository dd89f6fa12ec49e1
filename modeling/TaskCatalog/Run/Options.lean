import TaskCatalog.Failure
import TaskCatalog.Schema.Field
import TaskCatalog.Value.Print

/-!
Options of a run: an override of the goal prefix and a selection of extractors. No selection means
every extractor, an empty one means none.
-/

namespace TaskCatalog

open Text

/-- The names that are selected, or everything. -/
abbrev Selection := Option (List Text)

structure RunOptions where
  goalPrefix : Option Text
  extractors : Selection
  deriving DecidableEq

namespace Selection

def clean (names : List Text) : List Text := distinct ((names.map trim).filter (!·.isEmpty))

def ofList (t : Text) : List Text := clean (splitOn (.scalar ',') t)

/-- What a loop over a value meets: items, the keys of a mapping, the letters of a text, or the numbers of bytes. -/
def members? : Value → Option (List Value)
  | .tuple items | .list items | .set items => some items
  | .map entries => some (entries.map (·.1))
  | .text t => some (t.map fun l => .text [l])
  | .bytes b => some (b.map fun n => .whole n.toNat)
  | _ => none

/-- The names that a value selects; any value that is no text by itself is shown as text. -/
def shownNames (v : Value) : Except Breakdown (List Text) :=
  match members? v with
  | some vs => .ok (clean (vs.map Value.shown))
  | none => .error .wrongType

/-- What states the names of a selection: values one after the other, and what breaks the loop over them off. -/
structure Items where
  values : List Value
  broken : Option Failure

namespace Items

/-- The items of a value; a loop over a value without items breaks off at once. -/
def ofValue (v : Value) : Items :=
  match members? v with
  | some values => ⟨values, none⟩
  | none => ⟨[], some (.breakdown .wrongType)⟩

/-- Something that cannot be trimmed and does not count as nothing. -/
def isForeign : Value → Bool
  | .text _ | .bytes _ => false
  | v => !v.isFalsy

def isByteName : Value → Bool
  | .bytes b => b.any fun n => !(n == 32 || (9 ≤ n && n ≤ 13))
  | _ => false

def text? : Value → Option Text
  | .text t => some t
  | _ => none

/-- The names that are stated. The loop over the items ends at the first that cannot be trimmed; bytes fail later. -/
def names (x : Items) : Except Failure (List Text) :=
  if x.values.any isForeign then .error (.breakdown .noAttribute)
  else match x.broken with
    | some f => .error f
    | none =>
      if x.values.any isByteName then .error (.breakdown .wrongType)
      else .ok (clean (x.values.filterMap text?))

end Items

end Selection

namespace RunOptions

def default : RunOptions := ⟨none, none⟩

def checkExtractors : Value → Except Breakdown (Checked Selection)
  | .null => .ok (.ok none)
  | .text _ => .ok (Checked.problem .notSet)
  | v => (Selection.shownNames v).map fun names => .ok (some names)

def ofRecord (r : Record) : Except Breakdown (Checked RunOptions) := do
  let key : Text := "active_extractors"
  let extractors ← checkExtractors ((r.get? key).getD .null)
  return RunOptions.mk <$> r.optionalText "goal_prefix" <*> Checked.located (.key key) extractors

end RunOptions

end TaskCatalog
