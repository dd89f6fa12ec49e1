import TaskCatalog.Calendar
import TaskCatalog.Text.Encoding

/-!
Dynamic values: what a literal of a source or a node of a metadata file denotes. Configuration is
such data and passes through the catalog as it was declared.
-/

namespace TaskCatalog

inductive Scalar where
  | null
  | truth (b : Bool)
  | whole (n : Int)
  | real (x : Float)
  | complex (re im : Float)
  | text (t : Text)
  | bytes (b : Text.Bytes)
  | ellipsis
  | day (d : Day)
  | moment (m : Moment)
  deriving DecidableEq

inductive Value where
  | scalar (s : Scalar)
  | tuple (items : List Value)
  | list (items : List Value)
  | set (items : List Value)
  | map (entries : List (Value × Value))
  /-- The collection around it, met again inside itself. -/
  | again

namespace Value

@[match_pattern] abbrev null : Value := .scalar .null
@[match_pattern] abbrev truth (b : Bool) : Value := .scalar (.truth b)
@[match_pattern] abbrev whole (n : Int) : Value := .scalar (.whole n)
@[match_pattern] abbrev real (x : Float) : Value := .scalar (.real x)
@[match_pattern] abbrev complex (re im : Float) : Value := .scalar (.complex re im)
@[match_pattern] abbrev text (t : Text) : Value := .scalar (.text t)
@[match_pattern] abbrev bytes (b : Text.Bytes) : Value := .scalar (.bytes b)
@[match_pattern] abbrev ellipsis : Value := .scalar .ellipsis
@[match_pattern] abbrev day (d : Day) : Value := .scalar (.day d)
@[match_pattern] abbrev moment (m : Moment) : Value := .scalar (.moment m)

instance : Inhabited Value := ⟨null⟩

mutual

def same : Value → Value → Bool
  | .scalar a, .scalar b => decide (a = b)
  | .tuple a, .tuple b => sameItems a b
  | .list a, .list b => sameItems a b
  | .set a, .set b => sameItems a b
  | .map a, .map b => sameEntries a b
  | .again, .again => true
  | _, _ => false

def sameItems : List Value → List Value → Bool
  | [], [] => true
  | a :: as, b :: bs => same a b && sameItems as bs
  | _, _ => false

def sameEntries : List (Value × Value) → List (Value × Value) → Bool
  | [], [] => true
  | (a, x) :: as, (b, y) :: bs => same a b && same x y && sameEntries as bs
  | _, _ => false

end

mutual

theorem same_iff : (a b : Value) → (same a b = true ↔ a = b)
  | .scalar a, b => by cases b <;> simp [same]
  | .tuple a, b => by cases b <;> simp [same, sameItems_iff a]
  | .list a, b => by cases b <;> simp [same, sameItems_iff a]
  | .set a, b => by cases b <;> simp [same, sameItems_iff a]
  | .map a, b => by cases b <;> simp [same, sameEntries_iff a]
  | .again, b => by cases b <;> simp [same]

theorem sameItems_iff : (a b : List Value) → (sameItems a b = true ↔ a = b)
  | [], b => by cases b <;> simp [sameItems]
  | a :: as, b => by cases b <;> simp [sameItems, same_iff a, sameItems_iff as]

theorem sameEntries_iff : (a b : List (Value × Value)) → (sameEntries a b = true ↔ a = b)
  | [], b => by cases b <;> simp [sameEntries]
  | (a, x) :: as, b => by
    cases b <;> simp [sameEntries, same_iff a, same_iff x, sameEntries_iff as, Prod.ext_iff]

end

instance : DecidableEq Value := fun a b => decidable_of_iff _ (same_iff a b)

/-- Whether a value counts as nothing: null, false, zero, or empty. -/
def isFalsy : Value → Bool
  | .scalar .null => true
  | .scalar (.truth b) => !b
  | .scalar (.whole n) => n == 0
  | .scalar (.real x) => x == 0
  | .scalar (.complex re im) => re == 0 && im == 0
  | .scalar (.text t) => t.isEmpty
  | .scalar (.bytes b) => b.isEmpty
  | .tuple items | .list items | .set items => items.isEmpty
  | .map entries => entries.isEmpty
  | _ => false

end Value

end TaskCatalog
