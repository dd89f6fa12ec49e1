import TaskCatalog.Value.Equality
import TaskCatalog.Yaml.Node
import TaskCatalog.Yaml.ScalarValue

/-!
The value of a metadata document. Collections are filled level by level, so of several faults the
one that lies least deep is met, and of those the first.
-/

namespace TaskCatalog.Yaml

open Text

/-- A value, or a fault and the level at which it is met. -/
abbrev Built (α : Type) := Except (Nat × Fault) α

namespace Built

variable {α β : Type}

def now : Except Fault α → Built α
  | .ok a => .ok a
  | .error e => .error (0, e)

def deeper : Built α → Built α
  | .ok a => .ok a
  | .error (n, e) => .error (n + 1, e)

def both : Built α → Built β → Built (α × β)
  | .ok a, .ok b => .ok (a, b)
  | .error e, .ok _ => .error e
  | .ok _, .error e => .error e
  | .error (m, e), .error (n, f) => if m ≤ n then .error (m, e) else .error (n, f)

def all : List (Built α) → Built (List α)
  | [] => .ok []
  | x :: rest => (both x (all rest)).map fun (a, as) => a :: as

end Built

namespace Node

mutual

def height : Node → Nat
  | .scalar .. | .again => 1
  | .sequence _ items => itemsHeight items + 1
  | .mapping _ entries => entriesHeight entries + 1

def itemsHeight : List Node → Nat
  | [] => 0
  | n :: rest => max (height n) (itemsHeight rest)

def entriesHeight : List (Node × Node) → Nat
  | [] => 0
  | (k, v) :: rest => max (max (height k) (height v)) (entriesHeight rest)

end

def tag : Node → Tag
  | .scalar t _ | .sequence t _ | .mapping t _ => t
  | .again => .unknown

/-- A node whose tag makes it stand for the mapping around it, as plain text. -/
def asText : Node → Node
  | .scalar _ t => .scalar (.known .text) t
  | .sequence _ items => .sequence (.known .text) items
  | .mapping _ entries => .mapping (.known .text) entries
  | .again => .again

mutual

/-- The entries that are merged into a mapping, and its own. -/
def flatten : List (Node × Node) → Except Fault (List (Node × Node) × List (Node × Node))
  | [] => .ok ([], [])
  | (k, v) :: rest => do
    if k.tag = .known .merge then
      let merged ← mergedEntries v
      let (more, own) ← flatten rest
      return (merged ++ more, own)
    else
      let (merged, own) ← flatten rest
      return (merged, (if k.tag = .known .value then k.asText else k, v) :: own)

def mergedEntries : Node → Except Fault (List (Node × Node))
  | .mapping _ entries => (flatten entries).map fun (merged, own) => merged ++ own
  | .sequence _ items => mergedItems items
  | .again => .ok []
  | .scalar .. => .error .malformed

/-- The entries of several mappings; those of earlier ones come later and so win. -/
def mergedItems : List Node → Except Fault (List (Node × Node))
  | [] => .ok []
  | .mapping _ entries :: rest => do
    let (merged, own) ← flatten entries
    return (← mergedItems rest) ++ merged ++ own
  | .again :: rest => mergedItems rest
  | _ :: _ => .error .malformed

end

mutual

/-- The text of a scalar, or of the scalar that stands for a mapping. -/
def scalarText : Node → Except Fault Text
  | .scalar _ t => .ok t
  | .mapping _ entries => standInText entries
  | _ => .error .malformed

def standInText : List (Node × Node) → Except Fault Text
  | [] => .error .malformed
  | (k, v) :: rest => if k.tag = .known .value then scalarText v else standInText rest

end

def scalarValue (k : Kind) (t : Text) : Except Fault Value :=
  match k with
  | .null => .ok .null
  | .truth => (ScalarValue.truth t).map .truth
  | .whole =>
    match t.chars? with
    | some cs => (ScalarValue.whole cs).map .whole
    | none => .error .badNumber
  | .real => (ScalarValue.real t).map .real
  | .binary => (ScalarValue.binary t).map .bytes
  | .moment => (ScalarValue.moment t).map .scalar
  | .text => .ok (.text t)
  | _ => .error .malformed

def pair : Node → Except Fault (Node × Node)
  | .mapping _ [entry] => .ok entry
  | _ => .error .malformed

def pairValue (read : Node → Built Value) (n : Node) : Built Value :=
  match n.pair with
  | .ok (k, v) => (Built.both (read k) (read v)).map fun (a, b) => .tuple [a, b]
  | .error e => .error (0, e)

/-- A key; collections are refused before they are filled. -/
def keyValue (read : Node → Built Value) (k : Node) : Built Value :=
  match read k with
  | .ok key => if key.isKey then .ok key else .error (0, .malformed)
  | .error (0, e) => .error (0, e)
  | .error _ => .error (0, .malformed)

def mappingEntries (read : Node → Built Value) : Node → Built (List (Value × Value))
  | .mapping _ entries =>
    match flatten entries with
    | .error e => .error (0, e)
    | .ok (merged, own) =>
      Built.all ((merged ++ own).map fun (k, v) => Built.both (keyValue read k) (read v))
  | _ => .error (0, .malformed)

def items (read : Node → Built Value) : Node → Built (List Value)
  | .sequence _ items => Built.all (items.map read)
  | _ => .error (0, .malformed)

/-- The value of a node whose collections are nested at most `fuel` deep. -/
def value : Nat → Node → Built Value
  | _, .again => .ok .again
  | 0, _ => .error (0, .malformed)
  | fuel + 1, n =>
    match n.tag with
    | .unknown => .error (0, .malformed)
    | .known .sequence => (items (value fuel) n).deeper.map .list
    | .known .mapping =>
      (mappingEntries (value fuel) n).deeper.map fun es => .map (Value.mapOfEntries es)
    | .known .set =>
      (mappingEntries (value fuel) n).deeper.map fun es => .set (Value.setOfItems (es.map (·.1)))
    | .known .orderedMap | .known .pairs => (items (pairValue (value fuel)) n).deeper.map .list
    | .known k => Built.now (n.scalarText.bind (scalarValue k))

end Node

/-- The value of the only document in a text; null if there is no document. -/
def read (text : List Char) : Except Fault Value := do
  match ← Node.ofChars text with
  | none => return .null
  | some n => (n.value n.height).mapError (·.2)

end TaskCatalog.Yaml
