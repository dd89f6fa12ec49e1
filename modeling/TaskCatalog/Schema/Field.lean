import TaskCatalog.Schema.Problem
import TaskCatalog.Value.Equality

/-!
Checks of single values and of records. Texts come only from texts and readable bytes; truth values
also come from zero and one and from the usual words for them.
-/

namespace TaskCatalog

open Text

namespace Checked

def text : Value → Checked Text
  | .text t => .ok t
  | .bytes b =>
    match decodeUtf8 b with
    | .ok cs => .ok (ofChars cs)
    | .error _ => problem .brokenText
  | _ => problem .notText

def nonempty (v : Value) : Checked { t : Text // t ≠ [] } :=
  (text v).andThen fun t =>
    if t.any Letter.isHalf then problem .brokenText
    else if h : t = [] then problem .tooShort
    else .ok ⟨t, h⟩

def optional {α : Type} (check : Value → Checked α) : Value → Checked (Option α)
  | .null => .ok none
  | v => (check v).map some

def goalName (v : Value) : Checked GoalName :=
  (text v).andThen fun t =>
    match h : GoalName.fault? t with
    | none => .ok ⟨t, h⟩
    | some fault => problem (.goalName t fault)

def falseWords : List String := ["0", "off", "f", "false", "n", "no"]

def trueWords : List String := ["1", "on", "t", "true", "y", "yes"]

def truthOfWord (cs : List Char) : Checked Bool :=
  let word := String.ofList (cs.map Char.toLower)
  if falseWords.contains word then .ok false
  else if trueWords.contains word then .ok true
  else problem .unclearTruth

def truthOfWhole (n : Int) : Checked Bool :=
  if n = 0 then .ok false else if n = 1 then .ok true else problem .unclearTruth

def truth : Value → Checked Bool
  | .truth b => .ok b
  | .whole n => truthOfWhole n
  | .real x =>
    match Number.binary? x with
    | some b =>
      let scale := Nat.pow 2 (-b.exponent).toNat
      let magnitude := b.significand * Nat.pow 2 b.exponent.toNat
      if magnitude % scale ≠ 0 ∨ Nat.pow 2 63 ≤ magnitude / scale then problem .notTruth
      else truthOfWhole (if b.negative then -(magnitude / scale : Nat) else (magnitude / scale : Nat))
    | none => problem .notTruth
  | .text t =>
    match chars? t with
    | some cs => truthOfWord cs
    | none => problem .brokenText
  | .bytes b =>
    match decodeUtf8 b with
    | .ok cs => truthOfWord cs
    | .error _ => problem .unclearTruth
  | _ => problem .notTruth

/-- The items of anything that is a sequence or a set. -/
def items? : Value → Option (List Value)
  | .tuple items | .list items | .set items => some items
  | _ => none

def list {α : Type} (kind : ProblemKind) (check : Value → Checked α) (v : Value) : Checked (List α) :=
  match items? v with
  | some items => each check 0 items
  | none => problem kind

/-- Where a mapping key stands: numbers of a machine word by themselves, other keys by their literal form. -/
def keyPlace : Value → Place
  | .text t => .key t
  | .truth b => .number (if b then 1 else 0)
  | .whole n => if -(Nat.pow 2 63 : Int) ≤ n ∧ n < (Nat.pow 2 63 : Int) then .number n else .key (ofInt n)
  | v => .key v.literal

def mapping : Value → Checked (List (Text × Value))
  | .map entries => (keys entries).map fun ks =>
      (Value.mapOfEntries (ks.zip (entries.map (·.2)) |>.map fun (k, v) => (.text k, v))).filterMap
        fun | (.text k, v) => some (k, v) | _ => none
  | _ => problem .notMapping
where
  keys : List (Value × Value) → Checked (List Text)
    | [] => .ok []
    | (k, _) :: rest =>
      List.cons <$> located (keyPlace k) (located (.key "[key]") (text k)) <*> keys rest

end Checked

/-- The entries of a record that was given as a mapping. -/
structure Record where
  entries : List (Value × Value)

namespace Record

def get? (r : Record) (name : Text) : Option Value := Value.lookup? r.entries name

def ofValue (model : Text) : Value → Checked Record
  | .map entries => .ok ⟨entries⟩
  | _ => Checked.problem (.notModel model)

def ofPairs (pairs : List (Text × Value)) : Record := ⟨pairs.map fun (k, v) => (.text k, v)⟩

/-- The field under one of its names, the first that is there, or what it is without. -/
def field {α : Type} (r : Record) (names : List Text) (absent : Option α) (check : Value → Checked α) :
    Checked α :=
  match names.find? fun name => (r.get? name).isSome with
  | some name => Checked.located (.key name) (check ((r.get? name).getD .null))
  | none =>
    match absent with
    | some a => .ok a
    | none => .error [⟨[.key (names.headD [])], .missing⟩]

def required {α : Type} (r : Record) (name : Text) (check : Value → Checked α) : Checked α :=
  r.field [name] none check

def withDefault {α : Type} (r : Record) (name : Text) (default : α) (check : Value → Checked α) :
    Checked α :=
  r.field [name] (some default) check

def optionalText (r : Record) (name : Text) : Checked (Option Text) :=
  r.withDefault name none (Checked.optional Checked.text)

/-- The names of a record's fields: of each field, the first name of its own that is there. -/
def used (r : Record) (fields : List (List Text)) : List Text :=
  fields.filterMap fun names => names.find? fun name => (r.get? name).isSome

def extras (r : Record) (fields : List (List Text)) : List Problem :=
  let used := r.used fields
  r.entries.filterMap fun (k, _) =>
    match k with
    | .text name => if used.contains name then none else some ⟨[.key name], .extra⟩
    | k => some ⟨[Checked.keyPlace k], .badKey⟩

end Record

/-- A checked model whose record may hold nothing else. -/
def Checked.closed {α : Type} (extras : List Problem) : Checked α → Checked α
  | .ok a => if extras.isEmpty then .ok a else .error extras
  | .error ps => .error (ps ++ extras)

end TaskCatalog
