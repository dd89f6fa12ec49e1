import TaskCatalog.Proofs.Reload
import TaskCatalog.Proofs.WrittenNodes

/-!
The values of a document that was written: its nodes have the values of the data, and so the whole text is read as
the data that it was written from.
-/

namespace TaskCatalog.Yaml

open Text Number

namespace Built

theorem all_of_each {α β : Type} {f : α → Built β} {g : α → β} {as : List α} (each : ∀ a ∈ as, f a = .ok (g a)) :
    all (as.map f) = .ok (as.map g) := by
  induction as with
  | nil => rfl
  | cons a as ih =>
    rw [List.forall_mem_cons] at each
    rw [List.map_cons, all, each.1, ih each.2]
    rfl

end Built

namespace Node

variable {fuel : Nat} {t : Text}

theorem height_mem_items {n : Node} {ns : List Node} (member : n ∈ ns) : n.height ≤ itemsHeight ns := by
  induction ns with
  | nil => cases member
  | cons m ns ih =>
    rw [itemsHeight]
    rcases List.mem_cons.1 member with rfl | later
    · exact le_max_left _ _
    · exact le_trans (ih later) (le_max_right _ _)

theorem height_mem_entries {n : Node × Node} {ns : List (Node × Node)} (member : n ∈ ns) :
    n.2.height ≤ entriesHeight ns := by
  induction ns with
  | nil => cases member
  | cons m ns ih =>
    rw [entriesHeight]
    rcases List.mem_cons.1 member with rfl | later
    · exact le_trans (le_max_right _ _) (le_max_left _ _)
    · exact le_trans (ih later) (le_max_right _ _)

theorem value_whole {n : Int} (spelled : (Nat.repr n.natAbs).length ≤ decimalLimit) :
    (Node.scalar (.known .whole) (ofInt n)).value (fuel + 1) = .ok (.whole n) := by
  have number : scalarValue .whole (ofInt n) = .ok (.whole n) := by
    rw [scalarValue, ofInt_eq, chars?_ofChars]
    exact congrArg (Except.map Value.whole) (whole_ofInt spelled)
  show Built.now (scalarValue .whole (ofInt n)) = _
  rw [number]
  rfl

theorem value_real {x : Float} (finite : x.isFinite = true) :
    (Node.scalar (.known .real) (floatText Writing.numberStyle x)).value (fuel + 1) = .ok (.real x) := by
  obtain ⟨negative, n, text, same⟩ := @exists_spelling Writing.numberStyle rfl rfl x finite
  have number : scalarValue .real (floatText Writing.numberStyle x) = .ok (.real x) := by
    rw [scalarValue, text]
    exact congrArg (Except.map Value.real) ((real_numeral negative n).trans (congrArg Except.ok same))
  show Built.now (scalarValue .real (floatText Writing.numberStyle x)) = _
  rw [number]
  rfl

theorem flatten_fields (es : List (Text × Plain)) : flatten (Writing.fieldsOf es) = .ok ([], Writing.fieldsOf es) := by
  induction es with
  | nil => rfl
  | cons e es ih =>
    obtain ⟨key, v⟩ := e
    rw [Writing.fieldsOf, flatten, ih]
    rfl

end Node

namespace Writing

theorem nodesOf_eq (is : List Plain) : nodesOf is = is.map nodeOf := by
  induction is with
  | nil => rfl
  | cons item is ih => rw [nodesOf, ih, List.map_cons]

theorem fieldsOf_eq (es : List (Text × Plain)) :
    fieldsOf es = es.map fun e => (.scalar (.known .text) e.1, nodeOf e.2) := by
  induction es with
  | nil => rfl
  | cons e es ih => rw [fieldsOf, ih, List.map_cons]

theorem areSpelled_iff {is : List Plain} : areSpelled is = true ↔ ∀ p ∈ is, isSpelled p = true := by
  induction is with
  | nil => simp [areSpelled]
  | cons item is ih => rw [areSpelled, Bool.and_eq_true, ih, List.forall_mem_cons]

theorem entriesSpelled_iff {es : List (Text × Plain)} : entriesSpelled es = true ↔ ∀ e ∈ es, isSpelled e.2 = true := by
  induction es with
  | nil => simp [entriesSpelled]
  | cons e es ih => rw [entriesSpelled, Bool.and_eq_true, ih, List.forall_mem_cons]

theorem exists_fuel {p : Plain} {fuel : Nat} (enough : (nodeOf p).height ≤ fuel) : ∃ left, fuel = left + 1 := by
  have positive : 0 < (nodeOf p).height := by
    cases p <;> exact Nat.succ_pos _
  exact Nat.exists_eq_succ_of_ne_zero (Nat.ne_of_gt (le_trans positive enough))

theorem value_list {is : List Plain} {fuel : Nat} (each : ∀ p ∈ is, (nodeOf p).value fuel = .ok p.toValue) :
    (nodeOf (.list is)).value (fuel + 1) = .ok (Plain.list is).toValue := by
  have all := Built.all_of_each (f := fun p => (nodeOf p).value fuel) each
  rw [Plain.toValue, Plain.itemsToValues_eq]
  show ((Built.all ((nodesOf is).map (Node.value fuel))).deeper.map Value.list) = _
  rw [nodesOf_eq, List.map_map]
  exact congrArg (fun x => (Built.deeper x).map Value.list) all

theorem mapOfEntries_texts {es : List (Text × Plain)} (distinct : (es.map (·.1)).Nodup) :
    Value.mapOfEntries (es.map fun e => (.text e.1, e.2.toValue)) = es.map fun e => (.text e.1, e.2.toValue) := by
  have keys : ((es.map fun e => (e.1, e.2.toValue)).map (·.1)).Nodup := by
    rw [List.map_map]
    exact distinct
  have texts := Checked.mapOfEntries_of_new [] keys
  rw [List.nil_append, List.map_map] at texts
  exact texts

theorem value_map {es : List (Text × Plain)} {fuel : Nat} (distinct : (es.map (·.1)).Nodup)
    (each : ∀ e ∈ es, (nodeOf e.2).value (fuel + 1) = .ok e.2.toValue) :
    (nodeOf (.map es)).value (fuel + 2) = .ok (Plain.map es).toValue := by
  have entries : ∀ e ∈ es, Built.both (Node.keyValue (Node.value (fuel + 1)) (.scalar (.known .text) e.1))
      ((nodeOf e.2).value (fuel + 1)) = .ok (.text e.1, e.2.toValue) := by
    intro e he
    rw [each e he]
    rfl
  have all := Built.all_of_each entries
  rw [Plain.toValue, Plain.entriesToValues_eq]
  show (Node.mappingEntries (Node.value (fuel + 1)) (.mapping (.known .mapping) (fieldsOf es))).deeper.map
    (fun es => Value.map (Value.mapOfEntries es)) = _
  rw [Node.mappingEntries, Node.flatten_fields]
  show (Built.all ((fieldsOf es).map _)).deeper.map (fun es => Value.map (Value.mapOfEntries es)) = _
  rw [fieldsOf_eq, List.map_map]
  refine (congrArg (fun x => (Built.deeper x).map fun es => Value.map (Value.mapOfEntries es)) all).trans ?_
  exact congrArg (fun es => Except.ok (Value.map es)) (mapOfEntries_texts distinct)

/-- The value of a node is that of the data it was written from. -/
theorem value_nodeOf {p : Plain} (settled : p.Settled) (spelled : isSpelled p = true) {fuel : Nat}
    (enough : (nodeOf p).height ≤ fuel) : (nodeOf p).value fuel = .ok p.toValue := by
  -- The fuel bounds the height, so each collection leaves enough for what is inside it.
  induction settled generalizing fuel with
  | null | text =>
    obtain ⟨fuel, rfl⟩ := exists_fuel enough
    rfl
  | truth b =>
    obtain ⟨fuel, rfl⟩ := exists_fuel enough
    cases b <;> rfl
  | whole n =>
    obtain ⟨fuel, rfl⟩ := exists_fuel enough
    exact Node.value_whole (of_decide_eq_true spelled)
  | real finite =>
    obtain ⟨fuel, rfl⟩ := exists_fuel enough
    exact Node.value_real finite
  | @list is items ih =>
    obtain ⟨fuel, rfl⟩ := exists_fuel enough
    rw [nodeOf, Node.height] at enough
    refine value_list fun p hp => ih p hp (areSpelled_iff.1 spelled p hp) ?_
    refine le_trans (Node.height_mem_items ?_) (Nat.le_of_succ_le_succ enough)
    rw [nodesOf_eq]
    exact List.mem_map_of_mem hp
  | @map es distinct entries ih =>
    obtain ⟨fuel, rfl⟩ := exists_fuel enough
    rw [nodeOf, Node.height] at enough
    have room : ∀ e ∈ es, (nodeOf e.2).height ≤ fuel := by
      intro e he
      refine le_trans (Node.height_mem_entries (n := (.scalar (.known .text) e.1, nodeOf e.2)) ?_)
        (Nat.le_of_succ_le_succ enough)
      rw [fieldsOf_eq]
      exact List.mem_map_of_mem he
    cases es with
    | nil => rfl
    | cons e es =>
      obtain ⟨fuel, rfl⟩ := exists_fuel (room e List.mem_cons_self)
      exact value_map distinct fun e he => ih e he (entriesSpelled_iff.1 spelled e he) (room e he)

/-- What was written of plain data is read as it, if all its texts and keys read back where they stand. -/
theorem read_write {es : List (Text × Plain)} (settled : (Plain.map es).Settled) (spelled : entriesSpelled es = true)
    (readable : entriesReadable 0 es = true) : read (chars (write es)) = .ok (Plain.map es).toValue := by
  have value := value_nodeOf settled spelled (le_refl _)
  cases es with
  | nil =>
    have composed : Node.ofChars (chars (write [])) = .ok (some (.mapping (.known .mapping) [])) := by
      rfl
    rw [read, composed]
    exact congrArg (Except.mapError Prod.snd) value
  | cons e es =>
    cases settled with
    | map distinct entries =>
      rw [read, node_write (List.cons_ne_nil e es) entries readable]
      exact congrArg (Except.mapError Prod.snd) value

end Writing

end TaskCatalog.Yaml
