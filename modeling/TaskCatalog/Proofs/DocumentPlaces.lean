import TaskCatalog.Proofs.Association
import TaskCatalog.Proofs.Outcome
import TaskCatalog.Yaml.Reading

/-!
Where nodes stand in a document: under the texts of mappings and at the positions of sequences. Their values stand at
the same places in the value of the document.
-/

namespace TaskCatalog.Yaml

open Text Outcome

namespace Built

variable {α β : Type}

theorem both_eq_ok {x : Built α} {y : Built β} {r : α × β} : both x y = .ok r ↔ x = .ok r.1 ∧ y = .ok r.2 := by
  obtain ⟨a, b⟩ := r
  cases x with
  | ok a' => cases y <;> simp [both]
  | error e =>
    cases y with
    | ok b' => simp [both]
    | error f =>
      rw [both]
      split <;> simp

theorem deeper_eq_ok {x : Built α} {a : α} : x.deeper = .ok a ↔ x = .ok a := by
  cases x <;> simp [deeper]

theorem now_eq_ok {x : Except Fault α} {a : α} : now x = .ok a ↔ x = .ok a := by
  cases x <;> simp [now]

theorem forall₂_of_all {xs : List (Built α)} {as : List α} (h : all xs = .ok as) :
    List.Forall₂ (fun x a => x = .ok a) xs as := by
  induction xs generalizing as with
  | nil =>
    cases h
    exact .nil
  | cons x xs ih =>
    obtain ⟨⟨a, as⟩, both, rfl⟩ := map_eq_ok.1 h
    obtain ⟨here, later⟩ := both_eq_ok.1 both
    exact .cons here (ih later)

end Built

namespace Node

variable {n m k : Node} {t name : Text} {fuel i : Nat} {v : Value}

/-- A node that is read as a text. -/
structure Spells (n : Node) (t : Text) : Prop where
  tag : n.tag = .known .text
  text : n.scalarText = .ok t

instance (n : Node) (t : Text) : Decidable (n.Spells t) :=
  decidable_of_iff (n.tag = .known .text ∧ n.scalarText.toOption = some t)
    ⟨fun ⟨tag, text⟩ => ⟨tag, toOption_eq_some.1 text⟩, fun ⟨tag, text⟩ => ⟨tag, toOption_eq_some.2 text⟩⟩

/-- What a mapping has under a text: what stands there last, after all that is merged in. -/
def field? (name : Text) : Node → Option Node
  | .mapping (.known .mapping) entries => do
    let (merged, own) ← (flatten entries).toOption
    let (_, m) ← (merged ++ own).reverse.find? fun (k, _) => k.Spells name
    return m
  | _ => none

def item? (i : Nat) : Node → Option Node
  | .sequence (.known .sequence) items => items[i]?
  | _ => none

theorem eq_text_of_spells (spells : n.Spells t) (read : n.value fuel = .ok v) : v = .text t := by
  obtain ⟨tag, text⟩ := spells
  unfold value at read
  split at read
  · cases tag
  · cases read
  · rw [tag] at read
    dsimp only at read
    rw [text] at read
    exact (Except.ok.inj read).symm

theorem moment_ne_text {u : Text} : ScalarValue.moment u ≠ .ok (.text t) := by
  intro read
  unfold ScalarValue.moment at read
  split at read
  · cases read
  · dsimp only at read
    split at read
    · split at read <;> cases read
    · split at read <;> cases read

theorem eq_text_of_scalarValue {kind : Kind} {u : Text} (read : scalarValue kind u = .ok (.text t)) :
    kind = .text ∧ u = t := by
  unfold scalarValue at read
  split at read
  · cases read
  · cases (map_eq_ok.1 read).choose_spec.2
  · split at read
    · cases (map_eq_ok.1 read).choose_spec.2
    · cases read
  · cases (map_eq_ok.1 read).choose_spec.2
  · cases (map_eq_ok.1 read).choose_spec.2
  · obtain ⟨scalar, moment, same⟩ := map_eq_ok.1 read
    cases same
    exact absurd moment moment_ne_text
  · cases read
    exact ⟨rfl, rfl⟩
  · cases read

theorem spells_of_value (read : n.value fuel = .ok (.text t)) : n.Spells t := by
  unfold value at read
  split at read
  · cases read
  · cases read
  · split at read
    · cases read
    · cases (map_eq_ok.1 read).choose_spec.2
    · cases (map_eq_ok.1 read).choose_spec.2
    · cases (map_eq_ok.1 read).choose_spec.2
    · cases (map_eq_ok.1 read).choose_spec.2
    · cases (map_eq_ok.1 read).choose_spec.2
    · next kind _ _ _ _ _ tag =>
      obtain ⟨u, text, made⟩ := bind_eq_ok.1 (Built.now_eq_ok.1 read)
      obtain ⟨rfl, rfl⟩ := eq_text_of_scalarValue made
      exact ⟨tag, text⟩

theorem keyValue_eq_ok {read : Node → Built Value} {key : Value} (h : keyValue read k = .ok key) : read k = .ok key := by
  rw [keyValue] at h
  cases made : read k with
  | ok v =>
    rw [made] at h
    dsimp only at h
    split at h
    · exact h
    · cases h
  | error e =>
    obtain ⟨level, fault⟩ := e
    rw [made] at h
    cases level <;> cases h

/-- The entry that counts is followed by none for the same text. -/
theorem exists_last (field : n.field? name = some m) : ∃ entries merged own before k after,
    n = .mapping (.known .mapping) entries ∧ flatten entries = .ok (merged, own) ∧
      merged ++ own = before ++ (k, m) :: after ∧ k.Spells name ∧ ∀ e ∈ after, ¬ e.1.Spells name := by
  unfold field? at field
  split at field
  · next entries =>
    obtain ⟨⟨merged, own⟩, flat, field⟩ := Option.bind_eq_some_iff.1 field
    obtain ⟨⟨k, _⟩, last, same⟩ := Option.bind_eq_some_iff.1 field
    cases same
    obtain ⟨spells, after, before, split, none⟩ := List.find?_eq_some_iff_append.1 last
    refine ⟨entries, merged, own, before.reverse, k, after.reverse, rfl, toOption_eq_some.1 flat, ?_, by simpa using spells,
      fun e member => by simpa using none e (List.mem_reverse.1 member)⟩
    rw [← List.reverse_reverse (merged ++ own), split]
    simp
  · cases field

theorem value_field (field : n.field? name = some m) (read : n.value fuel = .ok v) :
    ∃ es w left, v = .map es ∧ Value.lookup? es name = some w ∧ m.value left = .ok w := by
  obtain ⟨entries, merged, own, before, k, after, rfl, flat, split, spells, last⟩ := exists_last field
  obtain _ | fuel := fuel
  · cases read
  obtain ⟨es, made, rfl⟩ := map_eq_ok.1 (show Except.map _ _ = _ from read)
  rw [Built.deeper_eq_ok, mappingEntries, flat] at made
  have each := List.forall₂_map_left_iff.1 (Built.forall₂_of_all made)
  rw [split] at each
  obtain ⟨first, e, rest, rfl, -, here, later⟩ := forall₂_split each
  obtain ⟨key, value⟩ := Built.both_eq_ok.1 here
  have same : e.1 = .text name := eq_text_of_spells spells (keyValue_eq_ok key)
  obtain ⟨_, w⟩ := e
  cases same
  refine ⟨_, w, fuel, rfl, Value.lookup?_mapOfEntries fun e' member same => ?_, value⟩
  obtain ⟨entry, inside, read⟩ := exists_of_forall₂ later member
  refine last entry inside (@spells_of_value _ name fuel ?_)
  rw [← same]
  exact keyValue_eq_ok (Built.both_eq_ok.1 read).1

theorem value_item (item : n.item? i = some m) (read : n.value fuel = .ok v) :
    ∃ vs w left, v = .list vs ∧ vs[i]? = some w ∧ m.value left = .ok w := by
  unfold item? at item
  split at item
  · next nodes =>
    obtain _ | fuel := fuel
    · cases read
    obtain ⟨vs, made, rfl⟩ := map_eq_ok.1 (show Except.map _ _ = _ from read)
    rw [Built.deeper_eq_ok, items] at made
    have each := List.forall₂_map_left_iff.1 (Built.forall₂_of_all made)
    obtain ⟨w, found, value⟩ := getElem?_of_forall₂ each item
    exact ⟨vs, w, fuel, rfl, found, value⟩
  · cases item

end Node

end TaskCatalog.Yaml
