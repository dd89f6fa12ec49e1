import TaskCatalog.Catalog.Task
import TaskCatalog.Proofs.Association
import TaskCatalog.Proofs.Outcome
import Mathlib.Data.List.Forall2

/-!
The plain form of values is final: no key occurs twice in it, its numbers are finite, and a value that
is read from it has it as its own plain form, frozen and thawed or not.
-/

namespace TaskCatalog

open Text

namespace Plain

/-- Data that is a plain form: no key occurs twice in a mapping, and numbers are finite. -/
inductive Settled : Plain → Prop
  | null : Settled .null
  | truth (b : Bool) : Settled (.truth b)
  | whole (n : Int) : Settled (.whole n)
  | real {x : Float} (finite : x.isFinite = true) : Settled (.real x)
  | text (t : Text) : Settled (.text t)
  | list {ps : List Plain} (items : ∀ p ∈ ps, Settled p) : Settled (.list ps)
  | map {es : List (Text × Plain)} (distinct : (es.map (·.1)).Nodup) (entries : ∀ e ∈ es, Settled e.2) :
    Settled (.map es)

section

variable {es : List (Text × Plain)} {key k : Text} {p : Plain}

theorem mem_keys_setEntry : k ∈ (setEntry key p es).map (·.1) ↔ k = key ∨ k ∈ es.map (·.1) := by
  induction es with
  | nil => simp [setEntry]
  | cons e es ih =>
    obtain ⟨j, q⟩ := e
    by_cases same : j = key
    · subst same
      simp [setEntry]
    · rw [setEntry, if_neg same, List.map_cons, List.mem_cons, ih, List.map_cons, List.mem_cons]
      exact or_left_comm

theorem setEntry_nodup (distinct : (es.map (·.1)).Nodup) : ((setEntry key p es).map (·.1)).Nodup := by
  induction es with
  | nil => simp [setEntry]
  | cons e es ih =>
    obtain ⟨j, q⟩ := e
    rw [List.map_cons, List.nodup_cons] at distinct
    by_cases same : j = key
    · rw [setEntry, if_pos same, List.map_cons, List.nodup_cons]
      exact distinct
    · rw [setEntry, if_neg same, List.map_cons, List.nodup_cons, mem_keys_setEntry]
      exact ⟨fun member => member.elim same distinct.1, ih distinct.2⟩

theorem forall_setEntry {P : Plain → Prop} (here : P p) (there : ∀ e ∈ es, P e.2) : ∀ e ∈ setEntry key p es, P e.2 := by
  induction es with
  | nil => exact List.forall_mem_singleton.2 here
  | cons e es ih =>
    obtain ⟨j, q⟩ := e
    rw [List.forall_mem_cons] at there
    rw [setEntry]
    split
    · exact List.forall_mem_cons.2 ⟨here, there.2⟩
    · exact List.forall_mem_cons.2 ⟨there.1, ih there.2⟩

theorem setEntry_of_new (new : key ∉ es.map (·.1)) : setEntry key p es = es ++ [(key, p)] := by
  induction es with
  | nil => rfl
  | cons e es ih =>
    obtain ⟨j, q⟩ := e
    rw [List.map_cons, List.mem_cons, not_or] at new
    rw [setEntry, if_neg (Ne.symm new.1), ih new.2]
    rfl

end

end Plain

theorem Scalar.plain_settled {s : Scalar} {p : Plain} (plain : s.plain = .ok p) : p.Settled := by
  cases s with
  | real x =>
    cases plain
    split
    · rename_i finite
      exact .real finite
    · exact .null
  | bytes b =>
    obtain ⟨t, -, rfl⟩ := Outcome.map_eq_ok.1 plain
    exact .text t
  | ellipsis => cases plain
  | _ =>
    cases plain
    constructor

namespace Value

mutual

theorem plain_settled : (v : Value) → ∀ p, v.plain = .ok p → p.Settled
  | .scalar s, p, plain => Scalar.plain_settled (by rwa [Value.plain] at plain)
  | .tuple items, p, plain | .list items, p, plain | .set items, p, plain => by
    rw [Value.plain] at plain
    obtain ⟨ps, items, rfl⟩ := Outcome.map_eq_ok.1 plain
    exact .list (plainItems_settled _ ps items)
  | .map entries, p, plain => by
    rw [Value.plain] at plain
    obtain ⟨es, entries, rfl⟩ := Outcome.map_eq_ok.1 plain
    obtain ⟨distinct, settled⟩ := plainEntries_settled _ [] es List.nodup_nil (by simp) entries
    exact .map distinct settled
  | .again, p, plain => by
    rw [Value.plain] at plain
    cases plain

theorem plainItems_settled : (vs : List Value) → ∀ ps, plainItems vs = .ok ps → ∀ p ∈ ps, p.Settled
  | [], ps, plain => by
    rw [plainItems] at plain
    cases plain
    simp
  | v :: rest, ps, plain => by
    rw [plainItems] at plain
    obtain ⟨p, here, plain⟩ := Outcome.bind_eq_ok.1 plain
    obtain ⟨ps, later, plain⟩ := Outcome.bind_eq_ok.1 plain
    cases plain
    exact List.forall_mem_cons.2 ⟨plain_settled v p here, plainItems_settled rest ps later⟩

theorem plainEntries_settled : (entries : List (Value × Value)) → ∀ done es, (done.map (·.1)).Nodup →
    (∀ e ∈ done, e.2.Settled) → plainEntries entries done = .ok es →
    (es.map (·.1)).Nodup ∧ ∀ e ∈ es, e.2.Settled
  | [], done, es, distinct, settled, plain => by
    rw [plainEntries] at plain
    cases plain
    exact ⟨distinct, settled⟩
  | (k, v) :: rest, done, es, distinct, settled, plain => by
    rw [plainEntries] at plain
    obtain ⟨key, -, plain⟩ := Outcome.bind_eq_ok.1 plain
    obtain ⟨p, here, plain⟩ := Outcome.bind_eq_ok.1 plain
    exact plainEntries_settled rest _ es (Plain.setEntry_nodup distinct)
      (Plain.forall_setEntry (plain_settled v p here) settled) plain

end

theorem plainItems_of_forall₂ {vs : List Value} {ps : List Plain}
    (plain : List.Forall₂ (fun v p => v.plain = .ok p) vs ps) : plainItems vs = .ok ps := by
  induction plain with
  | nil => rfl
  | cons here _ ih =>
    rw [plainItems, here, ih]
    rfl

/-- Entries under texts that are all new are added as they stand. -/
theorem plainEntries_of_texts {f : Text × Plain → Value} {es : List (Text × Plain)} (done : List (Text × Plain))
    (plain : ∀ e ∈ es, (f e).plain = .ok e.2) (distinct : ((done ++ es).map (·.1)).Nodup) :
    plainEntries (es.map fun e => (.text e.1, f e)) done = .ok (done ++ es) := by
  induction es generalizing done with
  | nil => simp [plainEntries]
  | cons e es ih =>
    obtain ⟨k, p⟩ := e
    rw [List.forall_mem_cons] at plain
    have key : keyText (.text k) = .ok k := rfl
    have new : k ∉ done.map (·.1) := by
      rw [List.map_append, List.map_cons] at distinct
      exact fun member => (List.nodup_append.1 distinct).2.2 k member k List.mem_cons_self rfl
    rw [List.map_cons, plainEntries, key, plain.1]
    show plainEntries _ (Plain.setEntry k p done) = _
    rw [Plain.setEntry_of_new new, ih _ plain.2 (by simpa using distinct)]
    simp

theorem freezeItems_eq (vs : List Value) : freezeItems vs = vs.map freeze := by
  induction vs with
  | nil => rfl
  | cons v vs ih => rw [freezeItems, ih, List.map_cons]

theorem thawItems_eq (vs : List Value) : thawItems vs = vs.map thaw := by
  induction vs with
  | nil => rfl
  | cons v vs ih => rw [thawItems, ih, List.map_cons]

theorem freezeEntries_eq (es : List (Value × Value)) : freezeEntries es = es.map fun e => (e.1, e.2.freeze) := by
  induction es with
  | nil => rfl
  | cons e es ih => rw [freezeEntries, ih, List.map_cons]

theorem thawEntries_eq (es : List (Value × Value)) : thawEntries es = es.map fun e => (e.1, e.2.thaw) := by
  induction es with
  | nil => rfl
  | cons e es ih => rw [thawEntries, ih, List.map_cons]

end Value

namespace Plain

theorem itemsToValues_eq (ps : List Plain) : itemsToValues ps = ps.map toValue := by
  induction ps with
  | nil => rfl
  | cons p ps ih => rw [itemsToValues, ih, List.map_cons]

theorem entriesToValues_eq (es : List (Text × Plain)) :
    entriesToValues es = es.map fun e => (.text e.1, e.2.toValue) := by
  induction es with
  | nil => rfl
  | cons e es ih => rw [entriesToValues, ih, List.map_cons]

/-- A plain form is final: what is read from it and kept frozen has it as its plain form again. -/
theorem Settled.plain_frozen {p : Plain} (settled : p.Settled) : p.toValue.freeze.thaw.plain = .ok p := by
  induction settled with
  | null | truth | whole | text => rfl
  | real finite => simp [toValue, Value.freeze, Value.thaw, Value.plain, Scalar.plain, finite]
  | list items ih =>
    rw [toValue, Value.freeze, Value.thaw, Value.plain, itemsToValues_eq, Value.freezeItems_eq, Value.thawItems_eq,
      List.map_map, List.map_map]
    refine Outcome.map_eq_ok.2 ⟨_, Value.plainItems_of_forall₂ ?_, rfl⟩
    exact List.forall₂_map_left_iff.2 (List.forall₂_same.2 ih)
  | map distinct entries ih =>
    rw [toValue, Value.freeze, Value.thaw, Value.plain, entriesToValues_eq, Value.freezeEntries_eq,
      Value.thawEntries_eq, List.map_map, List.map_map]
    refine Outcome.map_eq_ok.2 ⟨_, ?_, rfl⟩
    exact Value.plainEntries_of_texts (f := fun e => e.2.toValue.freeze.thaw) [] ih distinct

end Plain

end TaskCatalog
