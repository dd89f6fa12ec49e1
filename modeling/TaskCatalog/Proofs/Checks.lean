import TaskCatalog.Catalog.Task
import Mathlib.Data.List.Forall2

/-!
What a check that finds no problem says: of its parts, of the fields of a record, and of the parts of
a task.
-/

namespace TaskCatalog

open Text

namespace Checked

variable {α β : Type}

theorem map_eq_ok {f : α → β} {c : Checked α} {b : β} : c.map f = .ok b ↔ ∃ a, c = .ok a ∧ f a = b := by
  cases c <;> simp [map]

theorem fmap_eq_ok {f : α → β} {c : Checked α} {b : β} : f <$> c = .ok b ↔ ∃ a, c = .ok a ∧ f a = b :=
  map_eq_ok

theorem seq_eq_ok {f : Checked (α → β)} {c : Checked α} {b : β} :
    f <*> c = .ok b ↔ ∃ g a, f = .ok g ∧ c = .ok a ∧ g a = b :=
  apply_eq_ok_iff

theorem andThen_eq_ok {c : Checked α} {check : α → Checked β} {b : β} :
    c.andThen check = .ok b ↔ ∃ a, c = .ok a ∧ check a = .ok b := by
  cases c <;> simp [andThen]

theorem val_of_nonempty {t : Text} {u : { t : Text // t ≠ [] }} (h : nonempty (.text t) = .ok u) : u.val = t := by
  rw [nonempty, text, andThen] at h
  split at h
  · cases h
  · split at h
    · cases h
    · cases h
      rfl

theorem located_eq_ok {place : Place} {c : Checked α} {a : α} : c.located place = .ok a ↔ c = .ok a := by
  cases c <;> simp [located]

theorem closed_nil (c : Checked α) : closed [] c = c := by
  cases c with
  | ok a => rfl
  | error ps => exact congrArg error (List.append_nil ps)

theorem closed_eq_ok {extras : List Problem} {c : Checked α} {a : α} :
    closed extras c = .ok a ↔ extras = [] ∧ c = .ok a := by
  cases c with
  | ok b =>
    rw [closed]
    cases extras <;> simp
  | error ps => simp [closed]

theorem each_eq_ok_iff {check : α → Checked β} {n : Nat} {as : List α} {bs : List β} :
    each check n as = .ok bs ↔ List.Forall₂ (fun a b => check a = .ok b) as bs := by
  induction as generalizing n bs with
  | nil => simp [each, eq_comm]
  | cons a as ih =>
    rw [each, seq_eq_ok, List.forall₂_cons_left_iff]
    constructor
    · rintro ⟨_, bs, begun, later, rfl⟩
      obtain ⟨b, here, rfl⟩ := fmap_eq_ok.1 begun
      exact ⟨b, bs, located_eq_ok.1 here, ih.1 later, rfl⟩
    · rintro ⟨b, bs, here, later, rfl⟩
      exact ⟨_, bs, fmap_eq_ok.2 ⟨b, located_eq_ok.2 here, rfl⟩, ih.2 later, rfl⟩

end Checked

namespace Record

theorem get?_ofPairs (pairs : List (Text × Value)) (name : Text) :
    (ofPairs pairs).get? name = pairs.lookup name := by
  induction pairs with
  | nil => rfl
  | cons pair pairs ih =>
    obtain ⟨k, v⟩ := pair
    rw [get?, ofPairs, List.map_cons, Value.lookup?, List.find?_cons, List.lookup_cons]
    by_cases hk : k = name
    · simp [hk]
    · have hkey : (Value.text k == Value.text name) = false := by simpa using hk
      simp only [hkey, beq_false_of_ne (Ne.symm hk)]
      exact ih

theorem withDefault_of_get? {α : Type} {r : Record} {name : Text} {v : Value} (h : r.get? name = some v)
    (default : α) (check : Value → Checked α) :
    r.withDefault name default check = (check v).located (.key name) := by
  simp [withDefault, field, h]

theorem required_eq_of_get? {α : Type} {r : Record} {name : Text} {v : Value} (h : r.get? name = some v)
    (check : Value → Checked α) : r.required name check = (check v).located (.key name) := by
  simp [required, field, h]

theorem text_of_required {pairs : List (Text × Value)} {name t : Text} {u : { t : Text // t ≠ [] }}
    (stated : pairs.lookup name = some (.text t)) (passed : (ofPairs pairs).required name Checked.nonempty = .ok u) :
    u.val = t := by
  have found : (ofPairs pairs).get? name = some (.text t) := (get?_ofPairs pairs name).trans stated
  rw [required_eq_of_get? found, Checked.located_eq_ok] at passed
  exact Checked.val_of_nonempty passed

theorem goalName_of_required {pairs : List (Text × Value)} {name t : Text} {n : GoalName}
    (stated : pairs.lookup name = some (.text t)) (passed : (ofPairs pairs).required name Checked.goalName = .ok n) :
    n.text = t := by
  have found : (ofPairs pairs).get? name = some (.text t) := (get?_ofPairs pairs name).trans stated
  rw [required_eq_of_get? found, Checked.located_eq_ok, Checked.goalName] at passed
  obtain ⟨_, same, passed⟩ := Checked.andThen_eq_ok.1 passed
  cases same
  split at passed
  · cases passed
    rfl
  · cases passed

end Record

theorem Parameter.ofRecord_eq_ok_iff {r : Record} {p : Parameter} : ofRecord r = .ok p ↔
    r.required "name" Checked.nonempty = .ok p.name ∧ r.withDefault "type" (ofString "str") Checked.text = .ok p.type ∧
      r.withDefault "required" false Checked.truth = .ok p.required ∧
      r.withDefault "editable" true Checked.truth = .ok p.editable ∧
      r.optionalText "default_value" = .ok p.defaultValue ∧ r.optionalText "expression" = .ok p.expression ∧
      r.optionalText "description" = .ok p.description ∧ r.optionalText "since" = .ok p.since ∧
      r.optionalText "deprecated" = .ok p.deprecated := by
  simp only [ofRecord, Checked.seq_eq_ok, Checked.fmap_eq_ok]
  constructor
  · rintro ⟨_, _, ⟨_, _, ⟨_, _, ⟨_, _, ⟨_, _, ⟨_, _, ⟨_, _, ⟨_, _, ⟨_, named, rfl⟩, typed, rfl⟩, needed, rfl⟩, edited, rfl⟩,
      preset, rfl⟩, expressed, rfl⟩, described, rfl⟩, dated, rfl⟩, warned, rfl⟩
    exact ⟨named, typed, needed, edited, preset, expressed, described, dated, warned⟩
  · rintro ⟨named, typed, needed, edited, preset, expressed, described, dated, warned⟩
    exact ⟨_, _, ⟨_, _, ⟨_, _, ⟨_, _, ⟨_, _, ⟨_, _, ⟨_, _, ⟨_, _, ⟨_, named, rfl⟩, typed, rfl⟩, needed, rfl⟩, edited, rfl⟩,
      preset, rfl⟩, expressed, rfl⟩, described, rfl⟩, dated, rfl⟩, warned, rfl⟩

theorem Parameter.named_of_ofRecord {r : Record} {p : Parameter} (h : ofRecord r = .ok p) :
    r.required "name" Checked.nonempty = .ok p.name :=
  (ofRecord_eq_ok_iff.1 h).1

theorem Requirements.ofRecord_eq_ok_iff {r : Record} {rs : Requirements} : ofRecord r = .ok rs ↔
    r.withDefault "requires_project" true Checked.truth = .ok rs.requiresProject ∧
      r.withDefault "requires_online" false Checked.truth = .ok rs.requiresOnline ∧
      r.withDefault "aggregator" false Checked.truth = .ok rs.aggregator ∧
      r.withDefault "thread_safe" false Checked.truth = .ok rs.threadSafe ∧
      r.optionalText "dependency_resolution" = .ok rs.dependencyResolution := by
  simp only [ofRecord, Checked.seq_eq_ok, Checked.fmap_eq_ok]
  constructor
  · rintro ⟨_, _, ⟨_, _, ⟨_, _, ⟨_, _, ⟨_, project, rfl⟩, online, rfl⟩, aggregator, rfl⟩, threadSafe, rfl⟩, resolution, rfl⟩
    exact ⟨project, online, aggregator, threadSafe, resolution⟩
  · rintro ⟨project, online, aggregator, threadSafe, resolution⟩
    exact ⟨_, _, ⟨_, _, ⟨_, _, ⟨_, _, ⟨_, project, rfl⟩, online, rfl⟩, aggregator, rfl⟩, threadSafe, rfl⟩, resolution, rfl⟩

namespace Task

variable {parts : TaskParts} {t : Task} {name : Text} {ps : List Parameter}

theorem distinctParameters_eq_ok_iff {kept : { ps : List Parameter // (ps.map fun p => p.name.val).Nodup }} :
    distinctParameters name ps = .ok kept ↔ kept.val = ps := by
  obtain ⟨kept, distinct⟩ := kept
  unfold distinctParameters
  split
  · next none =>
    rw [Checked.ok.injEq, Subtype.mk.injEq]
    exact eq_comm
  · next repeated =>
    refine iff_of_false (by simp [Checked.problem]) ?_
    rintro rfl
    rw [firstRepeated?_eq_none_iff.2 ⟨distinct, fun _ _ => List.not_mem_nil⟩] at repeated
    cases repeated

theorem ofParts_eq_ok_iff : ofParts parts = .ok t ↔
    parts.name = .ok t.name ∧ parts.implementation = .ok t.implementation ∧ parts.description = .ok t.description ∧
      parts.parameters = .ok t.parameters ∧ parts.phase = .ok t.phase ∧ parts.requirements = .ok t.requirements ∧
      (∃ entries, parts.configuration = .ok entries ∧ t.configuration = entries.map fun (k, v) => (k, v.freeze)) ∧
      parts.since = .ok t.since ∧ parts.deprecated = .ok t.deprecated ∧ parts.language = .ok t.language := by
  rw [ofParts, Checked.andThen_eq_ok]
  simp only [Checked.seq_eq_ok, Checked.fmap_eq_ok]
  constructor
  · rintro ⟨_, ⟨_, _, ⟨_, _, ⟨_, _, ⟨_, _, ⟨_, _, ⟨_, _, ⟨_, _, ⟨_, _, ⟨_, _, ⟨_, named, rfl⟩, placed, rfl⟩, described, rfl⟩,
      taken, rfl⟩, phase, rfl⟩, required, rfl⟩, configured, rfl⟩, dated, rfl⟩, warned, rfl⟩, styled, rfl⟩, built⟩
    obtain ⟨kept, passed, rfl⟩ := Checked.map_eq_ok.1 built
    rw [distinctParameters_eq_ok_iff] at passed
    subst passed
    exact ⟨named, placed, described, taken, phase, required, ⟨_, configured, rfl⟩, dated, warned, styled⟩
  · rintro ⟨named, placed, described, taken, phase, required, ⟨entries, configured, frozen⟩, dated, warned, styled⟩
    refine ⟨_, ⟨_, _, ⟨_, _, ⟨_, _, ⟨_, _, ⟨_, _, ⟨_, _, ⟨_, _, ⟨_, _, ⟨_, _, ⟨_, named, rfl⟩, placed, rfl⟩, described, rfl⟩,
      taken, rfl⟩, phase, rfl⟩, required, rfl⟩, configured, rfl⟩, dated, rfl⟩, warned, rfl⟩, styled, rfl⟩, ?_⟩
    refine Checked.map_eq_ok.2 ⟨⟨t.parameters, t.distinct⟩, distinctParameters_eq_ok_iff.2 rfl, ?_⟩
    rw [← frozen]

theorem ofParts_eq_ok (h : ofParts parts = .ok t) :
    (parts.name = .ok t.name ∧ parts.implementation = .ok t.implementation ∧ parts.parameters = .ok t.parameters) ∧
      parts.phase = .ok t.phase ∧ parts.language = .ok t.language := by
  obtain ⟨named, placed, -, taken, phase, -, -, -, -, styled⟩ := ofParts_eq_ok_iff.1 h
  exact ⟨⟨named, placed, taken⟩, phase, styled⟩

end Task

end TaskCatalog
