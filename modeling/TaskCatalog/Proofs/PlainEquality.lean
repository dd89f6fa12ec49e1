import TaskCatalog.Artifact.Document
import TaskCatalog.Proofs.Association
import TaskCatalog.Value.Equality
import Mathlib.Data.List.Forall2
import Mathlib.Data.List.Perm.Subperm
import Mathlib.Data.Option.Basic

/-!
When two plain data are the same. To a program that reads them numbers are the same if they count the
same, and mappings whatever the order of their entries; on records, whose keys are fixed, this and
being equal letter for letter obey the same laws.
-/

namespace TaskCatalog

open Text

namespace Plain

def scalar? : Plain → Option Scalar
  | null => some .null
  | truth b => some (.truth b)
  | whole n => some (.whole n)
  | real x => some (.real x)
  | text t => some (.text t)
  | list _ | map _ => none

mutual

def equals : Plain → Plain → Bool
  | .list ps, .list qs => equalItems ps qs
  | .map ps, .map qs => ps.length == qs.length && entriesIn ps qs
  | p, q =>
    match p.scalar?, q.scalar? with
    | some s, some t => s.equals t
    | _, _ => false

def equalItems : List Plain → List Plain → Bool
  | [], [] => true
  | p :: ps, q :: qs => equals p q && equalItems ps qs
  | _, _ => false

/-- Whether all entries of one mapping are in the other. -/
def entriesIn : List (Text × Plain) → List (Text × Plain) → Bool
  | [], _ => true
  | (k, p) :: rest, others =>
    (match others.lookup k with
      | some q => equals p q
      | none => false) && entriesIn rest others

end

theorem equalItems_iff {ps qs : List Plain} :
    equalItems ps qs = true ↔ List.Forall₂ (fun p q => equals p q = true) ps qs := by
  induction ps generalizing qs with
  | nil => cases qs <;> simp [equalItems]
  | cons p ps ih => cases qs <;> simp [equalItems, ih]

theorem entriesIn_iff {ps qs : List (Text × Plain)} :
    entriesIn ps qs = true ↔ ∀ k, ∀ p, (k, p) ∈ ps → ∃ q, qs.lookup k = some q ∧ equals p q = true := by
  induction ps with
  | nil => simp [entriesIn]
  | cons entry ps ih =>
    obtain ⟨k, p⟩ := entry
    rw [entriesIn, Bool.and_eq_true, ih]
    constructor
    · rintro ⟨here, later⟩ j r member
      rcases List.mem_cons.1 member with same | member
      · cases same
        cases found : qs.lookup k with
        | none => simp [found] at here
        | some q => exact ⟨q, rfl, by simpa [found] using here⟩
      · exact later j r member
    · intro all
      refine ⟨?_, fun j r member => all j r (List.mem_cons_of_mem _ member)⟩
      obtain ⟨q, found, same⟩ := all k p List.mem_cons_self
      simpa [found] using same

/-- A way to compare plain data that tells texts and truth values from one another and from nothing, and
compares lists item by item and mappings key by key. -/
structure Equality (E : Plain → Plain → Prop) : Prop where
  null : E .null .null
  text {s t : Text} : E (.text s) (.text t) ↔ s = t
  truth {a b : Bool} : E (.truth a) (.truth b) ↔ a = b
  null_text {t : Text} : ¬ E .null (.text t)
  text_null {t : Text} : ¬ E (.text t) .null
  list {ps qs : List Plain} : E (.list ps) (.list qs) ↔ List.Forall₂ E ps qs
  map {keys : List Text} {ps qs : List (Text × Plain)} (distinct : keys.Nodup)
    (left : (ps.map (·.1)).Sublist keys) (right : (qs.map (·.1)).Sublist keys) :
    E (.map ps) (.map qs) ↔ ∀ k ∈ keys, Option.Rel E (ps.lookup k) (qs.lookup k)
  empty {ps qs : List (Text × Plain)} (same : E (.map ps) (.map qs)) : ps = [] ↔ qs = []

section

variable {α β : Type} {R : α → β → Prop}

theorem rel_isSome {o : Option α} {p : Option β} (h : Option.Rel R o p) : o.isSome = p.isSome := by
  cases h <;> rfl

theorem rel_some {a : α} {p : Option β} : Option.Rel R (some a) p ↔ ∃ b, p = some b ∧ R a b := by
  constructor
  · rintro ⟨⟩
    exact ⟨_, rfl, ‹_›⟩
  · rintro ⟨b, rfl, h⟩
    exact .some h

theorem rel_eq {o p : Option α} : Option.Rel (· = ·) o p ↔ o = p := by
  constructor
  · rintro ⟨⟩
    · rename_i same
      rw [same]
    · rfl
  · rintro rfl
    cases o <;> constructor
    rfl

end

section

variable {α : Type} {keys : List Text} {ps qs : List (Text × α)}

theorem mem_keys_iff {k : Text} : k ∈ ps.map (·.1) ↔ (ps.lookup k).isSome := by
  rw [List.lookup_isSome_iff, List.mem_map]
  exact exists_congr fun _ => and_congr_right fun _ => eq_comm.trans beq_iff_eq.symm

/-- Entries in one order of keys are determined by what is found under the keys. -/
theorem eq_of_lookup_eq (distinct : keys.Nodup) (left : (ps.map (·.1)).Sublist keys)
    (right : (qs.map (·.1)).Sublist keys) (same : ∀ k ∈ keys, ps.lookup k = qs.lookup k) : ps = qs := by
  induction keys generalizing ps qs with
  | nil =>
    rw [List.sublist_nil, List.map_eq_nil_iff] at left right
    rw [left, right]
  | cons key keys ih =>
    rw [List.nodup_cons] at distinct
    have absent {rs : List (Text × α)} (h : (rs.map (·.1)).Sublist keys) : rs.lookup key = none :=
      Association.lookup_of_not_mem fun member => distinct.1 (h.subset member)
    have later {rs : List (Text × α)} {r : α} {k : Text} (h : k ∈ keys) :
        ((key, r) :: rs).lookup k = rs.lookup k := by
      have apart : k ≠ key := fun same => distinct.1 (same ▸ h)
      rw [List.lookup_cons, beq_eq_false_iff_ne.2 apart]
    have here := same key List.mem_cons_self
    have there (k : Text) (h : k ∈ keys) := same k (List.mem_cons_of_mem _ h)
    rcases List.sublist_cons_iff.1 left with below | ⟨l, hl, below⟩ <;>
      rcases List.sublist_cons_iff.1 right with below' | ⟨r, hr, below'⟩
    · exact ih distinct.2 below below' there
    · obtain ⟨⟨_, q⟩, qs, rfl, rfl, rfl⟩ := List.map_eq_cons_iff.1 hr
      rw [absent below] at here
      simp at here
    · obtain ⟨⟨_, p⟩, ps, rfl, rfl, rfl⟩ := List.map_eq_cons_iff.1 hl
      rw [absent below'] at here
      simp at here
    · obtain ⟨⟨_, p⟩, ps, rfl, rfl, rfl⟩ := List.map_eq_cons_iff.1 hl
      obtain ⟨⟨_, q⟩, qs, rfl, rfl, rfl⟩ := List.map_eq_cons_iff.1 hr
      have found : p = q := by simpa using here
      rw [found, ih distinct.2 below below' fun k h => (later h).symm.trans ((there k h).trans (later h))]

/-- Entries with the same keys, found under each key or under none. -/
theorem keys_perm (distinct : keys.Nodup) (left : (ps.map (·.1)).Sublist keys)
    (right : (qs.map (·.1)).Sublist keys)
    (same : ∀ k ∈ keys, (ps.lookup k).isSome = (qs.lookup k).isSome) : (ps.map (·.1)).Perm (qs.map (·.1)) := by
  refine (List.perm_ext_iff_of_nodup (left.nodup distinct) (right.nodup distinct)).2 fun k => ?_
  constructor
  · intro member
    rw [mem_keys_iff, ← same k (left.subset member)]
    exact mem_keys_iff.1 member
  · intro member
    rw [mem_keys_iff, same k (right.subset member)]
    exact mem_keys_iff.1 member

/-- Where all the keys of some entries are keys of no more entries, these have no further key. -/
theorem not_mem_of_included {k : Text} (distinct : (ps.map (·.1)).Nodup) (length : ps.length = qs.length)
    (included : ps.map (·.1) ⊆ qs.map (·.1)) (absent : k ∉ ps.map (·.1)) : k ∉ qs.map (·.1) := by
  have perm : (ps.map (·.1)).Perm (qs.map (·.1)) :=
    (distinct.subperm included).perm_of_length_le (by simp [length])
  rwa [← perm.mem_iff]

end

theorem equality_eq : Equality (· = ·) where
  null := rfl
  text := by simp
  truth := by simp
  null_text := by simp
  text_null := by simp
  list := by simp [List.forall₂_eq_eq_eq]
  map := by
    intro keys ps qs distinct left right
    rw [Plain.map.injEq]
    constructor
    · rintro rfl k -
      exact rel_eq.2 rfl
    · intro same
      exact eq_of_lookup_eq distinct left right fun k member => rel_eq.1 (same k member)
  empty := by
    rintro ps qs same
    rw [Plain.map.inj same]

theorem equality_equals : Equality fun p q => equals p q = true where
  null := by simp [equals, scalar?, Scalar.equals, Scalar.whole?]
  text := by simp [equals, scalar?, Scalar.equals, Scalar.whole?]
  truth := by
    intro a b
    cases a <;> cases b <;> decide
  null_text := by simp [equals, scalar?, Scalar.equals, Scalar.whole?]
  text_null := by simp [equals, scalar?, Scalar.equals, Scalar.whole?]
  list := by
    intro ps qs
    rw [equals, equalItems_iff]
  map := by
    intro keys ps qs distinct left right
    rw [equals, Bool.and_eq_true, beq_iff_eq, entriesIn_iff]
    constructor
    · rintro ⟨length, included⟩ k -
      cases found : ps.lookup k with
      | some p =>
        obtain ⟨q, there, same⟩ := included k p (Association.mem_of_lookup found)
        rw [there]
        exact .some same
      | none =>
        have keysIncluded : ps.map (·.1) ⊆ qs.map (·.1) := by
          intro j member
          obtain ⟨p, found⟩ := Option.isSome_iff_exists.1 (mem_keys_iff.1 member)
          obtain ⟨q, there, -⟩ := included j p (Association.mem_of_lookup found)
          exact mem_keys_iff.2 (Option.isSome_iff_exists.2 ⟨q, there⟩)
        have absent : k ∉ ps.map (·.1) := by
          rw [mem_keys_iff, found]
          simp
        rw [Association.lookup_of_not_mem (not_mem_of_included (left.nodup distinct) length keysIncluded absent)]
        exact .none
    · intro same
      have perm := keys_perm distinct left right fun k member => rel_isSome (same k member)
      refine ⟨by simpa using perm.length_eq, fun k p member => ?_⟩
      have related := same k (left.subset (List.mem_map_of_mem (f := (·.1)) member))
      rw [Association.lookup_of_mem (left.nodup distinct) member] at related
      exact rel_some.1 related
  empty := by
    intro ps qs same
    rw [equals, Bool.and_eq_true, beq_iff_eq] at same
    rw [← List.length_eq_zero_iff, same.1, List.length_eq_zero_iff]

end Plain

end TaskCatalog
