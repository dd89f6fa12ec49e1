import TaskCatalog.Value.Equality
import Mathlib.Data.List.Nodup

/-!
Lists of pairs as associations: what looking up a key finds, in particular where no key occurs twice.
-/

namespace TaskCatalog.Association

variable {α β : Type} [BEq α] [LawfulBEq α] {pairs : List (α × β)} {k : α} {v : β}

theorem lookup_of_not_mem (h : k ∉ pairs.map (·.1)) : pairs.lookup k = none := by
  rw [List.lookup_eq_none_iff]
  intro pair hm
  exact bne_iff_ne.2 fun same => h (same ▸ List.mem_map_of_mem hm)

theorem not_mem_of_lookup (h : pairs.lookup k = none) : k ∉ pairs.map (·.1) := by
  intro member
  obtain ⟨pair, member, same⟩ := List.mem_map.1 member
  exact bne_iff_ne.1 (List.lookup_eq_none_iff.1 h pair member) same.symm

theorem mem_of_lookup (h : pairs.lookup k = some v) : (k, v) ∈ pairs := by
  induction pairs with
  | nil => cases h
  | cons pair pairs ih =>
    obtain ⟨key, value⟩ := pair
    rw [List.lookup_cons] at h
    by_cases same : k = key
    · rw [beq_iff_eq.2 same] at h
      rw [same, Option.some.inj h]
      exact List.mem_cons_self
    · rw [beq_eq_false_iff_ne.2 same] at h
      exact List.mem_cons_of_mem _ (ih h)

theorem lookup_of_mem (distinct : (pairs.map (·.1)).Nodup) (h : (k, v) ∈ pairs) : pairs.lookup k = some v := by
  induction pairs with
  | nil => cases h
  | cons pair pairs ih =>
    obtain ⟨key, value⟩ := pair
    rw [List.map_cons, List.nodup_cons] at distinct
    rw [List.lookup_cons]
    rcases List.mem_cons.1 h with same | h
    · cases same
      rw [beq_self_eq_true]
    · have member : k ∈ pairs.map (·.1) := List.mem_map_of_mem (f := (·.1)) h
      have apart : k ≠ key := fun same => distinct.1 (same ▸ member)
      rw [beq_eq_false_iff_ne.2 apart]
      exact ih distinct.2 h

/-- Of keys that each occur once it does not matter from which end they are looked up. -/
theorem lookup_reverse (distinct : (pairs.map (·.1)).Nodup) (k : α) : pairs.reverse.lookup k = pairs.lookup k := by
  have distinct' : (pairs.reverse.map (·.1)).Nodup := by
    rw [List.map_reverse, List.nodup_reverse]
    exact distinct
  cases found : pairs.lookup k with
  | some v => exact lookup_of_mem distinct' (List.mem_reverse.2 (mem_of_lookup found))
  | none =>
    cases again : pairs.reverse.lookup k with
    | none => rfl
    | some v => cases found.symm.trans (lookup_of_mem distinct (List.mem_reverse.1 (mem_of_lookup again)))

theorem lookup_filter (keep : α → Bool) (h : keep k = true) (pairs : List (α × β)) :
    (pairs.filter fun pair => keep pair.1).lookup k = pairs.lookup k := by
  induction pairs with
  | nil => rfl
  | cons pair pairs ih =>
    obtain ⟨key, v⟩ := pair
    rw [List.filter_cons, List.lookup_cons]
    by_cases same : k = key
    · subst same
      rw [if_pos h, List.lookup_cons, beq_self_eq_true]
    · rw [beq_eq_false_iff_ne.2 same]
      split
      · rw [List.lookup_cons, beq_eq_false_iff_ne.2 same, ih]
      · exact ih

end TaskCatalog.Association

namespace TaskCatalog.Value

variable {k v w : Value} {name : Text} {entries : List (Value × Value)}

theorem equals_text : v.equals (.text name) = true ↔ v = .text name := by
  cases v with
  | scalar s => cases s <;> simp [equals, Scalar.equals, Scalar.whole?]
  | _ => simp [equals]

theorem text_equals : (text name).equals v = true ↔ v = .text name := by
  cases v with
  | scalar s => cases s <;> simp [equals, Scalar.equals, Scalar.whole?, eq_comm]
  | _ => simp [equals]

theorem lookup?_cons (k v : Value) (rest : List (Value × Value)) (name : Text) :
    lookup? ((k, v) :: rest) name = if k = .text name then some v else lookup? rest name := by
  by_cases same : k = .text name
  · simp [lookup?, same]
  · simp [lookup?, same]

theorem lookup?_setEntry_self (name : Text) (w : Value) (entries : List (Value × Value)) :
    lookup? (setEntry (.text name) w entries) name = some w := by
  induction entries with
  | nil => rw [setEntry, lookup?_cons, if_pos rfl]
  | cons entry rest ih =>
    obtain ⟨k, v⟩ := entry
    rw [setEntry]
    split
    · next same => rw [lookup?_cons, if_pos (equals_text.1 same)]
    · next apart => rw [lookup?_cons, if_neg fun same => apart (equals_text.2 same), ih]

theorem lookup?_setEntry (apart : k ≠ .text name) : lookup? (setEntry k w entries) name = lookup? entries name := by
  induction entries with
  | nil => rw [setEntry, lookup?_cons, if_neg apart]
  | cons entry rest ih =>
    obtain ⟨key, v⟩ := entry
    rw [setEntry]
    split
    · next same =>
      have other : key ≠ .text name := by
        rintro rfl
        exact apart (text_equals.1 same)
      rw [lookup?_cons, lookup?_cons, if_neg other, if_neg other]
    · rw [lookup?_cons, lookup?_cons, ih]

/-- Of several entries under a text the last one counts. -/
theorem lookup?_mapOfEntries {before after : List (Value × Value)} (last : ∀ e ∈ after, e.1 ≠ .text name) :
    lookup? (mapOfEntries (before ++ (.text name, v) :: after)) name = some v := by
  have later : ∀ (after done : List (Value × Value)), (∀ e ∈ after, e.1 ≠ .text name) →
      lookup? (after.foldl (fun done e => setEntry e.1 e.2 done) done) name = lookup? done name := by
    intro after
    induction after with
    | nil => exact fun _ _ => rfl
    | cons e after ih =>
      intro done last
      obtain ⟨here, last⟩ := List.forall_mem_cons.1 last
      exact (ih _ last).trans (lookup?_setEntry here)
  change lookup? ((before ++ (.text name, v) :: after).foldl (fun done e => setEntry e.1 e.2 done) []) name = some v
  rw [List.foldl_append, List.foldl_cons, later after _ last, lookup?_setEntry_self]

end TaskCatalog.Value
