import TaskCatalog.Proofs.DecoratorMarks

/-!
The values that a decorator is called with. The options of the call hold them and no others, and a call with one more
keyword has one more option.
-/

namespace TaskCatalog.Decorated

open Text Outcome

/-- A decorator is given a value under a name; that of a positional argument is the name. -/
inductive Given : Code.Expression → Text → Value → Prop
  | positional {f a : Code.Expression} {keywords : List Code.Keyword} {v : Value} (literal : a.value = .ok v) :
    Given (.call f [a] keywords) "name" v
  | keyword {f a : Code.Expression} {positional : List Code.Expression} {keywords : List Code.Keyword} {name : Text}
    {v : Value} (stated : .mk (some name) a ∈ keywords) (literal : a.value = .ok v) :
    Given (.call f positional keywords) name v

variable {s : Site} {e : Code.Expression} {allowed : List Text} {done os : Options} {keywords : List Code.Keyword}
  {name : Text} {v : Value}

theorem distinct_of_addKeywords (distinct : (done.map (·.1)).Nodup) (h : addKeywords s allowed done keywords = .ok os) :
    (os.map (·.1)).Nodup := by
  induction keywords generalizing done with
  | nil =>
    cases h
    exact distinct
  | cons keyword keywords ih =>
    obtain ⟨name, e, v, -, -, fresh, -, h⟩ := addKeywords_cons_eq_ok h
    refine ih ?_ h
    rw [List.map_append, List.map_singleton, List.nodup_append]
    refine ⟨distinct, List.nodup_singleton _, fun other taken _ last same => ?_⟩
    rw [same, List.mem_singleton.1 last] at taken
    exact Association.not_mem_of_lookup fresh taken

/-- A keyword among those that give options gives one of them. -/
theorem mem_of_gives {given : Options} {a : Code.Expression} (each : List.Forall₂ Gives keywords given)
    (stated : .mk (some name) a ∈ keywords) (literal : a.value = .ok v) : (name, v) ∈ given := by
  obtain ⟨o, member, gives⟩ := exists_of_forall₂ each.flip stated
  cases gives with
  | mk literal' =>
    cases literal.symm.trans literal'
    exact member

theorem distinct_of_options (h : options s allowed e = .ok os) : (os.map (·.1)).Nodup := by
  cases e with
  | call f positional keywords =>
    obtain ⟨done, added, first⟩ := options_of_call h
    refine distinct_of_addKeywords ?_ added
    obtain ⟨-, rfl⟩ | ⟨a, v, -, -, rfl⟩ := first
    · exact List.nodup_nil
    · exact List.nodup_singleton _
  | _ =>
    cases h
    exact List.nodup_nil

theorem get?_of_given (h : options s allowed e = .ok os) (given : Given e name v) : os.get? name = some v := by
  have distinct := distinct_of_options h
  cases given with
  | positional literal =>
    obtain ⟨done, added, ⟨none, -⟩ | ⟨a, v', only, literal', rfl⟩⟩ := options_of_call h
    · cases none
    · cases only
      cases literal.symm.trans literal'
      obtain ⟨more, rfl, -⟩ := addKeywords_eq_ok added
      rfl
  | keyword stated literal =>
    obtain ⟨done, added, -⟩ := options_of_call h
    obtain ⟨more, rfl, each⟩ := addKeywords_eq_ok added
    exact Association.lookup_of_mem distinct (List.mem_append_right _ (mem_of_gives each stated literal))

theorem given_of_get? (h : options s allowed e = .ok os) (found : os.get? name = some v) : Given e name v := by
  have member : (name, v) ∈ os := Association.mem_of_lookup found
  cases e with
  | call f positional keywords =>
    obtain ⟨done, added, first⟩ := options_of_call h
    obtain ⟨more, rfl, each⟩ := addKeywords_eq_ok added
    rcases List.mem_append.1 member with early | late
    · obtain ⟨-, rfl⟩ | ⟨a, w, rfl, literal, rfl⟩ := first
      · cases early
      · cases List.mem_singleton.1 early
        exact .positional literal
    · obtain ⟨keyword, stated, gives⟩ := exists_of_forall₂ each late
      cases gives with
      | mk literal => exact .keyword stated literal
  | _ =>
    cases h
    cases member

theorem truthy?_of_get? (stated : os.get? name = some v) : v.isFalsy = true ∨ os.truthy? name = some v := by
  cases falsy : v.isFalsy with
  | true => exact .inl rfl
  | false => exact .inr (by rw [Options.truthy?, stated, Option.filter_some, falsy]; rfl)

theorem value_of_get? (stated : os.get? name = some v) : os.value name = v := by
  rw [Options.value, stated, Option.getD_some]

theorem addKeywords_concat (keyword : Code.Keyword) : addKeywords s allowed done (keywords ++ [keyword]) =
    addKeywords s allowed done keywords >>= fun os => addKeywords s allowed os [keyword] := by
  induction keywords generalizing done with
  | nil => rfl
  | cons first keywords ih =>
    obtain ⟨_ | name, e⟩ := first
    · rfl
    · simp only [List.cons_append, addKeywords, ih]
      split
      · rfl
      split
      · rfl
      · cases literal s name e <;> rfl

theorem options_call (s : Site) (allowed : List Text) (f : Code.Expression) (positional : List Code.Expression) :
    ∃ first, ∀ keywords, options s allowed (.call f positional keywords) =
      first >>= fun done => addKeywords s allowed done keywords := by
  cases positional with
  | nil => exact ⟨.ok [], fun _ => rfl⟩
  | cons a more =>
    cases more with
    | nil => exact ⟨(literal s "name" a).map fun v => [("name", v)], fun _ => rfl⟩
    | cons => exact ⟨s.fail .severalPositional, fun _ => rfl⟩

variable {f a : Code.Expression} {positional : List Code.Expression}

section

variable (fresh : ∀ w, ¬ Given (.call f positional keywords) name w)
include fresh

theorem get?_of_fresh (h : options s allowed (.call f positional keywords) = .ok os) : os.get? name = none :=
  Option.eq_none_iff_forall_ne_some.2 fun w found => fresh w (given_of_get? h found)

/-- A call with one more keyword, of a name that it does not give a value to. -/
theorem options_more (known : name ∈ allowed) (literal : a.value = .ok v) :
    options s allowed (.call f positional (keywords ++ [.mk (some name) a])) =
      options s allowed (.call f positional keywords) >>= fun os => .ok (os ++ [(name, v)]) := by
  obtain ⟨first, call⟩ := options_call s allowed f positional
  simp only [call (keywords ++ _), addKeywords_concat, ← bind_assoc, ← call]
  cases given : options s allowed (.call f positional keywords) with
  | error failure => rfl
  | ok os =>
    show addKeywords s allowed os [.mk (some name) a] = _
    rw [addKeywords, List.contains_iff_mem.2 known, get?_of_fresh fresh given, Decorated.literal, literal]
    rfl

/-- What is done with options is done without the last one, if that makes no difference. -/
theorem bind_options_more {β : Type} {next : Options → Except Failure β} (known : name ∈ allowed)
    (literal : a.value = .ok v) (same : ∀ os : Options, os.get? name = none → next (os ++ [(name, v)]) = next os) :
    options s allowed (.call f positional (keywords ++ [.mk (some name) a])) >>= next =
      options s allowed (.call f positional keywords) >>= next := by
  rw [options_more fresh known literal]
  cases given : options s allowed (.call f positional keywords) with
  | error failure => rfl
  | ok os => exact same os (get?_of_fresh fresh given)

end

theorem get?_more {field : Text} (other : field ≠ name) : Options.get? (os ++ [(name, v)]) field = os.get? field := by
  rw [Options.get?, Options.get?, List.lookup_append, List.lookup_cons, beq_false_of_ne other, List.lookup_nil,
    Option.or_none]

theorem value_more {field : Text} (other : field ≠ name) : Options.value (os ++ [(name, v)]) field = os.value field := by
  rw [Options.value, Options.value, get?_more other]

/-- An option that counts as nothing does not show among those that count. -/
theorem truthy?_more (unset : os.get? name = none) (falsy : v.isFalsy = true) (field : Text) :
    Options.truthy? (os ++ [(name, v)]) field = os.truthy? field := by
  by_cases same : field = name
  · have last : Options.get? (os ++ [(name, v)]) name = some v := by
      rw [Options.get?, List.lookup_append, show os.lookup name = none from unset, Option.none_or, List.lookup_cons,
        beq_self_eq_true]
    rw [same, Options.truthy?, Options.truthy?, last, unset, Option.filter_some, falsy]
    rfl
  · rw [Options.truthy?, Options.truthy?, get?_more same]

end TaskCatalog.Decorated
