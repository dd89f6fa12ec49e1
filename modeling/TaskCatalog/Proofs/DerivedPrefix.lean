import TaskCatalog.Assembly.GoalPrefix
import TaskCatalog.Proofs.Forms

/-!
The goal prefix that an artifact id has by convention. Only dashes and the letters of the two tokens are ever left out,
and what stands between the tokens of a conventional id is left as it is.
-/

namespace TaskCatalog

open Text

namespace GoalPrefix

def dash : Letter := .scalar '-'

variable {token t s rest : Text} {l : Letter} {n skip : Nat}

/-- The length of a token at the front of a text, with a dash after it. -/
def bareLength? (token t : Text) : Option Nat :=
  if token.isPrefixOf t then
    some (token.length + if (t.drop token.length).head? = some dash then 1 else 0)
  else none

theorem tokenLength?_dash (token rest : Text) :
    tokenLength? token (dash :: rest) = (bareLength? token rest).map (· + 1) := rfl

theorem tokenLength?_cons (other : l ≠ dash) : tokenLength? token (l :: rest) = bareLength? token (l :: rest) := by
  unfold tokenLength?
  split
  · next same =>
    cases same
    exact absurd rfl other
  · rfl

/-- What begins a text is a token, or a dash and a token. -/
theorem bareLength?_of_tokenLength? (h : tokenLength? token t = some n) :
    bareLength? token t = some n ∨ ∃ rest m, t = dash :: rest ∧ bareLength? token rest = some m ∧ n = m + 1 := by
  cases t with
  | nil => exact .inl h
  | cons first rest =>
    by_cases dashed : first = dash
    · subst dashed
      rw [tokenLength?_dash] at h
      obtain ⟨m, found, rfl⟩ := Option.map_eq_some_iff.1 h
      exact .inr ⟨rest, m, rfl, found, rfl⟩
    · rw [tokenLength?_cons dashed] at h
      exact .inl h

theorem bareLength?_eq_none (absent : ¬ token <+: t) : bareLength? token t = none :=
  if_neg (mt List.isPrefixOf_iff_prefix.1 absent)

/-- No token begins at a text that has it neither in front nor behind a first dash. -/
theorem tokenLength?_eq_none (absent : ¬ token <+: t) (behind : ¬ dash :: token <+: t) : tokenLength? token t = none := by
  cases t with
  | nil => exact bareLength?_eq_none absent
  | cons l rest =>
    by_cases dashed : l = dash
    · subst dashed
      rw [tokenLength?_dash, bareLength?_eq_none, Option.map_none]
      intro found
      exact behind (List.cons_prefix_cons.2 ⟨rfl, found⟩)
    · rw [tokenLength?_cons dashed]
      exact bareLength?_eq_none absent

/-- A letter that is no dash and not in the token. -/
def Foreign (token : Text) (l : Letter) : Prop := l ∉ token ∧ l ≠ dash

theorem bareLength?_takes (h : bareLength? token t = some n) (member : l ∈ t.take n) : ¬ Foreign token l := by
  unfold bareLength? at h
  split at h
  · next found =>
    obtain ⟨rest, rfl⟩ := List.isPrefixOf_iff_prefix.1 found
    rw [List.drop_left] at h
    cases h
    rw [List.take_length_add_append, List.mem_append] at member
    rintro ⟨outside, undashed⟩
    rcases member with inside | member
    · exact outside inside
    · cases rest with
      | nil => simp at member
      | cons next rest =>
        by_cases dashed : next = dash
        · subst dashed
          exact undashed (by simpa using member)
        · simp [dashed] at member
  · cases h

theorem tokenLength?_takes (h : tokenLength? token t = some n) (member : l ∈ t.take n) : ¬ Foreign token l := by
  obtain found | ⟨rest, m, rfl, found, rfl⟩ := bareLength?_of_tokenLength? h
  · exact bareLength?_takes found member
  · rw [List.take_succ_cons] at member
    rcases List.mem_cons.1 member with rfl | member
    · exact fun foreign => foreign.2 rfl
    · exact bareLength?_takes found member

theorem pos_of_tokenLength? (stated : token ≠ []) (h : tokenLength? token t = some n) : 0 < n := by
  obtain found | ⟨rest, m, -, -, rfl⟩ := bareLength?_of_tokenLength? h
  · unfold bareLength? at found
    split at found
    · cases found
      exact Nat.add_pos_left (List.length_pos_iff.2 stated) _
    · cases found
  · exact Nat.succ_pos m

/-- Nothing but dashes and letters of the token is left out, if what is to be skipped is nothing else. -/
theorem mem_strip_iff (stated : token ≠ []) (foreign : Foreign token l) (skipped : l ∉ t.take skip) :
    l ∈ strip token skip t ↔ l ∈ t := by
  induction t generalizing skip with
  | nil => rw [strip]
  | cons first rest ih =>
    cases skip with
    | succ skip =>
      rw [List.take_succ_cons, List.mem_cons, not_or] at skipped
      rw [strip, ih skipped.2, List.mem_cons, or_iff_right skipped.1]
    | zero =>
      rw [strip]
      cases found : tokenLength? token (first :: rest) with
      | none =>
        dsimp only
        rw [List.mem_cons, List.mem_cons, ih (by simp)]
      | some n =>
        have outside : l ∉ (first :: rest).take n := fun member => tokenLength?_takes found member foreign
        obtain ⟨m, rfl⟩ := Nat.exists_eq_add_one.2 (pos_of_tokenLength? stated found)
        rw [List.take_succ_cons, List.mem_cons, not_or] at outside
        change l ∈ strip token m rest ↔ l ∈ first :: rest
        rw [ih outside.2, List.mem_cons, or_iff_right outside.1]

theorem mem_derive_iff (maven : Foreign "maven" l) (plugin : Foreign "plugin" l) (t : Text) : l ∈ derive t ↔ l ∈ t := by
  unfold derive
  split
  · next same =>
    subst same
    refine iff_of_false plugin.1 fun member => ?_
    have letters : ∀ l ∈ pluginPlugin, l = dash ∨ l ∈ ("maven" : Text) ∨ l ∈ ("plugin" : Text) := by decide
    rcases letters l member with dashed | inside | inside
    · exact maven.2 dashed
    · exact maven.1 inside
    · exact plugin.1 inside
  · rw [mem_strip_iff (by decide) plugin (by simp), mem_strip_iff (by decide) maven (by simp)]

theorem foreign_of_refused (refused : isSeparator l = true ∨ isBlank l = true) :
    Foreign "maven" l ∧ Foreign "plugin" l := by
  have accepted : ∀ k ∈ dash :: ("maven" ++ "plugin" : Text), isSeparator k = false ∧ isBlank k = false := by decide
  have outside : l ∉ dash :: ("maven" ++ "plugin" : Text) := by
    intro member
    obtain ⟨separator, blank⟩ := accepted l member
    rw [separator, blank] at refused
    exact refused.elim Bool.noConfusion Bool.noConfusion
  rw [List.mem_cons, List.mem_append, not_or, not_or] at outside
  exact ⟨⟨outside.2.1, outside.1⟩, ⟨outside.2.2, outside.1⟩⟩

/-- Deriving neither adds nor hides a letter that no prefix may have. -/
theorem mem_derive_of_refused (refused : isSeparator l = true ∨ isBlank l = true) (t : Text) : l ∈ derive t ↔ l ∈ t :=
  mem_derive_iff (foreign_of_refused refused).1 (foreign_of_refused refused).2 t

theorem fault?_derive_eq_none_iff :
    fault? (derive t) = none ↔ derive t ≠ [] ∧ ∀ l ∈ t, isSeparator l = false ∧ isBlank l = false := by
  rw [fault?_eq_none_iff]
  have refused_iff (u : Text) : (∀ l ∈ u, isSeparator l = false ∧ isBlank l = false) ↔
      ∀ l, isSeparator l = true ∨ isBlank l = true → l ∉ u := by
    refine forall_congr' fun l => ?_
    cases isSeparator l <;> cases isBlank l <;> simp
  rw [refused_iff, refused_iff]
  refine and_congr_right fun _ => forall₂_congr fun l refused => ?_
  rw [mem_derive_of_refused refused]

/-- No end of the token, short of all of it, stands in front of a text. -/
def Apart (token rest : Text) : Prop := ∀ i < token.length, 0 < i → ¬ token.drop i <+: rest

instance (token rest : Text) : Decidable (Apart token rest) :=
  inferInstanceAs (Decidable (∀ i < token.length, 0 < i → ¬ token.drop i <+: rest))

theorem not_prefix_of_apart (absent : ¬ token <:+: s) (apart : Apart token rest) (within : t <:+ s) (stated : t ≠ []) :
    ¬ token <+: t ++ rest := by
  rintro ⟨more, same⟩
  rcases List.append_eq_append_iff.1 same with ⟨tail, rfl, -⟩ | ⟨back, rfl, rfl⟩
  · exact absent ((List.prefix_append token tail).isInfix.trans within.isInfix)
  · cases back with
    | nil =>
      rw [List.append_nil] at absent
      exact absent within.isInfix
    | cons next back =>
      refine apart t.length ?_ (List.length_pos_iff.2 stated) ?_
      · rw [List.length_append, List.length_cons]
        omega
      · rw [List.drop_left]
        exact List.prefix_append _ _

/-- A text without the token stays as it is in front of what does not go on with the token. -/
theorem strip_append (absent : ¬ token <:+: s) (ending : s.getLast? ≠ some dash) (apart : Apart token rest) :
    strip token 0 (s ++ rest) = s ++ strip token 0 rest := by
  have ends (t : Text) (within : t <:+ s) : strip token 0 (t ++ rest) = t ++ strip token 0 rest := by
    induction t with
    | nil => rfl
    | cons l t ih =>
      have here : ¬ token <+: l :: (t ++ rest) := not_prefix_of_apart absent apart within (List.cons_ne_nil l t)
      have behind : ¬ dash :: token <+: l :: (t ++ rest) := by
        rw [List.cons_prefix_cons]
        rintro ⟨rfl, found⟩
        cases t with
        | nil =>
          obtain ⟨before, rfl⟩ := within
          exact ending List.getLast?_concat
        | cons next t =>
          exact not_prefix_of_apart absent apart ((List.suffix_cons dash _).trans within) (List.cons_ne_nil next t) found
      rw [List.cons_append, strip, tokenLength?_eq_none here behind, ih ((List.suffix_cons l t).trans within)]
      rfl
  exact ends s (List.suffix_refl s)

theorem strip_drop (token : Text) (skip : Nat) (t : Text) : strip token skip t = strip token 0 (t.drop skip) := by
  induction t generalizing skip with
  | nil => rw [List.drop_nil, strip, strip]
  | cons l t ih =>
    cases skip with
    | zero => rfl
    | succ skip => rw [strip, ih, List.drop_succ_cons]

/-- A token in front of a text is left out with the dash after it. -/
theorem strip_token (stated : token ≠ []) (undashed : token.head? ≠ some dash) (rest : Text) :
    strip token 0 (token ++ dash :: rest) = strip token 0 rest := by
  obtain ⟨first, more, rfl⟩ := List.exists_cons_of_ne_nil stated
  have other : first ≠ dash := fun same => undashed (congrArg some same)
  have found : tokenLength? (first :: more) (first :: (more ++ dash :: rest)) = some (more.length + 2) := by
    have inside : (first :: more).isPrefixOf (first :: more ++ dash :: rest) = true :=
      List.isPrefixOf_iff_prefix.2 (List.prefix_append _ _)
    rw [tokenLength?_cons other, ← List.cons_append, bareLength?, if_pos inside, List.drop_left]
    rfl
  rw [List.cons_append, strip, found]
  change strip (first :: more) (more.length + 1) (more ++ dash :: rest) = _
  rw [strip_drop, List.drop_length_add_append, List.drop_succ_cons, List.drop_zero]

theorem derive_of_ne (other : t ≠ pluginPlugin) : derive t = strip "plugin" 0 (strip "maven" 0 t) := if_neg other

/-- What stands at the conventional place of an artifact id is its prefix, whatever dashes are in it. -/
theorem derive_conventional {core : Text} (maven : includes "maven" core = false)
    (plugin : includes "plugin" core = false) (ending : core.getLast? ≠ some dash) :
    derive (core ++ "-maven-plugin") = core ∧ derive ("maven-" ++ core ++ "-plugin") = core ∧
      derive (core ++ "-plugin") = core := by
  rw [← Bool.not_eq_true, includes_eq_true] at maven plugin
  have joined : strip "maven" 0 (core ++ "-maven-plugin") = core ++ "plugin" := by
    rw [strip_append maven ending (by decide), (by decide : strip "maven" 0 "-maven-plugin" = "plugin")]
  have kept : strip "maven" 0 (core ++ "-plugin") = core ++ "-plugin" := by
    rw [strip_append maven ending (by decide), (by decide : strip "maven" 0 "-plugin" = "-plugin")]
  have front : strip "maven" 0 ("maven-" ++ core ++ "-plugin") = strip "maven" 0 (core ++ "-plugin") := by
    rw [(by decide : ("maven-" : Text) = "maven" ++ [dash]), List.append_assoc, List.append_assoc, List.singleton_append]
    exact strip_token (by decide) (by decide) (core ++ "-plugin")
  have bare : strip "plugin" 0 (core ++ "plugin") = core := by
    rw [strip_append plugin ending (by decide), (by decide : strip "plugin" 0 "plugin" = []), List.append_nil]
  have dashed : strip "plugin" 0 (core ++ "-plugin") = core := by
    rw [strip_append plugin ending (by decide), (by decide : strip "plugin" 0 "-plugin" = []), List.append_nil]
  refine ⟨?_, ?_, ?_⟩
  · have other : core ++ "-maven-plugin" ≠ pluginPlugin := by
      intro same
      have ends : ("-maven-plugin" : Text) <:+ pluginPlugin := ⟨core, same⟩
      exact absurd ends (by decide)
    calc derive (core ++ "-maven-plugin")
        = strip "plugin" 0 (strip "maven" 0 (core ++ "-maven-plugin")) := derive_of_ne other
      _ = strip "plugin" 0 (core ++ "plugin") := congrArg _ joined
      _ = core := bare
  · have other : "maven-" ++ core ++ "-plugin" ≠ pluginPlugin := by
      intro same
      rw [(by decide : pluginPlugin = "maven-" ++ "plugin" ++ "-plugin")] at same
      rw [List.append_cancel_left (List.append_cancel_right same)] at plugin
      exact plugin (List.infix_refl _)
    calc derive ("maven-" ++ core ++ "-plugin")
        = strip "plugin" 0 (strip "maven" 0 ("maven-" ++ core ++ "-plugin")) := derive_of_ne other
      _ = strip "plugin" 0 (core ++ "-plugin") := congrArg _ (front.trans kept)
      _ = core := dashed
  · have other : core ++ "-plugin" ≠ pluginPlugin := by
      intro same
      rw [(by decide : pluginPlugin = "maven-plugin" ++ "-plugin")] at same
      rw [List.append_cancel_right same] at plugin
      exact plugin (includes_eq_true.1 (by decide))
    calc derive (core ++ "-plugin")
        = strip "plugin" 0 (strip "maven" 0 (core ++ "-plugin")) := derive_of_ne other
      _ = strip "plugin" 0 (core ++ "-plugin") := congrArg _ kept
      _ = core := dashed

/-- A core with dashes in front and inside, and with the beginning of a token at its end. -/
def dashedCore : Text := "-a--mave"

theorem dashedCore_derived : includes "maven" dashedCore = false ∧ includes "plugin" dashedCore = false ∧
    dashedCore.getLast? ≠ some dash ∧ derive (dashedCore ++ "-maven-plugin") = dashedCore ∧
    derive ("maven-" ++ dashedCore ++ "-plugin") = dashedCore ∧ derive (dashedCore ++ "-plugin") = dashedCore :=
  ⟨by decide, by decide, by decide, derive_conventional (by decide) (by decide) (by decide)⟩

end GoalPrefix

end TaskCatalog
