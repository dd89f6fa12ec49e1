import TaskCatalog.Proofs.Declarations
import TaskCatalog.Proofs.DecoratedStyle

/-!
What the decorators of a class or function say. They go by a name of their own or by one of the package, called or not;
those of the task make it a task, and each one of a parameter states the name of a parameter.
-/

namespace TaskCatalog

open Text Outcome

theorem Site.name_of_parameter {s : Site} {pairs : List (Text × Value)} {name : Text} {p : Parameter}
    (stated : pairs.lookup ("name" : Text) = some (.text name)) (made : s.parameter (Record.ofPairs pairs) = .ok p) :
    p.name.val = name := by
  unfold parameter at made
  split at made
  · next passed =>
    cases made
    exact Record.text_of_required stated (Parameter.named_of_ofRecord passed)
  · cases made

namespace Decorated

/-- A chain of members that begins at the package. -/
inductive Rooted : Code.Expression → Prop
  | package : Rooted (.name packageName)
  | member {e : Code.Expression} (rooted : Rooted e) (name : Text) : Rooted (.member e name)

/-- A name by itself, or the last one of a chain from the package. -/
inductive Bears : Code.Expression → Text → Prop
  | alone (name : Text) : Bears (.name name) name
  | member {e : Code.Expression} (rooted : Rooted e) (name : Text) : Bears (.member e name) name

/-- A decorator of a name, called or not. -/
inductive Marks : Code.Expression → Text → Prop
  | plain {e : Code.Expression} {name : Text} (bears : Bears e name) : Marks e name
  | called {f : Code.Expression} {name : Text} (bears : Bears f name) (positional : List Code.Expression)
    (keywords : List Code.Keyword) : Marks (.call f positional keywords) name

/-- A call that states the name of what it declares, by its position or its keyword. -/
inductive Names : Code.Expression → Text → Prop
  | positional {f e : Code.Expression} {keywords : List Code.Keyword} {name : Text}
    (literal : e.value = .ok (.text name)) : Names (.call f [e] keywords) name
  | keyword {f e : Code.Expression} {keywords : List Code.Keyword} {name : Text}
    (given : .mk (some "name") e ∈ keywords) (literal : e.value = .ok (.text name)) : Names (.call f [] keywords) name

variable {c : Conventions} {m : Module} {d : Candidate} {t : Task} {e : Code.Expression} {name : Text} {s : Site}
  {allowed : List Text} {os : Options} {keywords : List Code.Keyword} {annotations : Annotations} {p : Parameter}

theorem rootName?_eq_package_iff : rootName? e = some packageName ↔ Rooted e := by
  fun_induction rootName? e with
  | case1 n =>
    constructor
    · intro same
      cases same
      exact .package
    · rintro ⟨⟩
      rfl
  | case2 e n ih =>
    rw [ih]
    exact ⟨fun rooted => .member rooted n, fun | .member rooted _ => rooted⟩
  | case3 e noName noMember =>
    refine iff_of_false nofun fun rooted => ?_
    cases rooted with
    | package => exact noName _ rfl
    | member rooted name => exact noMember _ _ rfl

/-- What bears the name of a decorator: what is called in it, or all of it. -/
def bearer : Code.Expression → Code.Expression
  | .call f _ _ => f
  | e => e

theorem marks_iff_bears : Marks e name ↔ Bears (bearer e) name := by
  constructor
  · rintro (bears | ⟨bears, _, _⟩)
    · cases bears with
      | alone => exact .alone name
      | member rooted => exact .member rooted name
    · exact bears
  · intro bears
    cases e with
    | call f positional keywords => exact .called bears positional keywords
    | _ => exact .plain bears

/-- The name that what bears one is known by. -/
def bornName? : Code.Expression → Option Text
  | .name n => some n
  | .member e n => if rootName? e = some packageName then some n else none
  | _ => none

theorem decoratorName?_eq (e : Code.Expression) : decoratorName? e = bornName? (bearer e) := rfl

theorem decoratorName?_eq_some_iff : decoratorName? e = some name ↔ Marks e name := by
  rw [marks_iff_bears, decoratorName?_eq]
  generalize bearer e = f
  constructor
  · intro named
    unfold bornName? at named
    split at named
    · cases named
      exact .alone _
    · split at named
      · next rooted =>
        cases named
        exact .member (rootName?_eq_package_iff.1 rooted) _
      · cases named
    · cases named
  · rintro (_ | ⟨rooted, _⟩)
    · rfl
    · exact if_pos (rootName?_eq_package_iff.2 rooted)

instance : Decidable (Marks e name) := decidable_of_iff _ decoratorName?_eq_some_iff

def Candidate.IsTask (c : Conventions) (d : Candidate) : Prop := ∃ e ∈ d.definition.decorators, Marks e c.taskDecorator

instance : Decidable (d.IsTask c) := inferInstanceAs (Decidable (∃ e ∈ d.definition.decorators, Marks e c.taskDecorator))

/-- The decorators for parameters; one for a task is none for a parameter. -/
def Candidate.parameterMarks (c : Conventions) (d : Candidate) : List Code.Expression :=
  d.definition.decorators.filter fun e => Marks e c.parameterDecorator ∧ ¬ Marks e c.taskDecorator

theorem isTask_iff : d.IsTask c ↔ d.definition.decoratedBy c.taskDecorator ≠ [] := by
  simp only [Candidate.IsTask, Definition.decoratedBy, ne_eq, List.filter_eq_nil_iff, not_forall, beq_iff_eq,
    decoratorName?_eq_some_iff, exists_prop, not_not]

theorem parameterMarks_eq (c : Conventions) (d : Candidate) : d.parameterMarks c = d.definition.parameterCalls c := by
  rw [Candidate.parameterMarks, Definition.parameterCalls]
  split
  · next one =>
    rw [one]
    simp
  · next apart =>
    refine List.filter_congr fun e _ => ?_
    rw [Bool.eq_iff_iff, decide_eq_true_iff, beq_iff_eq, decoratorName?_eq_some_iff, and_iff_left_iff_imp]
    intro named marked
    -- a decorator has one name only, and the two names differ here
    rw [← decoratorName?_eq_some_iff] at named marked
    exact apart (Option.some.inj (named.symm.trans marked))

theorem literal_eq_ok {v : Value} (h : literal s name e = .ok v) : e.value = .ok v := by
  unfold literal at h
  split at h
  · next evaluated =>
    cases h
    exact evaluated
  all_goals cases h

/-- A keyword is taken if it has a known name that was not given before, and a literal. -/
theorem addKeywords_cons_eq_ok {done : Options} {keyword : Code.Keyword}
    (h : addKeywords s allowed done (keyword :: keywords) = .ok os) :
    ∃ name e v, keyword = .mk (some name) e ∧ name ∈ allowed ∧ done.get? name = none ∧ e.value = .ok v ∧
      addKeywords s allowed (done ++ [(name, v)]) keywords = .ok os := by
  obtain ⟨_ | name, e⟩ := keyword
  · cases h
  · rw [addKeywords] at h
    split at h
    · exact absurd h Site.fail_bind_ne_ok
    next known =>
      dsimp only at h
      split at h
      · exact absurd h Site.fail_bind_ne_ok
      next fresh =>
        obtain ⟨v, literal, h⟩ := bind_eq_ok.1 h
        exact ⟨name, e, v, rfl, by simpa using known, by simpa using fresh, literal_eq_ok literal, h⟩

theorem addKeywords_eq_ok {done : Options} (h : addKeywords s allowed done keywords = .ok os) :
    ∃ given, os = done ++ given ∧ List.Forall₂ Gives keywords given := by
  induction keywords generalizing done with
  | nil =>
    cases h
    exact ⟨[], (List.append_nil _).symm, .nil⟩
  | cons keyword keywords ih =>
    obtain ⟨name, e, v, rfl, -, -, literal, h⟩ := addKeywords_cons_eq_ok h
    obtain ⟨given, rfl, each⟩ := ih h
    exact ⟨(name, v) :: given, by simp, .cons ⟨literal⟩ each⟩

/-- The options of a call are those of its keywords, behind the name if there is a positional argument. -/
theorem options_of_call {f : Code.Expression} {positional : List Code.Expression}
    (h : options s allowed (.call f positional keywords) = .ok os) :
    ∃ done, addKeywords s allowed done keywords = .ok os ∧ (positional = [] ∧ done = [] ∨
      ∃ a v, positional = [a] ∧ a.value = .ok v ∧ done = ([("name", v)] : Options)) := by
  unfold options at h
  dsimp only at h
  split at h
  · obtain ⟨done, first, h⟩ := bind_eq_ok.1 h
    cases first
    exact ⟨[], h, .inl ⟨rfl, rfl⟩⟩
  · next a =>
    obtain ⟨done, first, h⟩ := bind_eq_ok.1 h
    obtain ⟨v, literal, rfl⟩ := map_eq_ok.1 first
    exact ⟨_, h, .inr ⟨a, v, rfl, literal_eq_ok literal, rfl⟩⟩
  · exact absurd h Site.fail_bind_ne_ok

theorem names_of_options (h : options s allowed e = .ok os) (stated : os.truthy? "name" = some (.text name)) :
    Names e name := by
  have found : os.get? "name" = some (.text name) := (Option.filter_eq_some_iff.1 stated).1
  cases e with
  | call f positional keywords =>
    obtain ⟨done, added, ⟨rfl, rfl⟩ | ⟨a, v, rfl, literal, rfl⟩⟩ := options_of_call h
    · obtain ⟨given, rfl, each⟩ := addKeywords_eq_ok added
      obtain ⟨keyword, member, gives⟩ := exists_of_forall₂ each (Association.mem_of_lookup found)
      cases gives with
      | mk literal => exact .keyword member literal
    · obtain ⟨given, rfl, -⟩ := addKeywords_eq_ok added
      cases found
      exact .positional literal
  | _ =>
    cases h
    cases found

theorem names_of_parameter (h : parameter s annotations e = .ok p) : Names e p.name.val := by
  rw [parameter] at h
  obtain ⟨os, given, h⟩ := bind_eq_ok.1 h
  split at h
  · cases h
  · next name stated =>
    split at h
    · rw [Site.name_of_parameter rfl h]
      exact names_of_options given stated
    · cases h
  · cases h

end Decorated

end TaskCatalog
