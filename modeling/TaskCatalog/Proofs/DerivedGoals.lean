import Mathlib.Data.List.DropRight
import TaskCatalog.Proofs.DecoratorMarks
import TaskCatalog.Proofs.Forms
import TaskCatalog.Proofs.TagLines

/-!
The goal name that a class or function has when its declaration states none. Each step may undo what another one did,
but what is left of an identifier is always words and single dashes between them.
-/

namespace TaskCatalog

open Text Outcome

variable {t u : Text} {l : Letter} {identifier : Text}

/-- An identifier of ASCII that is more than underscores. -/
structure IsPlainIdentifier (t : Text) : Prop where
  letters : ∀ l ∈ t, l.satisfies (fun c => c.isAlphanum || c == '_') = true
  stated : ∃ l ∈ t, l.satisfies Char.isAlphanum = true

def isSmall (c : Char) : Bool := c.isLower || c.isDigit

/-- Words of small letters and digits, with one dash between each two. -/
structure GoalName.Dashed (t : Text) : Prop where
  stated : t ≠ []
  letters : ∀ l ∈ t, l.satisfies isSmall = true ∨ isDash l = true
  front : ∀ l ∈ t.head?, isDash l = false
  back : ∀ l ∈ t.getLast?, isDash l = false
  single : ¬ ("--" : Text) <:+: t

theorem eq_of_isDash (dash : isDash l = true) : l = .scalar '-' := eq_of_beq dash

/-- A part of what has no two dashes in a row has none either. -/
theorem single_of_infix (single : ¬ ("--" : Text) <:+: t) (part : u <:+: t) : ¬ ("--" : Text) <:+: u :=
  fun double => single (double.trans part)

section Words

theorem mem_partWords (h : l ∈ partWords t) : l ∈ t ∨ isDash l = true := by
  fun_induction partWords t with
  | case1 => exact .inl h
  | case2 first isEnd next rest parted ih =>
    rcases List.mem_cons.1 h with rfl | h
    · exact .inl List.mem_cons_self
    · rcases List.mem_cons.1 h with rfl | h
      · exact .inr rfl
      · exact (ih h).imp_left (List.mem_cons_of_mem first)
  | case3 first isEnd next rest joined ih =>
    rcases List.mem_cons.1 h with rfl | h
    · exact .inl List.mem_cons_self
    · exact (ih h).imp_left (List.mem_cons_of_mem first)
  | case4 first => exact .inl h

theorem sublist_partWords (t : Text) : t.Sublist (partWords t) := by
  fun_induction partWords t with
  | case1 => exact .slnil
  | case2 first isEnd next rest parted ih => exact (ih.cons _).cons_cons first
  | case3 first isEnd next rest joined ih => exact ih.cons_cons first
  | case4 first => exact .refl _

theorem isSmall_toLower {c : Char} (h : c.isAlphanum = true) : c.toNat < 128 ∧ isSmall c.toLower = true := by
  have each : ∀ n < 128, (Char.ofNat n).isAlphanum = true → isSmall (Char.ofNat n).toLower = true := by decide +kernel
  have ascii : c.toNat < 128 := by
    unfold Char.isAlphanum Char.isAlpha Char.isUpper Char.isLower Char.isDigit at h
    simp only [Bool.or_eq_true, Bool.and_eq_true, decide_eq_true_eq] at h
    rcases h with (⟨-, high⟩ | ⟨-, high⟩) | ⟨-, high⟩
    · exact lt_of_le_of_lt (high : c.toNat ≤ 90) (by decide)
    · exact lt_of_le_of_lt (high : c.toNat ≤ 122) (by decide)
    · exact lt_of_le_of_lt (high : c.toNat ≤ 57) (by decide)
  have small := each c.toNat ascii
  rw [Char.ofNat_toNat] at small
  exact ⟨ascii, small h⟩

theorem isAlphanum_of_isSmall {c : Char} (h : isSmall c = true) : c.isAlphanum = true := by
  rw [isSmall, Bool.or_eq_true] at h
  unfold Char.isAlphanum Char.isAlpha
  rcases h with lower | digit
  · rw [lower, Bool.or_true, Bool.true_or]
  · rw [digit, Bool.or_true]

theorem mem_lower (ascii : ∀ l ∈ t, ∃ c : Char, l = .scalar c ∧ c.toNat < 128) :
    l ∈ lower t ↔ ∃ c, .scalar c ∈ t ∧ l = .scalar c.toLower := by
  have after : ∀ before, l ∈ lowerAfter before t ↔ ∃ c, .scalar c ∈ t ∧ l = .scalar c.toLower := by
    induction t with
    | nil => simp [lowerAfter]
    | cons first rest ih =>
      intro before
      obtain ⟨⟨c, rfl, low⟩, later⟩ := List.forall_mem_cons.1 ascii
      have notSigma : c ≠ '\u03A3' := by rintro rfl; exact absurd low (by decide)
      have notDotted : c ≠ '\u0130' := by rintro rfl; exact absurd low (by decide)
      have step :
          lowerAfter before (.scalar c :: rest) = .scalar c.toLower :: lowerAfter (.scalar c :: before) rest := by
        simp [lowerAfter, notSigma, notDotted, lowerChar, low]
      rw [step, List.mem_cons, ih later]
      constructor
      · rintro (rfl | ⟨d, member, rfl⟩)
        · exact ⟨c, List.mem_cons_self, rfl⟩
        · exact ⟨d, List.mem_cons_of_mem _ member, rfl⟩
      · rintro ⟨d, member, rfl⟩
        rcases List.mem_cons.1 member with same | member
        · cases same
          exact .inl rfl
        · exact .inr ⟨d, member, rfl⟩
  exact after []

/-- The letters that an identifier comes to before its dashes are put in order. -/
def loweredWords (identifier : Text) : Text :=
  lower ((partWords identifier).map fun l => if l = .scalar '_' then .scalar '-' else l)

theorem IsPlainIdentifier.letters_dashed (plain : IsPlainIdentifier identifier) :
    ∀ l ∈ (partWords identifier).map fun l => if l = .scalar '_' then .scalar '-' else l,
      ∃ c : Char, l = .scalar c ∧ (c.isAlphanum = true ∨ c = '-') := by
  intro l h
  obtain ⟨k, member, rfl⟩ := List.mem_map.1 h
  split
  · exact ⟨'-', rfl, .inr rfl⟩
  · next other =>
    rcases mem_partWords member with stated | dash
    · obtain ⟨c, rfl, named⟩ := Letter.satisfies_iff.1 (plain.letters k stated)
      have word : c ≠ '_' := fun same => other (congrArg _ same)
      simp only [Bool.or_eq_true, beq_iff_eq, word, or_false] at named
      exact ⟨c, rfl, .inl named⟩
    · exact ⟨'-', eq_of_isDash dash, .inr rfl⟩

theorem IsPlainIdentifier.mem_loweredWords_iff (plain : IsPlainIdentifier identifier) : l ∈ loweredWords identifier ↔
    ∃ c, .scalar c ∈ ((partWords identifier).map fun l => if l = .scalar '_' then .scalar '-' else l) ∧
      l = .scalar c.toLower := by
  refine mem_lower fun l h => ?_
  obtain ⟨c, rfl, named | rfl⟩ := plain.letters_dashed l h
  · exact ⟨c, rfl, (isSmall_toLower named).1⟩
  · exact ⟨_, rfl, by decide⟩

theorem IsPlainIdentifier.letters_loweredWords (plain : IsPlainIdentifier identifier) :
    ∀ l ∈ loweredWords identifier, l.satisfies isSmall = true ∨ isDash l = true := by
  intro l h
  obtain ⟨c, member, rfl⟩ := plain.mem_loweredWords_iff.1 h
  obtain ⟨d, same, named | rfl⟩ := plain.letters_dashed _ member
  · cases same
    exact .inl (isSmall_toLower named).2
  · cases same
    exact .inr (by decide)

theorem IsPlainIdentifier.stated_loweredWords (plain : IsPlainIdentifier identifier) :
    ∃ l ∈ loweredWords identifier, isDash l = false := by
  obtain ⟨l, member, named⟩ := plain.stated
  obtain ⟨c, rfl, named⟩ := Letter.satisfies_iff.1 named
  have word : Letter.scalar c ≠ .scalar '_' := by
    intro same
    cases same
    exact absurd named (by decide)
  have kept := List.mem_map_of_mem (f := fun l => if l = Letter.scalar '_' then Letter.scalar '-' else l)
    ((sublist_partWords identifier).mem member)
  rw [if_neg word] at kept
  refine ⟨.scalar c.toLower, plain.mem_loweredWords_iff.2 ⟨c, kept, rfl⟩, ?_⟩
  rw [isDash, beq_eq_false_iff_ne]
  intro same
  have small := (isSmall_toLower named).2
  rw [Letter.scalar.inj same] at small
  exact absurd small (by decide)

end Words

section Dashes

theorem sublist_squeezeDashes (t : Text) : (squeezeDashes t).Sublist t := by
  fun_induction squeezeDashes t with
  | case1 => exact .slnil
  | case2 l rest double ih => exact ih.cons l
  | case3 l rest apart ih => exact ih.cons_cons l

theorem mem_squeezeDashes (word : isDash l = false) : l ∈ squeezeDashes t ↔ l ∈ t := by
  fun_induction squeezeDashes t with
  | case1 => rfl
  | case2 first rest double ih =>
    have dash := (Bool.and_eq_true_iff.1 double).1
    have other : l ≠ first := by
      rintro rfl
      exact Bool.false_ne_true (word.symm.trans dash)
    rw [ih, List.mem_cons, or_iff_right other]
  | case3 first rest apart ih => rw [List.mem_cons, List.mem_cons, ih]

/-- Of dashes in a row one is kept, so what a text begins with stays. -/
theorem head?_squeezeDashes (t : Text) : (squeezeDashes t).head? = t.head? := by
  fun_induction squeezeDashes t with
  | case1 => rfl
  | case2 first rest double ih =>
    obtain ⟨dash, next⟩ := Bool.and_eq_true_iff.1 double
    rw [Option.any_eq_true] at next
    obtain ⟨second, there, again⟩ := next
    rw [ih, there, List.head?_cons, eq_of_isDash dash, eq_of_isDash again]
  | case3 first rest apart ih => rfl

theorem single_squeezeDashes (t : Text) : ¬ ("--" : Text) <:+: squeezeDashes t := by
  fun_induction squeezeDashes t with
  | case1 => decide
  | case2 first rest double ih => exact ih
  | case3 first rest apart ih =>
    intro found
    rcases List.infix_cons_iff.1 found with front | later
    · obtain ⟨rfl, more, next⟩ := List.cons_prefix_cons.1 front
      have dash : rest.head? = some (.scalar '-') := by
        rw [← head?_squeezeDashes, ← next]
        rfl
      rw [dash] at apart
      exact apart rfl
    · exact ih later

theorem prefix_trimDashes (t : Text) : trimDashes t <+: t.dropWhile isDash := List.rdropWhile_prefix isDash _

theorem infix_trimDashes (t : Text) : trimDashes t <:+: t :=
  (prefix_trimDashes t).isInfix.trans (List.dropWhile_suffix isDash).isInfix

theorem mem_dropWhile (word : isDash l = false) : l ∈ t.dropWhile isDash ↔ l ∈ t := by
  refine ⟨fun h => (List.dropWhile_sublist isDash).mem h, fun h => ?_⟩
  rw [← List.takeWhile_append_dropWhile (p := isDash) (l := t), List.mem_append] at h
  refine h.resolve_left fun dashed => ?_
  rw [List.mem_takeWhile_imp dashed] at word
  cases word

theorem mem_trimDashes (word : isDash l = false) : l ∈ trimDashes t ↔ l ∈ t := by
  rw [trimDashes, List.mem_reverse, mem_dropWhile word, List.mem_reverse, mem_dropWhile word]

theorem front_trimDashes : ∀ l ∈ (trimDashes t).head?, isDash l = false := by
  intro l first
  obtain ⟨rest, kept⟩ := List.head?_eq_some_iff.1 first
  have kept : (t.dropWhile isDash).head? = some l := by
    obtain ⟨dropped, whole⟩ := prefix_trimDashes t
    rw [← whole, kept]
    rfl
  have ends := List.head?_dropWhile_not isDash t
  rw [kept] at ends
  exact ends

theorem back_trimDashes : ∀ l ∈ (trimDashes t).getLast?, isDash l = false := by
  intro l last
  rw [trimDashes, List.getLast?_reverse] at last
  have ends := List.head?_dropWhile_not isDash (t.dropWhile isDash).reverse
  rw [Option.mem_def.1 last] at ends
  exact ends

end Dashes

namespace GoalName

/-- What stands in front of a last word is not empty, and no dash ends it. -/
theorem Dashed.front_of_append {ending : Text} (dashed : Dashed (t ++ .scalar '-' :: ending)) : Dashed t := by
  have stated : t ≠ [] := by
    rintro rfl
    exact absurd (dashed.front _ rfl) (by decide)
  have single := single_of_infix dashed.single (List.prefix_append t _).isInfix
  refine ⟨stated, fun l h => dashed.letters l (List.mem_append_left _ h), fun l first => ?_, fun l last => ?_, single⟩
  · exact dashed.front l (by rw [List.head?_append, Option.mem_def.1 first]; rfl)
  · obtain ⟨words, rfl⟩ := List.getLast?_eq_some_iff.1 last
    refine Bool.eq_false_iff.2 fun dash => dashed.single ⟨words, ending, ?_⟩
    rw [eq_of_isDash dash, List.append_assoc, List.append_assoc]
    rfl

theorem dashed_trimDashes (letters : ∀ l ∈ t, l.satisfies isSmall = true ∨ isDash l = true)
    (stated : ∃ l ∈ t, isDash l = false) : Dashed (trimDashes (squeezeDashes t)) := by
  obtain ⟨l, member, word⟩ := stated
  refine ⟨?_, fun l h => ?_, front_trimDashes, back_trimDashes, ?_⟩
  · exact List.ne_nil_of_mem ((mem_trimDashes word).2 ((mem_squeezeDashes word).2 member))
  · exact letters l ((sublist_squeezeDashes t).mem ((infix_trimDashes _).mem h))
  · exact single_of_infix (single_squeezeDashes t) (infix_trimDashes _)

theorem dashed_defaultGoalName (plain : IsPlainIdentifier identifier) : Dashed (defaultGoalName identifier) := by
  have words := dashed_trimDashes plain.letters_loweredWords plain.stated_loweredWords
  unfold defaultGoalName
  rw [← loweredWords]
  generalize trimDashes (squeezeDashes (loweredWords identifier)) = spelled at words
  have name : Dashed (if taskEnding.isSuffixOf spelled then spelled.take (spelled.length - taskEnding.length)
      else spelled) := by
    split
    · next ending =>
      obtain ⟨front, rfl⟩ := List.isSuffixOf_iff_suffix.1 ending
      rw [List.length_append, Nat.add_sub_cancel, List.take_left]
      exact words.front_of_append
    · exact words
  dsimp only
  rw [if_neg (mt List.isEmpty_iff.1 name.stated)]
  exact name

theorem Dashed.fault?_eq_none (dashed : Dashed t) : fault? t = none := by
  have part : ∀ l ∈ t, isPart l = true ∧ isBlank l = false ∧ l ≠ .scalar '.' := by
    intro l h
    rcases dashed.letters l h with small | dash
    · obtain ⟨c, rfl, small⟩ := Letter.satisfies_iff.1 small
      have word := isWord_of_isAlphanum (isAlphanum_of_isSmall small)
      refine ⟨by simp [isPart, word], Bool.eq_false_iff.2 fun blank => ?_, ?_⟩
      · exact Bool.false_ne_true ((isWord_of_isBlankChar blank).symm.trans word)
      · rintro same
        rw [Letter.scalar.inj same] at small
        exact absurd small (by decide)
    · rw [eq_of_isDash dash]
      decide
  obtain ⟨first, rest, rfl⟩ := List.exists_cons_of_ne_nil dashed.stated
  obtain ⟨⟨-, solid, -⟩, later⟩ := List.forall_mem_cons.1 part
  have filled : isAllBlank (first :: rest) = false := by rw [isAllBlank, List.all_cons, solid, Bool.false_and]
  have unbroken : (first :: rest).any isBlank = false := List.any_eq_false.2 fun l h => by simp [(part l h).2.1]
  have shape : hasShape (first :: rest) = true := by
    have begins := (dashed.letters first List.mem_cons_self).resolve_right (by simp [dashed.front first rfl])
    obtain ⟨c, rfl, small⟩ := Letter.satisfies_iff.1 begins
    refine Bool.and_eq_true_iff.2 ⟨isAlphanum_of_isSmall small, List.all_eq_true.2 fun l h => (later l h).1⟩
  have dotless : includes ".." (first :: rest) = false := by
    refine Bool.eq_false_iff.2 fun dots => ?_
    exact (part (.scalar '.') ((includes_eq_true.1 dots).mem List.mem_cons_self)).2.2 rfl
  rw [fault?, filled, unbroken, shape, dotless]
  rfl

end GoalName

namespace Decorated

variable {c : Conventions} {m : Module} {scope : List Text} {d : Definition} {e : Code.Expression}

/-- A task decorator that is not called leaves everything to the definition. -/
theorem task?_of_bare (only : d.decoratedBy c.taskDecorator = [e]) (bare : Bears e c.taskDecorator) {t : Task} :
    task? c m scope d = .ok (some t) ↔ ∃ annotations ps, d.annotations = .ok annotations ∧
      (d.parameterCalls c).mapM (parameter (Site.ofLine strategy m.file d.line) annotations) = .ok ps ∧
      (Site.ofLine strategy m.file d.line).task (taskFields [] d (implementation m scope d).val) ps {} = .ok t := by
  have given : options (Site.ofLine strategy m.file d.line) taskNames e = .ok [] := by
    cases bare <;> rfl
  constructor
  · intro read
    cases comes_of_task? read with
    | task one passed phase annotated taken required built =>
      cases only.symm.trans one
      cases given.symm.trans passed
      cases required
      exact ⟨_, _, annotated, taken, built⟩
  · rintro ⟨annotations, ps, annotated, taken, built⟩
    exact task?_of_comes (.task only given rfl annotated taken rfl built)

theorem site_task_of_derived {s : Site} {ps : List Parameter} {whole : { t : Text // t ≠ [] }}
    (accepted : GoalName.fault? (defaultGoalName d.name) = none) :
    (∃ t, s.task (taskFields [] d whole.val) ps {} = .ok t ∧ t.name.text = defaultGoalName d.name) ↔
      whole.val.any Letter.isHalf = false ∧ (ps.map fun p => p.name.val).Nodup := by
  constructor
  · rintro ⟨t, built, -⟩
    obtain ⟨⟨-, placed, taken⟩, -⟩ := Task.ofParts_eq_ok (Site.ofParts_of_task built)
    have distinct := t.distinct
    rw [← Checked.ok.inj taken] at distinct
    refine ⟨Bool.eq_false_iff.2 fun broken => ?_, distinct⟩
    change Checked.located _ (Checked.nonempty (.text whole.val)) = _ at placed
    rw [Checked.nonempty, Checked.text, Checked.andThen, broken] at placed
    cases placed
  · rintro ⟨readable, distinct⟩
    have stated (field : Text) : (taskFields [] d whole.val).get? field = _ := Record.get?_ofPairs _ field
    have name : (taskFields [] d whole.val).required "name" Checked.goalName = .ok ⟨_, accepted⟩ :=
      Record.required_of_get? (stated "name") (Checked.goalName_text ⟨_, accepted⟩)
    have placed : (taskFields [] d whole.val).required "implementation" Checked.nonempty = .ok whole :=
      Record.required_of_get? (stated "implementation") (Checked.nonempty_text readable)
    have described :
        (taskFields [] d whole.val).optionalText "description" = .ok (d.documentation.bind firstParagraph) :=
      Record.optionalText_of_get? (stated "description")
    obtain ⟨t, made, named⟩ : ∃ t, Task.ofParts (s.parts (taskFields [] d whole.val) ps {}) = .ok t ∧
        t.name.text = defaultGoalName d.name :=
      ⟨⟨⟨_, accepted⟩, whole, d.documentation.bind firstParagraph, ps, none, {}, [], none, none, some s.strategy,
        distinct⟩, Task.ofParts_eq_ok_iff.2 ⟨name, placed, described, rfl, rfl, rfl, ⟨[], rfl, rfl⟩, rfl, rfl, rfl⟩, rfl⟩
    refine ⟨t, ?_, named⟩
    rw [Site.task, made]
    rfl

/-- The names around a definition and in front of it are readable; its own is of ASCII. -/
theorem readable_implementation (plain : IsPlainIdentifier d.name) :
    (implementation m scope d).val.any Letter.isHalf = false ↔
      (∀ l ∈ m.name, l.isHalf = false) ∧ ∀ name ∈ scope, ∀ l ∈ name, l.isHalf = false := by
  have own : ∀ l ∈ d.name, l.isHalf = false := by
    intro l h
    obtain ⟨c, rfl, -⟩ := Letter.satisfies_iff.1 (plain.letters l h)
    rfl
  have between : ∀ l ∈ (":" : Text), l.isHalf = false := by decide
  have joined :
      (∀ l ∈ join "." (scope ++ [d.name]), l.isHalf = false) ↔ ∀ t ∈ scope ++ [d.name], ∀ l ∈ t, l.isHalf = false :=
    forall_mem_join_iff (by decide)
  simp only [List.any_eq_false, Bool.not_eq_true]
  rw [implementation, List.forall_mem_append, List.forall_mem_append, joined, List.forall_mem_append,
    List.forall_mem_singleton]
  exact ⟨fun ⟨⟨module, _⟩, around, _⟩ => ⟨module, around⟩, fun ⟨module, around⟩ => ⟨⟨module, between⟩, around, own⟩⟩

/-- The goal name that an identifier of ASCII gives is words and single dashes, and it is accepted. So a bare task
decorator declares a task under this name just if the parameters and the names around it are sound. -/
theorem derived_goal_accepted (plain : IsPlainIdentifier identifier) :
    GoalName.Dashed (defaultGoalName identifier) ∧ GoalName.fault? (defaultGoalName identifier) = none ∧
      ∀ (c : Conventions) (m : Module) (scope : List Text) (d : Definition) (e : Code.Expression), d.name = identifier →
        d.decoratedBy c.taskDecorator = [e] → Bears e c.taskDecorator →
        ((∃ t, task? c m scope d = .ok (some t) ∧ t.name.text = defaultGoalName identifier) ↔
          (∃ annotations ps, d.annotations = .ok annotations ∧
            (d.parameterCalls c).mapM (parameter (Site.ofLine strategy m.file d.line) annotations) = .ok ps ∧
            (ps.map fun p => p.name.val).Nodup) ∧
          (∀ l ∈ m.name, l.isHalf = false) ∧ ∀ name ∈ scope, ∀ l ∈ name, l.isHalf = false) := by
  have dashed := GoalName.dashed_defaultGoalName plain
  refine ⟨dashed, dashed.fault?_eq_none, ?_⟩
  rintro c m scope d e rfl only bare
  rw [← readable_implementation plain]
  constructor
  · rintro ⟨t, read, named⟩
    obtain ⟨annotations, ps, annotated, taken, built⟩ := (task?_of_bare only bare).1 read
    obtain ⟨readable, distinct⟩ := (site_task_of_derived dashed.fault?_eq_none).1 ⟨t, built, named⟩
    exact ⟨⟨annotations, ps, annotated, taken, distinct⟩, readable⟩
  · rintro ⟨⟨annotations, ps, annotated, taken, distinct⟩, readable⟩
    obtain ⟨t, built, named⟩ := (site_task_of_derived dashed.fault?_eq_none).2 ⟨readable, distinct⟩
    exact ⟨t, (task?_of_bare only bare).2 ⟨annotations, ps, annotated, taken, built⟩, named⟩

/-- Underscores at both ends, a digit in front of a capital and a last word `task`, in a class with a parameter. -/
theorem derived_goal_accepted_generate :
    ∃ t, task? .default ⟨.ofText "src/a.py", "a", []⟩ ["Outer"] ⟨4, "__GenerateV2Task_",
        [.name "task", .call (.name "parameter") [.constant (.text "directory") false] []], .ok [], none⟩ = .ok (some t) ∧
      t.name.text = "generate-v2" := by
  have plain : IsPlainIdentifier "__GenerateV2Task_" := ⟨by decide, by decide⟩
  have name : defaultGoalName "__GenerateV2Task_" = "generate-v2" := by decide
  rw [← name]
  refine ((derived_goal_accepted plain).2.2 _ _ _ _ (.name "task") rfl rfl (.alone _)).2 ⟨⟨[], _, rfl, rfl, ?_⟩, ?_⟩
  all_goals decide

end Decorated

end TaskCatalog
