import TaskCatalog.Proofs.Forms

/-!
Expressions as texts with references between them. The parts of an expression are found again from its letters, so that
an expression is accepted just if its parts are as they should be. But what is left of it without its references is
searched for openers as one text: texts that only come to an opener when they are joined are refused as well.
-/

namespace TaskCatalog.Expression

open Text

/-- Texts with references between them; each reference stands with the text behind it. -/
structure Composition where
  first : Text
  rest : List (Text × Text)

namespace Composition

def paths (c : Composition) : List Text := c.rest.map Prod.fst

def texts (c : Composition) : List Text := c.first :: c.rest.map Prod.snd

def tail (rest : List (Text × Text)) : Text := rest.flatMap fun (path, t) => opener ++ path ++ closer :: t

def text (c : Composition) : Text := c.first ++ tail c.rest

/-- The texts come to an opener where the references between them are left out. -/
def Joins (c : Composition) : Prop := opener <:+: c.texts.flatten

instance (c : Composition) : Decidable c.Joins := inferInstanceAs (Decidable (_ <:+: _))

/-- No opener in the texts, and a dotted path, up to its closer, in every reference. -/
structure Sound (c : Composition) : Prop where
  texts : ∀ t ∈ c.texts, ¬ opener <:+: t
  paths : ∀ path ∈ c.paths, closer ∉ path ∧ DottedPath (trim path)

end Composition

variable {t path rest : Text} {l : Letter} {parts : List (Text × Text)} {c : Composition}

theorem isName_of_identifier (h : Identifier t) : isName t = true := by
  obtain ⟨front, named⟩ := h
  rw [isName, Bool.and_eq_true, List.all_eq_true]
  refine ⟨by simpa [isNameStart] using front, fun l hl => ?_⟩
  obtain ⟨d, rfl, hd⟩ := named l hl
  simpa [isNamePart] using hd

theorem Identifier.dot_not_mem (h : Identifier t) : Letter.scalar '.' ∉ t := by
  obtain ⟨front, named⟩ := h
  rw [List.mem_cons, not_or]
  constructor
  · rintro ⟨rfl⟩
    rcases front with front | front <;> revert front <;> decide
  · intro dot
    obtain ⟨d, hd, named⟩ := named _ dot
    cases hd
    rcases named with named | named <;> revert named <;> decide

theorem isPath_of_dottedPath (h : DottedPath t) : isPath t = true := by
  induction h with
  | last name => rw [isPath, splitOn_of_not_mem name.dot_not_mem, List.all_cons, isName_of_identifier name]; rfl
  | dot name _ ih =>
    rw [isPath] at ih ⊢
    rw [splitOn_append name.dot_not_mem, List.all_cons, isName_of_identifier name, ih]
    rfl

theorem DottedPath.ne_nil (h : DottedPath t) : t ≠ [] := by
  cases h with
  | last name =>
    cases name
    exact List.cons_ne_nil _ _
  | dot name _ => exact List.append_ne_nil_of_right_ne_nil _ (List.cons_ne_nil _ _)

theorem pathFault?_eq_none_iff : pathFault? path = none ↔ DottedPath (trim path) := by
  refine ⟨dottedPath_of_pathFault?, fun dotted => ?_⟩
  have filled : (trim path).isEmpty = false := by simpa using dotted.ne_nil
  simp only [pathFault?, filled, isPath_of_dottedPath dotted, if_true]
  rfl

theorem reference?_of_closed (h : closer ∉ path) (rest : Text) :
    reference? (opener ++ path ++ closer :: rest) = some path := by
  have taken : (path ++ closer :: rest).takeWhile (· ≠ closer) = path := by
    rw [List.takeWhile_append_of_pos (by intro l hl; simpa using fun same : l = closer => h (same ▸ hl))]
    simp
  rw [opener_eq]
  change (let taken := (path ++ closer :: rest).takeWhile (· ≠ closer)
    if taken.length < (path ++ closer :: rest).length then some taken else none) = _
  rw [taken]
  simp

theorem reference?_of_no_opener (h : ¬ opener <+: t) : reference? t = none := by
  cases found : reference? t with
  | none => rfl
  | some path =>
    obtain ⟨rest, rfl, -⟩ := reference?_eq_some found
    rw [List.append_assoc] at h
    exact absurd (List.prefix_append _ _) h

theorem no_opener_before (h : ¬ opener <+: l :: t) (parts : List (Text × Text)) :
    ¬ opener <+: l :: t ++ Composition.tail parts := by
  rw [opener_eq] at h ⊢
  cases t with
  | cons next t => simpa using h
  | nil =>
    cases parts with
    | nil => simp [Composition.tail]
    | cons part parts =>
      -- a reference begins with no brace, so that the letter before it opens nothing
      rw [Composition.tail, List.flatMap_cons, opener_eq]
      simp

theorem references_text (first : Text) (plain : ¬ opener <:+: first) (parts : List (Text × Text)) :
    references 0 (first ++ Composition.tail parts) = references 0 (Composition.tail parts) ∧
      remainder 0 (first ++ Composition.tail parts) = first ++ remainder 0 (Composition.tail parts) := by
  induction first with
  | nil => exact ⟨rfl, rfl⟩
  | cons l first ih =>
    rw [List.infix_cons_iff, not_or] at plain
    have none := reference?_of_no_opener (no_opener_before plain.1 parts)
    obtain ⟨found, left⟩ := ih plain.2
    rw [List.cons_append] at none ⊢
    rw [references, remainder]
    simp only [none]
    exact ⟨found, congrArg (l :: ·) left⟩

theorem references_reference (h : closer ∉ path) (rest : Text) :
    references 0 (opener ++ path ++ closer :: rest) = path :: references 0 rest ∧
      remainder 0 (opener ++ path ++ closer :: rest) = remainder 0 rest := by
  have some := reference?_of_closed h rest
  have dropped := drop_reference path rest
  rw [opener_eq] at some dropped ⊢
  simp only [List.cons_append, List.nil_append] at some dropped ⊢
  rw [List.drop_succ_cons] at dropped
  rw [references, remainder]
  simp only [some]
  rw [references_skip, remainder_skip, dropped]
  exact ⟨rfl, rfl⟩

theorem Composition.scanned (plain : ∀ t ∈ c.texts, ¬ opener <:+: t) (closed : ∀ path ∈ c.paths, closer ∉ path) :
    references 0 c.text = c.paths ∧ remainder 0 c.text = c.texts.flatten := by
  obtain ⟨first, parts⟩ := c
  induction parts generalizing first with
  | nil =>
    obtain ⟨found, left⟩ := references_text first (plain first List.mem_cons_self) []
    exact ⟨found, left⟩
  | cons part parts ih =>
    obtain ⟨path, behind⟩ := part
    obtain ⟨here, more⟩ := List.forall_mem_cons.1 plain
    obtain ⟨closes, closed⟩ := List.forall_mem_cons.1 closed
    obtain ⟨found, left⟩ := ih behind more closed
    obtain ⟨skipped, kept⟩ := references_text first here ((path, behind) :: parts)
    have tail_eq : tail ((path, behind) :: parts) = opener ++ path ++ closer :: (behind ++ tail parts) := by
      rw [tail, List.flatMap_cons, List.append_assoc]
      rfl
    obtain ⟨next, after⟩ := references_reference closes (behind ++ tail parts)
    rw [tail_eq] at skipped kept
    rw [text, tail_eq, skipped, kept, next, after]
    exact ⟨congrArg (path :: ·) found, congrArg (first ++ ·) left⟩

theorem WellReferenced.exists_composition (h : WellReferenced t) : ∃ c : Composition, c.text = t ∧ c.Sound := by
  induction h with
  | nil => exact ⟨⟨[], []⟩, rfl, by simp [Composition.texts, opener_eq], by simp [Composition.paths]⟩
  | @letter l rest apart _ ih =>
    obtain ⟨⟨first, parts⟩, rfl, sound⟩ := ih
    obtain ⟨here, more⟩ := List.forall_mem_cons.1 sound.texts
    refine ⟨⟨l :: first, parts⟩, rfl, List.forall_mem_cons.2 ⟨fun inside => ?_, more⟩, sound.paths⟩
    rcases List.infix_cons_iff.1 inside with front | inside
    · exact apart (front.trans (List.prefix_append (l :: first) _))
    · exact here inside
  | @reference path rest closes dotted _ ih =>
    obtain ⟨⟨first, parts⟩, rfl, sound⟩ := ih
    refine ⟨⟨[], (path, first) :: parts⟩, ?_, ?_, List.forall_mem_cons.2 ⟨⟨closes, dotted⟩, sound.paths⟩⟩
    · rw [Composition.text, Composition.tail, List.flatMap_cons, List.nil_append, List.append_assoc]
      rfl
    · exact List.forall_mem_cons.2 ⟨by simp [opener_eq], sound.texts⟩

theorem Composition.Sound.fault?_eq (sound : c.Sound) (stated : ∃ l ∈ c.text, isBlank l = false) :
    fault? c.text = if c.Joins then some .unclosed else none := by
  obtain ⟨found, left⟩ := scanned sound.texts fun path member => (sound.paths path member).1
  have filled : isAllBlank c.text = false := by simpa [isAllBlank] using stated
  have faultless : c.paths.findSome? pathFault? = none := by
    rw [List.findSome?_eq_none_iff]
    exact fun path member => pathFault?_eq_none_iff.2 (sound.paths path member).2
  simp only [fault?, filled, found, left, faultless]
  simp only [Composition.Joins, ← includes_eq_true]
  rfl

/-- Accepted are the compositions that are sound and not blank, but for those whose texts join to an opener: these are
reported to have an unclosed reference. -/
theorem accepted_iff_composed (e : Text) :
    (fault? e = none ↔ (∃ l ∈ e, isBlank l = false) ∧ ∃ c : Composition, c.text = e ∧ c.Sound ∧ ¬ c.Joins) ∧
    ((∃ l ∈ e, isBlank l = false) ∧ (∃ c : Composition, c.text = e ∧ c.Sound ∧ c.Joins) →
      fault? e = some .unclosed) := by
  refine ⟨⟨fun accepted => ?_, ?_⟩, ?_⟩
  · obtain ⟨stated, referenced⟩ := form_of_fault? accepted
    obtain ⟨c, rfl, sound⟩ := referenced.exists_composition
    refine ⟨stated, c, rfl, sound, fun joined => ?_⟩
    rw [sound.fault?_eq stated, if_pos joined] at accepted
    cases accepted
  · rintro ⟨stated, c, rfl, sound, apart⟩
    rw [sound.fault?_eq stated, if_neg apart]
  · rintro ⟨stated, c, rfl, sound, joined⟩
    rw [sound.fault?_eq stated, if_pos joined]

namespace Composition

def twoPaths : Composition := ⟨"a/", [("b", "-"), (" c.d ", [])]⟩

theorem twoPaths_sound : twoPaths.Sound := by
  refine ⟨?_, ?_⟩
  · simp only [← includes_eq_true]
    decide
  · simp only [← pathFault?_eq_none_iff]
    decide

theorem twoPaths_accepted : twoPaths.text = ("a/$\x7bb\x7d-$\x7b c.d \x7d" : Text) ∧ fault? twoPaths.text = none :=
  ⟨by decide, (accepted_iff_composed twoPaths.text).1.2 ⟨by decide, twoPaths, rfl, twoPaths_sound, by decide⟩⟩

/-- A dollar sign before a reference and a brace behind it. -/
def joinedBrace : Composition := ⟨"$", [("a", "\x7bb\x7d")]⟩

/-- Each opener has its closer, and still an unclosed reference is reported. -/
theorem joinedBrace_refused : joinedBrace.text = ("$$\x7ba\x7d\x7bb\x7d" : Text) ∧ joinedBrace.Sound ∧
    (∃ l ∈ joinedBrace.text, isBlank l = false) ∧ fault? joinedBrace.text = some .unclosed := by
  refine ⟨by decide, ⟨?_, ?_⟩, by decide, by decide⟩
  · simp only [← includes_eq_true]
    decide
  · simp only [← pathFault?_eq_none_iff]
    decide

end Composition

end TaskCatalog.Expression
