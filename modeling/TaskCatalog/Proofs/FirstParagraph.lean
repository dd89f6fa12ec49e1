import TaskCatalog.Proofs.DocumentedTasks
import TaskCatalog.Proofs.TagLines

/-!
The first paragraph of a text is a description: one line without blanks around it and without the mark of a tag in
front, which is its own first paragraph. Whatever stands behind a line that is blank or starts with a tag is no
part of it, with any breaks between the lines and any blanks at the end of the text.
-/

namespace TaskCatalog

open Text

variable {t u p line separator rest : Text} {l : Letter} {ls : List Text}

namespace Text

/-- One break with the text that it stands in front of. A return and the feed behind it are a single break. -/
inductive LineEnd : Text → Text → Prop
  | single {l : Letter} {rest : Text} : isLineBreak l = true →
      (l = .scalar '\r' → rest.head? ≠ some (.scalar '\n')) → LineEnd [l] rest
  | returned (rest : Text) : LineEnd [.scalar '\r', .scalar '\n'] rest

theorem LineEnd.lines_eq (h : LineEnd separator rest) : lines (separator ++ rest) = [] :: lines rest := by
  cases h with
  | single broken lone => exact lines_cons_break broken lone
  | returned rest => exact lines_return_feed rest

theorem exists_lineEnd (broken : isLineBreak l = true) (t : Text) :
    ∃ separator rest, l :: t = separator ++ rest ∧ LineEnd separator rest := by
  by_cases both : l = .scalar '\r' ∧ t.head? = some (.scalar '\n')
  · obtain ⟨rfl, feed⟩ := both
    obtain ⟨rest, rfl⟩ := List.head?_eq_some_iff.1 feed
    exact ⟨_, rest, rfl, .returned rest⟩
  · exact ⟨[l], t, rfl, .single broken fun first feed => both ⟨first, feed⟩⟩

theorem Lined.isAllBlank_of_mem (h : Lined t ls) (blank : isAllBlank t = true) :
    ∀ line ∈ ls, isAllBlank line = true := by
  induction h with
  | empty => exact nofun
  | last _ _ => exact List.forall_mem_singleton.2 blank
  | broken _ _ _ _ ih =>
    rw [isAllBlank, List.all_append, List.all_cons, Bool.and_eq_true, Bool.and_eq_true] at blank
    exact List.forall_mem_cons.2 ⟨blank.1, ih blank.2.2⟩
  | returned _ _ ih =>
    rw [isAllBlank, List.all_append, List.all_cons, List.all_cons, Bool.and_eq_true, Bool.and_eq_true,
      Bool.and_eq_true] at blank
    exact List.forall_mem_cons.2 ⟨blank.1, ih blank.2.2.2⟩

theorem Lined.unbroken_of_mem (h : Lined t ls) : ∀ line ∈ ls, Unbroken line := by
  induction h with
  | empty => exact nofun
  | last unbroken _ => exact List.forall_mem_singleton.2 unbroken
  | broken unbroken _ _ _ ih => exact List.forall_mem_cons.2 ⟨unbroken, ih⟩
  | returned unbroken _ ih => exact List.forall_mem_cons.2 ⟨unbroken, ih⟩

end Text

/-! Lines that end a paragraph, and texts that end the paragraph in front of them. -/

theorem paragraphLines_of_blank (blank : isAllBlank line = true) (ls : List Text) :
    paragraphLines (line :: ls) = [] := by
  rw [paragraphLines, (trim_eq_nil_iff line).2 blank]

theorem paragraphLines_of_marked (marked : Tags.isMarked line = true) (ls : List Text) :
    paragraphLines (line :: ls) = [] := by
  obtain ⟨t, start⟩ := List.head?_eq_some_iff.1 (eq_of_beq marked)
  rw [paragraphLines, start]
  rfl

theorem paragraphLines_cons_congr {ms : List Text} {other : Text} (same : trim line = trim other)
    (later : paragraphLines ls = paragraphLines ms) : paragraphLines (line :: ls) = paragraphLines (other :: ms) := by
  rw [paragraphLines, paragraphLines, same, later]

/-- A text that ends the paragraph in front of it: its first line is blank, and what follows that line opens
no paragraph. -/
def EndsParagraph (t : Text) : Prop :=
  ∀ line ls, lines t = line :: ls → isAllBlank line = true ∧ paragraphLines ls = []

theorem endsParagraph_of_blank (blank : isAllBlank t = true) : EndsParagraph t := by
  intro line ls read
  have each := (lined_lines t).isAllBlank_of_mem blank
  rw [read, List.forall_mem_cons] at each
  refine ⟨each.1, ?_⟩
  cases ls with
  | nil => rfl
  | cons next more => exact paragraphLines_of_blank (each.2 next List.mem_cons_self) more

theorem endsParagraph_of_break (ends : LineEnd separator rest) (closed : paragraphLines (lines rest) = []) :
    EndsParagraph (separator ++ rest) := by
  intro line ls read
  cases ends.lines_eq.symm.trans read
  exact ⟨rfl, closed⟩

theorem EndsParagraph.paragraphLines_eq (h : EndsParagraph t) : paragraphLines (lines t) = [] := by
  cases read : lines t with
  | nil => rfl
  | cons line ls => exact paragraphLines_of_blank (h line ls read).1 ls

/-- A line feed in front that goes with a return before it leaves nothing of a paragraph either. -/
theorem EndsParagraph.of_feed (h : EndsParagraph (.scalar '\n' :: t)) : paragraphLines (lines t) = [] :=
  (h [] (lines t) (lines_cons_break rfl nofun)).2

/-- What ends the paragraph in front of it leaves the paragraph as it is. -/
theorem EndsParagraph.append (ends : EndsParagraph u) (t : Text) :
    paragraphLines (lines (t ++ u)) = paragraphLines (lines t) := by
  have lined := lined_lines t
  generalize lines t = ls at lined
  induction lined with
  | empty => exact ends.paragraphLines_eq
  | @last t unbroken stated =>
    cases read : lines u with
    | nil =>
      have none : u = [] := by
        by_contra stated
        exact lines_ne_nil stated read
      rw [none, List.append_nil, lines_unbroken unbroken stated]
    | cons line more =>
      obtain ⟨blank, closed⟩ := ends line more read
      rw [lines_append_unbroken unbroken read]
      exact paragraphLines_cons_congr (trim_append t blank) closed
  | @broken t rest l ls unbroken broken lone _ ih =>
    by_cases joined : l = .scalar '\r' ∧ (rest ++ u).head? = some (.scalar '\n')
    · -- a return at the end of the text goes with the feed behind it
      obtain ⟨rfl, feed⟩ := joined
      cases rest with
      | cons m rest => exact absurd feed (lone rfl)
      | nil =>
        obtain ⟨v, rfl⟩ := List.head?_eq_some_iff.1 feed
        have read := lines_append_unbroken unbroken (lines_return_feed v)
        rw [List.append_assoc, List.cons_append, List.nil_append, read, List.append_nil]
        exact paragraphLines_cons_congr rfl (ends.of_feed.trans (ends.paragraphLines_eq.symm.trans ih))
    · have read := lines_append_unbroken unbroken (lines_cons_break broken fun first feed => joined ⟨first, feed⟩)
      rw [List.append_assoc, List.cons_append, read, List.append_nil]
      exact paragraphLines_cons_congr rfl ih
  | @returned t rest ls unbroken _ ih =>
    have read := lines_append_unbroken unbroken (lines_return_feed (rest ++ u))
    rw [List.append_assoc, List.cons_append, List.cons_append, read, List.append_nil]
    exact paragraphLines_cons_congr rfl ih

/-- Blanks at the end of a text are of no account for its first paragraph. -/
theorem paragraphLines_trim (t : Text) : paragraphLines (lines (trim t)) = paragraphLines (lines (trimLeft t)) := by
  obtain ⟨blanks, blank, parts⟩ := exists_trimRight (trimLeft t)
  have same := (endsParagraph_of_blank blank).append (trim t)
  rwa [trim, ← parts, eq_comm] at same

theorem EndsParagraph.firstParagraph_eq (ends : EndsParagraph u) (stated : isAllBlank p = false) :
    firstParagraph (p ++ u) = firstParagraph p := by
  rw [firstParagraph, firstParagraph, paragraphLines_trim, paragraphLines_trim, trimLeft_append stated, ends.append]

/-! Descriptions. -/

theorem describing_of_mem (unbroken : ∀ line ∈ ls, Unbroken line) : ∀ t ∈ paragraphLines ls, t.Describing := by
  induction ls with
  | nil => exact List.forall_mem_nil _
  | cons line ls ih =>
    rw [paragraphLines]
    split
    · exact List.forall_mem_nil _
    · exact List.forall_mem_nil _
    · next stated untagged =>
      have whole : Unbroken (trim line) := by
        obtain ⟨before, after, -, -, parts⟩ := exists_padding line
        intro l hl
        refine unbroken line List.mem_cons_self l ?_
        rw [parts]
        exact List.mem_append_left _ (List.mem_append_right _ hl)
      refine List.forall_mem_cons.2 ⟨⟨stated, whole, trimmed_trim line, fun mark => ?_⟩,
        ih fun t ht => unbroken t (List.mem_cons_of_mem _ ht)⟩
      obtain ⟨more, start⟩ := List.head?_eq_some_iff.1 mark
      exact untagged more start

theorem describing_join (stated : ls ≠ []) (each : ∀ t ∈ ls, t.Describing) : (join " " ls).Describing := by
  obtain ⟨first, more, rfl⟩ := List.exists_cons_of_ne_nil stated
  have good := each first List.mem_cons_self
  have front : (join " " (first :: more)).head? = first.head? := head?_join " " good.stated
  obtain ⟨l, hl⟩ : ∃ l, first.head? = some l := by
    obtain ⟨l, t, rfl⟩ := List.exists_cons_of_ne_nil good.stated
    exact ⟨l, rfl⟩
  refine ⟨fun none => ?_, unbroken_join (by decide) fun t ht => (each t ht).unbroken,
    ⟨fun l hl => ?_, fun l hl => ?_⟩, ?_⟩
  · rw [none, hl] at front
    cases front
  · exact good.trimmed.front l (front ▸ hl)
  · obtain ⟨before, last, parts⟩ : ∃ before last, first :: more = before ++ [last] :=
      ⟨_, _, (List.dropLast_append_getLast stated).symm⟩
    have final := each last (parts ▸ List.mem_append_right _ List.mem_cons_self)
    rw [parts, getLast?_join _ final.stated] at hl
    exact final.trimmed.back l hl
  · rw [front]
    exact good.untagged

theorem describing_of_firstParagraph (h : firstParagraph t = some p) : p.Describing := by
  have each := describing_of_mem (lined_lines (trim t)).unbroken_of_mem
  rw [firstParagraph] at h
  split at h
  · cases h
  · next stated =>
    cases h
    exact describing_join stated each

/-- A description is its own first paragraph. -/
theorem Text.Describing.firstParagraph_eq (h : p.Describing) : firstParagraph p = some p := by
  rw [firstParagraph, h.trimmed.trim_eq, lines_unbroken h.unbroken h.stated, h.paragraphLines_cons]
  rfl

/-- A line that ends the paragraph in front of it: a blank one, which nothing but a break follows, or one that
starts with an `@`, blanks aside. -/
inductive ClosingLine : Text → Text → Prop
  | blank {line rest : Text} : isAllBlank line = true → (∀ l ∈ rest.head?, isLineBreak l = true) → ClosingLine line rest
  | marked {line rest : Text} : Tags.isMarked line = true → ClosingLine line rest

theorem ClosingLine.paragraphLines_eq (h : ClosingLine line rest) (whole : Unbroken line) :
    paragraphLines (lines (line ++ rest)) = [] := by
  cases h with
  | blank blank behind =>
    cases rest with
    | nil =>
      rw [List.append_nil]
      exact (endsParagraph_of_blank blank).paragraphLines_eq
    | cons l more =>
      obtain ⟨separator, u, parts, ends⟩ := exists_lineEnd (behind l rfl) more
      rw [parts, lines_append_unbroken whole ends.lines_eq, List.append_nil]
      exact paragraphLines_of_blank blank _
  | marked marked =>
    obtain ⟨gap, t, blank, rfl⟩ := Tags.isMarked_iff.1 marked
    obtain ⟨first, more, read⟩ : ∃ first more, lines (.scalar '@' :: (t ++ rest)) = (.scalar '@' :: first) :: more := by
      rw [lines_cons_unbroken (by decide)]
      cases lines (t ++ rest) with
      | nil => exact ⟨[], [], rfl⟩
      | cons first more => exact ⟨first, more, rfl⟩
    have front : Unbroken gap := fun l hl => whole l (List.mem_append_left _ hl)
    rw [List.append_assoc, List.cons_append, lines_append_unbroken front read]
    exact paragraphLines_of_marked (Tags.isMarked_iff.2 ⟨gap, first, blank, rfl⟩) more

namespace Documented

open Outcome

variable {c : Conventions} {m : Module} {d : Definition} {s : Site} {name documentation : Text} {hint : Option Text}

theorem description_of_task {t : Task} (h : task c m d documentation = .ok t) :
    t.description = firstParagraph documentation := by
  obtain ⟨tags, rs, ps, -, -, -, -, -, -, made⟩ := made_of_task h
  obtain ⟨-, -, described, -⟩ := Task.ofParts_eq_ok_iff.1 (Site.ofParts_of_task made)
  dsimp only [Site.parts] at described
  rw [Record.optionalText_of_get? (Record.get?_ofPairs _ _)] at described
  exact (Checked.ok.inj described).symm

theorem description_of_parameter {p : Parameter} (h : parameter s name hint documentation = .ok p) :
    p.description = firstParagraph documentation := by
  rw [parameter] at h
  obtain ⟨tags, -, h⟩ := bind_eq_ok.1 h
  dsimp only at h
  split at h
  · obtain ⟨attributes, -, h⟩ := bind_eq_ok.1 h
    obtain ⟨required, -, h⟩ := bind_eq_ok.1 h
    obtain ⟨readOnly, -, h⟩ := bind_eq_ok.1 h
    obtain ⟨-, -, -, -, -, -, described, -⟩ := Parameter.ofRecord_eq_ok_iff.1 (Site.parameter_eq_ok_iff.1 h)
    rw [Record.optionalText_of_get? (Record.get?_ofPairs _ _)] at described
    exact (Checked.ok.inj described).symm
  · exact absurd h Site.fail_bind_ne_ok

end Documented

/-- What the first paragraph of a text gives is a description that is its own first paragraph, as every description is,
and a line that is blank or starts with a tag parts it from everything behind. Nothing else becomes the description of a
documented task or parameter. -/
theorem firstParagraph_alone :
    (∀ t p, firstParagraph t = some p → p.Describing ∧ firstParagraph p = some p) ∧
    (∀ p, p.Describing → firstParagraph p = some p) ∧
    (∀ p separator line rest, isAllBlank p = false → LineEnd separator (line ++ rest) → Unbroken line →
      ClosingLine line rest → firstParagraph (p ++ (separator ++ (line ++ rest))) = firstParagraph p) ∧
    (∀ c m d documentation t, Documented.task c m d documentation = .ok t →
      t.description = firstParagraph documentation) ∧
    ∀ s name hint documentation p, Documented.parameter s name hint documentation = .ok p →
      p.description = firstParagraph documentation := by
  refine ⟨fun t p read => ?_, fun p described => described.firstParagraph_eq,
    fun p separator line rest stated ends whole closing => ?_, fun _ _ _ _ _ made => ?_, fun _ _ _ _ _ made => ?_⟩
  · have described := describing_of_firstParagraph read
    exact ⟨described, described.firstParagraph_eq⟩
  · exact (endsParagraph_of_break ends (closing.paragraphLines_eq whole)).firstParagraph_eq stated
  · exact Documented.description_of_task made
  · exact Documented.description_of_parameter made

/-- A description of two lines with a return at its end, a blank line and more text behind; one with a tag in the line
behind a paragraph separator; and a task and a parameter that are documented. -/
theorem firstParagraph_alone_mixed :
    (firstParagraph " Builds\x85 it.\r\n\u3000\x0bMore." = some "Builds it." ∧
      firstParagraph "Builds it." = some "Builds it.") ∧
    firstParagraph "It\tbuilds." = some "It\tbuilds." ∧
    firstParagraph " Builds\x85 it.\u2029\t@goal build\nMore." = firstParagraph " Builds\x85 it." ∧
    (∃ t, Documented.task .default ⟨⟨true, ["a.py"]⟩, "a", []⟩ ⟨1, "Build", []⟩ "Builds it.\n\n@goal build" = .ok t ∧
      t.description = some "Builds it.") ∧
    ∃ p, Documented.parameter ⟨"docstring", "a.py:2"⟩ "level" none "The level.\n@parameter" = .ok p ∧
      p.description = some "The level." := by
  have read : firstParagraph " Builds\x85 it." = some "Builds it." := by decide +kernel
  have blank := firstParagraph_alone.2.2.1 " Builds\x85 it.\r" "\n" "\u3000" "\x0bMore." (by decide)
    (.single (by decide) nofun) (by decide) (.blank (by decide) (by decide))
  have marked := firstParagraph_alone.2.2.1 " Builds\x85 it." "\u2029" "\t@goal build" "\nMore." (by decide)
    (.single (by decide) nofun) (by decide) (.marked (by decide))
  have task : (Documented.task .default ⟨⟨true, ["a.py"]⟩, "a", []⟩ ⟨1, "Build", []⟩
      "Builds it.\n\n@goal build").toOption.isSome = true := by decide +kernel
  have parameter : (Documented.parameter ⟨"docstring", "a.py:2"⟩ "level" none
      "The level.\n@parameter").toOption.isSome = true := by decide +kernel
  obtain ⟨t, built⟩ := Option.isSome_iff_exists.1 task
  obtain ⟨p, made⟩ := Option.isSome_iff_exists.1 parameter
  rw [Outcome.toOption_eq_some] at built made
  have own := firstParagraph_alone.2.1 "It\tbuilds." ⟨by decide, by decide, by decide, by decide⟩
  refine ⟨⟨blank.trans (by decide +kernel), (firstParagraph_alone.1 _ _ read).2⟩, own, marked, ⟨t, built, ?_⟩,
    p, made, ?_⟩
  · exact (firstParagraph_alone.2.2.2.1 _ _ _ _ _ built).trans (by decide +kernel)
  · exact (firstParagraph_alone.2.2.2.2 _ _ _ _ _ made).trans (by decide +kernel)

end TaskCatalog
