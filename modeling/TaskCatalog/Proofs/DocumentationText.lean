import TaskCatalog.Proofs.Association
import TaskCatalog.Proofs.TextLines
import TaskCatalog.Sources.Tag
import Mathlib.Data.List.Forall2
import Mathlib.Data.List.Induction

/-!
Documentation texts that are made of lines: a description and tags, each in a line of its own. What
is written so is read back: the first paragraph, the tags, and the attributes of a tag.
-/

namespace TaskCatalog

open Text

namespace Tags

/-- A name that can stand behind an `@`: letters of names, of which the first is one of the alphabet. -/
def isTagName (name : Text) : Bool := startsName name && name.all fun l => isNameLetter l && !isBlank l

/-- Tags as they can be written: each of them once, its value in the line of its name. -/
structure Writable (tags : Tags) : Prop where
  named : ∀ tag ∈ tags, isTagName tag.1 = true
  unbroken : ∀ tag ∈ tags, Unbroken tag.2
  trimmed : ∀ tag ∈ tags, Trimmed tag.2
  distinct : (tags.map (·.1)).Nodup

def line (tag : Text × Text) : Text :=
  .scalar '@' :: tag.1 ++ if tag.2 = [] then [] else .scalar ' ' :: tag.2

variable {name value : Text} {tag : Text × Text} {tags more : Tags} {s : Site}

theorem startsName_of_isTagName (h : isTagName name = true) : startsName name = true :=
  (Bool.and_eq_true_iff.1 h).1

theorem letters_of_isTagName (h : isTagName name = true) : ∀ l ∈ name, isNameLetter l = true := fun l hl =>
  (Bool.and_eq_true_iff.1 (List.all_eq_true.1 (Bool.and_eq_true_iff.1 h).2 l hl)).1

theorem solid_of_isTagName (h : isTagName name = true) : ∀ l ∈ name, isBlank l = false := fun l hl => by
  simpa using (Bool.and_eq_true_iff.1 (List.all_eq_true.1 (Bool.and_eq_true_iff.1 h).2 l hl)).2

theorem startsName_append (h : startsName name = true) (t : Text) : startsName (name ++ t) = true := by
  cases name with
  | nil => cases h
  | cons l rest => exact h

theorem ofLine?_line (named : isTagName tag.1 = true) (trimmed : Trimmed tag.2) :
    ofLine? (line tag) = some tag := by
  obtain ⟨name, value⟩ := tag
  have letters := letters_of_isTagName named
  have starts := startsName_append (startsName_of_isTagName named)
  rw [ofLine?, line]
  simp only [List.cons_append, List.drop_succ_cons, List.drop_zero]
  split
  · rename_i empty
    cases empty
    rw [List.append_nil, (dropWhile_eq_nil_iff _ _).2 (List.all_eq_true.2 letters), List.takeWhile_eq_self_iff.2 letters]
    simpa [show trim [] = [] from rfl] using starts []
  · have ends : isNameLetter (.scalar ' ') = false := by decide
    have blank : isBlank (.scalar ' ') = true := by decide
    rw [List.dropWhile_append_of_pos letters, List.takeWhile_append_of_pos letters,
      List.dropWhile_cons_of_neg (by simp [ends]), List.takeWhile_cons_of_neg (by simp [ends]),
      trim_cons_blank blank, trimmed.trim_eq, starts]
    simp [blank]

theorem line_ne_nil (tag : Text × Text) : line tag ≠ [] := List.cons_ne_nil _ _

theorem line_unbroken (named : isTagName tag.1 = true) (unbroken : Unbroken tag.2) : Unbroken (line tag) := by
  have front : Unbroken (.scalar '@' :: tag.1) := by
    refine unbroken_of_solid fun l hl => ?_
    rcases List.mem_cons.1 hl with rfl | hl
    · decide
    · exact solid_of_isTagName named l hl
  refine front.append ?_
  split
  · exact nofun
  · exact fun l hl => (List.mem_cons.1 hl).elim (fun h => h ▸ by decide) (unbroken l)

theorem line_trimmed (named : isTagName tag.1 = true) (trimmed : Trimmed tag.2) : Trimmed (line tag) := by
  refine ⟨fun l hl => ?_, fun l hl => ?_⟩
  · cases hl
    decide
  · rw [line] at hl
    split at hl
    · rw [List.append_nil] at hl
      rcases List.mem_cons.1 (List.mem_of_getLast? hl) with rfl | hl
      · decide
      · exact solid_of_isTagName named l hl
    · rename_i stated
      rw [List.getLast?_append_of_ne_nil _ (List.cons_ne_nil _ _), List.getLast?_cons_of_ne_nil stated] at hl
      exact trimmed.back l hl

theorem get?_of_not_mem (h : name ∉ tags.map (·.1)) : tags.get? name = none :=
  Association.lookup_of_not_mem h

theorem add_of_forall₂ {rows : List Text}
    (each : List.Forall₂ (fun row tag => ofLine? row = some tag) rows more)
    (distinct : ((tags ++ more).map (·.1)).Nodup) : add s tags rows = .ok (tags ++ more) := by
  induction each generalizing tags with
  | nil => rw [List.append_nil]; rfl
  | @cons row tag rows more read _ ih =>
    have fresh : tag.1 ∉ tags.map (·.1) := by
      rw [List.map_append, List.map_cons, List.nodup_append] at distinct
      exact fun hm => distinct.2.2 _ hm _ List.mem_cons_self rfl
    rw [add, read]
    simp only [get?_of_not_mem fresh, Option.isSome_none, Bool.false_eq_true, if_false]
    rw [ih (by simpa using distinct), List.append_assoc, List.singleton_append]

theorem add_lines (writable : Writable more) (distinct : ((tags ++ more).map (·.1)).Nodup) :
    add s tags (more.map line) = .ok (tags ++ more) :=
  add_of_forall₂ (List.forall₂_map_left_iff.2 (List.forall₂_same.2 fun tag ht =>
    ofLine?_line (writable.named tag ht) (writable.trimmed tag ht))) distinct

theorem unknown_eq_nil {known : List Text} (h : ∀ tag ∈ tags, tag.1 ∈ known) : unknown known tags = [] := by
  have none : (tags.map (·.1)).filter (fun n => !known.contains n) = [] := by
    refine List.filter_eq_nil_iff.2 fun n hn => ?_
    obtain ⟨tag, ht, rfl⟩ := List.mem_map.1 hn
    simpa using h tag ht
  rw [unknown, none, sort, List.mergeSort_nil]

theorem occursFrom_append_break (fresh : Bool) (t : Text) {rest : Text} (h : occursFrom name true rest = true) :
    occursFrom name fresh (t ++ .scalar '\n' :: rest) = true := by
  induction t generalizing fresh with
  | nil => simp [occursFrom, h]
  | cons l t ih =>
    rw [List.cons_append, occursFrom, ih, Bool.or_true]

theorem occursFrom_line (tag : Text × Text) {rest : Text} (ends : rest.head?.all (· == .scalar '\n') = true) :
    occursFrom tag.1 true (line tag ++ rest) = true := by
  obtain ⟨name, value⟩ := tag
  have gap : (Letter.scalar ' ').satisfies isWord = false := by decide
  have feed : (Letter.scalar '\n').satisfies isWord = false := by decide
  have apart : ((if value = [] then [] else .scalar ' ' :: value) ++ rest).head?.any (·.satisfies isWord) = false := by
    split
    · cases rest with
      | nil => rfl
      | cons l rest =>
        have same : l = .scalar '\n' := by simpa using ends
        rw [same]
        exact feed
    · exact gap
  simp only [line, List.cons_append, List.append_assoc]
  rw [occursFrom, List.drop_left, apart]
  simp

theorem occurs_of_mem {ls : List Text} (h : line tag ∈ ls) : occurs tag.1 (join "\n" ls) = true := by
  induction ls with
  | nil => cases h
  | cons t ls ih =>
    cases ls with
    | nil =>
      rw [← List.mem_singleton.1 h, occurs, join_singleton, ← List.append_nil (line tag)]
      exact occursFrom_line tag rfl
    | cons u ls =>
      rw [join_cons_cons, List.append_assoc, occurs]
      rcases List.mem_cons.1 h with rfl | h
      · exact occursFrom_line tag rfl
      · exact occursFrom_append_break true t (ih h)

end Tags

/-- The lines of a documentation text: a description with empty lines below it, and tags. -/
def documentationLines (description : Option Text) (gap : Nat) (tags : Tags) : List Text :=
  (description.toList.flatMap fun t => t :: List.replicate gap []) ++ tags.map Tags.line

def documentation (description : Option Text) (gap : Nat) (tags : Tags) : Text :=
  join "\n" (documentationLines description gap tags)

/-- A description that can be the first paragraph of a documentation text. -/
structure Text.Describing (t : Text) : Prop where
  stated : t ≠ []
  unbroken : Unbroken t
  trimmed : Trimmed t
  untagged : t.head? ≠ some (.scalar '@')

theorem Text.Describing.paragraphLines_cons {t : Text} (h : t.Describing) (ls : List Text) :
    paragraphLines (t :: ls) = t :: paragraphLines ls := by
  rw [paragraphLines, h.trimmed.trim_eq]
  split
  · exact absurd rfl h.stated
  · exact absurd rfl h.untagged
  · rfl

section Documentation

variable {description : Option Text} {gap : Nat} {tags : Tags} {s : Site}

theorem lines_documentation (described : ∀ t ∈ description, t.Describing) (writable : tags.Writable)
    (tagged : tags ≠ []) :
    lines (documentation description gap tags) = documentationLines description gap tags := by
  refine lines_join (fun t ht => ?_) ?_
  · rcases List.mem_append.1 ht with ht | ht
    · obtain ⟨d, hd, ht⟩ := List.mem_flatMap.1 ht
      rcases List.mem_cons.1 ht with rfl | ht
      · exact (described t (Option.mem_toList.1 hd)).unbroken
      · rw [List.eq_of_mem_replicate ht]
        exact nofun
    · obtain ⟨tag, htag, rfl⟩ := List.mem_map.1 ht
      exact Tags.line_unbroken (writable.named tag htag) (writable.unbroken tag htag)
  · rw [documentationLines, List.getLast?_append_of_ne_nil _ (by simpa using tagged), List.getLast?_map]
    intro empty
    obtain ⟨tag, -, htag⟩ := Option.map_eq_some_iff.1 empty
    cases htag

theorem trim_documentation (described : ∀ t ∈ description, t.Describing) (writable : tags.Writable)
    (tagged : tags ≠ []) : trim (documentation description gap tags) = documentation description gap tags := by
  refine Trimmed.trim_eq ⟨fun l hl => ?_, fun l hl => ?_⟩
  · cases description with
    | none =>
      obtain ⟨tag, more, rfl⟩ := List.exists_cons_of_ne_nil tagged
      rw [documentation, documentationLines, Option.toList_none, List.flatMap_nil, List.nil_append,
        List.map_cons, head?_join _ (Tags.line_ne_nil tag)] at hl
      cases hl
      decide
    | some t =>
      have good := described t rfl
      rw [documentation, documentationLines, Option.toList_some, List.flatMap_singleton, List.cons_append,
        head?_join _ good.stated] at hl
      exact good.trimmed.front l hl
  · obtain ⟨more, tag, rfl⟩ : ∃ more tag, tags = more ++ [tag] :=
      ⟨_, _, (List.dropLast_append_getLast tagged).symm⟩
    have last : tag ∈ more ++ [tag] := by simp
    rw [documentation, documentationLines, List.map_append, ← List.append_assoc, List.map_singleton,
      getLast?_join _ (Tags.line_ne_nil tag)] at hl
    exact (Tags.line_trimmed (writable.named tag last) (writable.trimmed tag last)).back l hl

theorem paragraphLines_tags (writable : tags.Writable) : paragraphLines (tags.map Tags.line) = [] := by
  cases tags with
  | nil => rfl
  | cons tag tags =>
    have trimmed := Tags.line_trimmed (writable.named tag List.mem_cons_self)
      (writable.trimmed tag List.mem_cons_self)
    rw [List.map_cons, paragraphLines, trimmed.trim_eq]
    rfl

theorem firstParagraph_documentation (described : ∀ t ∈ description, t.Describing) (writable : tags.Writable)
    (tagged : tags ≠ []) : firstParagraph (documentation description gap tags) = description := by
  rw [firstParagraph, trim_documentation described writable tagged,
    lines_documentation described writable tagged, documentationLines]
  cases description with
  | none => simp only [Option.toList_none, List.flatMap_nil, List.nil_append, paragraphLines_tags writable]
  | some t =>
    have good := described t rfl
    have ended : paragraphLines (List.replicate gap [] ++ tags.map Tags.line) = [] := by
      cases gap with
      | zero => exact paragraphLines_tags writable
      | succ gap => rfl
    rw [Option.toList_some, List.flatMap_singleton, List.cons_append, good.paragraphLines_cons, ended]
    rfl

theorem tags_ofText_documentation (described : ∀ t ∈ description, t.Describing) (writable : tags.Writable)
    (tagged : tags ≠ []) : Tags.ofText s (documentation description gap tags) = .ok tags := by
  have kept : ((documentationLines description gap tags).map trim).filter
      (fun line => line.head? == some (.scalar '@')) = tags.map Tags.line := by
    rw [documentationLines, List.map_append, List.filter_append]
    have front : ((description.toList.flatMap fun t => t :: List.replicate gap []).map trim).filter
        (fun line => line.head? == some (.scalar '@')) = [] := by
      refine List.filter_eq_nil_iff.2 fun line hl => ?_
      obtain ⟨u, hu, rfl⟩ := List.mem_map.1 hl
      obtain ⟨t, ht, hu⟩ := List.mem_flatMap.1 hu
      have good := described t (Option.mem_toList.1 ht)
      rcases List.mem_cons.1 hu with rfl | hu
      · rw [good.trimmed.trim_eq]
        simpa using good.untagged
      · rw [List.eq_of_mem_replicate hu]
        exact Bool.false_ne_true
    have back : (tags.map Tags.line).map trim = tags.map Tags.line := by
      rw [List.map_map]
      exact List.map_congr_left fun tag ht =>
        (Tags.line_trimmed (writable.named tag ht) (writable.trimmed tag ht)).trim_eq
    rw [front, back, List.nil_append, List.filter_eq_self]
    intro line hl
    obtain ⟨tag, -, rfl⟩ := List.mem_map.1 hl
    rfl
  rw [Tags.ofText, lines_documentation described writable tagged, kept]
  exact Tags.add_lines writable writable.distinct

theorem occurs_documentation {tag : Text × Text} (h : tag ∈ tags) :
    Tags.occurs tag.1 (documentation description gap tags) = true :=
  Tags.occurs_of_mem (List.mem_append_right _ (List.mem_map_of_mem h))

end Documentation

namespace Attributes

/-- Attributes as they can be written: each of them once, its value free of the quotes around it. -/
structure Writable (attributes : Tags) : Prop where
  named : ∀ a ∈ attributes, Tags.isTagName a.1 = true
  unquoted : ∀ a ∈ attributes, .scalar '"' ∉ a.2
  distinct : (attributes.map (·.1)).Nodup

def item (a : Text × Text) : Text := a.1 ++ .scalar '=' :: .scalar '"' :: a.2 ++ [.scalar '"']

def written (attributes : Tags) : Text := join " " (attributes.map item)

variable {a : Text × Text} {attributes : Tags} {rest : Text} {l : Letter} {s : Site} {known : List Text}

theorem take?_item (named : Tags.isTagName a.1 = true) (unquoted : .scalar '"' ∉ a.2) (rest : Text) :
    take? (item a ++ rest) = some (a, rest) := by
  obtain ⟨name, value⟩ := a
  have letters := Tags.letters_of_isTagName named
  have ends : Tags.isNameLetter (.scalar '=') = false := by decide
  have inside : ∀ l ∈ value, (l != .scalar '"') = true := fun l hl =>
    bne_iff_ne.2 fun same => unquoted (same ▸ hl)
  have text : item (name, value) ++ rest =
      name ++ .scalar '=' :: .scalar '"' :: (value ++ .scalar '"' :: rest) := by simp [item]
  rw [text, take?, Tags.startsName_append (Tags.startsName_of_isTagName named), if_pos rfl,
    List.dropWhile_append_of_pos letters, List.takeWhile_append_of_pos letters,
    List.dropWhile_cons_of_neg (by simp [ends]), List.takeWhile_cons_of_neg (by simp [ends])]
  simp only [List.dropWhile_append_of_pos inside, List.takeWhile_append_of_pos inside]
  simp

theorem split_of_take? {t : Text} (h : take? t = some (a, rest)) :
    split t = (a :: (split rest).1, (split rest).2) := by
  rw [split]
  split
  · rename_i found
    cases h.symm.trans found
    rfl
  · rename_i none
    cases h.symm.trans none

theorem split_cons_of_none (h : take? (l :: rest) = none) :
    split (l :: rest) = ((split rest).1, l :: (split rest).2) := by
  rw [split]
  split
  · rename_i found
    cases h.symm.trans found
  · rfl

/-- What is left of written attributes without them is blank. -/
theorem split_written (writable : Writable attributes) :
    ∃ leftover, split (written attributes) = (attributes, leftover) ∧ isAllBlank leftover = true := by
  have nothing : split [] = ([], []) := by rw [split]; rfl
  induction attributes with
  | nil => exact ⟨[], nothing, rfl⟩
  | cons a attributes ih =>
    have named := writable.named a List.mem_cons_self
    have unquoted := writable.unquoted a List.mem_cons_self
    have rest : Writable attributes :=
      ⟨fun b hb => writable.named b (List.mem_cons_of_mem _ hb),
        fun b hb => writable.unquoted b (List.mem_cons_of_mem _ hb), (List.nodup_cons.1 writable.distinct).2⟩
    cases attributes with
    | nil =>
      have taken := take?_item named unquoted []
      rw [List.append_nil] at taken
      refine ⟨[], ?_, rfl⟩
      rw [written, List.map_singleton, join_singleton, split_of_take? taken, nothing]
    | cons b more =>
      obtain ⟨leftover, hsplit, blank⟩ := ih rest
      have gap : take? (.scalar ' ' :: written (b :: more)) = none := rfl
      have text : written (a :: b :: more) = item a ++ .scalar ' ' :: written (b :: more) := by
        rw [written, List.map_cons, List.map_cons, join_cons_cons, List.append_assoc]
        rfl
      refine ⟨.scalar ' ' :: leftover, ?_, ?_⟩
      · rw [text, split_of_take? (take?_item named unquoted _), split_cons_of_none gap, hsplit]
      · rw [isAllBlank, List.all_cons, ← isAllBlank, blank]
        decide

theorem ofText_written (writable : Writable attributes) (allowed : ∀ a ∈ attributes, a.1 ∈ known) :
    ofText s known (written attributes) = .ok attributes.reverse := by
  obtain ⟨leftover, hsplit, blank⟩ := split_written writable
  have unknown : Tags.unknown known attributes = [] := Tags.unknown_eq_nil allowed
  rw [ofText, hsplit]
  simp only [(trim_eq_nil_iff leftover).2 blank, unknown]
  rfl

theorem item_unbroken (named : Tags.isTagName a.1 = true) (unbroken : Unbroken a.2) : Unbroken (item a) := by
  have quote : isLineBreak (.scalar '"') = false := by decide
  have equals : isLineBreak (.scalar '=') = false := by decide
  intro l hl
  simp only [item, List.append_assoc, List.cons_append, List.mem_append, List.mem_cons, List.not_mem_nil,
    or_false] at hl
  rcases hl with hl | rfl | rfl | hl | rfl
  · exact unbroken_of_solid (Tags.solid_of_isTagName named) l hl
  · exact equals
  · exact quote
  · exact unbroken l hl
  · exact quote

theorem written_unbroken (writable : Writable attributes) (unbroken : ∀ a ∈ attributes, Unbroken a.2) :
    Unbroken (written attributes) := by
  refine unbroken_join ?_ fun t ht => ?_
  · intro l hl
    rw [List.mem_singleton.1 hl]
    decide
  obtain ⟨a, ha, rfl⟩ := List.mem_map.1 ht
  exact item_unbroken (writable.named a ha) (unbroken a ha)

theorem written_trimmed (writable : Writable attributes) : Trimmed (written attributes) := by
  refine ⟨fun l hl => ?_, fun l hl => ?_⟩
  · cases attributes with
    | nil => cases hl
    | cons a more =>
      have named := writable.named a List.mem_cons_self
      have item_ne : item a ≠ [] := by simp [item]
      rw [written, List.map_cons, head?_join _ item_ne] at hl
      obtain ⟨name, value⟩ := a
      cases name with
      | nil => cases Tags.startsName_of_isTagName named
      | cons m rest =>
        cases hl
        exact Tags.solid_of_isTagName named l List.mem_cons_self
  · cases attributes using List.reverseRecOn with
    | nil => cases hl
    | append_singleton more a =>
      have item_ne : item a ≠ [] := by simp [item]
      rw [written, List.map_append, List.map_singleton, getLast?_join _ item_ne, item,
        List.getLast?_append_of_ne_nil _ (List.cons_ne_nil _ _)] at hl
      cases hl
      decide

end Attributes

end TaskCatalog
