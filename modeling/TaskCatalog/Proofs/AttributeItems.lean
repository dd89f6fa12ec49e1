import TaskCatalog.Proofs.RepeatedSettings
import TaskCatalog.Proofs.TextOrder

/-!
Attributes in the value of a tag. A text is cut into items at one place only, whatever their values hold, and what is
left of it is blank just if it is made of items and blanks. Any other text is reported, and so is a key that no
attribute has.
-/

namespace TaskCatalog

open Text Outcome

namespace Attributes

variable {items : Tags} {a : Text × Text} {t rest leftover : Text} {l : Letter} {s : Site} {known : List Text}

/-- What is taken from the front of a text is an item that stands there. -/
theorem eq_of_take? (taken : take? t = some (a, rest)) :
    t = item a ++ rest ∧ Tags.IsName a.1 ∧ .scalar '"' ∉ a.2 := by
  unfold take? at taken
  split at taken
  case isFalse => cases taken
  next starts =>
  have name := List.takeWhile_append_dropWhile (p := Tags.isNameLetter) (l := t)
  split at taken
  case h_2 => cases taken
  next after equals =>
  have value := List.takeWhile_append_dropWhile (p := (· != .scalar '"')) (l := after)
  split at taken
  case h_2 => cases taken
  next quote behind closed =>
  cases taken
  obtain rfl : quote = .scalar '"' := by
    have ends := List.head_dropWhile_not (· != Letter.scalar '"') (l := after) (by simp [closed])
    simpa [closed] using ends
  refine ⟨?_, Tags.isName_takeWhile starts, fun member => ?_⟩
  · rw [equals, ← value, closed] at name
    simpa [item] using name.symm
  · exact absurd (List.mem_takeWhile_imp member) (by simp)

theorem Spaced.cons_blank (blank : isBlank l = true) (spaced : Spaced items t) : Spaced items (l :: t) := by
  cases spaced with
  | blank clear => exact .blank (Bool.and_eq_true_iff.2 ⟨blank, clear⟩)
  | @item gap key value t items clear named unquoted spaced =>
    exact @Spaced.item (l :: gap) key value t items (Bool.and_eq_true_iff.2 ⟨blank, clear⟩) named unquoted spaced

/-- A text that comes to nothing but blanks without its items is made of these and of blanks. -/
theorem spaced_of_split (t : Text) {items : Tags} {leftover : Text} (read : split t = (items, leftover))
    (blank : isAllBlank leftover = true) : Spaced items t := by
  cases taken : take? t with
  | some found =>
    obtain ⟨a, rest⟩ := found
    obtain ⟨rfl, named, unquoted⟩ := eq_of_take? taken
    have shorter := take?_rest_length taken
    rw [split_of_take? taken] at read
    cases read
    exact @Spaced.item [] _ _ _ _ rfl named unquoted (spaced_of_split rest rfl blank)
  | none =>
    cases t with
    | nil =>
      rw [split] at read
      cases read
      exact .blank rfl
    | cons l rest =>
      rw [split_cons_of_none taken] at read
      cases read
      obtain ⟨first, more⟩ := Bool.and_eq_true_iff.1 blank
      exact (spaced_of_split rest rfl more).cons_blank first
termination_by t.length

/-- The items of a text are found just where they stand. -/
theorem spaced_iff : Spaced items t ↔ (split t).1 = items ∧ isAllBlank (split t).2 = true := by
  constructor
  · intro spaced
    obtain ⟨leftover, read, blank⟩ := spaced.split_eq
    rw [read]
    exact ⟨rfl, blank⟩
  · rintro ⟨rfl, blank⟩
    exact spaced_of_split t rfl blank

theorem mem_unknown {name : Text} : name ∈ Tags.unknown known items ↔ name ∈ items.map (·.1) ∧ name ∉ known := by
  rw [Tags.unknown, mem_sort, List.mem_filter]
  simp

/-- A text that is not made of items and blanks is malformed. -/
theorem ofText_of_unspaced (unspaced : ∀ items, ¬Spaced items t) :
    ∃ leftover, leftover ≠ [] ∧ ofText s known t = s.fail (.malformedAttributes leftover) := by
  have stated : trim (split t).2 ≠ [] := fun nothing =>
    unspaced _ (spaced_iff.2 ⟨rfl, (trim_eq_nil_iff _).1 nothing⟩)
  refine ⟨trim (split t).2, stated, ?_⟩
  rw [ofText]
  dsimp only
  split
  · next nothing => exact absurd nothing stated
  · rfl

theorem ofText_of_unknown (spaced : Spaced items t) (foreign : ∃ a ∈ items, a.1 ∉ known) :
    ∃ names, (∀ name, name ∈ names ↔ name ∈ items.map (·.1) ∧ name ∉ known) ∧
      ofText s known t = s.fail (.unknownAttributes names) := by
  obtain ⟨a, member, other⟩ := foreign
  have listed {name : Text} : name ∈ (Tags.unknown known items).eraseDups ↔ name ∈ items.map (·.1) ∧ name ∉ known :=
    List.mem_eraseDups.trans mem_unknown
  obtain ⟨leftover, read, blank⟩ := spaced.split_eq
  refine ⟨(Tags.unknown known items).eraseDups, fun name => listed, ?_⟩
  rw [ofText, read]
  simp only [(trim_eq_nil_iff leftover).2 blank]
  split
  · next nothing =>
    have there := listed.2 ⟨List.mem_map_of_mem (f := (·.1)) member, other⟩
    rw [nothing] at there
    cases there
  · rfl

/-- The value of a parameter tag gives the attributes that it spells, in any order and with any blanks around them.
A value that is not made of attributes is malformed, and one with a key of its own is reported with that key. -/
theorem read_exactly (s : Site) (t : Text) :
    (∀ items, Spaced items t → (items.map (·.1)).Nodup → (∀ a ∈ items, a.1 ∈ Documented.attributeNames) →
      ∃ found, ofText s Documented.attributeNames t = .ok found ∧
        ∀ key value, found.get? key = some value ↔ (key, value) ∈ items) ∧
    ((∀ items, ¬Spaced items t) →
      ∃ leftover, leftover ≠ [] ∧ ofText s Documented.attributeNames t = s.fail (.malformedAttributes leftover)) ∧
    ∀ items, Spaced items t → (∃ a ∈ items, a.1 ∉ Documented.attributeNames) →
      ∃ names, (∀ name, name ∈ names ↔ name ∈ items.map (·.1) ∧ name ∉ Documented.attributeNames) ∧
        ofText s Documented.attributeNames t = s.fail (.unknownAttributes names) := by
  refine ⟨fun items spaced distinct allowed => ⟨_, spaced.ofText_eq allowed, fun key value => ?_⟩,
    ofText_of_unspaced, fun items => ofText_of_unknown⟩
  rw [Tags.get?, Association.lookup_reverse distinct]
  exact ⟨Association.mem_of_lookup, Association.lookup_of_mem distinct⟩

/-- Values that hold an equals sign, a line break and what looks like a key; a text with a digit in front of its key,
and one with a key that is no attribute's. -/
theorem read_exactly_mixed :
    (∃ found, ofText ⟨"docstring", "a.py:1"⟩ Documented.attributeNames
        "\n expression=\"a=b\nname=\"default-value=\"\"\u3000name=\"x y\" " = .ok found ∧
      found.get? "name" = some (ofString "x y")) ∧
    (∃ leftover, leftover ≠ [] ∧ ofText ⟨"docstring", "a.py:1"⟩ Documented.attributeNames "1name=\"a\"" =
      Site.fail ⟨"docstring", "a.py:1"⟩ (.malformedAttributes leftover)) ∧
    ∃ names, ofString "title" ∈ names ∧ ofText ⟨"docstring", "a.py:1"⟩ Documented.attributeNames "title=\"a\"" =
      Site.fail ⟨"docstring", "a.py:1"⟩ (.unknownAttributes names) := by
  have mixed : Spaced [("expression", "a=b\nname="), ("default-value", ""), ("name", "x y")]
      "\n expression=\"a=b\nname=\"default-value=\"\"\u3000name=\"x y\" " := by
    have last : Spaced [("name", "x y")] ("\u3000" ++ item ("name", "x y") ++ " ") :=
      .item (by decide) ⟨by decide, by decide⟩ (by decide) (.blank (by decide))
    have second : Spaced [("default-value", ""), ("name", "x y")] ([] ++ item ("default-value", "") ++ _) :=
      .item rfl ⟨by decide, by decide⟩ (by decide) last
    have first : Spaced [("expression", "a=b\nname="), ("default-value", ""), ("name", "x y")]
        ("\n " ++ item ("expression", "a=b\nname=") ++ _) :=
      .item (by decide) ⟨by decide, by decide⟩ (by decide) second
    have spelled : ofString "\n expression=\"a=b\nname=\"default-value=\"\"\u3000name=\"x y\" " =
        ofString "\n " ++ item ("expression", "a=b\nname=") ++ ([] ++ item ("default-value", "") ++
          (ofString "\u3000" ++ item ("name", "x y") ++ ofString " ")) := by
      decide +kernel
    rwa [spelled]
  have unspaced : ∀ items, ¬Spaced items "1name=\"a\"" := by
    have read : split "1name=\"a\"" = ((split "name=\"a\"").1, .scalar '1' :: (split "name=\"a\"").2) :=
      split_cons_of_none rfl
    intro items spaced
    have blank := (spaced_iff.1 spaced).2
    rw [read] at blank
    exact absurd blank Bool.false_ne_true
  have titled : Spaced [("title", "a")] "title=\"a\"" :=
    @Spaced.item "" "title" "a" "" [] rfl ⟨by decide, by decide⟩ (by decide) (.blank rfl)
  refine ⟨?_, (read_exactly _ _).2.1 unspaced, ?_⟩
  · obtain ⟨found, read, held⟩ := (read_exactly ⟨"docstring", "a.py:1"⟩ _).1 _ mixed (by decide) (by decide)
    exact ⟨found, read, (held "name" "x y").2 (by decide)⟩
  · obtain ⟨names, listed, read⟩ := (read_exactly ⟨"docstring", "a.py:1"⟩ _).2.2 _ titled (by decide)
    exact ⟨names, (listed _).2 (by decide), read⟩

end Attributes

end TaskCatalog
