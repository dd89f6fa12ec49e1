import TaskCatalog.Proofs.DocumentationText
import TaskCatalog.Proofs.Outcome

/-!
Tags that are written in lines. Whatever breaks part the lines of a documentation text, whatever blanks stand
around its tags and whatever other lines stand between them, the tags are read back. A line that is marked as a tag
and says none is a fault, and so is a name that two lines say.
-/

namespace TaskCatalog

open Text

namespace Text

variable {t u first before after : Text} {l : Letter} {ls more : List Text}

/-- A text made of lines: each of them ends with a break of any kind, which only the last may lack. -/
inductive Lined : Text → List Text → Prop
  | empty : Lined [] []
  | last {t : Text} : Unbroken t → t ≠ [] → Lined t [t]
  | broken {t rest : Text} {l : Letter} {ls : List Text} : Unbroken t → isLineBreak l = true →
      (l = .scalar '\r' → rest.head? ≠ some (.scalar '\n')) → Lined rest ls → Lined (t ++ l :: rest) (t :: ls)
  | returned {t rest : Text} {ls : List Text} : Unbroken t → Lined rest ls →
      Lined (t ++ .scalar '\r' :: .scalar '\n' :: rest) (t :: ls)

theorem lines_append_unbroken (h : Unbroken t) (read : lines u = first :: more) :
    lines (t ++ u) = (t ++ first) :: more := by
  induction t with
  | nil => exact read
  | cons l t ih =>
    rw [List.cons_append, lines_cons_unbroken (h l List.mem_cons_self), ih fun l hl => h l (List.mem_cons_of_mem _ hl)]
    rfl

theorem Lined.lines_eq (h : Lined t ls) : lines t = ls := by
  induction h with
  | empty => rfl
  | last unbroken stated => exact lines_unbroken unbroken stated
  | @broken t rest l ls unbroken ends lone _ ih =>
    have read := lines_append_unbroken unbroken (lines_cons_break ends lone)
    rw [read, List.append_nil, ih]
  | @returned t rest ls unbroken _ ih =>
    have read := lines_append_unbroken unbroken (lines_return_feed rest)
    rw [read, List.append_nil, ih]

theorem Lined.cons (whole : isLineBreak l = false) (h : Lined t (first :: more)) :
    Lined (l :: t) ((l :: first) :: more) := by
  have longer (unbroken : Unbroken first) : Unbroken (l :: first) := List.forall_mem_cons.2 ⟨whole, unbroken⟩
  cases h with
  | last unbroken stated => exact .last (longer unbroken) (List.cons_ne_nil _ _)
  | broken unbroken ends lone rest => exact .broken (longer unbroken) ends lone rest
  | returned unbroken rest => exact .returned (longer unbroken) rest

theorem lined_lines (t : Text) : Lined t (lines t) := by
  cases t with
  | nil => exact .empty
  | cons l rest =>
    cases broken : isLineBreak l with
    | false =>
      have ih := lined_lines rest
      rw [lines_cons_unbroken broken]
      cases read : lines rest with
      | nil =>
        rw [read] at ih
        cases ih
        exact .last (List.forall_mem_singleton.2 broken) (List.cons_ne_nil _ _)
      | cons line more =>
        rw [read] at ih
        exact .cons broken ih
    | true =>
      by_cases both : l = .scalar '\r' ∧ rest.head? = some (.scalar '\n')
      · obtain ⟨rfl, feed⟩ := both
        obtain ⟨rest, rfl⟩ := List.head?_eq_some_iff.1 feed
        rw [lines_return_feed]
        exact .returned (t := []) nofun (lined_lines rest)
      · have lone (first : l = .scalar '\r') : rest.head? ≠ some (.scalar '\n') := fun feed => both ⟨first, feed⟩
        rw [lines_cons_break broken lone]
        exact .broken (t := []) nofun broken lone (lined_lines rest)
termination_by t.length

/-- The ways to part a text into lines are one. -/
theorem lined_iff : Lined t ls ↔ lines t = ls := ⟨Lined.lines_eq, fun same => same ▸ lined_lines t⟩

theorem exists_trimRight (t : Text) : ∃ blanks, isAllBlank blanks = true ∧ t = trimRight t ++ blanks := by
  refine ⟨(t.reverse.takeWhile isBlank).reverse, ?_, ?_⟩
  · rw [isAllBlank, List.all_reverse]
    exact List.all_takeWhile
  · rw [trimRight, ← List.reverse_append, List.takeWhile_append_dropWhile, List.reverse_reverse]

theorem exists_padding (t : Text) :
    ∃ before after, isAllBlank before = true ∧ isAllBlank after = true ∧ t = before ++ trim t ++ after := by
  obtain ⟨after, blank, parts⟩ := exists_trimRight (trimLeft t)
  refine ⟨t.takeWhile isBlank, after, List.all_takeWhile, blank, ?_⟩
  rw [List.append_assoc, trim, ← parts, trimLeft, List.takeWhile_append_dropWhile]

theorem trimLeft_append (stated : isAllBlank t = false) (u : Text) : trimLeft (t ++ u) = trimLeft t ++ u := by
  have left : t.dropWhile isBlank ≠ [] := fun none => by
    rw [dropWhile_eq_nil_iff, ← isAllBlank, stated] at none
    cases none
  rw [trimLeft, List.dropWhile_append, if_neg (by simpa using left), trimLeft]

theorem trimLeft_of_isAllBlank (h : isAllBlank t = true) (u : Text) : trimLeft (t ++ u) = trimLeft u :=
  List.dropWhile_append_of_pos (List.all_eq_true.1 h)

theorem trimRight_of_isAllBlank (t : Text) (h : isAllBlank u = true) : trimRight (t ++ u) = trimRight t := by
  have blank : ∀ l ∈ u.reverse, isBlank l = true := fun l hl => List.all_eq_true.1 h l (List.mem_reverse.1 hl)
  rw [trimRight, List.reverse_append, List.dropWhile_append_of_pos blank, trimRight]

theorem trimRight_cons (solid : isBlank l = false) (t : Text) : trimRight (l :: t) = l :: trimRight t := by
  rw [trimRight, List.reverse_cons, List.dropWhile_append, trimRight]
  split
  · next none =>
    rw [List.isEmpty_iff.1 none, List.dropWhile_cons_of_neg (by simp [solid])]
    rfl
  · rw [List.reverse_append]
    rfl

/-- Blanks behind a text do not change what it is trimmed to. -/
theorem trim_append (t : Text) (h : isAllBlank u = true) : trim (t ++ u) = trim t := by
  cases blank : isAllBlank t with
  | true =>
    have none : isAllBlank (t ++ u) = true := by
      rw [isAllBlank, List.all_append]
      exact Bool.and_eq_true_iff.2 ⟨blank, h⟩
    rw [(trim_eq_nil_iff _).2 none, (trim_eq_nil_iff t).2 blank]
  | false => rw [trim, trimLeft_append blank, trimRight_of_isAllBlank _ h, trim]

theorem trim_padded (front : isAllBlank before = true) (back : isAllBlank after = true) (h : Trimmed t) :
    trim (before ++ t ++ after) = t := by
  rw [trim_append _ back, trim, trimLeft_of_isAllBlank front, ← trim, h.trim_eq]

def blankCodes : List Nat :=
  [0x20, 0x9, 0xa, 0xb, 0xc, 0xd, 0x1c, 0x1d, 0x1e, 0x1f, 0x85, 0xa0, 0x1680, 0x2000, 0x2001, 0x2002, 0x2003, 0x2004,
    0x2005, 0x2006, 0x2007, 0x2008, 0x2009, 0x200a, 0x2028, 0x2029, 0x202f, 0x205f, 0x3000]

theorem mem_blankCodes {c : Char} (h : isBlankChar c = true) : c.toNat ∈ blankCodes := by
  have space : ' '.toNat = 0x20 := rfl
  simp only [isBlankChar, Bool.or_eq_true, Bool.and_eq_true, decide_eq_true_eq, beq_iff_eq, ← Char.toNat_inj] at h
  simp only [blankCodes, List.mem_cons, List.not_mem_nil, or_false]
  omega

set_option maxRecDepth 20000 in
theorem alphanumericRanges_apart : (alphanumericRanges.all fun r => blankCodes.all (!r.covers ·)) = true := by
  -- the table is long: its letters are listed once before it is read
  rw [alphanumericRanges, CodeRange.readAll, String.toList_ofList]
  decide +kernel

theorem isWord_of_isBlankChar {c : Char} (h : isBlankChar c = true) : isWord c = false := by
  have listed := mem_blankCodes h
  have plain : ∀ n ∈ blankCodes, (Char.ofNat n).isAlphanum = false ∧ (Char.ofNat n == '_') = false := by decide
  have apart : (alphanumericRanges.any fun r => r.covers c.toNat) = false := by
    rw [List.any_eq_false]
    intro r hr covered
    have none := List.all_eq_true.1 (List.all_eq_true.1 alphanumericRanges_apart r hr) _ listed
    rw [covered] at none
    cases none
  have ascii := plain _ listed
  rw [Char.ofNat_toNat] at ascii
  rw [isWord, apart, ascii.1, ascii.2, Bool.and_false]
  rfl

end Text

namespace Tags

variable {line row name value gap before after documentation : Text} {tag other : Text × Text} {tags more result : Tags}
  {rows ls : List Text} {l : Letter} {s : Site}

theorem isBlank_of_isNameLetter (h : isNameLetter l = true) : isBlank l = false := by
  cases l with
  | half n => rfl
  | scalar c =>
    refine Bool.eq_false_iff.2 fun blank => ?_
    have word := isWord_of_isBlankChar blank
    rw [isNameLetter, Letter.satisfies_scalar, word, Bool.false_or, beq_iff_eq] at h
    rw [h] at blank
    exact absurd blank (by decide)

/-- A letter of the alphabet with letters of words and dashes behind it. -/
structure IsName (name : Text) : Prop where
  starts : startsName name = true
  letters : ∀ l ∈ name, isNameLetter l = true

/-- A line that says a tag: an `@` with the name, and behind blanks the value, with any blanks around them. -/
inductive Says : Text → Text × Text → Prop
  | bare {before name after : Text} : isAllBlank before = true → IsName name → isAllBlank after = true →
      Says (before ++ .scalar '@' :: name ++ after) (name, [])
  | valued {before name gap value after : Text} : isAllBlank before = true → IsName name → gap ≠ [] →
      isAllBlank gap = true → value ≠ [] → Trimmed value → isAllBlank after = true →
      Says (before ++ .scalar '@' :: name ++ gap ++ value ++ after) (name, value)

/-- Whether a line starts with an `@`, blanks aside. -/
def isMarked (line : Text) : Bool := (trim line).head? == some (.scalar '@')

theorem trim_marked (blank : isAllBlank gap = true) (t : Text) :
    trim (gap ++ .scalar '@' :: t) = .scalar '@' :: trimRight t := by
  have solid : isBlank (.scalar '@') = false := by decide
  rw [trim, trimLeft_of_isAllBlank blank, trimLeft_of_head (by rintro l ⟨⟩; exact solid), trimRight_cons solid]

theorem isMarked_iff : isMarked line = true ↔ ∃ gap t, isAllBlank gap = true ∧ line = gap ++ .scalar '@' :: t := by
  constructor
  · intro marked
    obtain ⟨t, start⟩ := List.head?_eq_some_iff.1 (eq_of_beq marked)
    obtain ⟨before, after, blank, -, parts⟩ := exists_padding line
    refine ⟨before, t ++ after, blank, ?_⟩
    rw [start] at parts
    rw [parts, List.append_assoc, List.cons_append]
  · rintro ⟨gap, t, blank, rfl⟩
    rw [isMarked, trim_marked blank]
    rfl

theorem isTagName_iff : isTagName name = true ↔ IsName name := by
  refine ⟨fun h => ⟨startsName_of_isTagName h, letters_of_isTagName h⟩, fun h => Bool.and_eq_true_iff.2 ⟨h.starts, ?_⟩⟩
  refine List.all_eq_true.2 fun l hl => ?_
  rw [h.letters l hl, isBlank_of_isNameLetter (h.letters l hl)]
  rfl

theorem IsName.trimmed (h : IsName name) : Trimmed (.scalar '@' :: name) :=
  trimmed_of_solid (List.forall_mem_cons.2 ⟨by decide, fun l hl => isBlank_of_isNameLetter (h.letters l hl)⟩)

theorem ofLine?_bare (named : IsName name) : ofLine? (.scalar '@' :: name) = some (name, []) := by
  rw [ofLine?]
  simp only [List.drop_succ_cons, List.drop_zero]
  rw [(dropWhile_eq_nil_iff _ _).2 (List.all_eq_true.2 named.letters), List.takeWhile_eq_self_iff.2 named.letters,
    named.starts]
  rfl

theorem ofLine?_valued (named : IsName name) (parted : gap ≠ []) (blank : isAllBlank gap = true)
    (trimmed : Trimmed value) : ofLine? (.scalar '@' :: name ++ gap ++ value) = some (name, value) := by
  obtain ⟨l, gap, rfl⟩ := List.exists_cons_of_ne_nil parted
  have blank' : isBlank l = true := List.all_eq_true.1 blank l List.mem_cons_self
  have ends : isNameLetter l = false := by
    refine Bool.eq_false_iff.2 fun letter => ?_
    rw [isBlank_of_isNameLetter letter] at blank'
    cases blank'
  have back : trim (l :: gap ++ value ++ []) = value := trim_padded blank rfl trimmed
  rw [List.append_nil] at back
  rw [ofLine?]
  simp only [List.cons_append, List.drop_succ_cons, List.drop_zero, List.append_assoc]
  rw [List.dropWhile_append_of_pos named.letters, List.takeWhile_append_of_pos named.letters,
    List.dropWhile_cons_of_neg (by simp [ends]), List.takeWhile_cons_of_neg (by simp [ends]), ← List.cons_append, back,
    startsName_append named.starts]
  simp [blank']

theorem Says.trim_eq (h : Says line tag) : trim line = .scalar '@' :: tag.1 ∧ tag.2 = [] ∨
    ∃ gap, gap ≠ [] ∧ isAllBlank gap = true ∧ Trimmed tag.2 ∧ trim line = .scalar '@' :: tag.1 ++ gap ++ tag.2 := by
  cases h with
  | bare front named back => exact .inl ⟨trim_padded front back named.trimmed, rfl⟩
  | @valued before name gap value after front named parted blank stated trimmed back =>
    refine .inr ⟨gap, parted, blank, trimmed, ?_⟩
    have whole : Trimmed (.scalar '@' :: name ++ gap ++ value) := by
      refine ⟨fun l hl => ?_, fun l hl => trimmed.back l ?_⟩
      · cases hl
        decide
      · rwa [List.getLast?_append_of_ne_nil _ stated] at hl
    have same := trim_padded front back whole
    simpa only [List.append_assoc] using same

theorem Says.named (h : Says line tag) : IsName tag.1 := by
  cases h with
  | bare _ named _ => exact named
  | valued _ named _ _ _ _ _ => exact named

theorem Says.ofLine?_eq (h : Says line tag) : ofLine? (trim line) = some tag := by
  obtain ⟨name, value⟩ := tag
  obtain ⟨whole, rfl⟩ | ⟨gap, parted, blank, trimmed, whole⟩ := h.trim_eq
  · rw [whole, ofLine?_bare h.named]
  · rw [whole, ofLine?_valued h.named parted blank trimmed]

theorem Says.marked (h : Says line tag) : isMarked line = true := by
  obtain ⟨whole, -⟩ | ⟨gap, -, -, -, whole⟩ := h.trim_eq <;> rw [isMarked, whole] <;> rfl

theorem isNameLetter_of_starts (h : startsName (l :: name) = true) : isNameLetter l = true := by
  cases l with
  | half n => cases h
  | scalar c =>
    have alpha : c.isAlpha = true := h
    simp [isNameLetter, isWord, Char.isAlphanum, alpha]

theorem isName_takeWhile (h : startsName name = true) : IsName (name.takeWhile isNameLetter) := by
  refine ⟨?_, fun l hl => List.mem_takeWhile_imp hl⟩
  cases name with
  | nil => cases h
  | cons l name =>
    rw [List.takeWhile_cons_of_pos (isNameLetter_of_starts h)]
    exact h

theorem says_of_ofLine? (marked : isMarked line = true) (read : ofLine? (trim line) = some tag) : Says line tag := by
  obtain ⟨t, start⟩ := List.head?_eq_some_iff.1 (eq_of_beq marked)
  obtain ⟨before, tail, front, back, padded⟩ := exists_padding line
  rw [start] at read padded
  simp only [ofLine?, List.drop_succ_cons, List.drop_zero] at read
  split at read
  case isFalse => cases read
  next fits =>
  cases read
  rw [Bool.and_eq_true_iff] at fits
  have named := isName_takeWhile fits.1
  have parts := (List.takeWhile_append_dropWhile (p := isNameLetter) (l := t)).symm
  have parted := fits.2
  generalize t.takeWhile isNameLetter = name at named parts ⊢
  generalize t.dropWhile isNameLetter = after at parts parted ⊢
  subst parts
  -- a value is parted from the name by the blanks that trimming drops; without any it would be a part of the name
  by_cases stated : trim after = []
  · rw [padded, stated]
    have blank : isAllBlank (after ++ tail) = true := by
      rw [isAllBlank, List.all_append]
      exact Bool.and_eq_true_iff.2 ⟨(trim_eq_nil_iff after).1 stated, back⟩
    simpa only [List.append_assoc, List.cons_append] using Says.bare front named blank
  · obtain ⟨gap, rest, left, right, inner⟩ := exists_padding after
    have filled : gap ≠ [] := by
      rintro rfl
      obtain ⟨l, value, first⟩ := List.exists_cons_of_ne_nil stated
      have solid := (trimmed_trim after).front l (by rw [first]; rfl)
      rw [inner, first] at parted
      have blank : isBlank l = true := parted
      rw [solid] at blank
      cases blank
    have blank : isAllBlank (rest ++ tail) = true := by
      rw [isAllBlank, List.all_append]
      exact Bool.and_eq_true_iff.2 ⟨right, back⟩
    have said := Says.valued front named filled left stated (trimmed_trim after) blank
    have whole : after ++ tail = gap ++ trim after ++ (rest ++ tail) :=
      (congrArg (· ++ tail) inner).trans (List.append_assoc _ _ _)
    rw [padded, List.append_assoc, List.cons_append, List.append_assoc, whole]
    simpa only [List.append_assoc, List.cons_append] using said

/-- What a marked line is read as is what it says. -/
theorem ofLine?_eq_some (marked : isMarked line = true) : ofLine? (trim line) = some tag ↔ Says line tag :=
  ⟨says_of_ofLine? marked, Says.ofLine?_eq⟩

theorem add_eq_ok (distinct : (tags.map (·.1)).Nodup) (h : add s tags rows = .ok result) :
    ∃ more, result = tags ++ more ∧ List.Forall₂ (fun row tag => ofLine? row = some tag) rows more ∧
      (result.map (·.1)).Nodup := by
  induction rows generalizing tags with
  | nil =>
    cases h
    exact ⟨[], (List.append_nil _).symm, .nil, distinct⟩
  | cons row rows ih =>
    rw [add] at h
    split at h
    · cases h
    · next name value read =>
      split at h
      · cases h
      · next fresh =>
        have absent : name ∉ tags.map (·.1) := Association.not_mem_of_lookup (Option.not_isSome_iff_eq_none.1 fresh)
        have longer : ((tags ++ [(name, value)]).map (·.1)).Nodup := by
          rw [List.map_append, List.map_singleton, ← List.concat_eq_append]
          exact distinct.concat absent
        obtain ⟨more, same, each, unique⟩ := ih longer h
        exact ⟨(name, value) :: more, by rw [same, List.append_assoc]; rfl, .cons read each, unique⟩

theorem add_ends (s : Site) (tags : Tags) (rows : List Text) :
    (∃ result, add s tags rows = .ok result) ∨ ∃ fault, add s tags rows = s.fail fault := by
  fun_induction add s tags rows with
  | case1 tags => exact .inl ⟨tags, rfl⟩
  | case2 tags row rest malformed => exact .inr ⟨_, rfl⟩
  | case3 tags row rest name value read again => exact .inr ⟨_, rfl⟩
  | case4 tags row rest name value read fresh ih => exact ih

theorem filterMap_of_forall₂ (each : List.Forall₂ (fun row tag => ofLine? row = some tag) rows more) :
    rows.filterMap ofLine? = more := by
  induction each with
  | nil => rfl
  | cons read _ ih => rw [List.filterMap_cons_some read, ih]

theorem marked_lines (ls : List Text) :
    (ls.map trim).filter (fun line => line.head? == some (.scalar '@')) = (ls.filter isMarked).map trim :=
  List.filter_map

theorem forall₂_ofLine? :
    List.Forall₂ (fun row tag => ofLine? row = some tag) ((ls.filter isMarked).map trim) tags ↔
      List.Forall₂ Says (ls.filter isMarked) tags := by
  rw [List.forall₂_map_left_iff]
  have marked : ∀ line ∈ ls.filter isMarked, isMarked line = true := fun line hl => (List.mem_filter.1 hl).2
  generalize ls.filter isMarked = said at marked
  refine List.forall₂_iff_zip.trans ((and_congr_right fun _ => ?_).trans List.forall₂_iff_zip.symm)
  have same {line : Text} {tag : Text × Text} (pair : (line, tag) ∈ said.zip tags) :
      ofLine? (trim line) = some tag ↔ Says line tag := ofLine?_eq_some (marked line (List.of_mem_zip pair).1)
  exact ⟨fun each line tag pair => (same pair).1 (each pair), fun each line tag pair => (same pair).2 (each pair)⟩

/-- The tags of a documentation text are those that its marked lines say, each of a name of its own. -/
theorem ofText_eq_ok (lined : Lined documentation ls) :
    ofText s documentation = .ok tags ↔
      List.Forall₂ Says (ls.filter isMarked) tags ∧ (tags.map (·.1)).Nodup := by
  rw [ofText, lined.lines_eq, marked_lines, ← forall₂_ofLine?]
  constructor
  · intro h
    have none : (([] : Tags).map (·.1)).Nodup := List.nodup_nil
    obtain ⟨more, rfl, each, unique⟩ := add_eq_ok none h
    exact ⟨each, unique⟩
  · rintro ⟨each, unique⟩
    exact add_of_forall₂ each unique

theorem not_nodup_of_said_twice {first second : Text} {other : Text} (each : List.Forall₂ Says (ls.filter isMarked) tags)
    (twice : [first, second].Sublist ls) (early : Says first (name, value)) (late : Says second (name, other)) :
    ¬(tags.map (·.1)).Nodup := by
  have marked : [first, second].filter isMarked = [first, second] := by
    rw [List.filter_cons_of_pos early.marked, List.filter_cons_of_pos late.marked, List.filter_nil]
  have said := ((twice.filter isMarked).map trim).filterMap ofLine?
  rw [marked, filterMap_of_forall₂ (forall₂_ofLine?.2 each)] at said
  have pairs : ([first, second].map trim).filterMap ofLine? = [(name, value), (name, other)] := by
    rw [List.map_cons, List.map_singleton, List.filterMap_cons_some early.ofLine?_eq,
      List.filterMap_cons_some late.ofLine?_eq, List.filterMap_nil]
  rw [pairs] at said
  exact fun distinct => List.nodup_iff_sublist.1 distinct name (said.map Prod.fst)

/-- Tags are read back from the lines that say them. A marked line that says none, or two lines that say
one name, are reported. -/
theorem tags_of_lines (lined : Lined documentation ls) :
    (∀ tags : Tags, List.Forall₂ Says (ls.filter isMarked) tags → (tags.map (·.1)).Nodup →
      ofText s documentation = .ok tags ∧ ∀ name value, tags.get? name = some value ↔ (name, value) ∈ tags) ∧
    ((∃ line ∈ ls, isMarked line = true ∧ ∀ tag, ¬Says line tag) ∨
        (∃ first second name value other, [first, second].Sublist ls ∧ Says first (name, value) ∧
          Says second (name, other)) →
      ∃ fault, ofText s documentation = s.fail fault) := by
  constructor
  · intro tags each distinct
    refine ⟨(ofText_eq_ok lined).2 ⟨each, distinct⟩, fun name value => ?_⟩
    exact ⟨Association.mem_of_lookup, Association.lookup_of_mem distinct⟩
  · intro wrong
    rcases add_ends s [] (((lines documentation).map trim).filter fun line => line.head? == some (.scalar '@')) with
      ⟨tags, read⟩ | failed
    swap
    · exact failed
    obtain ⟨each, distinct⟩ := (ofText_eq_ok lined).1 read
    rcases wrong with ⟨line, member, marked, unsaid⟩ | ⟨first, second, name, value, other, twice, early, late⟩
    · obtain ⟨tag, -, said⟩ := Outcome.exists_of_forall₂ each.flip (List.mem_filter.2 ⟨member, marked⟩)
      exact absurd said (unsaid tag)
    · exact absurd distinct (not_nodup_of_said_twice each twice early late)

/-- Two tags with other lines around them, parted by breaks of four kinds; and a name that two lines say. -/
theorem tags_of_mixed_lines :
    (Lined "Deploys.\r\n  @goal\u3000deploy it \u2028not @tagged\x0b\t@thread-Safe\r"
        ["Deploys.", "  @goal\u3000deploy it ", "not @tagged", "\t@thread-Safe"] ∧
      ofText ⟨"docstring", "a.py:1"⟩ "Deploys.\r\n  @goal\u3000deploy it \u2028not @tagged\x0b\t@thread-Safe\r" =
        .ok [("goal", "deploy it"), ("thread-Safe", "")]) ∧
    Lined "@goal a\n @goal" ["@goal a", " @goal"] ∧
      ∃ fault, ofText ⟨"docstring", "a.py:1"⟩ "@goal a\n @goal" = Site.fail ⟨"docstring", "a.py:1"⟩ fault := by
  have mixed : Lined "Deploys.\r\n  @goal\u3000deploy it \u2028not @tagged\x0b\t@thread-Safe\r"
      ["Deploys.", "  @goal\u3000deploy it ", "not @tagged", "\t@thread-Safe"] := lined_iff.2 (by decide +kernel)
  have again : Lined "@goal a\n @goal" ["@goal a", " @goal"] := lined_iff.2 (by decide +kernel)
  have deploy : Says "  @goal\u3000deploy it " ("goal", "deploy it") :=
    @Says.valued "  " "goal" "\u3000" "deploy it" " " (by decide) ⟨by decide, by decide⟩ (by decide) (by decide) (by decide)
      (by decide) (by decide)
  have safe : Says "\t@thread-Safe" ("thread-Safe", "") :=
    @Says.bare "\t" "thread-Safe" "" (by decide) ⟨by decide, by decide⟩ (by decide)
  have first : Says "@goal a" ("goal", "a") :=
    @Says.valued "" "goal" " " "a" "" (by decide) ⟨by decide, by decide⟩ (by decide) (by decide) (by decide) (by decide)
      (by decide)
  have second : Says " @goal" ("goal", "") :=
    @Says.bare " " "goal" "" (by decide) ⟨by decide, by decide⟩ (by decide)
  refine ⟨⟨mixed, ((tags_of_lines mixed).1 _ ?_ (by decide)).1⟩, again, (tags_of_lines again).2 (.inr ?_)⟩
  · exact .cons deploy (.cons safe .nil)
  · exact ⟨_, _, "goal", _, _, .refl _, first, second⟩

end Tags

end TaskCatalog
