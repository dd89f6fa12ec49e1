import TaskCatalog.Proofs.AttributeItems
import TaskCatalog.Proofs.TagLines

/-!
Tags that have to be there. A tag is searched for letter by letter in the lines between line feeds, up to the end of a
word, while tags are read from the lines between breaks of any kind, with names that may go on behind a dash. What the
search finds stands in a line that is read as a tag as well: the one that was searched for, or one whose name goes on
and which is not known. So the extraction asks for the value of such a tag only where there is one.
-/

namespace TaskCatalog

open Text

namespace Text

variable {t u v first line gap rest : Text} {l : Letter} {more : List Text}

theorem prefix_of_lines (read : lines t = first :: more) : first <+: t := by
  have lined := lined_lines t
  rw [read] at lined
  cases lined with
  | last _ _ => exact List.prefix_rfl
  | broken _ _ _ _ => exact List.prefix_append _ _
  | returned _ _ => exact List.prefix_append _ _

/-- A text without breaks starts a line of what it is the front of. -/
theorem exists_line_of_unbroken (unbroken : Unbroken t) (stated : t ≠ []) (rest : Text) :
    ∃ first, first <+: rest ∧ t ++ first ∈ lines (t ++ rest) := by
  cases read : lines rest with
  | nil =>
    have none : rest = [] := by
      by_contra filled
      exact lines_ne_nil filled read
    refine ⟨[], List.nil_prefix, ?_⟩
    rw [none, List.append_nil, lines_unbroken unbroken stated]
    exact List.mem_cons_self
  | cons first more =>
    refine ⟨first, prefix_of_lines read, ?_⟩
    rw [lines_append_unbroken unbroken read]
    exact List.mem_cons_self

/-- A letter in front of a text leaves its lines as they are, or it starts the first of them. -/
theorem mem_lines_cons (l : Letter) (member : line ∈ lines t) : line ∈ lines (l :: t) ∨ l :: line ∈ lines (l :: t) := by
  cases broken : isLineBreak l with
  | false =>
    rw [lines_cons_unbroken broken]
    cases read : lines t with
    | nil =>
      rw [read] at member
      cases member
    | cons first more =>
      rw [read] at member
      rcases List.mem_cons.1 member with rfl | later
      · exact .inr List.mem_cons_self
      · exact .inl (List.mem_cons_of_mem _ later)
  | true =>
    left
    by_cases both : l = .scalar '\r' ∧ t.head? = some (.scalar '\n')
    · -- the feed that goes with a return ends the same line alone
      obtain ⟨rfl, feed⟩ := both
      obtain ⟨u, rfl⟩ := List.head?_eq_some_iff.1 feed
      rwa [lines_return_feed, ← lines_cons_break (l := .scalar '\n') rfl nofun]
    · rw [lines_cons_break broken fun first feed => both ⟨first, feed⟩]
      exact List.mem_cons_of_mem _ member

/-- With blanks in front of a text, its lines are still there, with some of the blanks in front at most. -/
theorem exists_line_of_blank (blank : isAllBlank gap = true) (member : line ∈ lines t) :
    ∃ kept, isAllBlank kept = true ∧ kept ++ line ∈ lines (gap ++ t) := by
  induction gap with
  | nil => exact ⟨[], rfl, member⟩
  | cons l gap ih =>
    rw [isAllBlank, List.all_cons, Bool.and_eq_true] at blank
    obtain ⟨kept, blanks, there⟩ := ih blank.2
    rcases mem_lines_cons l there with same | longer
    · exact ⟨kept, blanks, same⟩
    · exact ⟨l :: kept, by rw [isAllBlank, List.all_cons, blank.1]; exact blanks, longer⟩

end Text

namespace Tags

variable {name line documentation gap rest : Text} {tag : Text × Text} {tags : Tags} {known : List Text} {s : Site}

/-- No word goes on at the front of a text. -/
def EndsWord (t : Text) : Prop := t.head?.any (·.satisfies isWord) = false

/-- What the search for a tag finds: the mark and the name behind blanks, at the front or behind a line feed. -/
theorem exists_of_occursFrom {fresh : Bool} {t : Text} (h : occursFrom name fresh t = true) :
    ∃ before gap rest, t = before ++ (gap ++ .scalar '@' :: (name ++ rest)) ∧ isAllBlank gap = true ∧ EndsWord rest ∧
      (before = [] ∧ fresh = true ∨ ∃ u, before = u ++ [.scalar '\n']) := by
  induction t generalizing fresh with
  | nil => cases h
  | cons l t ih =>
    rw [occursFrom, Bool.or_eq_true] at h
    rcases h with here | later
    · simp only [Bool.and_eq_true, beq_iff_eq, Bool.not_eq_true', List.isPrefixOf_iff_prefix] at here
      obtain ⟨⟨⟨start, rfl⟩, rest, rfl⟩, ends⟩ := here
      rw [List.drop_left] at ends
      exact ⟨[], [], rest, rfl, rfl, ends, .inl ⟨rfl, start⟩⟩
    · -- the letter ends a line, or it is a blank in front of the mark, or it stands in an earlier line
      obtain ⟨before, gap, rest, rfl, blank, ends, front⟩ := ih later
      rcases front with ⟨rfl, start⟩ | ⟨u, rfl⟩
      · rw [Bool.or_eq_true, Bool.and_eq_true, beq_iff_eq] at start
        rcases start with rfl | ⟨start, blank'⟩
        · exact ⟨[.scalar '\n'], gap, rest, rfl, blank, ends, .inr ⟨[], rfl⟩⟩
        · refine ⟨[], l :: gap, rest, rfl, ?_, ends, .inl ⟨rfl, start⟩⟩
          rw [isAllBlank, List.all_cons, blank']
          exact blank
      · exact ⟨l :: (u ++ [.scalar '\n']), gap, rest, rfl, blank, ends, .inr ⟨l :: u, rfl⟩⟩

theorem EndsWord.of_prefix {t u : Text} (h : EndsWord u) (front : t <+: u) : EndsWord t := by
  obtain ⟨more, rfl⟩ := front
  cases t with
  | nil => rfl
  | cons l t => exact h

/-- A tag that the search finds stands in a line of its own, however the lines are parted. -/
theorem exists_line_of_occurs (named : IsName name) (h : occurs name documentation = true) :
    ∃ gap rest, gap ++ .scalar '@' :: (name ++ rest) ∈ lines documentation ∧ isAllBlank gap = true ∧ EndsWord rest := by
  obtain ⟨before, gap, rest, rfl, blank, ends, front⟩ := exists_of_occursFrom h
  have unbroken : Unbroken (.scalar '@' :: name) :=
    unbroken_of_solid (List.forall_mem_cons.2 ⟨by decide, fun l hl => isBlank_of_isNameLetter (named.letters l hl)⟩)
  obtain ⟨first, front', starts⟩ := exists_line_of_unbroken unbroken (List.cons_ne_nil _ _) rest
  obtain ⟨kept, blanks, there⟩ := exists_line_of_blank blank starts
  refine ⟨kept, first, ?_, blanks, ends.of_prefix front'⟩
  rcases front with ⟨rfl, -⟩ | ⟨u, rfl⟩
  · exact there
  · rw [List.append_assoc, List.singleton_append, lines_append_feed]
    exact List.mem_append_right _ there

theorem takeWhile_append_of_blank (t : Text) (blank : isAllBlank gap = true) :
    (t ++ gap).takeWhile isNameLetter = t.takeWhile isNameLetter := by
  induction t with
  | nil =>
    cases gap with
    | nil => rfl
    | cons l gap =>
      have solid : isNameLetter l ≠ true := fun letter => by
        have first := List.all_eq_true.1 blank l List.mem_cons_self
        rw [isBlank_of_isNameLetter letter] at first
        cases first
      rw [List.nil_append, List.takeWhile_cons_of_neg solid, List.takeWhile_nil]
  | cons l t ih => rw [List.cons_append, List.takeWhile_cons, List.takeWhile_cons, ih]

/-- A tag has all the letters behind the mark as its name. -/
theorem Says.name_eq (said : Says (gap ++ .scalar '@' :: rest) tag) (blank : isAllBlank gap = true) :
    tag.1 = rest.takeWhile isNameLetter := by
  obtain ⟨blanks, behind, parts⟩ := exists_trimRight rest
  have read := said.ofLine?_eq
  rw [trim_marked blank, ofLine?] at read
  split at read
  · cases read
    rw [List.drop_succ_cons, List.drop_zero, ← takeWhile_append_of_blank (trimRight rest) behind, ← parts]
  · cases read

theorem EndsWord.takeWhile_eq (h : EndsWord rest) :
    rest.takeWhile isNameLetter = [] ∨ ∃ more, rest.takeWhile isNameLetter = .scalar '-' :: more := by
  cases rest with
  | nil => exact .inl rfl
  | cons l rest =>
    cases letter : isNameLetter l with
    | false => exact .inl (List.takeWhile_cons_of_neg (by simp [letter]))
    | true =>
      have dash : l = .scalar '-' := by
        cases l with
        | half n => cases letter
        | scalar c =>
          have apart : isWord c = false := h
          rw [isNameLetter, Letter.satisfies_scalar, apart, Bool.false_or, beq_iff_eq] at letter
          rw [letter]
      exact .inr ⟨_, by rw [List.takeWhile_cons_of_pos letter, dash]⟩

/-- What the search finds is read as a tag of that name, or of a name that goes on behind a dash. -/
theorem exists_tag_of_occurs (named : IsName name) (h : occurs name documentation = true)
    (read : ofText s documentation = .ok tags) :
    ∃ tag : Text × Text, tags.get? tag.1 = some tag.2 ∧
      (tag.1 = name ∨ ∃ more, tag.1 = name ++ .scalar '-' :: more) := by
  obtain ⟨gap, rest, there, blank, ends⟩ := exists_line_of_occurs named h
  obtain ⟨each, distinct⟩ := (ofText_eq_ok (lined_lines documentation)).1 read
  have marked : gap ++ .scalar '@' :: (name ++ rest) ∈ (lines documentation).filter isMarked :=
    List.mem_filter.2 ⟨there, isMarked_iff.2 ⟨gap, _, blank, rfl⟩⟩
  obtain ⟨tag, member, said⟩ := Outcome.exists_of_forall₂ each.flip marked
  refine ⟨tag, Association.lookup_of_mem distinct member, ?_⟩
  rw [said.name_eq blank, List.takeWhile_append_of_pos named.letters]
  rcases ends.takeWhile_eq with none | ⟨more, dash⟩
  · exact .inl (by rw [none, List.append_nil])
  · exact .inr ⟨more, by rw [dash]⟩

/-- The value of a tag that has to be there. -/
def demand (tags : Tags) (name : Text) : Except Failure Text :=
  match tags.get? name with
  | some value => .ok value
  | none => .error (.breakdown .unknownKey)

theorem demand_eq {value : Text} (h : tags.get? name = some value) : tags.demand name = .ok value := by
  rw [demand, h]

end Tags

namespace Documented

open Tags

variable {c : Conventions} {m : Module} {d : Definition} {s : Site} {name documentation : Text} {hint : Option Text}
  {tags : Tags} {r : Text × List Text}

/-- The tags that are asked for, each with those that can stand beside it. -/
def askedTags : List (Text × List Text) := [(goalTag, taskTags), (parameterTag, parameterTags)]

theorem named_of_asked (asked : r ∈ askedTags) : IsName r.1 := by
  have each : ∀ r ∈ askedTags, isTagName r.1 = true := by decide +kernel
  exact isTagName_iff.1 (each r asked)

/-- No tag that is known has a name that goes on where an asked one ends. -/
theorem foreign_of_asked (asked : r ∈ askedTags) (more : Text) : r.1 ++ .scalar '-' :: more ∉ r.2 := by
  have each : ∀ r ∈ askedTags, ∀ known ∈ r.2, (r.1 ++ [Letter.scalar '-']).isPrefixOf known = false := by decide +kernel
  intro known
  have apart := each r asked _ known
  rw [Bool.eq_false_iff, ne_eq, List.isPrefixOf_iff_prefix] at apart
  exact apart ⟨more, by rw [List.append_assoc, List.singleton_append]⟩

theorem present_or_foreign (asked : r ∈ askedTags) (h : occurs r.1 documentation = true)
    (read : ofText s documentation = .ok tags) :
    (∃ value, tags.get? r.1 = some value) ∨ ∃ other value, tags.get? other = some value ∧ other ∉ r.2 := by
  obtain ⟨⟨other, value⟩, found, rfl | ⟨more, rfl⟩⟩ := exists_tag_of_occurs (named_of_asked asked) h read
  · exact .inl ⟨value, found⟩
  · exact .inr ⟨_, value, found, foreign_of_asked asked more⟩

/-- Where no unknown tag has been reported, an asked one is there. -/
theorem demand_of_occurs (asked : r ∈ askedTags) (h : occurs r.1 documentation = true)
    (read : ofText s documentation = .ok tags) (known : tags.unknown r.2 = []) :
    tags.demand r.1 = .ok ((tags.get? r.1).getD []) := by
  rcases present_or_foreign asked h read with ⟨value, found⟩ | ⟨other, value, found, foreign⟩
  · rw [demand_eq found, found, Option.getD_some]
  · have listed := Attributes.mem_unknown.2 ⟨List.mem_map_of_mem (Association.mem_of_lookup found), foreign⟩
    rw [known] at listed
    cases listed

/-- The task of a class in a run that breaks down where the tag of a goal is missing. -/
def demandingTask (c : Conventions) (m : Module) (d : Definition) (documentation : Text) : Except Failure Task := do
  let s := Site.ofLine strategy m.file d.line
  let tags ← Tags.ofText s documentation
  match tags.unknown taskTags with
  | [] => pure ()
  | unknown => s.fail (.unknownTaskTags unknown)
  let goal ← tags.demand goalTag
  if goal.isEmpty then s.fail .namelessGoal
  checkPhase s c (tags.get? "phase")
  let rs ← requirements s tags
  let ps ← parameters m.file d.body
  let fields := Record.ofPairs [
    ("name", .text goal), ("implementation", .text (m.name ++ ":" ++ d.name)),
    ("description", Value.ofText? (firstParagraph documentation)),
    ("phase", Value.ofText? (tags.get? "phase")), ("since", Value.ofText? (tags.get? "since")),
    ("deprecated", Value.ofText? (tags.get? "deprecated"))]
  s.task fields ps rs

theorem demandingTask_eq (tagged : occurs goalTag documentation = true) :
    demandingTask c m d documentation = task c m d documentation := by
  have asked : (goalTag, taskTags) ∈ askedTags := List.mem_cons_self
  rw [demandingTask, task]
  cases read : Tags.ofText (Site.ofLine strategy m.file d.line) documentation with
  | error f => rfl
  | ok tags =>
    cases known : tags.unknown taskTags with
    | nil =>
      simp only [bind, Except.bind, known]
      rw [demand_of_occurs asked tagged read known]
    | cons other more => simp only [bind, Except.bind, known, Site.fail]

/-- The parameter of an attribute in a run that breaks down where the tag of a parameter is missing. -/
def demandingParameter (s : Site) (name : Text) (hint : Option Text) (documentation : Text) :
    Except Failure Parameter := do
  let tags ← Tags.ofText s documentation
  match tags.unknown parameterTags with
  | [] => pure ()
  | unknown => s.fail (.unknownParameterTags unknown)
  let attributes ← Attributes.ofText s attributeNames (← tags.demand parameterTag)
  let required ← tags.flag s "required" false
  let readOnly ← tags.flag s "readonly" false
  s.parameter (Record.ofPairs [
    ("name", .text (orElse (attributes.get? "name") name)),
    ("type", .text (orElse (tags.get? "type") (orElse hint "str"))),
    ("required", .truth required), ("editable", .truth !readOnly),
    ("default_value", Value.ofText? (attributes.get? "default-value")),
    ("expression", Value.ofText? (attributes.get? "expression")),
    ("description", Value.ofText? (firstParagraph documentation)),
    ("since", Value.ofText? (tags.get? "since")),
    ("deprecated", Value.ofText? (tags.get? "deprecated"))])

theorem demandingParameter_eq (tagged : occurs parameterTag documentation = true) :
    demandingParameter s name hint documentation = parameter s name hint documentation := by
  have asked : (parameterTag, parameterTags) ∈ askedTags := List.mem_cons_of_mem _ List.mem_cons_self
  rw [demandingParameter, parameter]
  cases read : Tags.ofText s documentation with
  | error f => rfl
  | ok tags =>
    cases known : tags.unknown parameterTags with
    | nil =>
      simp only [bind, Except.bind, known]
      rw [demand_of_occurs asked tagged read known]
    | cons other more => simp only [bind, Except.bind, known, Site.fail]

/-- Where the search finds the tag that is asked for, the tags of the text are faulty, or that tag is among them, or one
that cannot stand there. So a look-up that breaks down where the tag is missing never does: the tasks and the parameters
are the same with it. -/
theorem asked_tags_present :
    (∀ s documentation, ∀ r ∈ askedTags, occurs r.1 documentation = true →
      (∃ fault, ofText s documentation = s.fail fault) ∨ ∃ tags, ofText s documentation = .ok tags ∧
        ((∃ value, tags.get? r.1 = some value) ∨ ∃ other value, tags.get? other = some value ∧ other ∉ r.2)) ∧
    (∀ c m d documentation, occurs goalTag documentation = true →
      demandingTask c m d documentation = task c m d documentation) ∧
    ∀ s name hint documentation, occurs parameterTag documentation = true →
      demandingParameter s name hint documentation = parameter s name hint documentation := by
  refine ⟨fun s documentation r asked found => ?_, fun _ _ _ _ => demandingTask_eq,
    fun _ _ _ _ => demandingParameter_eq⟩
  rcases add_ends s [] (((lines documentation).map trim).filter fun line => line.head? == some (.scalar '@')) with
    ⟨tags, read⟩ | failed
  · exact .inr ⟨tags, read, present_or_foreign asked found read⟩
  · exact .inl failed

/-- A tag behind a blank line of odd breaks whose name goes on; the task and the parameter of plain ones. -/
theorem asked_tags_present_mixed :
    ((∃ fault, ofText ⟨"docstring", "a.py:1"⟩ "A.\n\u2028\t@goal-x y\x0b" = Site.fail ⟨"docstring", "a.py:1"⟩ fault) ∨
      ∃ tags, ofText ⟨"docstring", "a.py:1"⟩ "A.\n\u2028\t@goal-x y\x0b" = .ok tags ∧
        ((∃ value, tags.get? goalTag = some value) ∨
          ∃ other value, tags.get? other = some value ∧ other ∉ taskTags)) ∧
    demandingTask .default ⟨⟨true, ["a.py"]⟩, "a", []⟩ ⟨1, "Build", []⟩ "Builds it.\n\n@goal build" =
      task .default ⟨⟨true, ["a.py"]⟩, "a", []⟩ ⟨1, "Build", []⟩ "Builds it.\n\n@goal build" ∧
    demandingParameter ⟨"docstring", "a.py:2"⟩ "level" none "The level.\n@parameter" =
      parameter ⟨"docstring", "a.py:2"⟩ "level" none "The level.\n@parameter" :=
  ⟨asked_tags_present.1 _ _ (goalTag, taskTags) List.mem_cons_self (by decide +kernel),
    asked_tags_present.2.1 _ _ _ _ (by decide +kernel), asked_tags_present.2.2 _ _ _ _ (by decide +kernel)⟩

end Documented

end TaskCatalog
