import TaskCatalog.Proofs.ArgumentKinds
import TaskCatalog.Proofs.DocumentedTasks
import TaskCatalog.Proofs.TagLines

/-!
Settings that are given twice. An argument that a decorator gives twice is reported, and so is a tag that two lines of
a documentation text say. Of an attribute that the value of a tag gives twice the last one counts, without a word.
-/

namespace TaskCatalog

open Text Outcome

namespace Attributes

variable {items : Tags} {t gap rest key value : Text} {l : Letter} {s : Site} {known : List Text}

/-- A text of items in a row, with any blanks, or none, around each of them. -/
inductive Spaced : Tags → Text → Prop
  | blank {t : Text} : isAllBlank t = true → Spaced [] t
  | item {gap key value t : Text} {items : Tags} : isAllBlank gap = true → Tags.IsName key → .scalar '"' ∉ value →
      Spaced items t → Spaced ((key, value) :: items) (gap ++ item (key, value) ++ t)

theorem take?_blank (blank : isBlank l = true) (rest : Text) : take? (l :: rest) = none := by
  refine if_neg fun starts => ?_
  have letter := Tags.isBlank_of_isNameLetter (Tags.isNameLetter_of_starts starts)
  rw [blank] at letter
  cases letter

theorem split_blanks (blank : isAllBlank gap = true) (t : Text) :
    split (gap ++ t) = ((split t).1, gap ++ (split t).2) := by
  induction gap with
  | nil => rfl
  | cons l gap ih =>
    obtain ⟨first, more⟩ := Bool.and_eq_true_iff.1 blank
    rw [List.cons_append, split_cons_of_none (take?_blank first _), ih more]
    rfl

/-- The items are found where they are, and between them nothing is left but blanks. -/
theorem Spaced.split_eq (h : Spaced items t) : ∃ leftover, split t = (items, leftover) ∧ isAllBlank leftover = true := by
  induction h with
  | @blank t blank =>
    have nothing : split [] = ([], []) := by rw [split]; rfl
    have read := split_blanks blank []
    rw [nothing] at read
    simp only [List.append_nil] at read
    exact ⟨t, read, blank⟩
  | @item gap key value t items blank named unquoted _ ih =>
    obtain ⟨leftover, read, clear⟩ := ih
    refine ⟨gap ++ leftover, ?_, ?_⟩
    · rw [List.append_assoc, split_blanks blank, split_of_take? (take?_item (Tags.isTagName_iff.2 named) unquoted t), read]
    · rw [isAllBlank, List.all_append]
      exact Bool.and_eq_true_iff.2 ⟨blank, clear⟩

theorem Spaced.ofText_eq (h : Spaced items t) (allowed : ∀ a ∈ items, a.1 ∈ known) :
    ofText s known t = .ok items.reverse := by
  obtain ⟨leftover, read, blank⟩ := h.split_eq
  have unknown : Tags.unknown known items = [] := Tags.unknown_eq_nil allowed
  rw [ofText, read]
  simp only [(trim_eq_nil_iff leftover).2 blank, unknown]
  rfl

theorem get?_reverse_of_last {before after : Tags} (last : key ∉ after.map (·.1)) :
    Tags.get? (before ++ (key, value) :: after).reverse key = some value := by
  have apart : key ∉ after.reverse.map (·.1) := by
    rw [List.map_reverse, List.mem_reverse]
    exact last
  rw [Tags.get?, List.reverse_append, List.reverse_cons, List.append_assoc, List.lookup_append,
    Association.lookup_of_not_mem apart, Option.none_or, List.singleton_append, List.lookup_cons, beq_self_eq_true]

end Attributes

namespace Decorated

/-- A decorator gives an argument twice: by its position and by a keyword, or by two keywords. -/
inductive Repeats : Code.Expression → Text → Prop
  | position {f a b : Code.Expression} {more : List Code.Expression} {keywords : List Code.Keyword}
    (again : .mk (some "name") b ∈ keywords) : Repeats (.call f (a :: more) keywords) "name"
  | keyword {f a b : Code.Expression} {positional : List Code.Expression} {keywords : List Code.Keyword} {name : Text}
    (twice : [.mk (some name) a, .mk (some name) b].Sublist keywords) : Repeats (.call f positional keywords) name

variable {s : Site} {allowed : List Text} {e : Code.Expression} {os given : Options} {keywords : List Code.Keyword}
  {name : Text} {c : Conventions} {m : Module} {d : Candidate} {o : Option Task}

def keywordName? : Code.Keyword → Option Text
  | .mk name _ => name

theorem names_of_gives (each : List.Forall₂ Gives keywords given) : keywords.filterMap keywordName? = given.map (·.1) := by
  induction each with
  | nil => rfl
  | @cons keyword o keywords given gives _ ih =>
    obtain @⟨name, a, v, literal⟩ := gives
    have named : keywordName? (.mk (some name) a) = some name := rfl
    rw [List.filterMap_cons_some named, ih]
    rfl

theorem names_of_call {f : Code.Expression} {positional : List Code.Expression}
    (h : options s allowed (.call f positional keywords) = .ok os) :
    os.map (·.1) = positional.map (fun _ => ofString "name") ++ keywords.filterMap keywordName? := by
  obtain ⟨done, added, first⟩ := options_of_call h
  obtain ⟨given, rfl, each⟩ := addKeywords_eq_ok added
  rw [List.map_append, names_of_gives each]
  obtain ⟨rfl, rfl⟩ | ⟨a, v, rfl, -, rfl⟩ := first <;> rfl

/-- A call whose arguments are taken gives none of them twice. -/
theorem not_repeats_of_options (h : options s allowed e = .ok os) : ¬Repeats e name := by
  intro repeated
  have distinct := distinct_of_options h
  cases repeated with
  | @position f a b more keywords again =>
    have member : ofString "name" ∈ keywords.filterMap keywordName? := List.mem_filterMap.2 ⟨_, again, rfl⟩
    rw [names_of_call h, List.map_cons, List.cons_append, List.nodup_cons] at distinct
    exact distinct.1 (List.mem_append_right _ member)
  | @keyword f a b positional keywords name twice =>
    rw [names_of_call h] at distinct
    exact List.nodup_iff_sublist.1 (List.nodup_append.1 distinct).2.1 name (twice.filterMap keywordName?)

/-- Of a candidate without fault, the arguments of each decorator are taken. -/
theorem options_of_task? (h : task? c m d.scope d.definition = .ok o) (mark : e ∈ d.definition.decorators)
    (marks : Marks e c.taskDecorator ∨ Marks e c.parameterDecorator) : ∃ s allowed os, options s allowed e = .ok os := by
  have listed {name : Text} (marks : Marks e name) : e ∈ d.definition.decoratedBy name :=
    List.mem_filter.2 ⟨mark, beq_iff_eq.2 (decoratorName?_eq_some_iff.2 marks)⟩
  have parameterCall (marks : Marks e c.parameterDecorator) (other : ¬Marks e c.taskDecorator) :
      e ∈ d.definition.parameterCalls c := by
    rw [← parameterMarks_eq]
    exact List.mem_filter.2 ⟨mark, decide_eq_true ⟨marks, other⟩⟩
  by_cases task : Marks e c.taskDecorator
  · have member := listed task
    cases comes_of_task? h with
    | nothing unmarked bare =>
      rw [unmarked] at member
      cases member
    | task only given =>
      rw [only] at member
      cases List.mem_singleton.1 member
      exact ⟨_, _, _, given⟩
  · have member := parameterCall (marks.resolve_left task) task
    cases comes_of_task? h with
    | nothing unmarked bare =>
      rw [bare] at member
      cases member
    | task only given phase annotated read required built =>
      obtain ⟨p, -, made⟩ := exists_of_forall₂ (forall₂_of_mapM read).flip member
      rw [parameter] at made
      obtain ⟨os, taken, -⟩ := bind_eq_ok.1 made
      exact ⟨_, _, _, taken⟩

/-- Each class or function of a file without fault is without fault. -/
theorem exists_task?_of_fileTasks {s : Sources} {root file : Path} {ts : List Task}
    (looked : Module.read? s strategy s.conventions.taskDecorator root file = .ok (some m))
    (member : d ∈ candidates [] m.statements) (h : (fileTasks s root file).result = .ok ts) :
    ∃ o, task? s.conventions m d.scope d.definition = .ok o := by
  rw [fileTasks, Logged.result_bind, Logged.result_ofExcept, looked] at h
  obtain ⟨_, ⟨⟩, h⟩ := bind_eq_ok.1 h
  dsimp only at h
  rw [Logged.result_bind, Logged.result_ofExcept] at h
  obtain ⟨_, found, -⟩ := bind_eq_ok.1 h
  rw [tasksIn_eq] at found
  obtain ⟨found, each, -⟩ := map_eq_ok.1 found
  obtain ⟨o, -, made⟩ := exists_of_forall₂ (forall₂_of_mapM each).flip member
  exact ⟨o, made⟩

end Decorated

/-- Two lines of a documentation text say one tag. -/
def Tags.Repeats (documentation name : Text) : Prop :=
  ∃ ls first second value other, Lined documentation ls ∧ [first, second].Sublist ls ∧ Says first (name, value) ∧
    Says second (name, other)

theorem Tags.not_repeats_of_ofText {s : Site} {documentation name : Text} {tags : Tags}
    (h : ofText s documentation = .ok tags) : ¬Repeats documentation name := by
  rintro ⟨ls, first, second, value, other, lined, twice, early, late⟩
  obtain ⟨each, distinct⟩ := (ofText_eq_ok lined).1 h
  exact not_nodup_of_said_twice each twice early late distinct

namespace Documented

variable {s : Sources} {root file : Path} {m : Module} {d : Definition} {ts : List Task} {name : Text}

/-- The documentation of a class with a goal, or that of an attribute of it which is a parameter, says a tag twice. -/
inductive Definition.Repeats (d : Definition) (name : Text) : Prop
  | task {documentation : Text} (documented : Module.documentation? d.body = some documentation)
    (repeated : Tags.Repeats documentation name)
  | parameter {i : Nat} {a : Attribute} (inside : Attribute.In d.body i a) (repeated : Tags.Repeats a.documentation name)

theorem declares_of_fileTasks (looked : Module.read? s strategy ("@" ++ goalTag) root file = .ok (some m))
    (member : d ∈ classes m.statements) (task : d.IsTask) (h : (fileTasks s root file).result = .ok ts) :
    ∃ t, d.Declares s.conventions m t := by
  rw [fileTasks, Logged.result_bind, Logged.result_ofExcept, looked] at h
  obtain ⟨_, ⟨⟩, h⟩ := bind_eq_ok.1 h
  obtain ⟨parts, each, -⟩ := Logged.forall₂_of_gather h
  rw [List.forall₂_map_left_iff] at each
  obtain ⟨part, -, made⟩ := exists_of_forall₂ each.flip member
  obtain ⟨t, -, declared⟩ := declares_of_classTasks made task
  exact ⟨t, declared⟩

theorem Attribute.In.unique {body : List Code.Statement} {i : Nat} {a b : Attribute} (ha : In body i a) (hb : In body i b) :
    a = b := by
  obtain ⟨s, next, there, behind, made⟩ := in_iff.1 ha
  obtain ⟨s', next', there', behind', made'⟩ := in_iff.1 hb
  cases there.symm.trans there'
  cases behind.symm.trans behind'
  exact Option.some.inj (made.symm.trans made')

/-- A class whose task is extracted says each tag once, and so do its parameters. -/
theorem not_repeats_of_declares {c : Conventions} {t : Task} (h : d.Declares c m t) : ¬d.Repeats name := by
  rintro (⟨documented, repeated⟩ | ⟨inside, repeated⟩)
  · obtain ⟨documentation, tags, documented', -, read, -⟩ := h.made
    cases documented.symm.trans documented'
    exact Tags.not_repeats_of_ofText read repeated
  · obtain ⟨places, listed⟩ := h.parameters
    obtain ⟨p, -, a, inside', hint, -, made⟩ := exists_of_forall₂ listed.each.flip ((listed.complete _).2 ⟨_, inside⟩)
    cases inside.unique inside'
    rw [parameter] at made
    obtain ⟨tags, read, -⟩ := bind_eq_ok.1 made
    exact Tags.not_repeats_of_ofText read repeated

end Documented

/-- What becomes of settings that are given twice. An argument of a decorator is reported, or there is something in the
file that stops the extraction of it, and likewise a tag; of an attribute the last one counts. -/
theorem Module.repeated_settings (s : Sources) (root file : Path) :
    (∀ m d e name, Module.read? s Decorated.strategy s.conventions.taskDecorator root file = .ok (some m) →
      d ∈ Decorated.candidates [] m.statements → e ∈ d.definition.decorators →
      Decorated.Marks e s.conventions.taskDecorator ∨ Decorated.Marks e s.conventions.parameterDecorator →
      Decorated.Repeats e name → ∃ f, (Decorated.fileTasks s root file).result = .error f ∧
        (f.IsReported Decorated.strategy file ∨ Decorated.Escapes s root file f)) ∧
    (∀ m d name, Module.read? s Documented.strategy ("@" ++ Documented.goalTag) root file = .ok (some m) →
      d ∈ Documented.classes m.statements → d.IsTask → d.Repeats name →
      ∃ f, (Documented.fileTasks s root file).result = .error f ∧
        (f.IsReported Documented.strategy file ∨ Documented.Escapes s root file f)) ∧
    ∀ place items t, Attributes.Spaced items t → (∀ a ∈ items, a.1 ∈ Documented.attributeNames) →
      ∃ attributes, Attributes.ofText place Documented.attributeNames t = .ok attributes ∧
        ∀ before key value after, items = before ++ (key, value) :: after → key ∉ after.map (·.1) →
          attributes.get? key = some value := by
  refine ⟨fun m d e name looked member mark marks repeated => ?_, fun m d name looked member task repeated => ?_,
    fun place items t spaced known => ⟨items.reverse, spaced.ofText_eq known, ?_⟩⟩
  · cases result : (Decorated.fileTasks s root file).result with
    | error f => exact ⟨f, rfl, (Decorated.fileTasks_fails s root file).of_error result⟩
    | ok ts =>
      obtain ⟨o, made⟩ := Decorated.exists_task?_of_fileTasks looked member result
      obtain ⟨_, _, _, taken⟩ := Decorated.options_of_task? made mark marks
      exact absurd repeated (Decorated.not_repeats_of_options taken)
  · cases result : (Documented.fileTasks s root file).result with
    | error f => exact ⟨f, rfl, (Documented.fileTasks_fails s root file).of_error result⟩
    | ok ts =>
      obtain ⟨t, declared⟩ := Documented.declares_of_fileTasks looked member task result
      exact absurd repeated (Documented.not_repeats_of_declares declared)
  · rintro before key value after rfl last
    exact Attributes.get?_reverse_of_last last

namespace TwiceNamed

open SoleModule (root file sources)

/-- A class with a decorator that gives a name twice. -/
def decorated : List Char := "@task('a', name='b')\nclass A: pass\n".toList

/-- A class with a documentation that names two goals. -/
def documented : List Char := "class A:\n '@goal a\\n@goal b'\n".toList

def attributes : String := "name=\"a\" name=\"b\""

/-- A class with a parameter that is named twice. -/
def attributed : List Char := ("class A:\n '@goal a'\n x = 1\n '@parameter " ++ attributes ++ "'\n").toList

def isTwice : List Code.Statement → Bool
  | [.classDefinition _ _ [.call (.name w) [_] [.mk (some n) _]] _] => w == "task" && n == "name"
  | _ => false

theorem repeats_of_isTwice {statements : List Code.Statement} (h : isTwice statements = true) :
    ∃ d ∈ Decorated.candidates [] statements, ∃ e ∈ d.definition.decorators,
      Decorated.Marks e Conventions.default.taskDecorator ∧ Decorated.Repeats e "name" := by
  unfold isTwice at h
  split at h
  · next line name w a n b body =>
    obtain ⟨task, named⟩ := Bool.and_eq_true_iff.1 h
    cases eq_of_beq task
    cases eq_of_beq named
    rw [Decorated.candidates]
    exact ⟨_, List.mem_cons_self, _, List.mem_singleton_self _, .called (.alone _) _ _,
      .position (List.mem_singleton_self _)⟩
  · cases h

def documentation? : List Code.Statement → Option Text
  | [.classDefinition _ _ _ body] => Module.documentation? body
  | _ => none

theorem repeats_of_documentation? {statements : List Code.Statement}
    (h : documentation? statements = some (ofString "@goal a\n@goal b")) :
    ∃ d ∈ Documented.classes statements, d.IsTask ∧ d.Repeats "goal" := by
  unfold documentation? at h
  split at h
  · next line name decorators body =>
    have member : (⟨line, name, body⟩ : Documented.Definition) ∈
        Documented.classes [.classDefinition line name decorators body] := by
      simp [Documented.classes, Documented.layersIn, Documented.layersOf, Documented.Layers.beside]
    have lined : Lined "@goal a\n@goal b" ["@goal a", "@goal b"] := lined_iff.2 (by decide)
    have first : Tags.Says "@goal a" ("goal", "a") := Tags.says_of_ofLine? (by decide) (by decide)
    have second : Tags.Says "@goal b" ("goal", "b") := Tags.says_of_ofLine? (by decide) (by decide)
    exact ⟨_, member, ⟨_, h, by decide⟩, .task h ⟨_, _, _, _, _, lined, .refl _, first, second⟩⟩
  · cases h

theorem spaced : Attributes.Spaced [("name", "a"), ("name", "b")] (ofString attributes) := by
  have last : Attributes.Spaced [("name", "b")] " name=\"b\"" :=
    @Attributes.Spaced.item " " "name" "b" [] [] (by decide) ⟨by decide, by decide⟩ (by decide) (.blank rfl)
  exact @Attributes.Spaced.item [] "name" "a" _ _ rfl ⟨by decide, by decide⟩ (by decide) last

/-- The two that are reported, and the one that is not. -/
theorem settled : (∃ f, (Decorated.fileTasks (sources decorated) root file).result = .error f ∧
      (f.IsReported Decorated.strategy file ∨ Decorated.Escapes (sources decorated) root file f)) ∧
    (∃ f, (Documented.fileTasks (sources documented) root file).result = .error f ∧
      (f.IsReported Documented.strategy file ∨ Documented.Escapes (sources documented) root file f)) ∧
    ∃ found, Attributes.ofText ⟨"docstring", "a.py:3"⟩ Documented.attributeNames (ofString attributes) = .ok found ∧
      found.get? "name" = some (ofString "b") := by
  have looked {chars : List Char} {mark strategy : Text} {test : List Code.Statement → Bool}
      (text : (Sources.readText (sources chars).fs Conventions.default.sourceEncoding file).toOption = some chars)
      (marked : includes mark (ofChars chars) = true)
      (shown : (Code.parse chars).toOption.map test = some true) : ∃ m : Module, test m.statements = true ∧
        Module.read? (sources chars) strategy mark root file = .ok (some m) := by
    obtain ⟨statements, parsed, holds⟩ := Option.map_eq_some_iff.1 shown
    exact ⟨_, holds, Module.read?_eq_some.2
      ⟨_, toOption_eq_some.1 text, marked, statements, toOption_eq_some.1 parsed, rfl⟩⟩
  refine ⟨?_, ?_, ?_⟩
  · obtain ⟨m, holds, looked⟩ := @looked decorated Conventions.default.taskDecorator Decorated.strategy isTwice
      (by decide +kernel) (by decide +kernel) (by decide +kernel)
    obtain ⟨d, member, e, mark, marks, repeated⟩ := repeats_of_isTwice holds
    exact (Module.repeated_settings _ root file).1 m d e _ looked member mark (.inl marks) repeated
  · obtain ⟨m, holds, looked⟩ := @looked documented ("@" ++ Documented.goalTag) Documented.strategy
      (fun statements => documentation? statements == some (ofString "@goal a\n@goal b"))
      (by decide +kernel) (by decide +kernel) (by decide +kernel)
    obtain ⟨d, member, task, repeated⟩ := repeats_of_documentation? (eq_of_beq holds)
    exact (Module.repeated_settings _ root file).2.1 m d _ looked member task repeated
  · obtain ⟨found, read, last⟩ := (Module.repeated_settings (sources attributed) root file).2.2
      ⟨"docstring", "a.py:3"⟩ _ _ spaced (by decide)
    exact ⟨found, read, last [("name", "a")] "name" "b" [] rfl (by decide)⟩

/-- The parameter that is named twice goes by the last of its names. -/
theorem last_name_counts : Attributes.Spaced [("name", "a"), ("name", "b")] (ofString attributes) ∧
    ∃ ts, (Documented.extract (sources attributed)).result = .ok ts ∧
      ts.map LayeredTasks.outline = ([("a", ["b"])] : List (Text × List Text)) := by
  have shown : (Documented.extract (sources attributed)).result.toOption.map (·.map LayeredTasks.outline) =
      some ([("a", ["b"])] : List (Text × List Text)) := by
    decide +kernel
  obtain ⟨ts, result, listed⟩ := Option.map_eq_some_iff.1 shown
  exact ⟨spaced, ts, toOption_eq_some.1 result, listed⟩

end TwiceNamed

end TaskCatalog
