import TaskCatalog.Proofs.ExtractedTasks
import TaskCatalog.Proofs.GivenArguments
import TaskCatalog.Proofs.ModuleFailures
import TaskCatalog.Proofs.ReadOnlyFlags

/-!
Arguments of decorators that are of no kind the argument can have. Each is reported, but for two slips: an argument that
stands in for a default is passed over where it counts as nothing, and readable bytes are taken for a text by the checks
of the model.
-/

namespace TaskCatalog

open Text Outcome

namespace Checked

/-- Bytes that are taken for a text. -/
def Readable (v : Value) : Prop := ∃ b cs, v = .bytes b ∧ decodeUtf8 b = .ok cs

theorem text_passes_iff {v : Value} : (∃ t, text v = .ok t) ↔ (∃ t, v = .text t) ∨ Readable v := by
  constructor
  · rintro ⟨t, passed⟩
    unfold text at passed
    split at passed
    · next t => exact .inl ⟨t, rfl⟩
    · next b =>
      split at passed
      · next cs read => exact .inr ⟨b, cs, rfl, read⟩
      · cases passed
    · cases passed
  · rintro (⟨t, rfl⟩ | ⟨b, cs, rfl, read⟩)
    · exact ⟨t, rfl⟩
    · refine ⟨ofChars cs, ?_⟩
      rw [text, read]

theorem keys_pass_iff {entries : List (Value × Value)} : (∃ ks, mapping.keys entries = .ok ks) ↔
    ∀ entry ∈ entries, (∃ t, entry.1 = .text t) ∨ Readable entry.1 := by
  induction entries with
  | nil => exact iff_of_true ⟨[], rfl⟩ (List.forall_mem_nil _)
  | cons entry entries ih =>
    obtain ⟨k, v⟩ := entry
    rw [List.forall_mem_cons, ← ih, ← text_passes_iff, mapping.keys]
    simp only [seq_eq_ok, fmap_eq_ok, located_eq_ok]
    constructor
    · rintro ⟨_, _, ks, ⟨t, first, rfl⟩, rest, rfl⟩
      exact ⟨⟨t, first⟩, ks, rest⟩
    · rintro ⟨⟨t, first⟩, ks, rest⟩
      exact ⟨t :: ks, _, ks, ⟨t, first, rfl⟩, rest, rfl⟩

theorem mapping_passes_iff {v : Value} : (∃ entries, mapping v = .ok entries) ↔
    ∃ entries, v = .map entries ∧ ∀ entry ∈ entries, (∃ t, entry.1 = .text t) ∨ Readable entry.1 := by
  constructor
  · rintro ⟨found, passed⟩
    unfold mapping at passed
    split at passed
    · next entries =>
      obtain ⟨ks, keys, -⟩ := map_eq_ok.1 passed
      exact ⟨entries, rfl, keys_pass_iff.1 ⟨ks, keys⟩⟩
    · cases passed
  · rintro ⟨entries, rfl, named⟩
    obtain ⟨ks, keys⟩ := keys_pass_iff.2 named
    rw [mapping, keys, map]
    exact ⟨_, rfl⟩

end Checked

namespace Decorated

/-- How an argument is read. -/
inductive Reading where
  /-- A text and nothing else; this is checked before the model is. -/
  | strict
  /-- A text, by the check of the model. -/
  | text
  /-- A text by the check of the model, or what is there without the argument. -/
  | fallback
  /-- A mapping by texts, or what is there without the argument. -/
  | mapping

namespace Reading

/-- The value is of a kind that the argument cannot have. -/
def Mistyped (v : Value) : Reading → Prop
  | mapping => v ≠ .null ∧ ∀ entries, v = .map entries → ∃ entry ∈ entries, ∀ t, entry.1 ≠ .text t
  | _ => v ≠ .null ∧ ∀ t, v ≠ .text t

/-- The value is passed over, or taken for one of another kind. -/
def Slips (v : Value) : Reading → Prop
  | strict => False
  | text => Checked.Readable v
  | fallback => v.isFalsy = true ∨ Checked.Readable v
  | mapping => v.isFalsy = true ∨
      ∃ entries, v = .map entries ∧ ∀ entry ∈ entries, (∃ t, entry.1 = .text t) ∨ Checked.Readable entry.1

/-- The value is found without fault. -/
def Passes (v : Value) : Reading → Prop
  | strict => v = .null ∨ ∃ t, v = .text t
  | text => ∃ t, Checked.optional Checked.text v = .ok t
  | fallback => v.isFalsy = true ∨ ∃ t, Checked.text v = .ok t
  | mapping => v.isFalsy = true ∨ ∃ entries, Checked.mapping v = .ok entries

/-- What is of no kind that an argument can have is found without fault just where it slips through. -/
theorem passes_iff {v : Value} {r : Reading} (mistyped : r.Mistyped v) : r.Passes v ↔ r.Slips v := by
  cases r with
  | strict =>
    refine iff_of_false ?_ not_false
    rintro (null | ⟨t, same⟩)
    · exact mistyped.1 null
    · exact mistyped.2 t same
  | text =>
    have other : ¬ ∃ t, v = .text t := fun ⟨t, same⟩ => mistyped.2 t same
    have checked : Checked.optional Checked.text v = (Checked.text v).map some := by
      unfold Checked.optional
      split
      · exact absurd rfl mistyped.1
      · rfl
    rw [Passes, Slips, checked]
    simp only [Checked.map_eq_ok]
    constructor
    · rintro ⟨_, t, passed, rfl⟩
      exact (Checked.text_passes_iff.1 ⟨t, passed⟩).resolve_left other
    · intro readable
      obtain ⟨t, passed⟩ := Checked.text_passes_iff.2 (.inr readable)
      exact ⟨some t, t, passed, rfl⟩
  | fallback =>
    have other : ¬ ∃ t, v = .text t := fun ⟨t, same⟩ => mistyped.2 t same
    rw [Passes, Slips, Checked.text_passes_iff, or_iff_right other]
  | mapping => rw [Passes, Slips, Checked.mapping_passes_iff]

end Reading

/-- The arguments of a task whose kind is not that of a flag. -/
def taskReadings : List (Text × Reading) := [
  ("name", .fallback), ("description", .fallback), ("phase", .strict), ("since", .text), ("deprecated", .text),
  ("dependency_resolution", .text), ("configuration", .mapping)]

def parameterReadings : List (Text × Reading) := [
  ("name", .strict), ("type", .fallback), ("expression", .text), ("description", .text), ("since", .text),
  ("deprecated", .text)]

variable {s : Site} {c : Conventions} {m : Module} {d : Candidate} {e : Code.Expression} {os : Options} {name : Text}
  {v : Value} {r : Reading} {annotations : Annotations} {p : Parameter}

theorem passes_of_required {fields : Record} {α : Type} {check : Value → Checked α} {a : α}
    (passed : fields.required name check = .ok a) (found : fields.get? name = some v) : check v = .ok a := by
  rw [Record.required_eq_of_get? found, Checked.located_eq_ok] at passed
  exact passed

theorem passes_of_withDefault {fields : Record} {α : Type} {check : Value → Checked α} {a b : α}
    (passed : fields.withDefault name b check = .ok a) (found : fields.get? name = some v) : check v = .ok a := by
  rw [Record.withDefault_of_get? found, Checked.located_eq_ok] at passed
  exact passed

theorem passes_of_optionalText {fields : Record} {t : Option Text} (passed : fields.optionalText name = .ok t)
    (found : fields.get? name = some v) : Reading.text.Passes v :=
  ⟨t, passes_of_withDefault passed found⟩

theorem Reading.falsy_or_text (passes : Reading.text.Passes v) : v.isFalsy = true ∨ ∃ t, Checked.text v = .ok t := by
  obtain ⟨t, passed⟩ := passes
  unfold Checked.optional at passed
  split at passed
  · exact .inl rfl
  · obtain ⟨t, passed, -⟩ := Checked.map_eq_ok.1 passed
    exact .inr ⟨t, passed⟩

/-- What a task is made of passes the checks of its arguments. -/
theorem passes_of_task {rs : Requirements} {ps : List Parameter} {d : Definition} {place : Text} {t : Task}
    (stated : os.get? name = some v) (read : (name, r) ∈ taskReadings) (phase : checkPhase s c (os.value "phase") = .ok ())
    (required : requirements s os = .ok rs) (built : s.task (taskFields os d place) ps rs = .ok t) : r.Passes v := by
  obtain ⟨named, -, described, -, -, -, ⟨entries, configured, -⟩, dated, warned, -⟩ :=
    Task.ofParts_eq_ok_iff.1 (Site.ofParts_of_task built)
  dsimp only [Site.parts] at named described configured dated warned
  have found {field : Text} {w : Value} (is : (taskFields os d place).get? field = some w) (same : w = v) :
      (taskFields os d place).get? field = some v := is.trans (congrArg some same)
  have filled {w : Value} (truthy : os.truthy? name = some v) : (os.truthy? name).getD w = v := by
    rw [truthy, Option.getD_some]
  simp only [taskReadings, List.mem_cons, Prod.mk.injEq, List.not_mem_nil, or_false] at read
  rcases read with ⟨rfl, rfl⟩ | ⟨rfl, rfl⟩ | ⟨rfl, rfl⟩ | ⟨rfl, rfl⟩ | ⟨rfl, rfl⟩ | ⟨rfl, rfl⟩ | ⟨rfl, rfl⟩
  · refine (truthy?_of_get? stated).imp_right fun truthy => ?_
    have checked := passes_of_required named (found (Record.get?_ofPairs _ _) (filled truthy))
    obtain ⟨goal, passed, -⟩ := Checked.andThen_eq_ok.1 checked
    exact ⟨goal, passed⟩
  · refine (truthy?_of_get? stated).elim .inl fun truthy => ?_
    exact Reading.falsy_or_text (passes_of_optionalText described (found (Record.get?_ofPairs _ _) (filled truthy)))
  · rw [value_of_get? stated] at phase
    obtain null | ⟨known, -, same⟩ := allows_of_checkPhase phase
    · exact .inl null
    · exact .inr ⟨known, same⟩
  · exact passes_of_optionalText dated (found (Record.get?_ofPairs _ _) (value_of_get? stated))
  · exact passes_of_optionalText warned (found (Record.get?_ofPairs _ _) (value_of_get? stated))
  · unfold requirements at required
    split at required
    · next passed =>
      obtain ⟨-, -, -, -, resolution⟩ := Requirements.ofRecord_eq_ok_iff.1 passed
      refine passes_of_optionalText resolution ((Record.get?_ofPairs _ _).trans ?_)
      exact (Association.lookup_filter requirementNames.contains (by decide) os).trans stated
    · cases required
  · refine (truthy?_of_get? stated).imp_right fun truthy => ?_
    exact ⟨entries, passes_of_withDefault configured (found (Record.get?_ofPairs _ _) (filled truthy))⟩

/-- What a parameter is made of passes the checks of its arguments. -/
theorem passes_of_parameter (made : parameter s annotations e = .ok p) (given : Given e name v)
    (read : (name, r) ∈ parameterReadings) : r.Passes v := by
  rw [parameter] at made
  obtain ⟨os, options, made⟩ := bind_eq_ok.1 made
  have stated := get?_of_given options given
  split at made
  · cases made
  · next key truthy =>
    split at made
    · obtain ⟨-, typed, -, -, -, expressed, described, dated, warned⟩ :=
        Parameter.ofRecord_eq_ok_iff.1 (Site.parameter_eq_ok_iff.1 made)
      have found {field : Text} {w : Value} (is : (parameterFields annotations os key).get? field = some w) (same : w = v) :
          (parameterFields annotations os key).get? field = some v := is.trans (congrArg some same)
      simp only [parameterReadings, List.mem_cons, Prod.mk.injEq, List.not_mem_nil, or_false] at read
      rcases read with ⟨rfl, rfl⟩ | ⟨rfl, rfl⟩ | ⟨rfl, rfl⟩ | ⟨rfl, rfl⟩ | ⟨rfl, rfl⟩ | ⟨rfl, rfl⟩
      · have named : os.get? "name" = some (.text key) := (Option.filter_eq_some_iff.1 truthy).1
        cases stated.symm.trans named
        exact .inr ⟨key, rfl⟩
      · refine (truthy?_of_get? stated).imp_right fun type => ?_
        have filled : (os.truthy? "type").getD (.text (annotatedType annotations key)) = v := by
          rw [type, Option.getD_some]
        exact ⟨_, passes_of_withDefault typed (found (Record.get?_ofPairs _ _) filled)⟩
      · exact passes_of_optionalText expressed (found (Record.get?_ofPairs _ _) (value_of_get? stated))
      · exact passes_of_optionalText described (found (Record.get?_ofPairs _ _) (value_of_get? stated))
      · exact passes_of_optionalText dated (found (Record.get?_ofPairs _ _) (value_of_get? stated))
      · exact passes_of_optionalText warned (found (Record.get?_ofPairs _ _) (value_of_get? stated))
    · cases made
  · cases made

/-- A decorator of a candidate gives a value to an argument of a certain reading. -/
inductive Candidate.Takes (c : Conventions) (d : Candidate) : Reading → Value → Prop
  | task {e : Code.Expression} {name : Text} {r : Reading} {v : Value} (decorator : e ∈ d.definition.decorators)
    (marks : Marks e c.taskDecorator) (given : Given e name v) (read : (name, r) ∈ taskReadings) : Takes c d r v
  | parameter {e : Code.Expression} {name : Text} {r : Reading} {v : Value} (mark : e ∈ d.parameterMarks c)
    (given : Given e name v) (read : (name, r) ∈ parameterReadings) : Takes c d r v

/-- Of a candidate without fault, each argument passes its check. -/
theorem passes_of_task? {o : Option Task} (h : task? c m d.scope d.definition = .ok o) (takes : d.Takes c r v) :
    r.Passes v := by
  cases comes_of_task? h with
  | nothing unmarked bare =>
    cases takes with
    | task decorator marks => exact absurd unmarked (isTask_iff.1 ⟨_, decorator, marks⟩)
    | parameter mark =>
      rw [parameterMarks_eq, bare] at mark
      cases mark
  | task only options phase annotated made required built =>
    cases takes with
    | @task e _ _ _ decorator marks given read =>
      have sole : e ∈ d.definition.decoratedBy c.taskDecorator :=
        List.mem_filter.2 ⟨decorator, beq_iff_eq.2 (decoratorName?_eq_some_iff.2 marks)⟩
      rw [only] at sole
      cases List.mem_singleton.1 sole
      exact passes_of_task (get?_of_given options given) read phase required built
    | parameter mark given read =>
      rw [parameterMarks_eq] at mark
      obtain ⟨p, -, made⟩ := exists_of_forall₂ (forall₂_of_mapM made).flip mark
      exact passes_of_parameter made given read

/-- A file with an argument of a kind that it cannot have is reported, unless the argument slips through or there is
something in the file that stops the extraction of it. -/
theorem mistyped_reported {s : Sources} {root file : Path}
    (looked : Module.read? s strategy s.conventions.taskDecorator root file = .ok (some m))
    (member : d ∈ candidates [] m.statements) (takes : d.Takes s.conventions r v) (mistyped : r.Mistyped v)
    (caught : ¬ r.Slips v) :
    ∃ f, (fileTasks s root file).result = .error f ∧ (f.IsReported strategy file ∨ Escapes s root file f) := by
  cases result : (fileTasks s root file).result with
  | error f => exact ⟨f, rfl, (fileTasks_fails s root file).of_error result⟩
  | ok ts =>
    rw [fileTasks, Logged.result_bind, Logged.result_ofExcept, looked] at result
    obtain ⟨_, ⟨⟩, result⟩ := bind_eq_ok.1 result
    dsimp only at result
    rw [Logged.result_bind, Logged.result_ofExcept] at result
    obtain ⟨_, found, -⟩ := bind_eq_ok.1 result
    rw [tasksIn_eq] at found
    obtain ⟨found, each, -⟩ := map_eq_ok.1 found
    obtain ⟨o, -, made⟩ := exists_of_forall₂ (forall₂_of_mapM each).flip member
    exact absurd ((Reading.passes_iff mistyped).1 (passes_of_task? made takes)) caught

/-- The readings in which a value can stand in for what is there without the argument. -/
def Reading.FallsBack : Reading → Prop
  | fallback | mapping => True
  | strict | text => False

theorem taskReadings_fallsBack (read : (name, r) ∈ taskReadings) (falls : r.FallsBack) :
    name = "name" ∨ name = "description" ∨ name = "configuration" := by
  simp only [taskReadings, List.mem_cons, Prod.mk.injEq, List.not_mem_nil, or_false] at read
  rcases read with ⟨rfl, rfl⟩ | ⟨rfl, rfl⟩ | ⟨-, rfl⟩ | ⟨-, rfl⟩ | ⟨-, rfl⟩ | ⟨-, rfl⟩ | ⟨rfl, rfl⟩
  · exact .inl rfl
  · exact .inr (.inl rfl)
  · exact falls.elim
  · exact falls.elim
  · exact falls.elim
  · exact falls.elim
  · exact .inr (.inr rfl)

theorem parameterReadings_fallsBack (read : (name, r) ∈ parameterReadings) (falls : r.FallsBack) : name = "type" := by
  simp only [parameterReadings, List.mem_cons, Prod.mk.injEq, List.not_mem_nil, or_false] at read
  rcases read with ⟨-, rfl⟩ | ⟨rfl, -⟩ | ⟨-, rfl⟩ | ⟨-, rfl⟩ | ⟨-, rfl⟩ | ⟨-, rfl⟩
  · exact falls.elim
  · rfl
  all_goals exact falls.elim

section

variable (unset : os.get? name = none) (falsy : v.isFalsy = true)
include unset falsy

theorem taskFields_more (is : name = "name" ∨ name = "description" ∨ name = "configuration") (d : Definition)
    (place : Text) : taskFields (os ++ [(name, v)]) d place = taskFields os d place := by
  simp only [taskFields, truthy?_more unset falsy]
  rcases is with rfl | rfl | rfl <;> rw [value_more (by decide), value_more (by decide), value_more (by decide)]

theorem parameterFields_more (is : name = "type") (key : Text) :
    parameterFields annotations (os ++ [(name, v)]) key = parameterFields annotations os key := by
  subst is
  simp only [parameterFields, truthy?_more unset falsy]
  rw [get?_more (by decide), value_more (by decide), value_more (by decide), value_more (by decide),
    value_more (by decide), value_more (by decide)]

end

theorem requirements_more (other : name ∉ requirementNames) (s : Site) :
    requirements s (os ++ [(name, v)]) = requirements s os := by
  have dropped : requirementNames.contains name = false :=
    Bool.eq_false_iff.2 fun known => other (List.contains_iff_mem.1 known)
  have kept : (os ++ [(name, v)]).filter (fun o => requirementNames.contains o.1) =
      os.filter fun o => requirementNames.contains o.1 := by
    rw [List.filter_append, List.filter_singleton, dropped, cond_false, List.append_nil]
  unfold requirements
  rw [kept]

section

variable {scope : List Text} {d : Definition} {before after : List Code.Expression} {f a : Code.Expression}
  {positional : List Code.Expression} {keywords : List Code.Keyword}
  (fresh : ∀ w, ¬ Given (.call f positional keywords) name w) (literal : a.value = .ok v) (falsy : v.isFalsy = true)
include fresh literal falsy

theorem parameter_more (is : name = "type") :
    parameter s annotations (.call f positional (keywords ++ [.mk (some name) a])) =
      parameter s annotations (.call f positional keywords) := by
  have known : name ∈ parameterNames := by
    rw [is]
    decide
  have other : ofString "default" ≠ name := by
    rw [is]
    decide
  refine bind_options_more fresh known literal fun os unset => ?_
  simp only [truthy?_more unset falsy, parameterFields_more unset falsy is, value_more other]

theorem task?_more_of_task (bears : Bears f c.taskDecorator)
    (is : name = "name" ∨ name = "description" ∨ name = "configuration") :
    task? c m scope (d.within before after (.call f positional (keywords ++ [.mk (some name) a]))) =
      task? c m scope (d.within before after (.call f positional keywords)) := by
  have mark (keywords : List Code.Keyword) : decoratorName? (.call f positional keywords) = some c.taskDecorator :=
    decoratorName?_eq_some_iff.2 (.called bears positional keywords)
  have known : name ∈ taskNames := by
    rcases is with rfl | rfl | rfl <;> decide
  have phase : ofString "phase" ≠ name := by
    rcases is with rfl | rfl | rfl <;> decide
  have required : name ∉ requirementNames := by
    rcases is with rfl | rfl | rfl <;> decide
  have calls : (d.within before after (.call f positional (keywords ++ [.mk (some name) a]))).parameterCalls c =
      (d.within before after (.call f positional keywords)).parameterCalls c := by
    unfold Definition.parameterCalls
    split
    · rfl
    · next other => rw [bearing_within_other (mark _) (Ne.symm other), bearing_within_other (mark _) (Ne.symm other)]
  rw [task?, task?, ← Definition.parameterCalls, ← Definition.parameterCalls, calls, bearing_within (mark _),
    bearing_within (mark _)]
  -- only where the decorator is the one for the task is it read at all
  cases bearing c.taskDecorator before with
  | nil =>
    cases bearing c.taskDecorator after with
    | nil =>
      refine bind_options_more fresh known literal fun os unset => ?_
      simp only [value_more phase, requirements_more required, taskFields_more unset falsy is]
    | cons => rfl
  | cons _ more => cases more <;> rfl

theorem task?_more_of_parameter (apart : c.parameterDecorator ≠ c.taskDecorator) (bears : Bears f c.parameterDecorator)
    (is : name = "type") :
    task? c m scope (d.within before after (.call f positional (keywords ++ [.mk (some name) a]))) =
      task? c m scope (d.within before after (.call f positional keywords)) := by
  have mark (keywords : List Code.Keyword) : decoratorName? (.call f positional keywords) = some c.parameterDecorator :=
    decoratorName?_eq_some_iff.2 (.called bears positional keywords)
  rw [task?, task?, if_neg apart, if_neg apart, bearing_within (mark _), bearing_within (mark _),
    bearing_within_other (mark _) apart, bearing_within_other (mark _) apart]
  simp only [List.mapM_append, List.mapM_cons, parameter_more fresh literal falsy is]
  cases bearing c.parameterDecorator before <;> rfl

/-- A value that counts as nothing, of whatever kind, is passed over where there is something to fall back on: what
becomes of a class or function is the same without the argument. -/
theorem task?_passes_over (falls : r.FallsBack)
    (read : Bears f c.taskDecorator ∧ (name, r) ∈ taskReadings ∨
      c.parameterDecorator ≠ c.taskDecorator ∧ Bears f c.parameterDecorator ∧ (name, r) ∈ parameterReadings) :
    task? c m scope (d.within before after (.call f positional (keywords ++ [.mk (some name) a]))) =
      task? c m scope (d.within before after (.call f positional keywords)) := by
  obtain ⟨bears, read⟩ | ⟨apart, bears, read⟩ := read
  · exact task?_more_of_task fresh literal falsy bears (taskReadings_fallsBack read falls)
  · exact task?_more_of_parameter fresh literal falsy apart bears (parameterReadings_fallsBack read falls)

end

end Decorated

namespace NumberedTask

open SoleModule (root file)

/-- A class with a number where the name of its task goes. -/
def module (number : String) : List Char := ("@task(" ++ number ++ ")\nclass A: pass\n").toList

def call (n : Int) : Code.Expression := .call (.name "task") [.constant (.whole n) false] []

/-- The number that is given to the decorator of the only class. -/
def number? : List Code.Statement → Option Int
  | [.classDefinition _ _ [.call (.name w) [.constant (.whole n) false] []] _] => if w = "task" then some n else none
  | _ => none

theorem takes_of_number? {statements : List Code.Statement} {n : Int} (h : number? statements = some n) :
    ∃ d ∈ Decorated.candidates [] statements, d.Takes .default .fallback (.whole n) := by
  unfold number? at h
  split at h
  · next line name w n' body =>
    split at h
    · next task =>
      cases h
      subst task
      have marks : Decorated.Marks (call n) Conventions.default.taskDecorator := .called (.alone _) _ _
      have given : Decorated.Given (call n) "name" (.whole n) := .positional rfl
      rw [Decorated.candidates]
      exact ⟨_, List.mem_cons_self, .task (List.mem_singleton_self _) marks given List.mem_cons_self⟩
    · cases h
  · cases h

theorem mistyped (n : Int) : Decorated.Reading.fallback.Mistyped (.whole n) := ⟨nofun, nofun⟩

section

variable {number : String} {n : Int}
  (text : (Sources.readText (SoleModule.sources (module number)).fs Conventions.default.sourceEncoding file).toOption =
    some (module number))
  (marked : includes Conventions.default.taskDecorator (ofChars (module number)) = true)
  (given : (Code.parse (module number)).toOption.bind number? = some n)
include text marked given

/-- The file is looked at, and the number in it is given as a name. -/
theorem taken : ∃ statements, Code.parse (module number) = .ok statements ∧
    Module.read? (SoleModule.sources (module number)) Decorated.strategy Conventions.default.taskDecorator root file =
      .ok (some ⟨file, (moduleName? root file).getD [], statements⟩) ∧
    ∃ d ∈ Decorated.candidates [] statements, d.Takes .default .fallback (.whole n) := by
  obtain ⟨statements, parsed, given⟩ := Option.bind_eq_some_iff.1 given
  have parsed := toOption_eq_some.1 parsed
  exact ⟨statements, parsed,
    Module.read?_eq_some.2 ⟨_, toOption_eq_some.1 text, marked, statements, parsed, rfl⟩, takes_of_number? given⟩

end

/-- One is no name, and it is reported. -/
theorem one_reported : ∃ m d, Module.read? (SoleModule.sources (module "1")) Decorated.strategy
      Conventions.default.taskDecorator root file = .ok (some m) ∧
    d ∈ Decorated.candidates [] m.statements ∧ d.Takes .default .fallback (.whole 1) ∧
    Decorated.Reading.fallback.Mistyped (.whole 1) ∧
    ∃ f, (Decorated.fileTasks (SoleModule.sources (module "1")) root file).result = .error f ∧
      (f.IsReported Decorated.strategy file ∨ Decorated.Escapes (SoleModule.sources (module "1")) root file f) := by
  obtain ⟨statements, -, looked, d, member, takes⟩ :=
    @taken "1" 1 (by decide +kernel) (by decide +kernel) (by decide +kernel)
  have caught : ¬ Decorated.Reading.fallback.Slips (.whole 1) := by
    rintro (falsy | ⟨b, cs, same, -⟩)
    · cases falsy
    · cases same
  exact ⟨_, d, looked, member, takes, mistyped 1, Decorated.mistyped_reported looked member takes (mistyped 1) caught⟩

/-- Zero is no name either, but the task gets one of its own. -/
theorem zero_passed_over : ∃ m d, Module.read? (SoleModule.sources (module "0")) Decorated.strategy
      Conventions.default.taskDecorator root file = .ok (some m) ∧
    d ∈ Decorated.candidates [] m.statements ∧ d.Takes .default .fallback (.whole 0) ∧
    Decorated.Reading.fallback.Mistyped (.whole 0) ∧
    ∃ ts, (Decorated.fileTasks (SoleModule.sources (module "0")) root file).result = .ok ts ∧
      ts.map (·.name.text) = (["a"] : List Text) := by
  have text : (Sources.readText (SoleModule.sources (module "0")).fs Conventions.default.sourceEncoding file).toOption =
      some (module "0") := by
    decide +kernel
  have marked : includes Conventions.default.taskDecorator (ofChars (module "0")) = true := by decide +kernel
  obtain ⟨statements, parsed, looked, d, member, takes⟩ := taken text marked (n := 0) (by decide +kernel)
  have shown : ((Code.parse (module "0")).toOption.bind fun statements =>
      Decorated.tasksWithin 2 .default ⟨file, "a", statements⟩).map (·.map (·.name.text)) =
        some (["a"] : List Text) := by
    decide +kernel
  obtain ⟨ts, made, named⟩ := Option.map_eq_some_iff.1 shown
  rw [parsed] at made
  refine ⟨_, d, looked, member, takes, mistyped 0, ts, ?_, named⟩
  rw [Decorated.result_fileTasks (toOption_eq_some.1 text) marked parsed, SoleModule.named]
  exact Decorated.tasksIn_of_within made

end NumberedTask

end TaskCatalog
