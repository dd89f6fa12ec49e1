import TaskCatalog.Proofs.Declaration
import TaskCatalog.Proofs.Outcome
import TaskCatalog.Sources.Decorated

/-!
Task declarations as decorators carry them: one call for the task and one for each parameter, with
literal keyword arguments. The decorated definition comes to the task that is declared.
-/

namespace TaskCatalog.Decorated

open Text

/-- A keyword argument that is a literal, and the option it gives. -/
inductive Gives : Code.Keyword → Text × Value → Prop
  | mk {name : Text} {e : Code.Expression} {v : Value} (literal : e.value = .ok v) :
    Gives (.mk (some name) e) (name, v)

/-- A call with keyword arguments only, each of them an option. -/
inductive Passes : Code.Expression → Options → Prop
  | call {f : Code.Expression} {keywords : List Code.Keyword} {os : Options}
    (given : List.Forall₂ Gives keywords os) : Passes (.call f [] keywords) os

/-- Options of known names, each of them given once. -/
structure Options.Known (os : Options) (names : List Text) : Prop where
  allowed : ∀ o ∈ os, o.1 ∈ names
  distinct : (os.map (·.1)).Nodup

structure Options.CarryParameter (os : Options) (p : ParameterDeclaration) : Prop
    extends os.Known parameterNames where
  name : os.get? "name" = some (.text p.name)
  type : Value.States (os.get? "type") p.type
  required : Value.Sets (os.get? "required") false p.required
  readOnly : Value.Sets (os.get? "readonly") false p.readOnly
  defaultValue : Value.States (os.get? "default") p.defaultValue
  expression : Value.States (os.get? "expression") p.expression
  description : Value.States (os.get? "description") p.description
  since : Value.States (os.get? "since") p.since
  deprecated : Value.States (os.get? "deprecated") p.deprecated

structure Options.CarryRequirements (os : Options) (r : Requirements) : Prop where
  requiresProject : Value.Sets (os.get? "requires_project") true r.requiresProject
  requiresOnline : Value.Sets (os.get? "requires_online") false r.requiresOnline
  aggregator : Value.Sets (os.get? "aggregator") false r.aggregator
  threadSafe : Value.Sets (os.get? "thread_safe") false r.threadSafe
  dependencyResolution : Value.States (os.get? "dependency_resolution") r.dependencyResolution

structure Options.CarryTask (os : Options) (d : TaskDeclaration) : Prop extends os.Known taskNames where
  name : os.get? "name" = some (.text d.name.text)
  phase : Value.States (os.get? "phase") d.phase
  requirements : os.CarryRequirements d.requirements
  description : Value.States (os.get? "description") d.description
  since : Value.States (os.get? "since") d.since
  deprecated : Value.States (os.get? "deprecated") d.deprecated
  unconfigured : os.get? "configuration" = none

def CarriesParameter (e : Code.Expression) (p : ParameterDeclaration) : Prop :=
  ∃ os, Passes e os ∧ os.CarryParameter p

/-- A definition that states a task in its decorators and nowhere else. -/
structure Carries (c : Conventions) (d : Definition) (t : TaskDeclaration) : Prop where
  apart : c.parameterDecorator ≠ c.taskDecorator
  task : ∃ e os, d.decoratedBy c.taskDecorator = [e] ∧ Passes e os ∧ os.CarryTask t
  parameters : List.Forall₂ CarriesParameter (d.decoratedBy c.parameterDecorator) t.parameters
  undocumented : d.documentation = none

/-- Annotations that state no type where the declaration states none. -/
def Unannotated (d : Definition) (t : TaskDeclaration) : Prop :=
  ∃ as : Annotations, d.annotations = .ok as ∧ ∀ p ∈ t.parameters, p.type = none → p.name.val ∉ as.map (·.1)

variable {s : Site} {c : Conventions} {os : Options} {allowed : List Text} {name : Text} {e : Code.Expression}

theorem addKeywords_gives {done : Options} {keywords : List Code.Keyword} (given : List.Forall₂ Gives keywords os)
    (known : ∀ o ∈ os, o.1 ∈ allowed) (distinct : ((done ++ os).map (·.1)).Nodup) :
    addKeywords s allowed done keywords = .ok (done ++ os) := by
  induction given generalizing done with
  | nil => rw [List.append_nil]; rfl
  | @cons keyword option keywords os first _ ih =>
    obtain ⟨literal⟩ := first
    rename_i name e v
    have fresh : done.get? name = none := by
      rw [List.map_append, List.map_cons, List.nodup_append] at distinct
      exact Association.lookup_of_not_mem fun hm => distinct.2.2 _ hm _ List.mem_cons_self rfl
    have member : allowed.contains name = true := List.contains_iff_mem.2 (known _ List.mem_cons_self)
    have next := @ih (done ++ [(name, v)]) (fun o ho => known o (List.mem_cons_of_mem _ ho))
      (by simpa using distinct)
    rw [List.append_assoc, List.singleton_append] at next
    rw [addKeywords, fresh, member, Decorated.literal, literal]
    exact next

theorem options_of_passes (passed : Passes e os) (known : os.Known allowed) :
    options s allowed e = .ok os := by
  obtain ⟨given⟩ := passed
  show addKeywords s allowed [] _ = .ok ([] ++ os)
  exact addKeywords_gives given known.allowed known.distinct

theorem Options.truthy?_of_states {t : Option Text} (h : Value.States (os.get? name) t) (stated : t ≠ some []) :
    os.truthy? name = t.map .text := by
  rw [truthy?]
  cases found : os.get? name with
  | none =>
    rw [found] at h
    cases t with
    | none => rfl
    | some t => cases h
  | some v =>
    rw [found] at h
    have same : v = Value.ofText? t := h
    rw [same]
    cases t with
    | none => rfl
    | some t =>
      have filled : t.isEmpty = false := by simpa using stated
      simp [Value.ofText?, Value.isFalsy, filled]

theorem Options.truthy?_of_sets {b : Bool} (h : Value.Sets (os.get? name) false b) :
    (os.truthy? name).isNone = !b := by
  rw [truthy?]
  cases found : os.get? name with
  | none =>
    rw [found] at h
    cases h
    rfl
  | some v =>
    rw [found] at h
    have same : v = .truth b := h
    rw [same]
    cases b <;> rfl

theorem storedText_ofText? (t : Option Text) : (Value.ofText? t).storedText = t := by
  cases t <;> rfl

theorem isSpelled_ofText? (t : Option Text) : (Value.ofText? t).isSpelled = true := by
  cases t <;> rfl

theorem parameterFields_of_carried {annotations : Annotations} {p : ParameterDeclaration}
    (carried : os.CarryParameter p) (typed : p.type ≠ some [])
    (annotated : p.type = none → p.name.val ∉ annotations.map (·.1)) :
    parameterFields annotations os p.name = Record.ofPairs p.fields := by
  have type : (os.truthy? "type").getD (.text (annotatedType annotations p.name)) = .text (p.type.getD "str") := by
    rw [Options.truthy?_of_states carried.type typed]
    cases type : p.type with
    | none =>
      have absent : p.name.val ∉ annotations.reverse.map (·.1) := by simpa using annotated type
      rw [annotatedType, Association.lookup_of_not_mem absent]
      rfl
    | some t => rfl
  have default : (os.value "default").storedText = p.defaultValue := by
    rw [Options.value, carried.defaultValue, storedText_ofText?]
  have required : (os.get? "required").getD (.truth false) = .truth p.required := carried.required
  have expression : os.value "expression" = Value.ofText? p.expression := carried.expression
  have description : os.value "description" = Value.ofText? p.description := carried.description
  have since : os.value "since" = Value.ofText? p.since := carried.since
  have deprecated : os.value "deprecated" = Value.ofText? p.deprecated := carried.deprecated
  rw [parameterFields, type, required, Options.truthy?_of_sets carried.readOnly, default, expression, description,
    since, deprecated]
  rfl

theorem parameter_of_carried {annotations : Annotations} {p : ParameterDeclaration} (carried : CarriesParameter e p)
    (portable : p.Portable) (readable : p.name.val.any Letter.isHalf = false)
    (annotated : p.type = none → p.name.val ∉ annotations.map (·.1)) :
    parameter s annotations e = .ok p.parameter := by
  obtain ⟨os, passed, carried⟩ := carried
  have name : os.truthy? "name" = some (.text p.name) :=
    Options.truthy?_of_states (t := some p.name) (by rw [carried.name]; rfl) fun empty =>
      p.name.property (Option.some.inj empty)
  have fields := parameterFields_of_carried carried portable.type_stated annotated
  have spelled : (os.value "default").isSpelled = true := by
    rw [Options.value, carried.defaultValue, isSpelled_ofText?]
  rw [parameter, options_of_passes passed carried.toKnown]
  simp only [name, spelled, if_true, fields, Site.parameter_fields s p readable, bind, Except.bind]

theorem requirements_of_carried {r : Requirements} (carried : os.CarryRequirements r) :
    requirements s os = .ok r := by
  have kept (name : Text) (h : requirementNames.contains name = true) :
      (Record.ofPairs (os.filter fun o => requirementNames.contains o.1)).get? name = os.get? name :=
    (Record.get?_ofPairs _ name).trans (Association.lookup_filter _ h os)
  have checked : Requirements.ofRecord (Record.ofPairs (os.filter fun o => requirementNames.contains o.1))
      = .ok r := by
    rw [Requirements.ofRecord,
      Record.truth_of_sets (by rw [kept _ (by decide)]; exact carried.requiresProject),
      Record.truth_of_sets (by rw [kept _ (by decide)]; exact carried.requiresOnline),
      Record.truth_of_sets (by rw [kept _ (by decide)]; exact carried.aggregator),
      Record.truth_of_sets (by rw [kept _ (by decide)]; exact carried.threadSafe),
      Record.optionalText_of_states (by rw [kept _ (by decide)]; exact carried.dependencyResolution)]
    rfl
  rw [requirements]
  split
  · rename_i r' found
    cases found.symm.trans checked
    rfl
  · rename_i problems found
    cases found.symm.trans checked

variable {d : Definition} {t : TaskDeclaration} {m : Module} {scope : List Text}

def implementation (m : Module) (scope : List Text) (d : Definition) : { t : Text // t ≠ [] } :=
  ⟨m.name ++ ":" ++ join "." (scope ++ [d.name]), by simp [ofString, ofChars]⟩

theorem checkPhase_of_known (h : ∀ phase ∈ t.phase, c.isKnownPhase phase = true) :
    checkPhase s c (Value.ofText? t.phase) = .ok () := by
  cases phase : t.phase with
  | none => rfl
  | some known =>
    have allowed := h known phase
    simp [Value.ofText?, checkPhase, allowed]

theorem taskFields_declare (carried : os.CarryTask t) (described : t.description ≠ some [])
    (undocumented : d.documentation = none) (implementation : Text) :
    (taskFields os d implementation).Declares t implementation := by
  have name : os.truthy? "name" = some (.text t.name.text) :=
    Options.truthy?_of_states (t := some t.name.text) (by rw [carried.name]; rfl) fun empty =>
      t.name.ne_nil (Option.some.inj empty)
  have description : (os.truthy? "description").getD (Value.ofText? (d.documentation.bind firstParagraph))
      = Value.ofText? t.description := by
    rw [Options.truthy?_of_states carried.description described, undocumented]
    cases t.description <;> rfl
  have configuration : os.truthy? "configuration" = none := by
    rw [Options.truthy?, carried.unconfigured]
    rfl
  have phase : os.value "phase" = Value.ofText? t.phase := carried.phase
  have since : os.value "since" = Value.ofText? t.since := carried.since
  have deprecated : os.value "deprecated" = Value.ofText? t.deprecated := carried.deprecated
  rw [taskFields, name, description, phase, configuration, since, deprecated]
  refine Record.declares_ofPairs ?_ ?_ ?_ <;> simp [ofString_inj]

theorem task?_of_carries (carried : Carries c d t) (unannotated : Unannotated d t) (portable : t.Portable)
    (named : t.Readable) (known : ∀ phase ∈ t.phase, c.isKnownPhase phase = true)
    (readable : (implementation m scope d).val.any Letter.isHalf = false) :
    task? c m scope d = .ok (some (t.task (implementation m scope d) strategy)) := by
  obtain ⟨e, os, declared, passed, options⟩ := carried.task
  obtain ⟨as, annotated, unannotated⟩ := unannotated
  have parameters : (d.decoratedBy c.parameterDecorator).mapM
      (parameter (Site.ofLine strategy m.file d.line) as) = .ok (t.parameters.map ParameterDeclaration.parameter) := by
    refine Outcome.mapM_of_forall₂ (List.forall₂_map_right_iff.2 ?_)
    refine Outcome.forall₂_imp_of_mem carried.parameters fun e p hp carried => ?_
    exact parameter_of_carried carried (portable.parameters p hp) (named p hp) (unannotated p hp)
  have phase : os.value "phase" = Value.ofText? t.phase := options.phase
  have fields := taskFields_declare options portable.description_stated carried.undocumented
    (implementation m scope d)
  have task := Site.task_of_declares (Site.ofLine strategy m.file d.line) fields readable
  rw [task?, if_neg carried.apart, declared]
  simp only [options_of_passes passed options.toKnown, phase, checkPhase_of_known known, annotated, parameters,
    requirements_of_carried options.requirements, bind, Except.bind]
  exact congrArg (fun made : Except Failure Task => made.bind fun t => .ok (some t)) task

end TaskCatalog.Decorated
