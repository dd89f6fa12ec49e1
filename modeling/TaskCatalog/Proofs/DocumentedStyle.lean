import TaskCatalog.Proofs.Declaration
import TaskCatalog.Proofs.Outcome
import TaskCatalog.Sources.Documented

/-!
Task declarations as documentation texts carry them: the class's own by the tags of the task, and for
each parameter an attribute with a documentation of its own. The class comes to the task that is declared.
-/

namespace TaskCatalog.Documented

open Text

/-- What the value of a flag's tag says, if there is one: a word for yes or no, or yes by its name alone. -/
inductive Says (default : Bool) : Option Text → Bool → Prop
  | absent : Says default none default
  | bare : Says default (some []) true
  | word {v : Text} {b : Bool} (spelled : lower v = if b then "true" else "false") (unbroken : Unbroken v)
    (trimmed : Trimmed v) : Says default (some v) b

/-- Tags of known names, each of them given once. -/
structure Known (tags : Tags) (names : List Text) : Prop where
  allowed : ∀ tag ∈ tags, tag.1 ∈ names
  distinct : (tags.map (·.1)).Nodup

structure RequirementTags (tags : Tags) (r : Requirements) : Prop where
  requiresProject : Says true (tags.get? "requiresProject") r.requiresProject
  requiresOnline : Says false (tags.get? "requiresOnline") r.requiresOnline
  aggregator : Says false (tags.get? "aggregator") r.aggregator
  threadSafe : Says false (tags.get? "threadSafe") r.threadSafe
  dependencyResolution : tags.get? "requiresDependencyResolution" = r.dependencyResolution

structure TaskTags (tags : Tags) (t : TaskDeclaration) : Prop extends Known tags taskTags where
  name : tags.get? goalTag = some t.name.text
  phase : tags.get? "phase" = t.phase
  requirements : RequirementTags tags t.requirements
  since : tags.get? "since" = t.since
  deprecated : tags.get? "deprecated" = t.deprecated

structure ParameterAttributes (attributes : Tags) (p : ParameterDeclaration) : Prop
    extends Known attributes attributeNames where
  name : attributes.get? "name" = some p.name.val
  expression : attributes.get? "expression" = p.expression
  defaultValue : attributes.get? "default-value" = p.defaultValue

structure ParameterTags (tags : Tags) (p : ParameterDeclaration) : Prop extends Known tags parameterTags where
  attributes : ∃ attributes, ParameterAttributes attributes p
    ∧ tags.get? parameterTag = some (Attributes.written attributes)
  type : tags.get? "type" = p.type
  required : Says false (tags.get? "required") p.required
  readOnly : Says false (tags.get? "readonly") p.readOnly
  since : tags.get? "since" = p.since
  deprecated : tags.get? "deprecated" = p.deprecated

/-- A text literal that is a description and tags once its margin is gone. -/
def Documents (raw : Text) (description : Option Text) (tags : Tags) : Prop :=
  ∃ gap, dedent raw = documentation description gap tags

/-- A statement that sets no attribute with the tag of a parameter in the text after it. -/
inductive Unrelated (st next : Code.Statement) : Prop
  | inert (none : attribute? st = none)
  | untagged {line : Nat} {n : Text} {hint : Option Code.Expression} (set : attribute? st = some (line, n, hint))
    (printed : ∀ e ∈ hint, e.text?.isSome)
    (silent : ∀ raw ∈ Module.textOf? next, Tags.occurs parameterTag (dedent raw) = false)

/-- The statements of a class body and the parameters among them: attributes without an annotation, each
followed by its documentation. -/
inductive Members : List Code.Statement → List ParameterDeclaration → Prop
  | nil : Members [] []
  | other {st : Code.Statement} {rest : List Code.Statement} {ps : List ParameterDeclaration}
    (unrelated : ∀ next ∈ rest.head?, Unrelated st next) (more : Members rest ps) : Members (st :: rest) ps
  | parameter {line : Nat} {n raw : Text} {marked : Bool} {rest : List Code.Statement} {p : ParameterDeclaration}
    {ps : List ParameterDeclaration} {tags : Tags} (carried : ParameterTags tags p)
    (documented : Documents raw p.description tags) (more : Members rest ps) :
    Members (.assignment line [.name n] :: .expression (.constant (.text raw) marked) :: rest) (p :: ps)

/-- A class that states a task in its documentation and in that of its attributes. -/
structure Carries (d : Definition) (t : TaskDeclaration) : Prop where
  task : ∃ raw tags, d.body.head?.bind Module.textOf? = some raw ∧ Documents raw t.description tags ∧ TaskTags tags t
  members : Members d.body t.parameters

variable {s : Site} {tags attributes : Tags} {names : List Text} {name : Text}

theorem flag_of_said {default b : Bool} (h : Says default (tags.get? name) b) :
    tags.flag s name default = .ok b := by
  rw [Tags.flag]
  cases found : tags.get? name with
  | none =>
    rw [found] at h
    cases h
    rfl
  | some v =>
    rw [found] at h
    cases h with
    | bare => rfl
    | word spelled =>
      simp only [spelled]
      cases b <;> rfl

theorem spelled_of_said {default b : Bool} {v : Text} (h : Says default (tags.get? name) b)
    (found : tags.get? name = some v) : Unbroken v ∧ Trimmed v := by
  rw [found] at h
  cases h with
  | bare => exact ⟨nofun, nofun, nofun⟩
  | word _ unbroken trimmed => exact ⟨unbroken, trimmed⟩

theorem writable_of_known (known : Known tags names) (named : ∀ name ∈ names, Tags.isTagName name = true)
    (spelled : ∀ name ∈ names, ∀ v, tags.get? name = some v → Unbroken v ∧ Trimmed v) : tags.Writable := by
  have value : ∀ tag ∈ tags, Unbroken tag.2 ∧ Trimmed tag.2 := fun tag ht =>
    spelled tag.1 (known.allowed tag ht) tag.2 (Association.lookup_of_mem known.distinct ht)
  exact ⟨fun tag ht => named tag.1 (known.allowed tag ht), fun tag ht => (value tag ht).1,
    fun tag ht => (value tag ht).2, known.distinct⟩

theorem isTagName_taskTags : ∀ name ∈ taskTags, Tags.isTagName name = true := by decide

theorem isTagName_parameterTags : ∀ name ∈ parameterTags, Tags.isTagName name = true := by decide

theorem isTagName_attributeNames : ∀ name ∈ attributeNames, Tags.isTagName name = true := by decide

section Writable

variable {t : TaskDeclaration} {p : ParameterDeclaration} {u : Option Text} {v : Text}

theorem spelled_of_portable (portable : ∀ x ∈ u, x.Portable) (stated : tags.get? name = u)
    (found : tags.get? name = some v) : Unbroken v ∧ Trimmed v :=
  have portable := portable v (stated.symm.trans found)
  ⟨portable.unbroken, portable.trimmed⟩

theorem GoalName.solid (n : GoalName) : ∀ l ∈ n.text, isBlank l = false := by
  have valid := n.valid
  rw [GoalName.fault?] at valid
  split at valid
  · cases valid
  · split at valid
    · cases valid
    · rename_i solid
      simpa using solid

theorem TaskTags.writable (h : TaskTags tags t) (portable : t.Portable) : tags.Writable := by
  refine writable_of_known h.toKnown isTagName_taskTags ?_
  have texts {u : Option Text} (hu : u ∈ t.texts) : ∀ x ∈ u, x.Portable := portable.texts u hu
  have phase := texts (u := t.phase) (by simp [TaskDeclaration.texts])
  have resolution := texts (u := t.requirements.dependencyResolution) (by simp [TaskDeclaration.texts])
  have since := texts (u := t.since) (by simp [TaskDeclaration.texts])
  have deprecated := texts (u := t.deprecated) (by simp [TaskDeclaration.texts])
  have requirements := h.requirements
  simp only [taskTags, List.forall_mem_cons, List.not_mem_nil, false_implies, implies_true, and_true]
  refine ⟨fun v found => ?_, fun _ => spelled_of_portable phase h.phase,
    fun _ => spelled_of_said requirements.requiresProject, fun _ => spelled_of_said requirements.requiresOnline,
    fun _ => spelled_of_said requirements.aggregator, fun _ => spelled_of_said requirements.threadSafe,
    fun _ => spelled_of_portable resolution requirements.dependencyResolution,
    fun _ => spelled_of_portable since h.since, fun _ => spelled_of_portable deprecated h.deprecated⟩
  cases found.symm.trans h.name
  exact ⟨unbroken_of_solid (GoalName.solid t.name), trimmed_of_solid (GoalName.solid t.name)⟩

theorem ParameterAttributes.writable (h : ParameterAttributes attributes p) (portable : p.Portable) :
    Attributes.Writable attributes ∧ ∀ a ∈ attributes, Unbroken a.2 := by
  have texts {u : Option Text} (hu : u ∈ p.texts) : ∀ x ∈ u, x.Portable := portable.texts u hu
  have name := texts (u := some p.name.val) (by simp [ParameterDeclaration.texts])
  have expression := texts (u := p.expression) (by simp [ParameterDeclaration.texts])
  have default := texts (u := p.defaultValue) (by simp [ParameterDeclaration.texts])
  have each : ∀ name ∈ attributeNames, ∀ v, attributes.get? name = some v → v.Portable := by
    simp only [attributeNames, List.forall_mem_cons, List.not_mem_nil, false_implies, implies_true, and_true]
    exact ⟨fun v found => name v (h.name.symm.trans found), fun v found => expression v (h.expression.symm.trans found),
      fun v found => default v (h.defaultValue.symm.trans found)⟩
  have value : ∀ a ∈ attributes, a.2.Portable := fun a ha =>
    each a.1 (h.allowed a ha) a.2 (Association.lookup_of_mem h.distinct ha)
  exact ⟨⟨fun a ha => isTagName_attributeNames a.1 (h.allowed a ha), fun a ha => (value a ha).unquoted, h.distinct⟩,
    fun a ha => (value a ha).unbroken⟩

theorem ParameterTags.writable (h : ParameterTags tags p) (portable : p.Portable) : tags.Writable := by
  refine writable_of_known h.toKnown isTagName_parameterTags ?_
  obtain ⟨attributes, carried, written⟩ := h.attributes
  obtain ⟨writable, unbroken⟩ := carried.writable portable
  have texts {u : Option Text} (hu : u ∈ p.texts) : ∀ x ∈ u, x.Portable := portable.texts u hu
  have type := texts (u := p.type) (by simp [ParameterDeclaration.texts])
  have since := texts (u := p.since) (by simp [ParameterDeclaration.texts])
  have deprecated := texts (u := p.deprecated) (by simp [ParameterDeclaration.texts])
  simp only [parameterTags, List.forall_mem_cons, List.not_mem_nil, false_implies, implies_true, and_true]
  refine ⟨fun v found => ?_, fun _ => spelled_of_said h.required, fun _ => spelled_of_said h.readOnly,
    fun _ => spelled_of_portable type h.type, fun _ => spelled_of_portable since h.since,
    fun _ => spelled_of_portable deprecated h.deprecated⟩
  cases found.symm.trans written
  exact ⟨Attributes.written_unbroken writable unbroken, Attributes.written_trimmed writable⟩

end Writable

variable {t : TaskDeclaration} {p : ParameterDeclaration} {raw : Text}

theorem describing {u : Option Text} (portable : ∀ x ∈ u, x.Portable)
    (untagged : ∀ x ∈ u, x.head? ≠ some (.scalar '@')) : ∀ x ∈ u, x.Describing := fun x hx =>
  ⟨(portable x hx).stated, (portable x hx).unbroken, (portable x hx).trimmed, untagged x hx⟩

theorem stated_of_get? {v : Text} (found : tags.get? name = some v) : tags ≠ [] := by
  rintro rfl
  cases found

theorem orElse_of_stated {u : Option Text} (stated : u ≠ some []) (other : Text) :
    orElse u other = u.getD other := by
  cases u with
  | none => rfl
  | some v =>
    have filled : v ≠ [] := fun empty => stated (congrArg some empty)
    simp [orElse, Option.filter, filled]

theorem parameter_of_carried (carried : ParameterTags tags p) (portable : p.Portable)
    (readable : p.name.val.any Letter.isHalf = false) (gap : Nat) (n : Text) :
    parameter s n none (documentation p.description gap tags) = .ok p.parameter := by
  obtain ⟨attributes, attributed, written⟩ := carried.attributes
  have described := describing (portable.texts p.description (by simp [ParameterDeclaration.texts])) portable.untagged
  have writable := carried.writable portable
  have tagged := stated_of_get? written
  have read : Tags.ofText s (documentation p.description gap tags) = .ok tags :=
    tags_ofText_documentation described writable tagged
  have allowed : tags.unknown parameterTags = [] := Tags.unknown_eq_nil carried.allowed
  have listed : Attributes.ofText s attributeNames ((tags.get? parameterTag).getD []) = .ok attributes.reverse := by
    rw [written]
    exact Attributes.ofText_written (attributed.writable portable).1 attributed.allowed
  have got (name : Text) : Tags.get? attributes.reverse name = attributes.get? name :=
    Association.lookup_reverse attributed.distinct name
  have name : orElse (attributes.get? "name") n = p.name.val := by
    rw [attributed.name, orElse_of_stated fun empty => p.name.property (Option.some.inj empty)]
    rfl
  have type : orElse (tags.get? "type") (orElse none "str") = p.type.getD "str" := by
    rw [carried.type, orElse_of_stated portable.type_stated]
    rfl
  have fields : Record.ofPairs [
      ("name", .text (orElse (Tags.get? attributes.reverse "name") n)),
      ("type", .text (orElse (tags.get? "type") (orElse none "str"))),
      ("required", .truth p.required), ("editable", .truth !p.readOnly),
      ("default_value", Value.ofText? (Tags.get? attributes.reverse "default-value")),
      ("expression", Value.ofText? (Tags.get? attributes.reverse "expression")),
      ("description", Value.ofText? (firstParagraph (documentation p.description gap tags))),
      ("since", Value.ofText? (tags.get? "since")),
      ("deprecated", Value.ofText? (tags.get? "deprecated"))] = Record.ofPairs p.fields := by
    rw [got, got, got, name, type, attributed.defaultValue, attributed.expression,
      firstParagraph_documentation described writable tagged, carried.since, carried.deprecated]
    rfl
  have checked := Site.parameter_fields s p readable
  rw [← fields] at checked
  rw [parameter, read]
  simp only [allowed, listed, flag_of_said carried.required, flag_of_said carried.readOnly, bind, Except.bind]
  exact checked

section Members

variable {file : Path} {st next : Code.Statement} {rest body : List Code.Statement} {ps : List ParameterDeclaration}

theorem parameter?_unrelated (h : Unrelated st next) : parameter? file st next = .ok none := by
  cases h with
  | inert none => rw [parameter?, none]
  | @untagged line n hint some printed silent =>
    have unhinted : ∃ t, hint.mapM Module.annotationText = .ok t := by
      cases hint with
      | none => exact ⟨none, rfl⟩
      | some e =>
        obtain ⟨t, ht⟩ := Option.isSome_iff_exists.1 (printed e rfl)
        refine ⟨t, ?_⟩
        rw [Option.mapM_some, Module.annotationText, ht]
        rfl
    obtain ⟨t, ht⟩ := unhinted
    rw [parameter?, some]
    simp only [ht, bind, Except.bind]
    cases text : Module.textOf? next with
    | none => rfl
    | some raw =>
      rw [Option.map_some]
      simp only [silent raw text, Bool.false_eq_true, if_false]
      rfl

theorem parameter?_documented (carried : ParameterTags tags p) (documented : Documents raw p.description tags)
    (portable : p.Portable) (readable : p.name.val.any Letter.isHalf = false) (line : Nat) (n : Text) (marked : Bool) :
    parameter? file (.assignment line [.name n]) (.expression (.constant (.text raw) marked))
      = .ok (some p.parameter) := by
  obtain ⟨gap, cleaned⟩ := documented
  obtain ⟨attributes, -, written⟩ := carried.attributes
  have tagged : Tags.occurs parameterTag (documentation p.description gap tags) = true :=
    occurs_documentation (Association.mem_of_lookup written)
  have read := parameter_of_carried (s := Site.ofLine strategy file line) carried portable readable gap n
  rw [parameter?, attribute?, Module.textOf?, Option.map_some, cleaned]
  simp only [Option.mapM_none, bind, Except.bind, pure, Except.pure, tagged, if_true, read]
  rfl

theorem parameters_cons {first : Option Parameter} {found : List Parameter}
    (head : ∀ next ∈ rest.head?, parameter? file st next = .ok first) (lone : rest = [] → first = none)
    (more : parameters file rest = .ok found) : parameters file (st :: rest) = .ok (first.toList ++ found) := by
  cases rest with
  | nil =>
    cases more
    rw [lone rfl]
    rfl
  | cons next rest =>
    obtain ⟨later, hlater, same⟩ := Outcome.bind_eq_ok.1 more
    cases same
    rw [List.drop_one, List.tail_cons] at hlater
    rw [parameters, List.drop_one, List.tail_cons, List.zip_cons_cons, List.mapM_cons]
    simp only [head next rfl, hlater, bind, Except.bind, pure, Except.pure]
    cases first <;> rfl

theorem parameters_of_members (members : Members body ps) (portable : ∀ p ∈ ps, p.Portable)
    (readable : ∀ p ∈ ps, p.name.val.any Letter.isHalf = false) :
    parameters file body = .ok (ps.map ParameterDeclaration.parameter) := by
  induction members with
  | nil => rfl
  | other unrelated _ ih =>
    exact parameters_cons (fun next hnext => parameter?_unrelated (unrelated next hnext)) (fun _ => rfl)
      (ih portable readable)
  | @parameter _ _ raw marked _ p _ _ carried documented _ ih =>
    have own := portable p List.mem_cons_self
    have later := ih (fun p hp => portable p (List.mem_cons_of_mem _ hp))
      fun p hp => readable p (List.mem_cons_of_mem _ hp)
    have inert : attribute? (.expression (.constant (.text raw) marked)) = none := rfl
    have text := parameters_cons (fun next _ => parameter?_unrelated (.inert inert)) (fun _ => rfl) later
    refine @parameters_cons _ _ _ (some p.parameter) _ (fun next hnext => ?_) (fun h => nomatch h) text
    cases hnext
    exact parameter?_documented carried documented own (readable p List.mem_cons_self) _ _ _

end Members

variable {c : Conventions} {m : Module} {d : Definition}

def implementation (m : Module) (d : Definition) : { t : Text // t ≠ [] } :=
  ⟨m.name ++ ":" ++ d.name, by simp [ofString, ofChars]⟩

theorem requirements_of_tags {r : Requirements} (h : RequirementTags tags r)
    (resolved : r.dependencyResolution ≠ some []) : requirements s tags = .ok r := by
  have resolution : r.dependencyResolution.filter (· ≠ []) = r.dependencyResolution := by
    cases stated : r.dependencyResolution with
    | none => rfl
    | some v =>
      have filled : v ≠ [] := fun empty => resolved (by rw [stated, empty])
      simp [Option.filter, filled]
  rw [requirements]
  simp only [flag_of_said h.requiresProject, flag_of_said h.requiresOnline, flag_of_said h.aggregator,
    flag_of_said h.threadSafe, h.dependencyResolution, resolution, bind, Except.bind]
  rfl

theorem checkPhase_of_known (h : ∀ phase ∈ t.phase, c.isKnownPhase phase = true) :
    checkPhase s c t.phase = .ok () := by
  cases phase : t.phase with
  | none => rfl
  | some known =>
    have allowed := h known phase
    simp [checkPhase, allowed]

theorem task_of_carried (carried : TaskTags tags t) (members : Members d.body t.parameters) (portable : t.Portable)
    (named : t.Readable) (known : ∀ phase ∈ t.phase, c.isKnownPhase phase = true)
    (readable : (implementation m d).val.any Letter.isHalf = false) (gap : Nat) :
    task c m d (documentation t.description gap tags) = .ok (t.task (implementation m d) strategy) := by
  have described := describing (portable.texts t.description (by simp [TaskDeclaration.texts])) portable.untagged
  have writable := carried.writable portable
  have tagged := stated_of_get? carried.name
  have read : Tags.ofText (Site.ofLine strategy m.file d.line) (documentation t.description gap tags) = .ok tags :=
    tags_ofText_documentation described writable tagged
  have allowed : tags.unknown taskTags = [] := Tags.unknown_eq_nil carried.allowed
  have goal : (tags.get? goalTag).getD [] = t.name.text := by rw [carried.name]; rfl
  have filled : t.name.text.isEmpty = false := by simpa using t.name.ne_nil
  have resolved : t.requirements.dependencyResolution ≠ some [] := fun empty =>
    (portable.texts t.requirements.dependencyResolution (by simp [TaskDeclaration.texts]) [] empty).stated rfl
  have fields : (Record.ofPairs [
      ("name", .text t.name.text), ("implementation", .text (implementation m d)),
      ("description", Value.ofText? t.description), ("phase", Value.ofText? t.phase),
      ("since", Value.ofText? t.since), ("deprecated", Value.ofText? t.deprecated)]).Declares t
        (implementation m d) := by
    refine Record.declares_ofPairs ?_ ?_ ?_ <;> simp [ofString_inj]
  have task := Site.task_of_declares (Site.ofLine strategy m.file d.line) fields readable
  rw [Documented.task, read]
  simp only [allowed, goal, filled, carried.phase, checkPhase_of_known known, requirements_of_tags carried.requirements resolved,
    parameters_of_members members portable.parameters named, firstParagraph_documentation described writable tagged,
    carried.since, carried.deprecated, bind, Except.bind, Bool.false_eq_true, if_false]
  exact task

theorem classTasks_of_carries (carried : Carries d t) (portable : t.Portable) (named : t.Readable)
    (known : ∀ phase ∈ t.phase, c.isKnownPhase phase = true)
    (readable : (implementation m d).val.any Letter.isHalf = false) :
    (classTasks c m d).result = .ok [t.task (implementation m d) strategy] := by
  obtain ⟨raw, tags, head, ⟨gap, cleaned⟩, tagged⟩ := carried.task
  have occurs : Tags.occurs goalTag (documentation t.description gap tags) = true :=
    occurs_documentation (Association.mem_of_lookup tagged.name)
  have found : (Module.documentation? d.body).filter (Tags.occurs goalTag)
      = some (documentation t.description gap tags) := by
    rw [Module.documentation?, head, Option.map_some, cleaned, Option.filter_some, if_pos occurs]
  have task := task_of_carried tagged carried.members portable named known readable gap
  rw [classTasks, found]
  simp only [Logged.result_bind, Logged.result_ofExcept, task]
  rfl

end TaskCatalog.Documented
