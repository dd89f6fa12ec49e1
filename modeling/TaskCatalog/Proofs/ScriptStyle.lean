import TaskCatalog.Proofs.Declaration
import TaskCatalog.Proofs.Outcome
import TaskCatalog.Sources.Scripts

/-!
Task declarations as entries of script metadata carry them: a mapping for the task and one for each
parameter, with one of the keys of each field. The entry comes to the task that is declared.
-/

namespace TaskCatalog

open Text

/-- Keys that each name a field, no two of them the same field. -/
structure Record.OneKeyEach (keys : List Text) (fields : List (List Text)) : Prop where
  allowed : ∀ key ∈ keys, ∃ names ∈ fields, key ∈ names
  once : ∀ names ∈ fields, ∀ a ∈ keys, ∀ b ∈ keys, a ∈ names → b ∈ names → a = b

theorem Record.extras_eq_nil {pairs : List (Text × Value)} {fields : List (List Text)}
    (keys : OneKeyEach (pairs.map (·.1)) fields) : (ofPairs pairs).extras fields = [] := by
  rw [extras, List.filterMap_eq_nil_iff]
  intro entry hentry
  obtain ⟨⟨key, value⟩, hpair, rfl⟩ := List.mem_map.1 hentry
  have hkey : key ∈ pairs.map (·.1) := List.mem_map_of_mem (f := (·.1)) hpair
  obtain ⟨names, hnames, named⟩ := keys.allowed key hkey
  have stated : ((ofPairs pairs).get? key).isSome := by
    rw [get?_ofPairs, Option.isSome_iff_ne_none, Ne, List.lookup_eq_none_iff]
    exact fun absent => bne_iff_ne.1 (absent (key, value) hpair) rfl
  have used : key ∈ (ofPairs pairs).used fields := by
    refine List.mem_filterMap.2 ⟨names, hnames, ?_⟩
    cases found : names.find? fun name => ((ofPairs pairs).get? name).isSome with
    | none => exact absurd stated (List.find?_eq_none.1 found _ named)
    | some name =>
      have present : ((ofPairs pairs).get? name).isSome := by simpa using List.find?_some found
      obtain ⟨v, hv⟩ := Option.isSome_iff_exists.1 present
      have member := Association.mem_of_lookup ((get?_ofPairs pairs name).symm.trans hv)
      have hname : name ∈ pairs.map (·.1) := List.mem_map_of_mem (f := (·.1)) member
      exact congrArg some (keys.once names hnames name hname key hkey (List.mem_of_find?_eq_some found) named)
  simp [used]

theorem Record.textOr_of_get? {r : Record} {name : Text} {t : Option Text} (h : r.get? name = t.map .text)
    (default : Text) : r.withDefault name default Checked.text = .ok (t.getD default) := by
  cases t with
  | none => exact field_of_absent ((stated?_singleton r name).trans h) default
  | some t =>
    rw [withDefault_of_get? h]
    rfl

def ParameterDeclaration.script (p : ParameterDeclaration) : ScriptParameter where
  name := p.name
  type := p.type.getD "str"
  required := p.required
  readOnly := p.readOnly
  defaultValue := p.defaultValue
  expression := p.expression
  description := p.description
  since := p.since
  deprecated := p.deprecated

def TaskDeclaration.script (t : TaskDeclaration) (call : Text) : ScriptTask where
  goal := t.name.text
  call := call
  description := t.description
  phase := t.phase
  requirements := t.requirements
  since := t.since
  deprecated := t.deprecated
  parameters := t.parameters.map ParameterDeclaration.script
  configuration := []

namespace Scripts

def mapping (pairs : List (Text × Value)) : Value := .map (pairs.map fun (k, v) => (.text k, v))

/-- The keys of a parameter's entry. The type, unlike the other texts, cannot be null. -/
structure ParameterEntry (pairs : List (Text × Value)) (p : ParameterDeclaration) : Prop
    extends Record.OneKeyEach (pairs.map (·.1)) ScriptParameter.fields where
  name : (Record.ofPairs pairs).get? "name" = some (.text p.name)
  type : (Record.ofPairs pairs).get? "type" = p.type.map .text
  required : Value.Sets ((Record.ofPairs pairs).get? "required") false p.required
  readOnly : Value.Sets ((Record.ofPairs pairs).get? "readonly") false p.readOnly
  defaultValue : Value.States ((Record.ofPairs pairs).stated? ["default-value", "default_value"]) p.defaultValue
  expression : Value.States ((Record.ofPairs pairs).get? "expression") p.expression
  description : Value.States ((Record.ofPairs pairs).get? "description") p.description
  since : Value.States ((Record.ofPairs pairs).get? "since") p.since
  deprecated : Value.States ((Record.ofPairs pairs).get? "deprecated") p.deprecated

structure RequirementKeys (pairs : List (Text × Value)) (r : Requirements) : Prop where
  requiresProject : Value.Sets ((Record.ofPairs pairs).stated? ScriptTask.projectNames) true r.requiresProject
  requiresOnline : Value.Sets ((Record.ofPairs pairs).stated? ScriptTask.onlineNames) false r.requiresOnline
  aggregator : Value.Sets ((Record.ofPairs pairs).get? "aggregator") false r.aggregator
  threadSafe : Value.Sets ((Record.ofPairs pairs).stated? ScriptTask.threadNames) false r.threadSafe
  dependencyResolution :
    Value.States ((Record.ofPairs pairs).stated? ScriptTask.resolutionNames) r.dependencyResolution

inductive CarriesParameter : Value → ParameterDeclaration → Prop
  | mapping {pairs : List (Text × Value)} {p : ParameterDeclaration} (entry : ParameterEntry pairs p) :
    CarriesParameter (mapping pairs) p

structure TaskEntry (pairs : List (Text × Value)) (call : Text) (t : TaskDeclaration) : Prop
    extends Record.OneKeyEach (pairs.map (·.1)) ScriptTask.fields where
  goal : (Record.ofPairs pairs).get? "goal" = some (.text t.name.text)
  call : (Record.ofPairs pairs).get? "call" = some (.text call)
  description : Value.States ((Record.ofPairs pairs).get? "description") t.description
  phase : Value.States ((Record.ofPairs pairs).get? "phase") t.phase
  requirements : RequirementKeys pairs t.requirements
  since : Value.States ((Record.ofPairs pairs).get? "since") t.since
  deprecated : Value.States ((Record.ofPairs pairs).get? "deprecated") t.deprecated
  parameters : ∃ items, ((Record.ofPairs pairs).get? "parameters").getD (.list []) = .list items
    ∧ List.Forall₂ CarriesParameter items t.parameters
  unconfigured : (Record.ofPairs pairs).get? "configuration" = none

/-- An entry that states a task and calls a script. -/
inductive Carries : Value → Text → TaskDeclaration → Prop
  | mapping {pairs : List (Text × Value)} {call : Text} {t : TaskDeclaration} (entry : TaskEntry pairs call t) :
    Carries (mapping pairs) call t

/-- A script that is there, below the root of the sources, and the text of its path from the root on. -/
structure Below (s : Sources) (root file : Path) (call implementation : Text) : Prop where
  present : s.fs.hasFile (file.parent ++ Path.ofText call) = .ok true
  located : ∃ parts, (s.fs.resolve (file.parent ++ Path.ofText call)).relativeTo? (s.fs.resolve root) = some parts
    ∧ Path.text ⟨false, parts⟩ = implementation

variable {pairs : List (Text × Value)} {p : ParameterDeclaration} {t : TaskDeclaration} {v : Value} {call : Text}

theorem parameter_of_carried (carried : CarriesParameter v p) : ScriptParameter.ofValue v = .ok p.script := by
  obtain ⟨entry⟩ := carried
  rename_i pairs
  have name : (Record.ofPairs pairs).required "name" Checked.text = .ok p.name.val :=
    Record.required_of_get? entry.name rfl
  have type := Record.textOr_of_get? entry.type "str"
  have default : (Record.ofPairs pairs).field ["default-value", "default_value"] (some none)
      ScriptParameter.ofRecord.simpleText = .ok p.defaultValue := by
    refine Record.field_of_states entry.defaultValue ?_
    cases p.defaultValue <;> rfl
  have since : (Record.ofPairs pairs).withDefault "since" none ScriptParameter.ofRecord.simpleText = .ok p.since := by
    refine Record.withDefault_of_states entry.since ?_
    cases p.since <;> rfl
  show ScriptParameter.ofRecord (Record.ofPairs pairs) = _
  rw [ScriptParameter.ofRecord, Record.extras_eq_nil entry.toOneKeyEach]
  simp only [name, type, Record.truth_of_sets entry.required, Record.truth_of_sets entry.readOnly, default,
    Record.optionalText_of_states entry.expression, Record.optionalText_of_states entry.description, since,
    Record.optionalText_of_states entry.deprecated]
  rfl

theorem requirements_of_keys {r : Requirements} (keys : RequirementKeys pairs r) :
    ScriptTask.requirementsOf (Record.ofPairs pairs) = .ok r := by
  have resolution : (Record.ofPairs pairs).field ScriptTask.resolutionNames (some none)
      (Checked.optional Checked.text) = .ok r.dependencyResolution :=
    Record.field_of_states keys.dependencyResolution (Checked.optional_text _)
  rw [ScriptTask.requirementsOf]
  simp only [Record.field_of_sets keys.requiresProject, Record.field_of_sets keys.requiresOnline,
    Record.truth_of_sets keys.aggregator, Record.field_of_sets keys.threadSafe, resolution]
  rfl

theorem parameters_of_entry (entry : TaskEntry pairs call t) :
    (Record.ofPairs pairs).withDefault "parameters" [] (Checked.list .notList ScriptParameter.ofValue)
      = .ok (t.parameters.map ParameterDeclaration.script) := by
  obtain ⟨items, listed, carried⟩ := entry.parameters
  cases stated : (Record.ofPairs pairs).get? "parameters" with
  | none =>
    rw [stated] at listed
    cases listed
    rw [List.forall₂_nil_left_iff.1 carried]
    exact Record.field_of_absent ((Record.stated?_singleton _ _).trans stated) []
  | some v =>
    rw [stated] at listed
    cases listed
    have read : Checked.each ScriptParameter.ofValue 0 items = .ok (t.parameters.map ParameterDeclaration.script) := by
      refine Checked.each_eq_ok_iff.2 (List.forall₂_map_right_iff.2 ?_)
      exact carried.imp fun _ _ => parameter_of_carried
    rw [Record.withDefault_of_get? stated]
    exact congrArg (Checked.located _) read

theorem entry_of_carried (carried : Carries v call t) : ScriptTask.ofValue v = .ok (t.script call) := by
  obtain ⟨entry⟩ := carried
  rename_i pairs
  have goal : (Record.ofPairs pairs).required "goal" Checked.text = .ok t.name.text :=
    Record.required_of_get? entry.goal rfl
  have called : (Record.ofPairs pairs).required "call" Checked.text = .ok call :=
    Record.required_of_get? entry.call rfl
  have since : (Record.ofPairs pairs).withDefault "since" none
      (fun v => (Checked.numberAsText v).andThen (Checked.optional Checked.text)) = .ok t.since := by
    refine Record.withDefault_of_states entry.since ?_
    cases t.since <;> rfl
  have parameters := parameters_of_entry entry
  have configuration : (Record.ofPairs pairs).withDefault "configuration" [] Checked.mapping = .ok [] :=
    Record.field_of_absent ((Record.stated?_singleton _ _).trans entry.unconfigured) []
  show ScriptTask.ofRecord (Record.ofPairs pairs) = _
  rw [ScriptTask.ofRecord, Record.extras_eq_nil entry.toOneKeyEach]
  simp only [goal, called, Record.optionalText_of_states entry.description, Record.optionalText_of_states entry.phase,
    requirements_of_keys entry.requirements, since, Record.optionalText_of_states entry.deprecated, parameters,
    configuration]
  rfl

theorem parameterFields_script (p : ParameterDeclaration) : parameterFields p.script = Record.ofPairs p.fields := rfl

theorem task_of_script {s : Sources} {root file : Path} {implementation : { t : Text // t ≠ [] }}
    (named : t.Readable) (known : ∀ phase ∈ t.phase, s.conventions.isKnownPhase phase = true)
    (below : Below s root file call implementation) (readable : implementation.val.any Letter.isHalf = false) :
    task s root file (t.script call) = .ok (t.task implementation strategy) := by
  obtain ⟨parts, relative, text⟩ := below.located
  have parameters (site : Site) : (t.parameters.map ParameterDeclaration.script).mapM
      (fun p => site.parameter (parameterFields p)) = .ok (t.parameters.map ParameterDeclaration.parameter) := by
    refine Outcome.mapM_of_forall₂ (List.forall₂_map_left_iff.2 (List.forall₂_map_right_iff.2 ?_))
    refine List.forall₂_same.2 fun p hp => ?_
    rw [parameterFields_script]
    exact Site.parameter_fields site p (named p hp)
  have fields : (taskFields (t.script call) implementation).Declares t implementation := by
    refine Record.declares_ofPairs ?_ ?_ ?_ <;> simp [ofString_inj, TaskDeclaration.script]
  have made := Site.task_of_declares ⟨strategy, file.text ++ " (goal " ++ t.name.text ++ ")"⟩ fields readable
  rw [task, TaskDeclaration.script]
  simp only [below.present, relative, text, parameters, Except.mapError, bind, Except.bind, Bool.not_true,
    Bool.false_eq_true, if_false]
  split
  · rename_i phase stated
    simp only [known phase stated, Bool.not_true, Bool.false_eq_true, if_false]
    exact made
  · exact made

end Scripts

end TaskCatalog
