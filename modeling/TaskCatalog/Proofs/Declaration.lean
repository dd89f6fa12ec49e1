import TaskCatalog.Proofs.Checks
import TaskCatalog.Proofs.DocumentationText
import TaskCatalog.Sources.Site

/-!
Task declarations as they are meant, whatever the style they are written in, and the task that each
of them comes to. A style carries a declaration if its records state what the declaration states.
-/

namespace TaskCatalog

open Text

theorem Text.ofString_inj {a b : String} : ofString a = ofString b ↔ a = b := by
  rw [ofString, ofString, ofChars, ofChars, List.map_inj_right fun _ _ => Letter.scalar.inj, String.toList_inj]

theorem Text.ofString_beq (a b : String) : (ofString a == ofString b) = (a == b) := by
  rw [Bool.eq_iff_iff, beq_iff_eq, beq_iff_eq, ofString_inj]

structure ParameterDeclaration where
  name : { t : Text // t ≠ [] }
  type : Option Text
  required : Bool
  readOnly : Bool
  defaultValue : Option Text
  expression : Option Text
  description : Option Text
  since : Option Text
  deprecated : Option Text

structure TaskDeclaration where
  name : GoalName
  phase : Option Text
  requirements : Requirements
  description : Option Text
  since : Option Text
  deprecated : Option Text
  parameters : List ParameterDeclaration
  distinct : (parameters.map fun p => p.name.val).Nodup

/-- A text that stands in one line and between quotes. -/
structure Text.Portable (t : Text) : Prop where
  stated : t ≠ []
  unbroken : Unbroken t
  trimmed : Trimmed t
  unquoted : .scalar '"' ∉ t

instance (t : Text) : Decidable t.Portable :=
  decidable_of_iff (t ≠ [] ∧ Unbroken t ∧ Trimmed t ∧ .scalar '"' ∉ t)
    ⟨fun ⟨stated, unbroken, trimmed, unquoted⟩ => ⟨stated, unbroken, trimmed, unquoted⟩,
      fun h => ⟨h.stated, h.unbroken, h.trimmed, h.unquoted⟩⟩

namespace ParameterDeclaration

def texts (p : ParameterDeclaration) : List (Option Text) :=
  [some p.name.val, p.type, p.defaultValue, p.expression, p.description, p.since, p.deprecated]

def parameter (p : ParameterDeclaration) : Parameter where
  name := p.name
  type := p.type.getD "str"
  required := p.required
  editable := !p.readOnly
  defaultValue := p.defaultValue
  expression := p.expression
  description := p.description
  since := p.since
  deprecated := p.deprecated

/-- A parameter whose texts every style can hold. -/
structure Portable (p : ParameterDeclaration) : Prop where
  texts : ∀ u ∈ p.texts, ∀ t ∈ u, t.Portable
  untagged : ∀ t ∈ p.description, t.head? ≠ some (.scalar '@')

instance (p : ParameterDeclaration) : Decidable p.Portable :=
  decidable_of_iff ((∀ u ∈ p.texts, ∀ t ∈ u, t.Portable) ∧ ∀ t ∈ p.description, t.head? ≠ some (.scalar '@'))
    ⟨fun ⟨texts, untagged⟩ => ⟨texts, untagged⟩, fun h => ⟨h.texts, h.untagged⟩⟩

theorem Portable.type_stated {p : ParameterDeclaration} (h : p.Portable) : p.type ≠ some [] := fun empty =>
  (h.texts p.type (by simp [ParameterDeclaration.texts]) [] empty).stated rfl

/-- The fields of a parameter as every style states them. -/
def fields (p : ParameterDeclaration) : List (Text × Value) := [
  ("name", .text p.name), ("type", .text (p.type.getD "str")), ("required", .truth p.required),
  ("editable", .truth !p.readOnly), ("default_value", Value.ofText? p.defaultValue),
  ("expression", Value.ofText? p.expression), ("description", Value.ofText? p.description),
  ("since", Value.ofText? p.since), ("deprecated", Value.ofText? p.deprecated)]

end ParameterDeclaration

namespace TaskDeclaration

def texts (d : TaskDeclaration) : List (Option Text) :=
  [d.phase, d.requirements.dependencyResolution, d.description, d.since, d.deprecated]

/-- A declaration whose texts every style can hold. -/
structure Portable (d : TaskDeclaration) : Prop where
  texts : ∀ u ∈ d.texts, ∀ t ∈ u, t.Portable
  untagged : ∀ t ∈ d.description, t.head? ≠ some (.scalar '@')
  parameters : ∀ p ∈ d.parameters, p.Portable

instance (d : TaskDeclaration) : Decidable d.Portable :=
  decidable_of_iff ((∀ u ∈ d.texts, ∀ t ∈ u, t.Portable)
      ∧ (∀ t ∈ d.description, t.head? ≠ some (.scalar '@')) ∧ ∀ p ∈ d.parameters, p.Portable)
    ⟨fun ⟨texts, untagged, parameters⟩ => ⟨texts, untagged, parameters⟩,
      fun h => ⟨h.texts, h.untagged, h.parameters⟩⟩

theorem Portable.description_stated {d : TaskDeclaration} (h : d.Portable) : d.description ≠ some [] := fun empty =>
  (h.texts d.description (by simp [TaskDeclaration.texts]) [] empty).stated rfl

/-- Names of parameters without lone halves, which no check of a name lets pass. -/
def Readable (d : TaskDeclaration) : Prop := ∀ p ∈ d.parameters, p.name.val.any Letter.isHalf = false

instance (d : TaskDeclaration) : Decidable d.Readable :=
  inferInstanceAs (Decidable (∀ p ∈ d.parameters, p.name.val.any Letter.isHalf = false))

def task (d : TaskDeclaration) (implementation : { t : Text // t ≠ [] }) (language : Text) : Task where
  name := d.name
  implementation := implementation
  description := d.description
  parameters := d.parameters.map ParameterDeclaration.parameter
  phase := d.phase
  requirements := d.requirements
  configuration := []
  since := d.since
  deprecated := d.deprecated
  language := some language
  distinct := by
    rw [List.map_map]
    exact d.distinct

end TaskDeclaration

/-- A value that states a text, or that is null or missing where there is none. -/
def Value.States (v : Option Value) (t : Option Text) : Prop := v.getD .null = Value.ofText? t

/-- A truth value that is given, or missing where it is what it is without. -/
def Value.Sets (v : Option Value) (default b : Bool) : Prop := v.getD (.truth default) = .truth b

instance (v : Option Value) (t : Option Text) : Decidable (Value.States v t) :=
  inferInstanceAs (Decidable (v.getD .null = Value.ofText? t))

instance (v : Option Value) (default b : Bool) : Decidable (Value.Sets v default b) :=
  inferInstanceAs (Decidable (v.getD (.truth default) = .truth b))

namespace Checked

theorem optional_text (t : Option Text) : optional text (Value.ofText? t) = .ok t := by
  cases t <;> rfl

theorem nonempty_text {t : { t : Text // t ≠ [] }} (readable : t.val.any Letter.isHalf = false) :
    nonempty (.text t.val) = .ok t := by
  rw [nonempty, text, andThen, readable]
  simp [t.property]

theorem goalName_text (n : GoalName) : goalName (.text n.text) = .ok n := by
  rw [goalName, text, andThen]
  split
  · rfl
  · rename_i fault h
    cases n.valid.symm.trans h

end Checked

namespace Record

/-- The value of a field that goes by several names. -/
def stated? (r : Record) (names : List Text) : Option Value :=
  (names.find? fun name => (r.get? name).isSome).bind r.get?

variable {r : Record} {names : List Text} {name : Text} {α : Type}

theorem get?_of_mem {pairs : List (Text × Value)} {v : Value} (distinct : (pairs.map (·.1)).Nodup)
    (h : (name, v) ∈ pairs) : (ofPairs pairs).get? name = some v :=
  (get?_ofPairs pairs name).trans (Association.lookup_of_mem distinct h)

theorem stated?_singleton (r : Record) (name : Text) : r.stated? [name] = r.get? name := by
  cases h : r.get? name <;> simp [stated?, h]

theorem field_of_stated? {v : Value} {a : α} {check : Value → Checked α} (h : r.stated? names = some v)
    (passes : check v = .ok a) (absent : Option α) : r.field names absent check = .ok a := by
  obtain ⟨name, found, there⟩ := Option.bind_eq_some_iff.1 h
  simp [field, found, there, passes, Checked.located]

theorem field_of_absent {check : Value → Checked α} (h : r.stated? names = none) (a : α) :
    r.field names (some a) check = .ok a := by
  rw [stated?, Option.bind_eq_none_iff] at h
  cases found : names.find? fun name => (r.get? name).isSome with
  | none => simp [field, found]
  | some name =>
    have there := List.find?_some found
    rw [h name found] at there
    cases there

theorem field_of_states {t : Option Text} {check : Value → Checked (Option Text)}
    (h : Value.States (r.stated? names) t) (passes : check (Value.ofText? t) = .ok t) :
    r.field names (some none) check = .ok t := by
  cases stated : r.stated? names with
  | none =>
    rw [stated] at h
    cases t with
    | none => exact field_of_absent stated none
    | some t => cases h
  | some v =>
    rw [stated] at h
    have same : v = Value.ofText? t := h
    exact field_of_stated? stated (same ▸ passes) _

theorem field_of_sets {default b : Bool} (h : Value.Sets (r.stated? names) default b) :
    r.field names (some default) Checked.truth = .ok b := by
  cases stated : r.stated? names with
  | none =>
    rw [stated] at h
    cases h
    exact field_of_absent stated default
  | some v =>
    rw [stated] at h
    have same : v = .truth b := h
    exact field_of_stated? stated (same ▸ rfl) _

theorem required_of_get? {v : Value} {a : α} {check : Value → Checked α} (h : r.get? name = some v)
    (passes : check v = .ok a) : r.required name check = .ok a :=
  field_of_stated? ((stated?_singleton r name).trans h) passes none

theorem withDefault_of_states {t : Option Text} {check : Value → Checked (Option Text)}
    (h : Value.States (r.get? name) t) (passes : check (Value.ofText? t) = .ok t) :
    r.withDefault name none check = .ok t :=
  field_of_states ((stated?_singleton r name).symm ▸ h) passes

theorem optionalText_of_states {t : Option Text} (h : Value.States (r.get? name) t) :
    r.optionalText name = .ok t :=
  withDefault_of_states h (Checked.optional_text t)

theorem truth_of_sets {default b : Bool} (h : Value.Sets (r.get? name) default b) :
    r.withDefault name default Checked.truth = .ok b :=
  field_of_sets ((stated?_singleton r name).symm ▸ h)

theorem optionalText_of_get? {t : Option Text} (h : r.get? name = some (Value.ofText? t)) :
    r.optionalText name = .ok t := by
  refine optionalText_of_states ?_
  rw [h]
  rfl

theorem truth_of_get? {default b : Bool} (h : r.get? name = some (.truth b)) :
    r.withDefault name default Checked.truth = .ok b := by
  refine truth_of_sets ?_
  rw [h]
  rfl

end Record

theorem Parameter.ofRecord_fields (p : ParameterDeclaration) (readable : p.name.val.any Letter.isHalf = false) :
    Parameter.ofRecord (Record.ofPairs p.fields) = .ok p.parameter := by
  have distinct : (p.fields.map (·.1)).Nodup := by
    simp [ParameterDeclaration.fields, ofString_inj]
  have stated {name : Text} {v : Value} (h : (name, v) ∈ p.fields) :
      (Record.ofPairs p.fields).get? name = some v := Record.get?_of_mem distinct h
  have name : (Record.ofPairs p.fields).get? "name" = some (.text p.name) :=
    stated (by simp [ParameterDeclaration.fields])
  have type : (Record.ofPairs p.fields).get? "type" = some (.text (p.type.getD "str")) :=
    stated (by simp [ParameterDeclaration.fields])
  have required : (Record.ofPairs p.fields).get? "required" = some (.truth p.required) :=
    stated (by simp [ParameterDeclaration.fields])
  have editable : (Record.ofPairs p.fields).get? "editable" = some (.truth !p.readOnly) :=
    stated (by simp [ParameterDeclaration.fields])
  have defaultValue : (Record.ofPairs p.fields).get? "default_value" = some (Value.ofText? p.defaultValue) :=
    stated (by simp [ParameterDeclaration.fields])
  have expression : (Record.ofPairs p.fields).get? "expression" = some (Value.ofText? p.expression) :=
    stated (by simp [ParameterDeclaration.fields])
  have description : (Record.ofPairs p.fields).get? "description" = some (Value.ofText? p.description) :=
    stated (by simp [ParameterDeclaration.fields])
  have since : (Record.ofPairs p.fields).get? "since" = some (Value.ofText? p.since) :=
    stated (by simp [ParameterDeclaration.fields])
  have deprecated : (Record.ofPairs p.fields).get? "deprecated" = some (Value.ofText? p.deprecated) :=
    stated (by simp [ParameterDeclaration.fields])
  rw [Parameter.ofRecord]
  simp only [Record.required_of_get? name (Checked.nonempty_text readable), Record.withDefault_of_get? type,
    Record.truth_of_get? required, Record.truth_of_get? editable, Record.optionalText_of_get? defaultValue,
    Record.optionalText_of_get? expression, Record.optionalText_of_get? description,
    Record.optionalText_of_get? since, Record.optionalText_of_get? deprecated]
  rfl

namespace Site

variable {s : Site}

theorem parameter_fields (s : Site) (p : ParameterDeclaration)
    (readable : p.name.val.any Letter.isHalf = false) :
    s.parameter (Record.ofPairs p.fields) = .ok p.parameter := by
  unfold parameter
  rw [Parameter.ofRecord_fields p readable]

end Site

/-- The fields of a record state a task declaration, beside its parameters and its requirements. -/
structure Record.Declares (r : Record) (d : TaskDeclaration) (implementation : Text) : Prop where
  name : r.get? "name" = some (.text d.name.text)
  implementation : r.get? "implementation" = some (.text implementation)
  description : r.get? "description" = some (Value.ofText? d.description)
  phase : r.get? "phase" = some (Value.ofText? d.phase)
  configuration : ∀ v, r.get? "configuration" = some v → v = .map []
  since : r.get? "since" = some (Value.ofText? d.since)
  deprecated : r.get? "deprecated" = some (Value.ofText? d.deprecated)

theorem Record.declares_ofPairs {pairs : List (Text × Value)} {d : TaskDeclaration} {implementation : Text}
    (distinct : (pairs.map (·.1)).Nodup)
    (stated : ∀ pair ∈ ([
      ("name", .text d.name.text), ("implementation", .text implementation),
      ("description", Value.ofText? d.description), ("phase", Value.ofText? d.phase),
      ("since", Value.ofText? d.since), ("deprecated", Value.ofText? d.deprecated)] : List (Text × Value)),
      pair ∈ pairs)
    (unconfigured : ∀ v, (("configuration" : Text), v) ∈ pairs → v = .map []) :
    (Record.ofPairs pairs).Declares d implementation := by
  simp only [List.forall_mem_cons, List.not_mem_nil, false_implies, implies_true, and_true] at stated
  obtain ⟨name, implementation, description, phase, since, deprecated⟩ := stated
  refine ⟨get?_of_mem distinct name, get?_of_mem distinct implementation, get?_of_mem distinct description,
    get?_of_mem distinct phase, fun v h => unconfigured v ?_, get?_of_mem distinct since,
    get?_of_mem distinct deprecated⟩
  exact Association.mem_of_lookup ((get?_ofPairs pairs _).symm.trans h)

theorem Task.distinctParameters_of_nodup (name : Text) {ps : List Parameter}
    (distinct : (ps.map fun p => p.name.val).Nodup) : distinctParameters name ps = .ok ⟨ps, distinct⟩ :=
  distinctParameters_eq_ok_iff.2 rfl

theorem Site.task_of_declares (s : Site) {r : Record} {d : TaskDeclaration}
    {implementation : { t : Text // t ≠ [] }} (h : r.Declares d implementation)
    (readable : implementation.val.any Letter.isHalf = false) :
    s.task r (d.parameters.map ParameterDeclaration.parameter) d.requirements
      = .ok (d.task implementation s.strategy) := by
  have name : r.required "name" Checked.goalName = .ok d.name :=
    Record.required_of_get? h.name (Checked.goalName_text d.name)
  have filled : r.required "implementation" Checked.nonempty = .ok implementation :=
    Record.required_of_get? h.implementation (Checked.nonempty_text readable)
  have configuration : r.withDefault "configuration" [] Checked.mapping = .ok [] := by
    cases stated : r.get? "configuration" with
    | none => exact Record.field_of_absent ((Record.stated?_singleton r _).trans stated) []
    | some v =>
      cases h.configuration v stated
      rw [Record.withDefault_of_get? stated]
      rfl
  have finite : ((r.get? "configuration").getD .null).isCyclic = false := by
    cases stated : r.get? "configuration" with
    | none => rfl
    | some v =>
      cases h.configuration v stated
      rfl
  have built : Task.ofParts (s.parts r (d.parameters.map ParameterDeclaration.parameter) d.requirements)
      = .ok (d.task implementation s.strategy) := by
    rw [Task.ofParts, parts]
    simp only [name, filled, Record.optionalText_of_get? h.description, Record.optionalText_of_get? h.phase, configuration, Record.optionalText_of_get? h.since,
      Record.optionalText_of_get? h.deprecated]
    have distinct := Task.distinctParameters_of_nodup d.name.text (d.task implementation s.strategy).distinct
    exact congrArg (Checked.map _) distinct
  rw [Site.task, finite, built]
  rfl

end TaskCatalog
