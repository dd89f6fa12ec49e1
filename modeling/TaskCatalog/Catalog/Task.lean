import TaskCatalog.Catalog.Parameter

/-!
Tasks: what a declaration in any style comes to. A task's goal name can be a file name, its
parameters have names of their own, and its configuration is frozen data.
-/

namespace TaskCatalog

open Text

structure Requirements where
  requiresProject : Bool := true
  requiresOnline : Bool := false
  aggregator : Bool := false
  threadSafe : Bool := false
  dependencyResolution : Option Text := none
  deriving DecidableEq

namespace Requirements

def ofRecord (r : Record) : Checked Requirements :=
  Requirements.mk <$> r.withDefault "requires_project" true Checked.truth
    <*> r.withDefault "requires_online" false Checked.truth
    <*> r.withDefault "aggregator" false Checked.truth
    <*> r.withDefault "thread_safe" false Checked.truth
    <*> r.optionalText "dependency_resolution"

def ofValue (v : Value) : Checked Requirements := (Record.ofValue "TaskRequirements" v).andThen ofRecord

def plain (r : Requirements) : Plain :=
  .map [("requires_project", .truth r.requiresProject), ("requires_online", .truth r.requiresOnline),
    ("aggregator", .truth r.aggregator), ("thread_safe", .truth r.threadSafe),
    ("dependency_resolution", .optionalText r.dependencyResolution)]

end Requirements

instance decidableNodup {α : Type} [DecidableEq α] (l : List α) : Decidable l.Nodup :=
  inferInstanceAs (Decidable (List.Pairwise (· ≠ ·) l))

structure Task where
  name : GoalName
  implementation : { t : Text // t ≠ [] }
  description : Option Text
  parameters : List Parameter
  phase : Option Text
  requirements : Requirements
  configuration : List (Text × Value)
  since : Option Text
  deprecated : Option Text
  language : Option Text
  distinct : (parameters.map fun p => p.name.val).Nodup
  deriving DecidableEq

/-- The parts of a task before they are checked. -/
structure TaskParts where
  name : Checked GoalName
  implementation : Checked { t : Text // t ≠ [] }
  description : Checked (Option Text)
  parameters : Checked (List Parameter)
  phase : Checked (Option Text)
  requirements : Checked Requirements
  configuration : Checked (List (Text × Value))
  since : Checked (Option Text)
  deprecated : Checked (Option Text)
  language : Checked (Option Text)

namespace Task

def firstRepeated? (seen : List Text) : List Text → Option Text
  | [] => none
  | t :: rest => if seen.contains t then some t else firstRepeated? (t :: seen) rest

theorem firstRepeated?_eq_none_iff {seen ts : List Text} :
    firstRepeated? seen ts = none ↔ ts.Nodup ∧ ∀ t ∈ ts, t ∉ seen := by
  induction ts generalizing seen with
  | nil => simp [firstRepeated?]
  | cons t ts ih =>
    by_cases h : t ∈ seen
    · simp [firstRepeated?, h]
    · simp only [firstRepeated?, List.contains_iff_mem, h, if_false, ih, List.nodup_cons, List.mem_cons,
        not_or, forall_eq_or_imp]
      grind

/-- The parameters of a task named `name`, if their names are distinct. -/
def distinctParameters (name : Text) (ps : List Parameter) :
    Checked { ps : List Parameter // (ps.map fun p => p.name.val).Nodup } :=
  match h : firstRepeated? [] (ps.map fun p => p.name.val) with
  | none => .ok ⟨ps, (firstRepeated?_eq_none_iff.1 h).1⟩
  | some p => Checked.problem (.repeatedParameter name p)

/-- A task of all its parts, with its configuration frozen; the parameters' names are compared last. -/
def ofParts (parts : TaskParts) : Checked Task :=
  (build <$> parts.name <*> parts.implementation <*> parts.description <*> parts.parameters
    <*> parts.phase <*> parts.requirements <*> parts.configuration <*> parts.since
    <*> parts.deprecated <*> parts.language).andThen id
where
  build (name : GoalName) (implementation : { t : Text // t ≠ [] }) (description : Option Text)
      (parameters : List Parameter) (phase : Option Text) (requirements : Requirements)
      (configuration : List (Text × Value)) (since deprecated language : Option Text) : Checked Task :=
    (distinctParameters name.text parameters).map fun ps =>
      Task.mk name implementation description ps.val phase requirements
        (configuration.map fun (k, v) => (k, v.freeze)) since deprecated language ps.property

def ofRecord (r : Record) : Checked Task :=
  ofParts {
    name := r.required "name" Checked.goalName
    implementation := r.required "implementation" Checked.nonempty
    description := r.optionalText "description"
    parameters := r.withDefault "parameters" [] (Checked.list .notTuple Parameter.ofValue)
    phase := r.optionalText "phase"
    requirements := r.withDefault "requirements" {} Requirements.ofValue
    configuration := r.withDefault "configuration" [] Checked.mapping
    since := r.optionalText "since"
    deprecated := r.optionalText "deprecated"
    language := r.optionalText "language" }

def ofValue (v : Value) : Checked Task := (Record.ofValue "TaskDefinition" v).andThen ofRecord

def parameter? (t : Task) (name : Text) : Option Parameter :=
  t.parameters.find? fun p => p.name.val == name

def requiredParameters (t : Task) : List Parameter := t.parameters.filter (·.required)

def configurationPlain (t : Task) : Except PlainFault Plain :=
  (Value.thaw (.map (t.configuration.map fun (k, v) => (.text k, v)))).plain

def plain (t : Task) : Except PlainFault Plain :=
  t.configurationPlain.map fun configuration =>
    .map [("name", .text t.name.text), ("implementation", .text t.implementation),
      ("description", .optionalText t.description),
      ("parameters", .list (t.parameters.map Parameter.plain)), ("phase", .optionalText t.phase),
      ("requirements", t.requirements.plain), ("configuration", configuration),
      ("since", .optionalText t.since), ("deprecated", .optionalText t.deprecated),
      ("language", .optionalText t.language)]

end Task

end TaskCatalog
