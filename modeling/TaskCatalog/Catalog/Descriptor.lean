import TaskCatalog.Catalog.Task

/-!
Descriptors: a plugin's identity, its dependencies, and its tasks under distinct goal names.
-/

namespace TaskCatalog

open Text

structure Dependency where
  groupId : Text
  artifactId : Text
  version : Text
  type : Text
  deriving DecidableEq

namespace Dependency

def ofRecord (r : Record) : Checked Dependency :=
  Dependency.mk <$> r.required "group_id" Checked.text
    <*> r.required "artifact_id" Checked.text
    <*> r.required "version" Checked.text
    <*> r.withDefault "type" "jar" Checked.text

def ofValue (v : Value) : Checked Dependency := (Record.ofValue "ComponentDependency" v).andThen ofRecord

def plain (d : Dependency) : Plain :=
  .map [("group_id", .text d.groupId), ("artifact_id", .text d.artifactId),
    ("version", .text d.version), ("type", .text d.type)]

end Dependency

structure Descriptor where
  groupId : Text
  artifactId : Text
  version : Text
  name : Text
  description : Option Text
  goalPrefix : Text
  dependencies : List Dependency
  tasks : List Task
  distinct : (tasks.map fun t => t.name.text).Nodup
  deriving DecidableEq

namespace Descriptor

/-- The texts that occur more than once, each once, in ascending order. -/
def repeated (ts : List Text) : List Text := sort (Text.distinct (ts.filter fun t => 1 < ts.count t))

theorem nodup_iff_count_le_one {ts : List Text} : ts.Nodup ↔ ∀ t ∈ ts, ts.count t ≤ 1 := by
  induction ts with
  | nil => simp
  | cons t ts ih =>
    rw [List.nodup_cons, ih]
    constructor
    · intro ⟨ht, h⟩ u hu
      have h0 := List.count_eq_zero.2 ht
      by_cases he : t = u
      · subst he
        simp [h0]
      · have := h u (by simpa [Ne.symm he] using hu)
        simpa [List.count_cons, he] using this
    · intro h
      refine ⟨?_, fun u hu => ?_⟩
      · have := h t (by simp)
        rw [List.count_cons_self] at this
        exact List.count_eq_zero.1 (by omega)
      · have := h u (by simp [hu])
        rw [List.count_cons] at this
        omega

theorem repeated_eq_nil_iff {ts : List Text} : repeated ts = [] ↔ ts.Nodup := by
  rw [nodup_iff_count_le_one, repeated, sort, Text.distinct, ← List.length_eq_zero_iff,
    List.length_mergeSort, List.length_eq_zero_iff]
  constructor
  · intro h t ht
    apply Nat.le_of_not_lt
    intro hc
    have hm : t ∈ (ts.filter fun t => 1 < ts.count t).eraseDups := by
      simp [List.mem_eraseDups, ht, hc]
    simp [h] at hm
  · intro h
    have hf : (ts.filter fun t => 1 < ts.count t) = [] := by
      simp only [List.filter_eq_nil_iff, decide_eq_true_eq]
      intro t ht
      have := h t ht
      omega
    simp [hf]

def distinctTasks (ts : List Task) :
    Checked { ts : List Task // (ts.map fun t => t.name.text).Nodup } :=
  if h : repeated (ts.map fun t => t.name.text) = [] then .ok ⟨ts, repeated_eq_nil_iff.1 h⟩
  else Checked.problem (.repeatedTasks (repeated (ts.map fun t => t.name.text)))

/-- The parts of a descriptor before they are checked. -/
structure Parts where
  groupId : Checked Text
  artifactId : Checked Text
  version : Checked Text
  name : Checked Text
  description : Checked (Option Text)
  goalPrefix : Checked Text
  dependencies : Checked (List Dependency)
  tasks : Checked (List Task)

/-- A descriptor of all its parts; the tasks' names are compared last. -/
def ofParts (parts : Parts) : Checked Descriptor :=
  (build <$> parts.groupId <*> parts.artifactId <*> parts.version <*> parts.name
    <*> parts.description <*> parts.goalPrefix <*> parts.dependencies <*> parts.tasks).andThen id
where
  build (groupId artifactId version name : Text) (description : Option Text) (goalPrefix : Text)
      (dependencies : List Dependency) (tasks : List Task) : Checked Descriptor :=
    (distinctTasks tasks).map fun ts =>
      ⟨groupId, artifactId, version, name, description, goalPrefix, dependencies, ts.val, ts.property⟩

def ofRecord (r : Record) : Checked Descriptor :=
  ofParts {
    groupId := r.required "group_id" Checked.text
    artifactId := r.required "artifact_id" Checked.text
    version := r.required "version" Checked.text
    name := r.required "name" Checked.text
    description := r.optionalText "description"
    goalPrefix := r.required "goal_prefix" Checked.text
    dependencies := r.withDefault "dependencies" [] (Checked.list .notTuple Dependency.ofValue)
    tasks := r.withDefault "tasks" [] (Checked.list .notTuple Task.ofValue) }

def taskNames (d : Descriptor) : List Text := d.tasks.map fun t => t.name.text

/-- Group, artifact and version, joined the way build tools print them. -/
def coordinates (d : Descriptor) : Text := d.groupId ++ ":" ++ d.artifactId ++ ":" ++ d.version

def task? (d : Descriptor) (name : Text) : Option Task := d.tasks.find? fun t => t.name.text == name

def qualifiedGoal (d : Descriptor) (name : Text) : Text := d.goalPrefix ++ ":" ++ name

def plain (d : Descriptor) : Except PlainFault Plain :=
  (d.tasks.mapM Task.plain).map fun tasks =>
    .map [("group_id", .text d.groupId), ("artifact_id", .text d.artifactId),
      ("version", .text d.version), ("name", .text d.name),
      ("description", .optionalText d.description), ("goal_prefix", .text d.goalPrefix),
      ("dependencies", .list (d.dependencies.map Dependency.plain)), ("tasks", .list tasks)]

end Descriptor

end TaskCatalog
