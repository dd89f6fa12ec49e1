import TaskCatalog.Project

/-!
Assembly of a descriptor from parts that arrive one by one. Whatever is missing or wrong is found
when the descriptor is built, the missing parts of the identity first.
-/

namespace TaskCatalog

open Text

/-- The parts of a project that name the plugin. -/
structure Identity where
  groupId : Option Text
  artifactId : Option Text
  version : Option Text
  name : Option Text
  description : Option Text
  deriving DecidableEq

def Identity.none : Identity := ⟨.none, .none, .none, .none, .none⟩

def Project.identity (p : Project) : Identity :=
  ⟨p.groupId, p.artifactId, p.version, p.name, p.description⟩

structure Builder where
  identity : Identity
  goalPrefix : Option Text
  dependencies : List Dependency
  tasks : List Task
  deriving DecidableEq

namespace Builder

def empty : Builder := ⟨.none, none, [], []⟩

def withIdentity (b : Builder) (i : Identity) : Builder := { b with identity := i }

def withDependencies (b : Builder) (ds : List Dependency) : Builder := { b with dependencies := ds }

def withGoalPrefix (b : Builder) (p : Option Text) : Builder := { b with goalPrefix := p }

def addTasks (b : Builder) (ts : List Task) : Builder := { b with tasks := b.tasks ++ ts }

def present (t : Option Text) : Bool := t.any fun t => !isAllBlank t

def missingFields (i : Identity) : List Text :=
  [(("group_id" : Text), i.groupId), ("artifact_id", i.artifactId), ("version", i.version),
    ("name", i.name)].filterMap fun (field, t) => if present t then none else some field

/-- The descriptor of complete parts, or the first of the faults. -/
def build? (b : Builder) : Except DescriptorFault Descriptor :=
  let prefixText := b.goalPrefix.getD []
  match missingFields b.identity, GoalPrefix.fault? prefixText with
  | field :: fields, _ => .error (.missingFields (field :: fields))
  | [], some fault => .error (.goalPrefix prefixText fault)
  | [], none =>
    let i := b.identity
    if h : Descriptor.repeated (b.tasks.map fun t => t.name.text) = [] then
      .ok {
        groupId := i.groupId.getD [], artifactId := i.artifactId.getD [], version := i.version.getD [],
        name := i.name.getD [], description := i.description, goalPrefix := prefixText,
        dependencies := b.dependencies, tasks := b.tasks,
        distinct := Descriptor.repeated_eq_nil_iff.1 h }
    else
      .error (.invalid [⟨[], .repeatedTasks (Descriptor.repeated (b.tasks.map fun t => t.name.text))⟩])

def build (b : Builder) : Logged Descriptor := do
  let d ← Logged.ofExcept (b.build?.mapError .invalidDescriptor)
  Logged.write .debug
    ("Assembled descriptor " ++ d.coordinates ++ " with " ++ ofNat d.tasks.length ++ " task(s)")
  return d

end Builder

end TaskCatalog
