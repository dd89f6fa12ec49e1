import TaskCatalog.Catalog.Descriptor

/-!
The descriptor as a document for machines. What is not set is left out; truth values always stay.
-/

namespace TaskCatalog

open Text

namespace Plain

def isUnset : Plain → Bool
  | null => true
  | list items => items.isEmpty
  | map entries => entries.isEmpty
  | _ => false

def compact (entries : List (Text × Plain)) : List (Text × Plain) :=
  entries.filter fun (_, v) => !v.isUnset

end Plain

open Plain

def Parameter.document (p : Parameter) : Plain :=
  .map (compact [("name", .text p.name), ("type", .text p.type), ("required", .truth p.required),
    ("editable", .truth p.editable), ("default-value", .optionalText p.defaultValue),
    ("expression", .optionalText p.expression), ("description", .optionalText p.description),
    ("since", .optionalText p.since), ("deprecated", .optionalText p.deprecated)])

def Task.document (t : Task) : Except PlainFault Plain :=
  t.configurationPlain.map fun configuration =>
    .map (compact [("goal", .text t.name.text), ("description", .optionalText t.description),
      ("implementation", .text t.implementation), ("language", .optionalText t.language),
      ("phase", .optionalText t.phase), ("requires-project", .truth t.requirements.requiresProject),
      ("requires-online", .truth t.requirements.requiresOnline),
      ("aggregator", .truth t.requirements.aggregator),
      ("thread-safe", .truth t.requirements.threadSafe),
      ("requires-dependency-resolution", .optionalText t.requirements.dependencyResolution),
      ("since", .optionalText t.since), ("deprecated", .optionalText t.deprecated),
      ("parameters", .list (t.parameters.map Parameter.document)), ("configuration", configuration)])

def Dependency.document (d : Dependency) : Plain :=
  .map [("group-id", .text d.groupId), ("artifact-id", .text d.artifactId),
    ("version", .text d.version), ("type", .text d.type)]

def Descriptor.document (d : Descriptor) : Except PlainFault (List (Text × Plain)) :=
  (d.tasks.mapM Task.document).map fun tasks =>
    compact [("name", .text d.name), ("description", .optionalText d.description),
      ("group-id", .text d.groupId), ("artifact-id", .text d.artifactId),
      ("version", .text d.version), ("goal-prefix", .text d.goalPrefix), ("tasks", .list tasks),
      ("dependencies", .list (d.dependencies.map Dependency.document))]

end TaskCatalog
