import TaskCatalog.Catalog.Descriptor
import TaskCatalog.Log
import TaskCatalog.Text.Lines
import TaskCatalog.Yaml.Reading

/-!
Projects: what the host build tells of a plugin, and its description in a metadata file.
-/

namespace TaskCatalog

open Text

structure ProjectDependency extends Dependency where
  scope : Text
  deriving DecidableEq

namespace ProjectDependency

def ofRecord (r : Record) : Checked ProjectDependency :=
  ProjectDependency.mk <$> Dependency.ofRecord r <*> r.withDefault "scope" "runtime" Checked.text

def ofValue (v : Value) : Checked ProjectDependency :=
  (Record.ofValue "ProjectDependency" v).andThen ofRecord

def plain (d : ProjectDependency) : Plain :=
  .map [("group_id", .text d.groupId), ("artifact_id", .text d.artifactId),
    ("version", .text d.version), ("type", .text d.type), ("scope", .text d.scope)]

end ProjectDependency

structure Project where
  packaging : Text
  groupId : Option Text
  artifactId : Option Text
  version : Option Text
  name : Option Text
  description : Option Text
  runtimeDependencies : List ProjectDependency
  sourceRoots : List Path
  baseDirectory : Path
  deriving DecidableEq

def Checked.path : Value → Checked Path
  | .text t => .ok (Path.ofText t)
  | _ => problem .notPath

namespace Project

def pluginPackaging : Text := "maven-plugin"

/-- A project of its record; relative paths in it are left as they are. -/
def ofRecord (current : Path) (r : Record) : Checked Project :=
  Project.mk <$> r.withDefault "packaging" pluginPackaging Checked.text
    <*> r.optionalText "group_id"
    <*> r.optionalText "artifact_id"
    <*> r.optionalText "version"
    <*> r.optionalText "name"
    <*> r.optionalText "description"
    <*> r.withDefault "runtime_dependencies" [] (Checked.list .notList ProjectDependency.ofValue)
    <*> r.withDefault "source_roots" [] (Checked.list .notList Checked.path)
    <*> r.withDefault "base_dir" current Checked.path

def isPlugin (p : Project) : Bool := p.packaging == pluginPackaging

def dependencies (p : Project) : List Dependency := p.runtimeDependencies.map (·.toDependency)

def plain (p : Project) : Plain :=
  .map [("packaging", .text p.packaging), ("group_id", .optionalText p.groupId),
    ("artifact_id", .optionalText p.artifactId), ("version", .optionalText p.version),
    ("name", .optionalText p.name), ("description", .optionalText p.description),
    ("runtime_dependencies", .list (p.runtimeDependencies.map ProjectDependency.plain)),
    ("source_roots", .list (p.sourceRoots.map fun r => .text r.text)),
    ("base_dir", .text p.baseDirectory.text)]

/-- The directories that are declared as source roots. A single text counts letter by letter, a mapping key by
key, be it the one around the declaration, met again. -/
def declaredRoots (around : List (Value × Value)) : Value → Except Breakdown (List Text)
  | .text t => .ok (t.map ([·]))
  | .list items | .tuple items | .set items => textsOf items
  | .map entries => textsOf (entries.map (·.1))
  | .again => textsOf (around.map (·.1))
  | _ => .error .wrongType
where
  textsOf : List Value → Except Breakdown (List Text)
    | [] => .ok []
    | .text t :: rest => (textsOf rest).map (t :: ·)
    | _ :: _ => .error .wrongType

end Project

/-- A fault of a metadata document that is none of its form. -/
def Yaml.Fault.breakdown? : Yaml.Fault → Option Breakdown
  | .malformed => none
  | .badCode huge => some (if huge then .tooLarge else .badValue)
  | .badNumber | .impossibleTime => some .badValue
  | .noDigits => some .noItem
  | .unknownTruth => some .unknownKey
  | .noTime => some .noAttribute

namespace Project

def sourceRootsKey : Text := "source_roots"

def baseDirectoryKey : Text := "base_dir"

def usualRoot : Text := "src"

/-- The mapping of a project file; an empty document stands for an empty mapping. -/
def fileEntries (fs : FileSystem) (file : Path) : Except Failure (List (Value × Value)) := do
  let bytes ← (fs.read file).mapError fun e => .configuration (.unreadableProject file e)
  let chars ← (decodeUtf8 bytes).mapError fun _ => .breakdown .undecodable
  match Yaml.read (unifyLineBreaks chars) with
  | .ok (.map entries) => .ok entries
  | .ok v => if v.isFalsy then .ok [] else .error (.configuration (.unmappedProject file))
  | .error fault =>
    .error (match fault.breakdown? with
      | some b => .breakdown b
      | none => .configuration (.malformedProject file))

/-- A project file's mapping with the file's directory, unless it states a directory. -/
def withBase (base : Path) (entries : List (Value × Value)) : List (Value × Value) :=
  if (Value.lookup? entries baseDirectoryKey).isSome then entries
  else Value.setEntry (.text baseDirectoryKey) (.text base.text) entries

/-- The directories that a mapping declares as source roots; the usual one if that counts as nothing. -/
def rootsOf (entries : List (Value × Value)) : Except Breakdown (List Text) :=
  let declared := (Value.lookup? entries sourceRootsKey).getD .null
  if declared.isFalsy then .ok [usualRoot] else declaredRoots entries declared

/-- The project of a file's mapping. Source roots are taken below the file's directory. -/
def ofEntries (fs : FileSystem) (file : Path) (entries : List (Value × Value)) :
    Except Failure Project := do
  let base := (fs.resolve file).parent
  let entries := withBase base entries
  let roots ← (rootsOf entries).mapError .breakdown
  match ofRecord base ⟨Value.setEntry (.text sourceRootsKey) (.list []) entries⟩ with
  | .ok p => .ok { p with sourceRoots := roots.map fun root => base ++ Path.ofText root }
  | .error ps => .error (.configuration (.invalidProject file ps))

def load (fs : FileSystem) (file : Path) : Logged Project := do
  Logged.write .debug ("Loading project from " ++ file.text)
  Logged.ofExcept ((fileEntries fs file).bind (ofEntries fs file))

end Project

end TaskCatalog
