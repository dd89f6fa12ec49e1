import TaskCatalog.FileSystem.Listing
import TaskCatalog.Log
import TaskCatalog.Schema.Field
import TaskCatalog.Text.Lines

/-!
What extractors look for and where: the conventions that declarations follow, and the directories
that hold them.
-/

namespace TaskCatalog

open Text

structure Conventions where
  lifecyclePhases : List Text
  taskDecorator : Text
  parameterDecorator : Text
  scriptSuffixes : List Text
  sourceEncoding : Text
  deriving DecidableEq

namespace Conventions

def defaultPhases : List Text := [
  "pre-clean", "clean", "post-clean", "validate", "initialize", "generate-sources", "process-sources",
  "generate-resources", "process-resources", "compile", "process-classes", "generate-test-sources",
  "process-test-sources", "generate-test-resources", "process-test-resources", "test-compile",
  "process-test-classes", "test", "prepare-package", "package", "pre-integration-test",
  "integration-test", "post-integration-test", "verify", "install", "deploy", "pre-site", "site",
  "post-site", "site-deploy"]

def default : Conventions :=
  ⟨defaultPhases, "task", "parameter", [".tasks.yaml", ".tasks.yml"], "utf-8"⟩

def ofRecord (r : Record) : Checked Conventions :=
  Conventions.mk
    <$> r.withDefault "lifecycle_phases" defaultPhases (Checked.list .notTuple Checked.text)
    <*> r.withDefault "task_decorator" default.taskDecorator Checked.text
    <*> r.withDefault "parameter_decorator" default.parameterDecorator Checked.text
    <*> r.withDefault "script_suffixes" default.scriptSuffixes (Checked.list .notTuple Checked.text)
    <*> r.withDefault "source_encoding" default.sourceEncoding Checked.text

def isKnownPhase (c : Conventions) (phase : Text) : Bool := c.lifecyclePhases.contains phase

end Conventions

/-- The sources of a plugin: a file system, the directories in it that hold sources, and the conventions. -/
structure Sources where
  fs : FileSystem
  roots : List Path
  conventions : Conventions

namespace Sources

/-- The files with one of the suffixes, each with its root, in the order of the roots. -/
def files (s : Sources) (suffixes : List Text) : List (Path × Path) :=
  s.roots.flatMap fun root => (s.fs.filesBelow root suffixes).map (root, ·)

/-- The first path that a search of the roots cannot look for. -/
def fault? (s : Sources) : Option FileError := s.roots.findSome? s.fs.searchFault?

/-- The sources up to the first root that cannot be searched. -/
def searchable (s : Sources) : Sources :=
  { s with roots := s.roots.takeWhile fun root => (s.fs.searchFault? root).isNone }

end Sources

/-- The files that a search gives, each with its root, and the error that ends it before all roots are searched. -/
structure Search where
  files : List (Path × Path)
  fault? : Option FileError
  deriving DecidableEq

namespace Sources

def search (s : Sources) (suffixes : List Text) : Search := ⟨s.searchable.files suffixes, s.fault?⟩

/-- Does some work on what is found. Where the search ends with an error, so does the work. -/
def searched {α : Type} (work : Sources → Logged α) (s : Sources) : Logged α := do
  let a ← work s.searchable
  match s.fault? with
  | some e => Logged.fail (.file e)
  | none => return a

/-- Why a file gives no text. -/
inductive TextFault where
  | read (fault : ReadFault)
  | breakdown (b : Breakdown)

/-- The text of a file under an encoding's name, its line breaks as line feeds. -/
def readText (fs : FileSystem) (encoding : Text) (file : Path) : Except TextFault (List Char) :=
  match fs.read file with
  | .error e => .error (.read (.file e))
  | .ok bytes =>
    match Encoding.ofName? encoding with
    | none => .error (.breakdown .unknownEncoding)
    | some encoding =>
      match decode encoding bytes with
      | .ok cs => .ok (unifyLineBreaks cs)
      | .error (.undecodable u) => .error (.read (.undecodable u))
      | .error .missingByteOrder => .error (.breakdown .missingByteOrder)

end Sources

end TaskCatalog
