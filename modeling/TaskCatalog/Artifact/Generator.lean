import TaskCatalog.Artifact.Document
import TaskCatalog.Artifact.HelpModule
import TaskCatalog.Artifact.Markdown
import TaskCatalog.Log
import TaskCatalog.Yaml.Writing

/-!
Generators: each makes one kind of artifact from a finished descriptor and writes its files one after
the other, up to the first that cannot be written.
-/

namespace TaskCatalog

open Text

inductive Generator where
  | descriptor
  | markdown
  | help
  deriving DecidableEq, Repr

namespace Generator

def all : List Generator := [descriptor, markdown, help]

def name : Generator → Text
  | descriptor => "descriptor"
  | markdown => "markdown"
  | help => "help"

def ofName? (t : Text) : Option Generator := all.find? fun g => g.name == t

theorem ofName?_name (g : Generator) : ofName? g.name = some g := by cases g <;> decide

def descriptorFile : Text := "plugin.yaml"

def helpFile : Text := "help_task.py"

def artifacts (g : Generator) (d : Descriptor) : Except PlainFault (List (Text × Text)) :=
  match g with
  | descriptor => do
    let entries ← d.document
    if Yaml.Writing.entriesSpelled entries then return [(descriptorFile, Yaml.write entries)]
    else throw .tooLong
  | markdown => .ok (Markdown.pages d)
  | help => .ok [(helpFile, HelpModule.text d)]

end Generator

/-- Writes a text; the file is emptied before its text is encoded. -/
def FileSystem.writeText (fs : FileSystem) (p : Path) (t : Text) : FileSystem × Except WriteFault Unit :=
  match fs.write p [] with
  | .error e => (fs, .error (.file e))
  | .ok opened =>
    match encodeUtf8 t with
    | .error u => (opened, .error (.unencodable u))
    | .ok bytes =>
      match opened.write p bytes with
      | .error e => (opened, .error (.file e))
      | .ok written => (written, .ok ())

/-- Writes texts below a directory up to the first that fails. -/
def FileSystem.writeTexts (fs : FileSystem) (directory : Path) :
    List (Text × Text) → FileSystem × Except WriteFault (List Path)
  | [] => (fs, .ok [])
  | (name, t) :: rest =>
    let p := directory ++ (⟨false, [name]⟩ : Path)
    match fs.writeText p t with
    | (fs, .error e) => (fs, .error e)
    | (fs, .ok ()) =>
      let (fs, written) := fs.writeTexts directory rest
      (fs, written.map (p :: ·))

/-- The file system after some work, and what came of it. -/
structure Written (α : Type) where
  fs : FileSystem
  outcome : Logged α

namespace Generator

/-- A fault that keeps artifacts from being written, as a failure of the generator. -/
def failure (g : Generator) (directory : Path) : WriteFault → Failure
  | .plain (.unsupported _) | .plain (.unsupportedKey _) => .breakdown .notPlain
  | .plain .tooLong => .breakdown .badValue
  | cause => .generation (some g.name) (.unwritten directory cause)

/-- Writes the artifacts of a descriptor below a directory. -/
def execute (g : Generator) (fs : FileSystem) (directory : Path) (d : Descriptor) :
    Written (List Path) :=
  let opening := Logged.write .info ("Generating " ++ g.name ++ " output in " ++ directory.text)
  match g.artifacts d with
  | .error fault => ⟨fs, opening.bind fun _ => Logged.fail (g.failure directory (.plain fault))⟩
  | .ok files =>
    let (fs, written) := fs.writeTexts directory files
    ⟨fs, opening.bind fun _ => match written with
      | .error cause => Logged.fail (g.failure directory cause)
      | .ok paths => ⟨paths.map fun p => ⟨.debug, "Wrote " ++ p.text⟩, .ok paths⟩⟩

end Generator

end TaskCatalog
