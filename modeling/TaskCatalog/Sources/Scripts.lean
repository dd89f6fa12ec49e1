import TaskCatalog.Project
import TaskCatalog.Scan.Scanner
import TaskCatalog.Sources.ScriptMetadata
import TaskCatalog.Sources.Site

/-!
Tasks of scripts, from the metadata files beside them.
-/

namespace TaskCatalog

open Text

namespace Scripts

def strategy : Text := "script"

def entries (s : Sources) (file : Path) : Except Failure (List ScriptTask) :=
  let site : Site := ⟨strategy, file.text⟩
  match Sources.readText s.fs s.conventions.sourceEncoding file with
  | .error (.read cause) => site.fail (.unreadableMetadata cause)
  | .error (.breakdown b) => .error (.breakdown b)
  | .ok chars =>
    match Yaml.read chars with
    | .error fault =>
      .error (match fault.breakdown? with
        | some b => .breakdown b
        | none => site.fault .malformedMetadata)
    | .ok document =>
      match ScriptTask.ofDocument document with
      | .ok tasks => .ok tasks
      | .error ps => site.fail (.invalidMetadata ps)

def parameterFields (p : ScriptParameter) : Record := Record.ofPairs [
  ("name", .text p.name), ("type", .text p.type), ("required", .truth p.required),
  ("editable", .truth !p.readOnly), ("default_value", Value.ofText? p.defaultValue),
  ("expression", Value.ofText? p.expression), ("description", Value.ofText? p.description),
  ("since", Value.ofText? p.since), ("deprecated", Value.ofText? p.deprecated)]

def taskFields (e : ScriptTask) (implementation : Text) : Record := Record.ofPairs [
  ("name", .text e.goal), ("implementation", .text implementation),
  ("description", Value.ofText? e.description), ("phase", Value.ofText? e.phase),
  ("configuration", .map (e.configuration.map fun (k, v) => (.text k, v))),
  ("since", Value.ofText? e.since), ("deprecated", Value.ofText? e.deprecated)]

/-- The task of an entry. Its implementation is the script's path from the source root on. -/
def task (s : Sources) (root file : Path) (e : ScriptTask) : Except Failure Task := do
  let site : Site := ⟨strategy, file.text ++ " (goal " ++ e.goal ++ ")"⟩
  let script := file.parent ++ Path.ofText e.call
  if !(← (s.fs.hasFile script).mapError .file) then site.fail (.missingScript e.call)
  match e.phase with
  | some phase => if !s.conventions.isKnownPhase phase then site.fail (.unknownPhase phase)
  | none => pure ()
  let parameters ← e.parameters.mapM fun p => site.parameter (parameterFields p)
  match (s.fs.resolve script).relativeTo? (s.fs.resolve root) with
  | none => site.fail (.outsideScript e.call)
  | some parts => site.task (taskFields e (Path.text ⟨false, parts⟩)) parameters e.requirements

def fileTasks (s : Sources) (root file : Path) : Logged (List Task) := do
  let es ← Logged.ofExcept (entries s file)
  Logged.write .debug (file.text ++ ": " ++ ofNat es.length ++ " script task(s)")
  Logged.ofExcept (es.mapM (task s root file))

def extract (s : Sources) : Logged (List Task) :=
  Logged.gather ((s.files s.conventions.scriptSuffixes).map fun (root, file) => fileTasks s root file)

end Scripts

def Extractor.scripts : Extractor := ⟨Scripts.strategy, Sources.searched Scripts.extract⟩

end TaskCatalog
