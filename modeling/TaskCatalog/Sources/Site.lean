import TaskCatalog.Catalog.Task
import TaskCatalog.Failure

/-!
Where declarations stand. Whatever is wrong with one is reported with the extractor that reads it
and the place in the sources.
-/

namespace TaskCatalog

open Text

structure Site where
  strategy : Text
  place : Text

def Value.ofText? : Option Text → Value
  | some t => .text t
  | none => .null

namespace Site

def fault (s : Site) (f : ExtractionFault) : Failure := .extraction ⟨f, some s.strategy, some s.place⟩

def fail {α : Type} (s : Site) (f : ExtractionFault) : Except Failure α := .error (s.fault f)

def ofLine (strategy : Text) (file : Path) (line : Nat) : Site :=
  ⟨strategy, file.text ++ ":" ++ ofNat line⟩

def parameter (s : Site) (fields : Record) : Except Failure Parameter :=
  match Parameter.ofRecord fields with
  | .ok p => .ok p
  | .error ps => s.fail (.invalidParameter ps)

/-- The fields of a task beside its parameters and its requirements. -/
def parts (s : Site) (fields : Record) (parameters : List Parameter) (requirements : Requirements) :
    TaskParts := {
  name := fields.required "name" Checked.goalName
  implementation := fields.required "implementation" Checked.nonempty
  description := fields.optionalText "description"
  parameters := .ok parameters
  phase := fields.optionalText "phase"
  requirements := .ok requirements
  configuration := fields.withDefault "configuration" [] Checked.mapping
  since := fields.optionalText "since"
  deprecated := fields.optionalText "deprecated"
  language := .ok (some s.strategy) }

/-- The task of a declaration's fields, its parameters and its requirements. -/
def task (s : Site) (fields : Record) (parameters : List Parameter) (requirements : Requirements) :
    Except Failure Task :=
  if ((fields.get? "configuration").getD .null).isCyclic then .error (.breakdown .selfContaining)
  else
    match Task.ofParts (s.parts fields parameters requirements) with
    | .ok t => .ok t
    | .error ps => s.fail (.invalidTask ps)

end Site

end TaskCatalog
