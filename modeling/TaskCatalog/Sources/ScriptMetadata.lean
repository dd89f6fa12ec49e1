import TaskCatalog.Catalog.Task

/-!
The metadata of scripts, which carry no declarations of their own: a document that lists tasks, the
scripts that they call and their parameters. Keys are written with dashes or with underscores; a key
that means nothing is an error.
-/

namespace TaskCatalog

open Text

structure ScriptParameter where
  name : Text
  type : Text
  required : Bool
  readOnly : Bool
  defaultValue : Option Text
  expression : Option Text
  description : Option Text
  since : Option Text
  deprecated : Option Text
  deriving DecidableEq

structure ScriptTask where
  goal : Text
  /-- The script's path, from the directory of the document on. -/
  call : Text
  description : Option Text
  phase : Option Text
  requirements : Requirements
  since : Option Text
  deprecated : Option Text
  parameters : List ScriptParameter
  configuration : List (Text × Value)

namespace Checked

/-- A number as the text that spells it; other values stay. -/
def numberAsText : Value → Checked Value
  | .whole n => if (Scalar.whole n).isSpelled then .ok (.text (ofInt n)) else problem .tooManyDigits
  | .real x => .ok (.text (Number.floatText .literal x))
  | v => .ok v

/-- A number or truth value as the text that spells it; other values stay. -/
def simpleAsText : Value → Checked Value
  | .truth b => .ok (.text (if b then "true" else "false"))
  | v => numberAsText v

end Checked

namespace ScriptParameter

def fields : List (List Text) := [
  ["name"], ["type"], ["required"], ["readonly"], ["default-value", "default_value"], ["expression"],
  ["description"], ["since"], ["deprecated"]]

def ofRecord (r : Record) : Checked ScriptParameter :=
  Checked.closed (r.extras fields) (ScriptParameter.mk <$> r.required "name" Checked.text
    <*> r.withDefault "type" "str" Checked.text
    <*> r.withDefault "required" false Checked.truth
    <*> r.withDefault "readonly" false Checked.truth
    <*> r.field ["default-value", "default_value"] (some none) simpleText
    <*> r.optionalText "expression"
    <*> r.optionalText "description"
    <*> r.withDefault "since" none simpleText
    <*> r.optionalText "deprecated")
where
  simpleText (v : Value) : Checked (Option Text) :=
    (Checked.simpleAsText v).andThen (Checked.optional Checked.text)

def ofValue (v : Value) : Checked ScriptParameter :=
  (Record.ofValue "ScriptParameter" v).andThen ofRecord

end ScriptParameter

namespace ScriptTask

def projectNames : List Text := ["requires-project", "requires_project"]

def onlineNames : List Text := ["requires-online", "requires_online"]

def threadNames : List Text := ["thread-safe", "thread_safe"]

def resolutionNames : List Text := ["requires-dependency-resolution", "dependency_resolution"]

def fields : List (List Text) := [
  ["goal"], ["call"], ["description"], ["phase"], projectNames, onlineNames, ["aggregator"],
  threadNames, resolutionNames, ["since"], ["deprecated"], ["parameters"], ["configuration"]]

def requirementsOf (r : Record) : Checked Requirements :=
  Requirements.mk <$> r.field projectNames (some true) Checked.truth
    <*> r.field onlineNames (some false) Checked.truth
    <*> r.withDefault "aggregator" false Checked.truth
    <*> r.field threadNames (some false) Checked.truth
    <*> r.field resolutionNames (some none) (Checked.optional Checked.text)

def ofRecord (r : Record) : Checked ScriptTask :=
  Checked.closed (r.extras fields) (ScriptTask.mk <$> r.required "goal" Checked.text
    <*> r.required "call" Checked.text
    <*> r.optionalText "description"
    <*> r.optionalText "phase"
    <*> requirementsOf r
    <*> r.withDefault "since" none (fun v => (Checked.numberAsText v).andThen (Checked.optional Checked.text))
    <*> r.optionalText "deprecated"
    <*> r.withDefault "parameters" [] (Checked.list .notList ScriptParameter.ofValue)
    <*> r.withDefault "configuration" [] Checked.mapping)

def ofValue (v : Value) : Checked ScriptTask := (Record.ofValue "ScriptTask" v).andThen ofRecord

def ofDocument : Value → Checked (List ScriptTask)
  | .null => .ok []
  | v => (Record.ofValue "ScriptMetadata" v).andThen fun r =>
      Checked.closed (r.extras [["tasks"]]) (r.withDefault "tasks" [] (Checked.list .notList ofValue))

end ScriptTask

end TaskCatalog
