import TaskCatalog.Schema.Field
import TaskCatalog.Value.Plain

/-!
Parameters of a task.
-/

namespace TaskCatalog

open Text

structure Parameter where
  name : { t : Text // t ≠ [] }
  type : Text
  required : Bool
  editable : Bool
  defaultValue : Option Text
  expression : Option Text
  description : Option Text
  since : Option Text
  deprecated : Option Text
  deriving DecidableEq

namespace Parameter

def ofRecord (r : Record) : Checked Parameter :=
  Parameter.mk <$> r.required "name" Checked.nonempty
    <*> r.withDefault "type" "str" Checked.text
    <*> r.withDefault "required" false Checked.truth
    <*> r.withDefault "editable" true Checked.truth
    <*> r.optionalText "default_value"
    <*> r.optionalText "expression"
    <*> r.optionalText "description"
    <*> r.optionalText "since"
    <*> r.optionalText "deprecated"

def ofValue (v : Value) : Checked Parameter := (Record.ofValue "Parameter" v).andThen ofRecord

end Parameter

def Plain.optionalText : Option Text → Plain
  | none => .null
  | some t => .text t

def Parameter.plain (p : Parameter) : Plain :=
  .map [("name", .text p.name), ("type", .text p.type), ("required", .truth p.required),
    ("editable", .truth p.editable), ("default_value", .optionalText p.defaultValue),
    ("expression", .optionalText p.expression), ("description", .optionalText p.description),
    ("since", .optionalText p.since), ("deprecated", .optionalText p.deprecated)]

end TaskCatalog
