import TaskCatalog.Scan.Scanner
import TaskCatalog.Sources.Module
import TaskCatalog.Sources.Tag

/-!
Tasks that the documentation of classes declares by tags. Their parameters are the attributes that
have a documentation of their own, with a tag that says so.
-/

namespace TaskCatalog

open Text

namespace Documented

def strategy : Text := "docstring"

def goalTag : Text := "goal"

def parameterTag : Text := "parameter"

def taskTags : List Text := [
  goalTag, "phase", "requiresProject", "requiresOnline", "aggregator", "threadSafe",
  "requiresDependencyResolution", "since", "deprecated"]

def parameterTags : List Text := [parameterTag, "required", "readonly", "type", "since", "deprecated"]

def attributeNames : List Text := ["name", "expression", "default-value"]

/-- The class that a statement defines. -/
structure Definition where
  line : Nat
  name : Text
  body : List Code.Statement

/-- The classes of one depth after the other. -/
abbrev Layers := List (List Definition)

def Layers.beside : Layers → Layers → Layers
  | [], right => right
  | left, [] => left
  | l :: left, r :: right => (l ++ r) :: Layers.beside left right

mutual

def layersOf : Code.Statement → Layers
  | .classDefinition line name _ body => [⟨line, name, body⟩] :: layersIn body
  | .functionDefinition _ _ _ _ body | .compound body => [] :: layersIn body
  | .assignment .. | .annotated .. | .expression _ => []

def layersIn : List Code.Statement → Layers
  | [] => []
  | s :: rest => Layers.beside (layersOf s) (layersIn rest)

end

def classes (statements : List Code.Statement) : List Definition := (layersIn statements).flatten

/-- The attribute that a statement sets: its line, its name and its annotation. -/
def attribute? : Code.Statement → Option (Nat × Text × Option Code.Expression)
  | .annotated line (.name n) e => some (line, n, some e)
  | .assignment line [.name n] => some (line, n, none)
  | _ => none

def orElse (t : Option Text) (other : Text) : Text := (t.filter (· ≠ [])).getD other

/-- The parameter of an attribute with its documentation. -/
def parameter (s : Site) (name : Text) (hint : Option Text) (documentation : Text) :
    Except Failure Parameter := do
  let tags ← Tags.ofText s documentation
  match tags.unknown parameterTags with
  | [] => pure ()
  | unknown => s.fail (.unknownParameterTags unknown)
  let attributes ← Attributes.ofText s attributeNames ((tags.get? parameterTag).getD [])
  let required ← tags.flag s "required" false
  let readOnly ← tags.flag s "readonly" false
  s.parameter (Record.ofPairs [
    ("name", .text (orElse (attributes.get? "name") name)),
    ("type", .text (orElse (tags.get? "type") (orElse hint "str"))),
    ("required", .truth required), ("editable", .truth !readOnly),
    ("default_value", Value.ofText? (attributes.get? "default-value")),
    ("expression", Value.ofText? (attributes.get? "expression")),
    ("description", Value.ofText? (firstParagraph documentation)),
    ("since", Value.ofText? (tags.get? "since")),
    ("deprecated", Value.ofText? (tags.get? "deprecated"))])

/-- The parameter of a statement and the one after it, if they are an attribute and its documentation. -/
def parameter? (file : Path) (declaration next : Code.Statement) : Except Failure (Option Parameter) :=
  match attribute? declaration with
  | none => .ok none
  | some (line, name, hint) => do
    let hint ← hint.mapM Module.annotationText
    match (Module.textOf? next).map dedent with
    | none => pure none
    | some documentation =>
      if Tags.occurs parameterTag documentation then
        some <$> parameter (Site.ofLine strategy file line) name hint documentation
      else pure none

def parameters (file : Path) (body : List Code.Statement) : Except Failure (List Parameter) := do
  let found ← (body.zip (body.drop 1)).mapM fun (declaration, next) => parameter? file declaration next
  return found.filterMap id

def requirements (s : Site) (tags : Tags) : Except Failure Requirements :=
  return {
    requiresProject := ← tags.flag s "requiresProject" true
    requiresOnline := ← tags.flag s "requiresOnline" false
    aggregator := ← tags.flag s "aggregator" false
    threadSafe := ← tags.flag s "threadSafe" false
    dependencyResolution := (tags.get? "requiresDependencyResolution").filter (· ≠ []) }

def checkPhase (s : Site) (c : Conventions) : Option Text → Except Failure Unit
  | none => .ok ()
  | some phase => if c.isKnownPhase phase then .ok () else s.fail (.unknownPhase phase)

/-- The task of a class whose documentation names a goal. -/
def task (c : Conventions) (m : Module) (d : Definition) (documentation : Text) : Except Failure Task := do
  let s := Site.ofLine strategy m.file d.line
  let tags ← Tags.ofText s documentation
  match tags.unknown taskTags with
  | [] => pure ()
  | unknown => s.fail (.unknownTaskTags unknown)
  let goal := (tags.get? goalTag).getD []
  if goal.isEmpty then s.fail .namelessGoal
  checkPhase s c (tags.get? "phase")
  let rs ← requirements s tags
  let ps ← parameters m.file d.body
  let fields := Record.ofPairs [
    ("name", .text goal), ("implementation", .text (m.name ++ ":" ++ d.name)),
    ("description", Value.ofText? (firstParagraph documentation)),
    ("phase", Value.ofText? (tags.get? "phase")), ("since", Value.ofText? (tags.get? "since")),
    ("deprecated", Value.ofText? (tags.get? "deprecated"))]
  s.task fields ps rs

def classTasks (c : Conventions) (m : Module) (d : Definition) : Logged (List Task) :=
  match (Module.documentation? d.body).filter (Tags.occurs goalTag) with
  | none => pure []
  | some documentation => do
    let t ← Logged.ofExcept (task c m d documentation)
    Logged.write .debug (m.file.text ++ ": task '" ++ t.name.text ++ "' from " ++ d.name)
    return [t]

def fileTasks (s : Sources) (root file : Path) : Logged (List Task) := do
  match ← Logged.ofExcept (Module.read? s strategy ("@" ++ goalTag) root file) with
  | none => return []
  | some m => Logged.gather ((classes m.statements).map (classTasks s.conventions m))

def extract (s : Sources) : Logged (List Task) :=
  Logged.gather ((s.files [Module.suffix]).map fun (root, file) => fileTasks s root file)

end Documented

def Extractor.documented : Extractor := ⟨Documented.strategy, Sources.searched Documented.extract⟩

end TaskCatalog
