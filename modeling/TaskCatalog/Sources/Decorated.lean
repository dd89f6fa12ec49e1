import TaskCatalog.Code.Evaluation
import TaskCatalog.Code.Print
import TaskCatalog.Scan.Scanner
import TaskCatalog.Sources.Module

/-!
Tasks that decorators declare, on classes, on functions and on the members of classes. The arguments
of a decorator are literals.
-/

namespace TaskCatalog

open Text

namespace Decorated

def strategy : Text := "decorator"

/-- The package through which the decorators can be reached. -/
def packageName : Text := "plugin_tools"

def rootName? : Code.Expression → Option Text
  | .name n => some n
  | .member e _ => rootName? e
  | _ => none

/-- The name of a decorator that stands by itself or comes from the package. -/
def decoratorName? (e : Code.Expression) : Option Text :=
  let target := match e with
    | .call f _ _ => f
    | e => e
  match target with
  | .name n => some n
  | .member e n => if rootName? e = some packageName then some n else none
  | _ => none

/-- The arguments of a decorator by their names. -/
abbrev Options := List (Text × Value)

def Options.get? (os : Options) (name : Text) : Option Value := os.lookup name

/-- The value under a name, unless it counts as nothing. -/
def Options.truthy? (os : Options) (name : Text) : Option Value :=
  (os.get? name).filter fun v => !v.isFalsy

def Options.value (os : Options) (name : Text) : Value := (os.get? name).getD .null

def requirementNames : List Text := [
  "requires_project", "requires_online", "aggregator", "thread_safe", "dependency_resolution"]

def taskNames : List Text :=
  requirementNames ++ ([
    "name", "description", "phase", "configuration", "since", "deprecated"] : List Text)

def parameterNames : List Text := [
  "name", "type", "required", "readonly", "default", "expression", "description", "since",
  "deprecated"]

def literal (s : Site) (argument : Text) (e : Code.Expression) : Except Failure Value :=
  match e.value, e.text? with
  | .ok v, _ => .ok v
  | .error .tooLarge, _ => .error (.breakdown .tooLarge)
  | .error .notLiteral, some code => s.fail (.notLiteral argument code)
  | .error .notLiteral, none => .error (.breakdown .badValue)

/-- Adds keyword arguments to the options, each of an allowed name and only once. -/
def addKeywords (s : Site) (allowed : List Text) (os : Options) : List Code.Keyword → Except Failure Options
  | [] => .ok os
  | .mk none _ :: _ => s.fail .unpacking
  | .mk (some name) e :: rest => do
    if !allowed.contains name then s.fail (.unknownArgument name)
    if (os.get? name).isSome then s.fail (.repeatedArgument name)
    let v ← literal s name e
    addKeywords s allowed (os ++ [(name, v)]) rest

/-- The options of a decorator; a positional argument is the name. -/
def options (s : Site) (allowed : List Text) : Code.Expression → Except Failure Options
  | .call _ positional keywords => do
    let os : Options ← match positional with
      | [] => .ok []
      | [e] => (literal s "name" e).map fun v => [("name", v)]
      | _ => s.fail .severalPositional
    addKeywords s allowed os keywords
  | _ => .ok []

/-- The annotations of a class's members, or of a function's parameters, by name. -/
abbrev Annotations := List (Text × Text)

def memberAnnotations (body : List Code.Statement) : Except Failure Annotations :=
  (body.filterMap fun
    | .annotated _ (.name n) e => some (n, e)
    | _ => none).mapM fun (n, e) => (Module.annotationText e).map (n, ·)

def parameterAnnotations (signature : Code.Signature) : Except Failure Annotations :=
  (signature.binders.filterMap fun b => b.hint.map (b.name, ·)).mapM fun (n, e) =>
    (Module.annotationText e).map (n, ·)

/-- The type that the last annotation of a name states. -/
def annotatedType (annotations : Annotations) (name : Text) : Text :=
  ((annotations.reverse.lookup name)).getD "str"

def parameterFields (annotations : Annotations) (os : Options) (name : Text) : Record := Record.ofPairs [
  ("name", .text name),
  ("type", (os.truthy? "type").getD (.text (annotatedType annotations name))),
  ("required", (os.get? "required").getD (.truth false)),
  ("editable", .truth ((os.truthy? "readonly").isNone)),
  ("default_value", Value.ofText? (os.value "default").storedText),
  ("expression", os.value "expression"), ("description", os.value "description"),
  ("since", os.value "since"), ("deprecated", os.value "deprecated")]

def parameter (s : Site) (annotations : Annotations) (e : Code.Expression) : Except Failure Parameter := do
  let os ← options s parameterNames e
  match os.truthy? "name" with
  | none => s.fail .namelessParameter
  | some (.text name) =>
    if (os.value "default").isSpelled then s.parameter (parameterFields annotations os name)
    else .error (.breakdown .badValue)
  | some _ => s.fail .parameterNameNoText

/-- What a decorated class or function is. -/
structure Definition where
  line : Nat
  name : Text
  decorators : List Code.Expression
  annotations : Except Failure Annotations
  documentation : Option Text

def Definition.decoratedBy (d : Definition) (name : Text) : List Code.Expression :=
  d.decorators.filter fun e => decoratorName? e == some name

def taskFields (os : Options) (d : Definition) (implementation : Text) : Record := Record.ofPairs [
  ("name", (os.truthy? "name").getD (.text (defaultGoalName d.name))),
  ("implementation", .text implementation),
  ("description", (os.truthy? "description").getD (Value.ofText? (d.documentation.bind firstParagraph))),
  ("phase", os.value "phase"),
  ("configuration", (os.truthy? "configuration").getD (.map [])),
  ("since", os.value "since"), ("deprecated", os.value "deprecated")]

def checkPhase (s : Site) (c : Conventions) : Value → Except Failure Unit
  | .null => .ok ()
  | .text phase => if c.isKnownPhase phase then .ok () else s.fail (.unknownPhase phase)
  | v => if v.isSpelled then s.fail (.unknownPhase v.shown) else .error (.breakdown .badValue)

def requirements (s : Site) (os : Options) : Except Failure Requirements :=
  match Requirements.ofRecord (Record.ofPairs (os.filter fun (n, _) => requirementNames.contains n)) with
  | .ok r => .ok r
  | .error ps => s.fail (.invalidRequirements ps)

def task? (c : Conventions) (m : Module) (scope : List Text) (d : Definition) :
    Except Failure (Option Task) :=
  let s := Site.ofLine strategy m.file d.line
  let parameters := if c.parameterDecorator = c.taskDecorator then [] else d.decoratedBy c.parameterDecorator
  match d.decoratedBy c.taskDecorator with
  | [] => if parameters.isEmpty then .ok none else s.fail (.undecorated d.name c.taskDecorator)
  | [e] => do
    let os ← options s taskNames e
    checkPhase s c (os.value "phase")
    let annotations ← d.annotations
    let ps ← parameters.mapM (parameter s annotations)
    let rs ← requirements s os
    let implementation := m.name ++ ":" ++ join "." (scope ++ [d.name])
    return some (← s.task (taskFields os d implementation) ps rs)
  | _ => Site.fail ⟨strategy, m.file.text⟩ (.decoratedTwice d.name)

/-- The tasks among statements, and among those of their classes. -/
def tasksIn (c : Conventions) (m : Module) (scope : List Text) :
    List Code.Statement → Except Failure (List Task)
  | [] => .ok []
  | .classDefinition line name decorators body :: rest => do
    let t ← task? c m scope
      ⟨line, name, decorators, memberAnnotations body, Module.documentation? body⟩
    let inner ← tasksIn c m (scope ++ [name]) body
    return t.toList ++ inner ++ (← tasksIn c m scope rest)
  | .functionDefinition line name decorators signature body :: rest => do
    let t ← task? c m scope
      ⟨line, name, decorators, parameterAnnotations signature, Module.documentation? body⟩
    return t.toList ++ (← tasksIn c m scope rest)
  | _ :: rest => tasksIn c m scope rest

def fileTasks (s : Sources) (root file : Path) : Logged (List Task) := do
  match ← Logged.ofExcept (Module.read? s strategy s.conventions.taskDecorator root file) with
  | none => return []
  | some m =>
    let ts ← Logged.ofExcept (tasksIn s.conventions m [] m.statements)
    if !ts.isEmpty then
      Logged.write .debug (file.text ++ ": " ++ ofNat ts.length ++ " decorated task(s)")
    return ts

def extract (s : Sources) : Logged (List Task) :=
  Logged.gather ((s.files [Module.suffix]).map fun (root, file) => fileTasks s root file)

end Decorated

def Extractor.decorated : Extractor := ⟨Decorated.strategy, Sources.searched Decorated.extract⟩

end TaskCatalog
