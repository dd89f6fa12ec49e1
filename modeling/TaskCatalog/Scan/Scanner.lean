import TaskCatalog.Assembly.Builder
import TaskCatalog.Run.Options
import TaskCatalog.Sources.Conventions

/-!
Scanning: the selected extractors run one after the other in the order of their registration, and
their tasks are merged. A goal name that two of them declare is a conflict.
-/

namespace TaskCatalog

open Text

/-- One way to find declared tasks in sources. -/
structure Extractor where
  name : Text
  extract : Sources → Logged (List Task)

/-- The registered extractors under their names, in the order of registration. -/
abbrev Registry := List Extractor

namespace Registry

/-- Registers an extractor; a name that is taken keeps its place. -/
def register (e : Extractor) : Registry → Registry
  | [] => [e]
  | f :: rest => if f.name = e.name then e :: rest else f :: register e rest

def ofList (es : List Extractor) : Registry := es.foldl (fun r e => register e r) []

def names (r : Registry) : List Text := r.map (·.name)

def active (r : Registry) (s : Selection) : List Extractor :=
  match s with
  | none => r
  | some names => r.filter fun e => names.contains e.name

def select (r : Registry) (s : Selection) : Except ConfigurationFault Selection :=
  match s with
  | none => .ok none
  | some names =>
    match sort (distinct (names.filter fun n => !r.names.contains n)) with
    | [] => .ok (some names)
    | unknown => .error (.unknownExtractors unknown r.names)

end Registry

/-- A task and the name of the extractor that found it. -/
structure Found where
  task : Task
  strategy : Text

namespace Scan

/-- Adds the tasks of an extractor to those that were found, unless a goal name is taken. -/
def merge (strategy : Text) (found : List Found) : List Task → Except Failure (List Found)
  | [] => .ok found
  | t :: rest =>
    match found.find? fun f => f.task.name.text == t.name.text with
    | some f => .error (.mergeConflict t.name.text f.strategy strategy)
    | none => merge strategy (found ++ [⟨t, strategy⟩]) rest

/-- A failure of an extractor; an extraction that names no strategy is put down to it. -/
def credit (strategy : Text) : Failure → Failure
  | .extraction e => .extraction { e with strategy := some (e.strategy.getD strategy) }
  | f => f

def isExtraction : Failure → Bool
  | .extraction _ => true
  | _ => false

/-- What one extractor gives, and what is logged about it. -/
def apply (e : Extractor) (sources : Sources) : Logged (List Task) := do
  Logged.write .info ("Applying task extractor: " ++ e.name)
  let found := e.extract sources
  match found.result with
  | .ok tasks =>
    ⟨found.log, .ok ()⟩
    Logged.write .info ("Extractor '" ++ e.name ++ "' found " ++ ofNat tasks.length ++ " task(s)")
    return tasks
  | .error f =>
    let f := credit e.name f
    ⟨found.log, .ok ()⟩
    if isExtraction f then Logged.write .error ("Extractor '" ++ e.name ++ "' failed: " ++ f.logged)
    Logged.fail f

/-- The tasks of all the extractors, beyond those that were found before. -/
def gather (sources : Sources) (found : List Found) : List Extractor → Logged (List Found)
  | [] => Logged.pure found
  | e :: rest => do
    let tasks ← apply e sources
    let found ← Logged.ofExcept (merge e.name found tasks)
    gather sources found rest

def badExpression? (tasks : List Task) : Option DescriptorFault :=
  tasks.findSome? fun t => t.parameters.findSome? fun p =>
    p.expression.bind fun text =>
      (Expression.fault? text).map fun fault => .expression t.name.text p.name text fault

def validateExpressions (tasks : List Task) : Except Failure Unit :=
  match badExpression? tasks with
  | some fault => .error (.invalidDescriptor fault)
  | none => .ok ()

end Scan

/-- The tasks that the extractors find in the sources. -/
def scan (extractors : List Extractor) (sources : Sources) : Logged (List Task) := do
  let found ← Scan.gather sources [] extractors
  let tasks := found.map (·.task)
  if tasks.isEmpty then Logged.write .warning "No tasks found in plugin sources"
  Logged.ofExcept (Scan.validateExpressions tasks)
  return tasks

/-- The extractors that a scan calls: those up to the first that fails or conflicts. -/
def called (sources : Sources) (found : List Found) : List Extractor → List Text
  | [] => []
  | e :: rest =>
    e.name :: match (Scan.apply e sources).result with
      | .error _ => []
      | .ok tasks =>
        match Scan.merge e.name found tasks with
        | .ok found => called sources found rest
        | .error _ => []

/-- A scanner: what is registered, and what of it is selected. -/
structure Scanner where
  registry : Registry
  selection : Selection

namespace Scanner

def activeExtractors (s : Scanner) : List Extractor := s.registry.active s.selection

def activeNames (s : Scanner) : List Text := Registry.names s.activeExtractors

def select (s : Scanner) (selection : Selection) : Except Failure Scanner :=
  ((s.registry.select selection).mapError .configuration).map fun selection => { s with selection }

/-- The selection of the names that are stated; nothing stated selects everything. -/
def selectItems (s : Scanner) : Option Selection.Items → Except Failure Scanner
  | none => s.select none
  | some x => do s.select (some (← x.names))

/-- The selection that a value states; a single text counts letter by letter. -/
def selectValue (s : Scanner) (v : Value) : Except Failure Scanner :=
  match v with
  | .null => s.selectItems none
  | v => s.selectItems (some (.ofValue v))

def scan (s : Scanner) (sources : Sources) : Logged (List Task) :=
  TaskCatalog.scan s.activeExtractors sources

def populate (s : Scanner) (sources : Sources) (b : Builder) : Logged Builder := do
  return b.addTasks (← s.scan sources)

end Scanner

end TaskCatalog
