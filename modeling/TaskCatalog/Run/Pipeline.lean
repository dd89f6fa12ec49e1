import TaskCatalog.Artifact.Generator
import TaskCatalog.Scan.Scanner

/-!
A run: the goal prefix is settled, the sources are scanned, the descriptor is assembled, and one
generator writes its artifacts. A project that is no plugin is skipped.
-/

namespace TaskCatalog

open Text

inductive State where
  | idle
  | prefixResolved
  | scanned
  | assembled
  | generated
  | done
  | failed
  deriving DecidableEq, Repr

namespace State

def all : List State := [idle, prefixResolved, scanned, assembled, generated, done, failed]

def name : State → Text
  | idle => "idle"
  | prefixResolved => "prefix_resolved"
  | scanned => "scanned"
  | assembled => "assembled"
  | generated => "generated"
  | done => "done"
  | failed => "failed"

def ofName? (t : Text) : Option State := all.find? fun s => s.name == t

theorem ofName?_name (s : State) : ofName? s.name = some s := by cases s <;> decide

/-- The states after a state as long as nothing fails. -/
def next : State → List State
  | idle => [prefixResolved, done]
  | prefixResolved => [scanned]
  | scanned => [assembled]
  | assembled => [generated]
  | generated => [done]
  | done | failed => []

def isTerminal (s : State) : Bool := s.next.isEmpty

/-- Whether a run may move from one state to another; it may fail until it has ended. -/
def allows (s t : State) : Bool := s.next.contains t || (t == failed && !s.isTerminal)

end State

structure RunResult where
  state : State
  skipped : Bool
  goalPrefix : Option Text
  descriptor : Option Descriptor
  artifacts : List Path
  warnings : List Text
  deriving DecidableEq

namespace RunResult

def initial : RunResult := ⟨.idle, false, none, none, [], []⟩

def success (r : RunResult) : Bool := r.state == .done

def advance (r : RunResult) (s : State) : Logged RunResult :=
  if r.state.allows s then do
    Logged.write .debug ("Pipeline state: " ++ r.state.name ++ " -> " ++ s.name)
    return { r with state := s }
  else
    Logged.fail (.runtime ("Illegal pipeline transition " ++ r.state.name ++ " -> " ++ s.name))

def taskNames (r : RunResult) : List Text :=
  match r.descriptor with
  | some d => d.taskNames
  | none => []

def plain (r : RunResult) : Plain :=
  .map [("state", .text r.state.name), ("skipped", .truth r.skipped),
    ("goal_prefix", .optionalText r.goalPrefix), ("tasks", .list (r.taskNames.map .text)),
    ("artifacts", .list (r.artifacts.map fun p => .text p.text)),
    ("warnings", .list (r.warnings.map .text))]

end RunResult

/-- How a run ended: the files, the result as far as it got, what was logged, and the failure if it failed. -/
structure Run where
  fs : FileSystem
  result : RunResult
  log : Log
  failure : Option Failure

namespace Run

def start (fs : FileSystem) : Run := ⟨fs, .initial, [], none⟩

/-- Ends in failure; the state that was reached is logged. -/
def fail (r : Run) (f : Failure) : Run :=
  let message := "Plugin descriptor pipeline failed in state " ++ r.result.state.name ++ ": " ++ f.logged
  let ended := r.result.advance .failed
  { r with
    result := ended.result.toOption.getD r.result
    log := r.log ++ ⟨.error, message⟩ :: ended.log
    failure := some f }

def stage {α : Type} (r : Run) (work : Logged α) (next : α → Run → Run) : Run :=
  let r := { r with log := r.log ++ work.log }
  match work.result with
  | .ok a => next a r
  | .error f => r.fail f

def reach (r : Run) (s : State) (next : Run → Run) : Run :=
  r.stage (r.result.advance s) fun result r => next { r with result }

end Run

/-- What a run is given. -/
structure RunRequest where
  project : Project
  output : Path
  options : RunOptions
  kind : Text

structure Pipeline where
  registry : Registry
  conventions : Conventions

namespace Pipeline

def generator (kind : Text) : Except Failure Generator :=
  match Generator.ofName? kind with
  | some g => .ok g
  | none => .error (.configuration (.unknownGenerator kind (Generator.all.map (·.name))))

def settlePrefix (q : RunRequest) : Logged GoalPrefix :=
  match GoalPrefix.resolve q.project.artifactId q.options.goalPrefix with
  | .error (fault, value) => Logged.fail (.configuration (.goalPrefix value fault))
  | .ok p => ⟨p.warning.toList.map (LogRecord.mk .warning), .ok p⟩

def sources (p : Pipeline) (fs : FileSystem) (q : RunRequest) : Sources :=
  ⟨fs, q.project.sourceRoots, p.conventions⟩

def assemble (q : RunRequest) (goalPrefix : Text) (tasks : List Task) : Logged Descriptor :=
  (((Builder.empty.withGoalPrefix (some goalPrefix)).addTasks tasks).withIdentity q.project.identity
    |>.withDependencies q.project.dependencies).build

def skip (fs : FileSystem) (q : RunRequest) : Run :=
  let message := "Skipping project with packaging '" ++ q.project.packaging ++ "' (expected '"
    ++ Project.pluginPackaging ++ "')"
  let r := Run.start fs
  { r with log := [⟨.info, message⟩], result := { r.result with skipped := true } }.reach .done id

def generate (g : Generator) (q : RunRequest) (d : Descriptor) (r : Run) : Run :=
  let written := g.execute r.fs q.output d
  { r with fs := written.fs }.stage written.outcome fun artifacts r =>
    { r with result := { r.result with artifacts } }.reach .generated fun r =>
      r.reach .done fun r =>
        let message := "Generated " ++ ofNat artifacts.length ++ " " ++ g.name ++ " artifact(s) for "
          ++ ofNat d.tasks.length ++ " task(s)"
        { r with log := r.log ++ [LogRecord.mk .info message] }

def run (p : Pipeline) (fs : FileSystem) (q : RunRequest) : Run :=
  if q.project.isPlugin then
    (Run.start fs).stage (Logged.ofExcept (generator q.kind)) fun g r =>
    r.stage (Logged.ofExcept (Scanner.select (Scanner.mk p.registry none) q.options.extractors)) fun scanner r =>
    r.stage (settlePrefix q) fun goalPrefix r =>
    { r with result := { r.result with
        goalPrefix := some goalPrefix.value, warnings := goalPrefix.warning.toList } }.reach .prefixResolved fun r =>
    r.stage (scanner.scan (p.sources fs q)) fun tasks r =>
    r.reach .scanned fun r =>
    r.stage (assemble q goalPrefix.value tasks) fun d r =>
    { r with result := { r.result with descriptor := some d } }.reach .assembled fun r =>
    generate g q d r
  else skip fs q

end Pipeline

end TaskCatalog
