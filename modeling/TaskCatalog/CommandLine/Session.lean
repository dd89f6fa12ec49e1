import TaskCatalog.CommandLine.Request
import TaskCatalog.Console.Table
import TaskCatalog.Run.Pipeline
import TaskCatalog.Run.Settings
import TaskCatalog.Sources.Decorated
import TaskCatalog.Sources.Documented
import TaskCatalog.Sources.Scripts

/-!
A session on the command line: what a command prints, what it does to the files, and how it ends.
-/

namespace TaskCatalog

open Text

def version : Text := "0.1.0"

/-- The extractors at hand, in the order of registration. -/
def Registry.standard : Registry := [.decorated, .documented, .scripts]

def Pipeline.ofSettings (s : Settings) : Pipeline :=
  ⟨.standard, { Conventions.default with sourceEncoding := s.sourceEncoding }⟩

inductive Ending where
  | finished
  /-- The arguments were misused. -/
  | misused
  /-- A failure that was reported. -/
  | refused (f : Failure)
  /-- A failure that no command foresees. -/
  | broken (f : Failure)

def Ending.exitCode : Ending → Nat
  | finished => 0
  | misused => 2
  | refused _ | broken _ => 1

structure Session where
  fs : FileSystem
  /-- The lines that were printed. -/
  lines : List Text
  /-- The records that the terminal shows beside them. -/
  log : Log
  ending : Ending

namespace Session

def columns : Nat := 200

def start (fs : FileSystem) : Session := ⟨fs, [], [], .finished⟩

def finish (s : Session) (e : Ending) : Session := { s with ending := e }

/-- Goes on with a result; a failure breaks the session. -/
def after {α : Type} (r : Except Failure α) (s : Session) (next : α → Session → Session) : Session :=
  match r with
  | .ok a => next a s
  | .error f => s.finish (.broken f)

def print (r : Except Failure (List Text)) (s : Session) (next : Session → Session) : Session :=
  s.after r fun lines s => next { s with lines := s.lines ++ lines }

def printed (t : Text) : Except Failure (List Text) := (Markup.plain t).map (Paragraph.wrap columns)

/-- Reports a failure that is the catalog's own or the file system's. -/
def fail (f : Failure) (s : Session) : Session :=
  if f.isStated || f.isFile then
    s.print (printed ("[bold red]Error:[/bold red] " ++ Markup.escape (f.message?.getD [])))
      fun s => s.finish (.refused f)
  else s.finish (.broken f)

def attempt {α : Type} (r : Except Failure α) (s : Session) (next : α → Session → Session) : Session :=
  match r with
  | .ok a => next a s
  | .error f => s.fail f

def capitalized : Text → Text
  | .scalar c :: rest => .scalar c.toUpper :: rest
  | t => t

def registeredTable (title role : Text) (names : List Text) : Table := {
  title
  columns := [⟨"Name", false⟩, ⟨"Implementation", false⟩]
  rows := names.map fun name => [name, capitalized name ++ role] }

def taskRow (d : Descriptor) (t : Task) : List Text :=
  [d.qualifiedGoal t.name.text, t.phase.getD "-", ofNat t.parameters.length, t.language.getD "-"]

def taskTable (d : Descriptor) : Table := {
  title := Markup.escape (d.name ++ " (" ++ d.coordinates ++ ")")
  columns := [⟨"Goal", false⟩, ⟨"Phase", false⟩, ⟨"Parameters", true⟩, ⟨"Declared in", false⟩]
  rows := d.tasks.map (taskRow d) }

def artifactPanel (kind : Text) (artifacts : List Path) : Panel := {
  title := kind ++ " artifacts"
  content :=
    if artifacts.isEmpty then "No files written"
    else Markup.escape (join [.scalar '\n'] (artifacts.map Path.text)) }

def printWarnings (s : Session) (next : Session → Session) : List Text → Session
  | [] => next s
  | w :: rest =>
    s.print (printed ("[yellow]Warning:[/yellow] " ++ Markup.escape w)) fun s => printWarnings s next rest

def report (q : GenerateRequest) (p : Project) (r : RunResult) (s : Session) : Session :=
  if r.skipped then
    s.print (printed ("[yellow]Skipped: packaging is '" ++ p.packaging ++ "', not a plugin[/yellow]")) id
  else
    printWarnings s (fun s =>
      match r.descriptor with
      | none => s
      | some d =>
        s.print ((taskTable d).lines columns) fun s =>
        s.print ((artifactPanel q.kind r.artifacts).lines columns) id) r.warnings

def generate (settings : Settings) (q : GenerateRequest) (s : Session) : Session :=
  let loaded := Project.load s.fs q.projectFile
  { s with log := s.log ++ loaded.log }.attempt loaded.result fun project s =>
  s.attempt ((s.fs.makeDirectories q.output).mapError .file) fun fs s =>
  let r := (Pipeline.ofSettings settings).run fs ⟨project, q.output, q.options, q.kind⟩
  let s := { s with fs := r.fs, log := s.log ++ r.log }
  match r.failure with
  | some f => s.fail f
  | none => s.report q project r.result

/-- Makes the directory of the log files, if the settings name one. -/
def prepareLog (settings : Settings) (s : Session) : Except Failure FileSystem :=
  match settings.logDirectory with
  | some (l :: rest) => (s.fs.makeDirectories (Path.ofText (l :: rest))).mapError .file
  | _ => .ok s.fs

/-- Does what a command was asked for, once the settings are in force. -/
def command {α : Type} (environment : List (Text × Text)) (asked : Option (Asked α)) (s : Session)
    (work : Settings → α → Session → Session) : Session :=
  s.after (Settings.load s.fs environment []) fun settings s =>
  s.after (s.prepareLog settings) fun fs s =>
  let s := { s with fs }
  match asked with
  | none => s.finish .misused
  | some .help => s
  | some (.work a) =>
    let done := work settings a s
    { done with log := done.log.kept settings.terminalLevel }

def run (environment : List (Text × Text)) (arguments : List Text) (fs : FileSystem) : Session :=
  let s := start fs
  match Opening.ofArguments? arguments with
  | none => s.finish .misused
  | some .help => s
  | some .version => s.print (printed ("[bold blue]plugin-tools[/bold blue] version " ++ version)) id
  | some (.generate arguments) => s.command environment (GenerateRequest.ofArguments? arguments) generate
  | some (.listExtractors arguments) =>
    s.command environment (Asked.ofNothing? arguments) fun _ _ s =>
      s.print ((registeredTable "Task extractors" "Extractor" Registry.standard.names).lines columns) id
  | some (.listGenerators arguments) =>
    s.command environment (Asked.ofNothing? arguments) fun _ _ s =>
      s.print ((registeredTable "Generators" "Generator" (Generator.all.map (·.name))).lines columns) id

end Session

end TaskCatalog
