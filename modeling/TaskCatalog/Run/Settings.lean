import TaskCatalog.FileSystem.Tree
import TaskCatalog.Log
import TaskCatalog.Run.EnvironmentFile
import TaskCatalog.Schema.Field
import TaskCatalog.Text.Lines
import TaskCatalog.Text.LowerCase

/-!
Settings of the whole process. They come from the environment, and from a file of variables where
the environment sets nothing.
-/

namespace TaskCatalog

open Text

structure Settings where
  logLevel : Level
  debug : Bool
  logDirectory : Option Text
  sourceEncoding : Text
  deriving DecidableEq

namespace Settings

def levels : List Level := [.debug, .info, .warning, .error, .critical]

def level : Value → Checked Level
  | .text t =>
    match levels.find? fun l => l.name == t with
    | some l => .ok l
    | none => Checked.problem .notLevel
  | _ => Checked.problem .notLevel

def ofRecord (r : Record) : Checked Settings :=
  Settings.mk <$> r.withDefault "log_level" .info level
    <*> r.withDefault "debug" false Checked.truth
    <*> r.optionalText "log_dir"
    <*> r.withDefault "source_encoding" "utf-8" Checked.text

def namespaceText : Text := "plugin_tools_"

/-- The variables that make a difference, as they are usually written. -/
def variableNames : List Text := [
  "PLUGIN_TOOLS_LOG_LEVEL", "PLUGIN_TOOLS_DEBUG", "PLUGIN_TOOLS_LOG_DIR", "PLUGIN_TOOLS_SOURCE_ENCODING"]

/-- The settings that variables state; names are compared in lower case, and the last one counts. -/
def entries (bindings : List (Text × Option Text)) : List (Value × Value) :=
  bindings.foldl (fun done (name, v) =>
    let name := lower name
    if namespaceText.isPrefixOf name then
      Value.setEntry (.text (name.drop namespaceText.length))
        (match v with | some t => .text t | none => .null) done
    else done) []

def environmentFile : Path := Path.ofText ".env"

def fileVariables (fs : FileSystem) (environment : List (Text × Text)) :
    Except Breakdown (List (Text × Option Text)) :=
  if fs.isFile environmentFile then
    match fs.read environmentFile with
    | .error _ => .ok []
    | .ok bytes =>
      match decodeUtf8 bytes with
      | .ok cs => .ok (EnvironmentFile.read environment (ofChars (unifyLineBreaks cs)))
      | .error _ => .error .undecodable
  else .ok []

/-- The settings of a process; what is stated directly counts before all variables. -/
def load (fs : FileSystem) (environment : List (Text × Text)) (stated : List (Value × Value)) :
    Except Failure Settings := do
  let file ← (fileVariables fs environment).mapError .breakdown
  let bindings := file ++ environment.map fun (k, v) => (k, some v)
  let all := stated.foldl (fun done (k, v) => Value.setEntry k v done) (entries bindings)
  match ofRecord ⟨all⟩ with
  | .ok s => .ok s
  | .error ps => .error (.invalid ps)

def terminalLevel (s : Settings) : Level := if s.debug then .debug else s.logLevel

def hasLogFile (s : Settings) : Bool := s.logDirectory.any (!·.isEmpty)

end Settings

end TaskCatalog
