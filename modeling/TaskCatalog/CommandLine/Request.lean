import TaskCatalog.CommandLine.Arguments
import TaskCatalog.FileSystem.Path
import TaskCatalog.Run.Options

/-!
What the arguments of the command line ask for.
-/

namespace TaskCatalog

open Text

/-- What the arguments up to a command's name ask for. -/
inductive Opening where
  | version
  | help
  | generate (arguments : List Text)
  | listExtractors (arguments : List Text)
  | listGenerators (arguments : List Text)

/-- What a command is asked for by its own arguments. -/
inductive Asked (α : Type) where
  | help
  | work (a : α)

structure GenerateRequest where
  kind : Text
  projectFile : Path
  output : Path
  options : RunOptions

def versionOption : OptionName := ⟨"--version", some (.scalar 'v'), false⟩

def helpOption : OptionName := ⟨"--help", none, false⟩

namespace Opening

def names : List OptionName := [versionOption, helpOption]

/-- The first option that asks for a text instead of a command. -/
def ofOptions : List GivenOption → Option Opening
  | [] => none
  | o :: _ => some (if o.name = versionOption.long then version else help)

def ofCommand (arguments : List Text) : Text → Option Opening
  | command =>
    if command = "generate" then some (generate arguments)
    else if command = "extractors" then some (listExtractors arguments)
    else if command = "generators" then some (listGenerators arguments)
    else none

/-- The opening of a command line; none if it is misused. An option in the place of the command still
counts as one. -/
def ofArguments? (arguments : List Text) : Option Opening := do
  let read ← Arguments.read? names false arguments
  match ofOptions read.options, read.operands with
  | some opening, _ => some opening
  | none, [] => none
  | none, command :: rest =>
    (ofCommand rest command).orElse fun _ =>
      (Arguments.read? names false (command :: rest)).bind fun again => ofOptions again.options

end Opening

namespace GenerateRequest

def projectOption : OptionName := ⟨"--project", some (.scalar 'p'), true⟩

def outputOption : OptionName := ⟨"--output", some (.scalar 'o'), true⟩

def prefixOption : OptionName := ⟨"--goal-prefix", some (.scalar 'g'), true⟩

def extractorsOption : OptionName := ⟨"--extractors", some (.scalar 'e'), true⟩

def names : List OptionName :=
  [projectOption, outputOption, prefixOption, extractorsOption, helpOption]

def ofValues (kind : Option Text) (a : Arguments) : GenerateRequest := {
  kind := kind.getD "descriptor"
  projectFile := Path.ofText ((a.value? projectOption.long).getD "plugin-project.yaml")
  output := Path.ofText ((a.value? outputOption.long).getD "build/plugin")
  options := ⟨a.value? prefixOption.long, (a.value? extractorsOption.long).map Selection.ofList⟩ }

/-- The request of a command's arguments; none if they are misused. -/
def ofArguments? (arguments : List Text) : Option (Asked GenerateRequest) := do
  let a ← Arguments.read? names true arguments
  if a.has helpOption.long then some .help
  else
    match a.operands with
    | [] => some (.work (ofValues none a))
    | [kind] => some (.work (ofValues (some kind) a))
    | _ => none

end GenerateRequest

def Asked.ofNothing? (arguments : List Text) : Option (Asked Unit) := do
  let a ← Arguments.read? [helpOption] true arguments
  if a.has helpOption.long then some .help
  else if a.operands.isEmpty then some (.work ())
  else none

end TaskCatalog
