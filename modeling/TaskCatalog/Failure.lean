import TaskCatalog.Assembly.GoalPrefix
import TaskCatalog.Catalog.Expression
import TaskCatalog.FileSystem.Tree
import TaskCatalog.Schema.Problem
import TaskCatalog.Value.Plain

/-!
What can go wrong, by cause. Stated failures are the catalog's own and have a message; a breakdown
is data of a kind that no rule of the catalog foresees, and is known by its label only.
-/

namespace TaskCatalog

open Text

inductive ConfigurationFault where
  | stated (message : Text)
  | goalPrefix (value : Text) (fault : GoalPrefix.Fault)
  | unknownExtractors (names registered : List Text)
  | unknownGenerator (kind : Text) (registered : List Text)
  | unreadableProject (file : Path) (e : FileError)
  | malformedProject (file : Path)
  | unmappedProject (file : Path)
  | invalidProject (file : Path) (problems : List Problem)

inductive DescriptorFault where
  | stated (message : Text)
  | missingFields (names : List Text)
  | goalPrefix (value : Text) (fault : GoalPrefix.Fault)
  | invalid (problems : List Problem)
  | expression (task parameter text : Text) (fault : Expression.Fault)

/-- Why a file could not be read. -/
inductive ReadFault where
  | file (e : FileError)
  | undecodable (u : Undecodable)

/-- Why an artifact could not be written. -/
inductive WriteFault where
  | file (e : FileError)
  | unencodable (u : Unencodable)
  | plain (fault : PlainFault)

inductive GenerationFault where
  | stated (message : Text)
  | unwritten (directory : Path) (cause : WriteFault)

inductive ExtractionFault where
  | stated (message : Text)
  | unreadableSource (cause : ReadFault)
  | unreadableMetadata (cause : ReadFault)
  | syntaxError (line : Nat)
  | malformedMetadata
  | invalidMetadata (problems : List Problem)
  | decoratedTwice (name : Text)
  | undecorated (name decorator : Text)
  | unknownPhase (phase : Text)
  | invalidRequirements (problems : List Problem)
  | namelessParameter
  | parameterNameNoText
  | severalPositional
  | unpacking
  | unknownArgument (name : Text)
  | repeatedArgument (name : Text)
  | notLiteral (argument code : Text)
  | unknownTaskTags (tags : List Text)
  | unknownParameterTags (tags : List Text)
  | namelessGoal
  | malformedTag (line : Text)
  | repeatedTag (tag : Text)
  | malformedAttributes (leftover : Text)
  | unknownAttributes (names : List Text)
  | unclearFlag (tag value : Text)
  | missingScript (call : Text)
  | outsideScript (call : Text)
  | invalidTask (problems : List Problem)
  | invalidParameter (problems : List Problem)

/-- An extraction that failed; `strategy` names the extractor and `source` the place, where they are known. -/
structure ExtractionFailure where
  fault : ExtractionFault
  strategy : Option Text
  source : Option Text

inductive Breakdown where
  | wrongType
  | badValue
  | unknownKey
  | noItem
  | noAttribute
  | unknownEncoding
  | undecodable
  | missingByteOrder
  | notPlain
  | selfContaining
  | tooLarge
  | badMarkup
  deriving DecidableEq, Repr

inductive Failure where
  | general (message : Text)
  | configuration (fault : ConfigurationFault)
  | extraction (e : ExtractionFailure)
  | mergeConflict (name first second : Text)
  | invalidDescriptor (fault : DescriptorFault)
  | generation (generator : Option Text) (fault : GenerationFault)
  | runtime (message : Text)
  | file (e : FileError)
  | invalid (problems : List Problem)
  | breakdown (b : Breakdown)

/-- The text of a parser's or a validator's own report, which is not part of a message. -/
def yamlReport : Text := "<yaml error>"

def validationReport : Text := "<validation error>"

def registeredText (names : List Text) : Text :=
  let text := join ", " names
  if text.isEmpty then "none" else text

namespace ConfigurationFault

def message : ConfigurationFault → Text
  | stated m => m
  | goalPrefix value fault => fault.message value
  | unknownExtractors names registered =>
    "Unknown extractor(s): " ++ join ", " names ++ ". Registered: " ++ registeredText registered
  | unknownGenerator kind registered =>
    "Unknown generator '" ++ kind ++ "'. Registered: " ++ registeredText registered
  | unreadableProject file e => "Cannot read project file " ++ file.text ++ ": " ++ e.message
  | malformedProject file => "Malformed project file " ++ file.text ++ ": " ++ yamlReport
  | unmappedProject file => "Project file " ++ file.text ++ " must contain a mapping"
  | invalidProject file _ => "Invalid project file " ++ file.text ++ ": " ++ validationReport

def problems : ConfigurationFault → List Problem
  | invalidProject _ ps => ps
  | _ => []

end ConfigurationFault

namespace DescriptorFault

def message : DescriptorFault → Text
  | stated m => m
  | missingFields names => "Missing required descriptor field(s): " ++ join ", " names
  | goalPrefix value fault => fault.message value
  | invalid _ => "Invalid plugin descriptor: " ++ validationReport
  | expression task parameter text fault =>
    "Task '" ++ task ++ "', parameter '" ++ parameter ++ "': " ++ fault.message text

def problems : DescriptorFault → List Problem
  | invalid ps => ps
  | _ => []

end DescriptorFault

def ReadFault.message : ReadFault → Text
  | file e => e.message
  | undecodable u => u.message

def WriteFault.message : WriteFault → Text
  | file e => e.message
  | unencodable u => u.message
  | plain fault => fault.message

def GenerationFault.message (generator : Option Text) : GenerationFault → Text
  | stated m => m
  | unwritten directory cause =>
    "Error writing " ++ generator.getD [] ++ " output to " ++ directory.text ++ ": " ++ cause.message

namespace ExtractionFault

def tagTexts (tags : List Text) : Text := join ", " (tags.map fun t => .scalar '@' :: t)

def message : ExtractionFault → Text
  | stated m => m
  | unreadableSource cause => "Cannot read source: " ++ cause.message
  | unreadableMetadata cause => "Cannot read metadata: " ++ cause.message
  | syntaxError line => "Syntax error at line " ++ ofNat line
  | malformedMetadata => "Malformed YAML: " ++ yamlReport
  | invalidMetadata ps => "Invalid task metadata: " ++ summarize [] ps
  | decoratedTwice name => "'" ++ name ++ "' is decorated as a task twice"
  | undecorated name decorator =>
    "'" ++ name ++ "' declares parameters but is not decorated with @" ++ decorator
  | unknownPhase phase => "Unknown lifecycle phase '" ++ phase ++ "'"
  | invalidRequirements _ => "Invalid requirement flags: " ++ validationReport
  | namelessParameter => "@parameter requires a name"
  | parameterNameNoText => "@parameter name must be a string"
  | severalPositional => "Only the name may be passed positionally"
  | unpacking => "Keyword unpacking is not supported"
  | unknownArgument name => "Unknown argument '" ++ name ++ "'"
  | repeatedArgument name => "Argument '" ++ name ++ "' given twice"
  | notLiteral argument code => "Argument '" ++ argument ++ "' must be a literal, got '" ++ code ++ "'"
  | unknownTaskTags tags => "Unknown task tag(s): " ++ tagTexts tags
  | unknownParameterTags tags => "Unknown parameter tag(s): " ++ tagTexts tags
  | namelessGoal => "@goal requires a name"
  | malformedTag line => "Malformed tag line '" ++ line ++ "'"
  | repeatedTag tag => "Tag @" ++ tag ++ " given twice"
  | malformedAttributes leftover => "Malformed @parameter attributes near '" ++ leftover ++ "'"
  | unknownAttributes names => "Unknown @parameter attribute(s): " ++ join ", " names
  | unclearFlag tag value => "@" ++ tag ++ " expects true or false, got '" ++ value ++ "'"
  | missingScript call => "Script '" ++ call ++ "' does not exist"
  | outsideScript call => "Script '" ++ call ++ "' is outside the source root"
  | invalidTask ps => "Invalid task definition: " ++ summarize "task" ps
  | invalidParameter ps => "Invalid parameter: " ++ summarize "task" ps

def problems : ExtractionFault → List Problem
  | invalidMetadata ps | invalidRequirements ps | invalidTask ps | invalidParameter ps => ps
  | _ => []

end ExtractionFault

/-- The strategy in front and the place behind, where they are given and not empty. -/
def ExtractionFailure.message (e : ExtractionFailure) : Text :=
  let before : Text := match e.strategy with
    | some (l :: s) => "[" ++ l :: s ++ "] "
    | _ => []
  let after : Text := match e.source with
    | some (l :: s) => " (" ++ l :: s ++ ")"
    | _ => []
  before ++ e.fault.message ++ after

def Breakdown.label : Breakdown → Text
  | wrongType => "TypeError"
  | badValue => "ValueError"
  | unknownKey => "KeyError"
  | noItem => "IndexError"
  | noAttribute => "AttributeError"
  | unknownEncoding => "LookupError"
  | undecodable => "UnicodeDecodeError"
  | missingByteOrder => "UnicodeError"
  | notPlain => "PydanticSerializationError"
  | selfContaining => "RecursionError"
  | tooLarge => "OverflowError"
  | badMarkup => "MarkupError"

namespace Failure

def message? : Failure → Option Text
  | general m | runtime m => some m
  | configuration fault => some fault.message
  | extraction e => some e.message
  | mergeConflict name first second =>
    some ("Task '" ++ name ++ "' is defined by both '" ++ first ++ "' and '" ++ second ++ "' extractors")
  | invalidDescriptor fault => some fault.message
  | generation generator fault => some (fault.message generator)
  | file e => some e.message
  | invalid _ | breakdown _ => none

def problems : Failure → List Problem
  | configuration fault => fault.problems
  | extraction e => e.fault.problems
  | invalidDescriptor fault => fault.problems
  | invalid ps => ps
  | _ => []

def logged (f : Failure) : Text :=
  match f with
  | invalid _ => validationReport
  | breakdown b => "<" ++ b.label ++ ">"
  | f => f.message?.getD []

def isStated : Failure → Bool
  | general _ | configuration _ | extraction _ | mergeConflict .. | invalidDescriptor _ | generation .. => true
  | _ => false

def isFile : Failure → Bool
  | file _ => true
  | _ => false

end Failure

end TaskCatalog
