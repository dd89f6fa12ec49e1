import TaskCatalog.Catalog.Descriptor
import TaskCatalog.Text.Blank

/-!
Pages for readers: an overview of the plugin and one page for every task.
-/

namespace TaskCatalog

open Text

namespace Markdown

def nonempty? : Option Text → Option Text
  | some (l :: rest) => some (l :: rest)
  | _ => none

def bar : Letter := .scalar '|'

/-- A text in a table cell: in one line, its bars escaped. -/
def cell (t : Option Text) : Text := replace bar "\\|" (join " " (words (t.getD [])))

/-- A text in a table cell, or something else where there is none. -/
def cellOr (other : Text) (t : Option Text) : Text := if (cell t).isEmpty then other else cell t

def code (t : Text) : Text := "`" ++ t ++ "`"

def codeCell (t : Option Text) : Text :=
  match nonempty? t with
  | some t => code t
  | none => "-"

def noDescription : Text := "No description."

def page (t : Task) : Text := t.name.text ++ "-task.md"

def sortedTasks (d : Descriptor) : List Task :=
  d.tasks.mergeSort fun a b => decide (a.name.text ≤ b.name.text)

def overviewRow (d : Descriptor) (t : Task) : Text :=
  "| [" ++ d.qualifiedGoal t.name.text ++ "](" ++ page t ++ ") | " ++ cellOr noDescription t.description
    ++ " |"

def heading (title : Text) : List Text := ["## " ++ title, []]

def tableHead (columns : List Text) : List Text :=
  ["| " ++ join " | " columns ++ " |", "| " ++ join " | " (columns.map fun _ => "---") ++ " |"]

def overviewTable (d : Descriptor) : List Text :=
  if d.tasks.isEmpty then ["This plugin has no goals."]
  else tableHead ["Goal", "Description"] ++ (sortedTasks d).map (overviewRow d)

def dependencyLines (ds : List Dependency) : List Text :=
  if ds.isEmpty then []
  else heading "Dependencies"
    ++ ds.map (fun d => "- " ++ code (d.groupId ++ ":" ++ d.artifactId ++ ":" ++ d.version)
      ++ " (" ++ d.type ++ ")")
    ++ [[]]

def ofLines (ls : List Text) : Text := join "\n" ls

def paragraph (t : Option Text) (f : Text → Text) : List Text :=
  match nonempty? t with
  | some t => [f t, []]
  | none => []

def overview (d : Descriptor) : Text :=
  let identity : List Text :=
    ["- Coordinates: " ++ code d.coordinates, "- Goal prefix: " ++ code d.goalPrefix, []]
  ofLines (("# " ++ d.name) :: [] :: paragraph d.description id ++ heading "Plugin" ++ identity
    ++ heading "Goals" ++ overviewTable d ++ [[]] ++ dependencyLines d.dependencies)

def attributes (t : Task) : List Text :=
  let r := t.requirements
  let flag (b : Bool) (m : Text) : List Text := if b then [m] else []
  let stated (v : Option Text) (f : Text → Text) : List Text := (nonempty? v).toList.map f
  flag r.requiresProject "Requires a project to execute."
    ++ flag r.requiresOnline "Requires online mode."
    ++ flag r.aggregator "Executes as an aggregator."
    ++ flag r.threadSafe "Thread-safe, supports parallel builds."
    ++ stated r.dependencyResolution (fun s => "Requires dependency resolution of scope " ++ code s ++ ".")
    ++ stated t.phase (fun p => "Binds by default to the lifecycle phase " ++ code p ++ ".")
    ++ stated t.since (fun s => "Since version " ++ code s ++ ".")

def attributeLines (t : Task) : List Text :=
  match attributes t with
  | [] => ["- None."]
  | as => as.map fun a => "- " ++ a

def parameterRow (p : Parameter) : Text :=
  let description := cellOr "-" p.description
  let description := if p.editable then description else description ++ " (read-only)"
  let description := match nonempty? p.deprecated with
    | some t => description ++ " Deprecated: " ++ cell (some t)
    | none => description
  "| " ++ code p.name ++ " | " ++ code p.type ++ " | " ++ codeCell p.defaultValue ++ " | "
    ++ codeCell p.expression ++ " | " ++ description ++ " |"

def parameterTable (title : Text) (ps : List Parameter) : List Text :=
  if ps.isEmpty then []
  else heading title ++ tableHead ["Name", "Type", "Default", "Expression", "Description"]
    ++ ps.map parameterRow ++ [[]]

def taskPage (d : Descriptor) (t : Task) : Text :=
  let fullName : Text := "**Full name:** " ++ code (d.coordinates ++ ":" ++ t.name.text)
  ofLines (("# " ++ d.qualifiedGoal t.name.text) :: [] :: fullName :: [] :: paragraph t.deprecated (fun m => "> **Deprecated.** " ++ m)
    ++ heading "Description" ++ [(nonempty? t.description).getD noDescription, []]
    ++ heading "Attributes" ++ attributeLines t ++ [[]]
    ++ parameterTable "Required Parameters" (t.parameters.filter (·.required))
    ++ parameterTable "Optional Parameters" (t.parameters.filter (!·.required)))

def pages (d : Descriptor) : List (Text × Text) :=
  ("index.md", overview d) :: (sortedTasks d).map fun t => (page t, taskPage d t)

end Markdown

end TaskCatalog
