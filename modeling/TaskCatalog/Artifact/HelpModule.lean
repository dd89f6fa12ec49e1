import TaskCatalog.Artifact.Layout
import TaskCatalog.Catalog.Descriptor

/-!
The help module: a module of the host's language that tells of the plugin's goals.
-/

namespace TaskCatalog

open Text

namespace HelpModule

def optional : Option Text → Value
  | some t => .text t
  | none => .null

/-- The plugin's entries, in ascending order of their keys. -/
def pluginData (d : Descriptor) : Value :=
  .map [(.text "coordinates", .text d.coordinates), (.text "goal_prefix", .text d.goalPrefix),
    (.text "name", .text d.name)]

def parameterData (p : Parameter) : Value :=
  .map [(.text "name", .text p.name), (.text "required", .truth p.required), (.text "type", .text p.type)]

def taskData (t : Task) : Value :=
  .map [(.text "description", optional t.description),
    (.text "parameters", .list (t.parameters.map parameterData)), (.text "phase", optional t.phase)]

/-- The goals with what is told of them, in ascending order of their names. -/
def goalData (d : Descriptor) : Value :=
  .map ((d.tasks.mergeSort fun a b => decide (a.name.text ≤ b.name.text)).map fun t =>
    (.text t.name.text, taskData t))

def opening (name : Text) : Text :=
  "r\"\"\"Goal help for " ++ replace (.scalar '"') "'" name
    ++ ".\n\nGenerated by plugin-tools from the plugin descriptor. Do not edit.\n\"\"\"\n\n"

/-- The part of the module that is the same for every plugin. -/
def closing : List Text := [
  "",
  "",
  "def describe(goal=None):",
  "    \"\"\"Return help text for one goal, or for every goal when none is given.\"\"\"",
  "    if goal is None:",
  "        names = sorted(GOALS)",
  "    elif goal in GOALS:",
  "        names = [goal]",
  "    else:",
  "        raise KeyError(f\"Unknown goal: \x7bgoal\x7d\")",
  "",
  "    lines = [f\"\x7bPLUGIN['name']\x7d (\x7bPLUGIN['coordinates']\x7d)\", \"\"]",
  "    for name in names:",
  "        info = GOALS[name]",
  "        lines.append(f\"\x7bPLUGIN['goal_prefix']\x7d:\x7bname\x7d\")",
  "        lines.append(f\"  \x7binfo['description'] or 'No description.'\x7d\")",
  "        for param in info[\"parameters\"]:",
  "            marker = \" (required)\" if param[\"required\"] else \"\"",
  "            lines.append(f\"    \x7bparam['name']\x7d: \x7bparam['type']\x7d\x7bmarker\x7d\")",
  "        lines.append(\"\")",
  "    return \"\\n\".join(lines)",
  "",
  "",
  "if __name__ == \"__main__\":",
  "    print(describe())",
  ""]

def text (d : Descriptor) : Text :=
  opening d.name ++ "PLUGIN = " ++ (pluginData d).laidOut ++ "\n\nGOALS = " ++ (goalData d).laidOut ++ "\n"
    ++ join "\n" closing

end HelpModule

end TaskCatalog
