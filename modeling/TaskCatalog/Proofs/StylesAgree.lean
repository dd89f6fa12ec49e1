import TaskCatalog.Proofs.DecoratedStyle
import TaskCatalog.Proofs.DocumentedStyle
import TaskCatalog.Proofs.ScriptStyle

/-!
The three styles agree. A task declaration comes to the same task whether decorators, documentation
texts or script metadata carry it; only the implementation and the language tell them apart.
-/

namespace TaskCatalog

open Text

/-- Tasks that differ in nothing but their implementation and their language. -/
def Task.SameDeclaration (a b : Task) : Prop :=
  b = { a with implementation := b.implementation, language := b.language }

theorem TaskDeclaration.task_sameDeclaration (t : TaskDeclaration) (i j : { t : Text // t ≠ [] }) (k l : Text) :
    (t.task i k).SameDeclaration (t.task j l) := rfl

theorem styles_agree {t : TaskDeclaration} {s : Sources} {m n : Module} {scope : List Text} {root file : Path}
    {decorated : Decorated.Definition} {documented : Documented.Definition} {entry : Value} {call : Text}
    {script : { t : Text // t ≠ [] }} (portable : t.Portable) (named : t.Readable)
    (known : ∀ phase ∈ t.phase, s.conventions.isKnownPhase phase = true)
    (byDecorators : Decorated.Carries s.conventions decorated t)
    (unannotated : Decorated.Unannotated decorated t)
    (byDocumentation : Documented.Carries documented t)
    (byMetadata : Scripts.Carries entry call t) (below : Scripts.Below s root file call script)
    (readable : ∀ i ∈ [Decorated.implementation m scope decorated, Documented.implementation n documented, script],
      i.val.any Letter.isHalf = false) :
    ∃ (a b c : Task) (read : ScriptTask),
      Decorated.task? s.conventions m scope decorated = .ok (some a) ∧
      (Documented.classTasks s.conventions n documented).result = .ok [b] ∧
      ScriptTask.ofValue entry = .ok read ∧ Scripts.task s root file read = .ok c ∧
      a = t.task (Decorated.implementation m scope decorated) Decorated.strategy ∧
      a.SameDeclaration b ∧ a.SameDeclaration c := by
  simp only [List.forall_mem_cons, List.not_mem_nil, false_implies, implies_true, and_true] at readable
  obtain ⟨readable₁, readable₂, readable₃⟩ := readable
  exact ⟨_, _, _, _, Decorated.task?_of_carries byDecorators unannotated portable named known readable₁,
    Documented.classTasks_of_carries byDocumentation portable named known readable₂,
    Scripts.entry_of_carried byMetadata, Scripts.task_of_script named known below readable₃, rfl,
    t.task_sameDeclaration _ _ _ _, t.task_sameDeclaration _ _ _ _⟩

namespace SiteReport

def target : ParameterDeclaration where
  name := ⟨"target", by decide⟩
  type := some "path"
  required := true
  readOnly := false
  defaultValue := some "out/site"
  expression := some "build.target"
  description := some "Where it is written."
  since := none
  deprecated := some "Use site."

def quiet : ParameterDeclaration where
  name := ⟨"quiet", by decide⟩
  type := none
  required := false
  readOnly := true
  defaultValue := none
  expression := none
  description := none
  since := some "1.1"
  deprecated := none

theorem name_valid : GoalName.fault? "report" = none := by decide

def declaration : TaskDeclaration where
  name := ⟨"report", name_valid⟩
  phase := some "site"
  requirements := ⟨false, false, false, true, some "compile"⟩
  description := some "Writes the report."
  since := some "1.0"
  deprecated := none
  parameters := [target, quiet]
  distinct := by decide

theorem declaration_portable : declaration.Portable := by decide

def options (given : List (Text × Scalar)) : Decorated.Options := given.map fun (n, v) => (n, .scalar v)

def call (decorator : Text) (given : List (Text × Scalar)) : Code.Expression :=
  .call (.name decorator) [] (given.map fun (n, v) => .mk (some n) (.constant v false))

theorem call_passes (decorator : Text) (given : List (Text × Scalar)) :
    Decorated.Passes (call decorator given) (options given) := by
  refine .call (List.forall₂_map_left_iff.2 (List.forall₂_map_right_iff.2 (List.forall₂_same.2 fun o _ => ?_)))
  exact .mk rfl

def taskArguments : List (Text × Scalar) := [
  ("name", .text "report"), ("phase", .text "site"), ("requires_project", .truth false),
  ("thread_safe", .truth true), ("dependency_resolution", .text "compile"),
  ("description", .text "Writes the report."), ("since", .text "1.0"), ("deprecated", .null)]

def targetArguments : List (Text × Scalar) := [
  ("name", .text "target"), ("type", .text "path"), ("required", .truth true), ("default", .text "out/site"),
  ("expression", .text "build.target"), ("description", .text "Where it is written."),
  ("deprecated", .text "Use site.")]

def quietArguments : List (Text × Scalar) := [
  ("name", .text "quiet"), ("readonly", .truth true), ("required", .truth false), ("since", .text "1.1")]

def decorated (annotations : Decorated.Annotations) : Decorated.Definition where
  line := 4
  name := "Report"
  decorators := [call "task" taskArguments, call "parameter" targetArguments, call "parameter" quietArguments]
  annotations := .ok annotations
  documentation := none

theorem task_carried : (options taskArguments).CarryTask declaration := by
  refine ⟨⟨?_, ?_⟩, ?_, ?_, ⟨?_, ?_, ?_, ?_, ?_⟩, ?_, ?_, ?_, ?_⟩ <;>
    simp [options, taskArguments, declaration, Decorated.Options.get?, Decorated.taskNames,
      Decorated.requirementNames, Value.States, Value.Sets, Value.ofText?, List.lookup_cons, ofString_beq, ofString_inj]

theorem target_carried : (options targetArguments).CarryParameter target := by
  refine ⟨⟨?_, ?_⟩, ?_, ?_, ?_, ?_, ?_, ?_, ?_, ?_, ?_⟩ <;>
    simp [options, targetArguments, target, Decorated.Options.get?, Decorated.parameterNames, Value.States,
      Value.Sets, Value.ofText?, List.lookup_cons, ofString_beq, ofString_inj]

theorem quiet_carried : (options quietArguments).CarryParameter quiet := by
  refine ⟨⟨?_, ?_⟩, ?_, ?_, ?_, ?_, ?_, ?_, ?_, ?_, ?_⟩ <;>
    simp [options, quietArguments, quiet, Decorated.Options.get?, Decorated.parameterNames, Value.States,
      Value.Sets, Value.ofText?, List.lookup_cons, ofString_beq, ofString_inj]

theorem decorated_carries (annotations : Decorated.Annotations) :
    Decorated.Carries .default (decorated annotations) declaration where
  apart := by simp [Conventions.default, ofString_inj]
  task := ⟨_, _, rfl, call_passes _ taskArguments, task_carried⟩
  parameters := .cons ⟨_, call_passes _ targetArguments, target_carried⟩
    (.cons ⟨_, call_passes _ quietArguments, quiet_carried⟩ .nil)
  undocumented := rfl

def taskTags : Tags := [
  ("goal", "report"), ("phase", "site"), ("requiresProject", "False"), ("threadSafe", []),
  ("requiresDependencyResolution", "compile"), ("since", "1.0")]

def targetAttributes : Tags := [("default-value", "out/site"), ("name", "target"), ("expression", "build.target")]

def targetTags : Tags := [
  ("parameter", Attributes.written targetAttributes), ("required", []), ("type", "path"),
  ("deprecated", "Use site.")]

def quietAttributes : Tags := [("name", "quiet")]

def quietTags : Tags := [("parameter", Attributes.written quietAttributes), ("since", "1.1"), ("readonly", [])]

/-- A text literal of several lines, all but the first of them indented. -/
def literal (ls : List Text) : Code.Statement := .expression (.constant (.text (join "\n    " ls)) false)

def documented : Documented.Definition where
  line := 4
  name := "Report"
  body := [
    literal ["Writes the report.", [], "@goal report", "@phase site", "@requiresProject False", "@threadSafe",
      "@requiresDependencyResolution compile", "@since 1.0", []],
    .annotated 13 (.name "count") (.name "int"),
    .assignment 14 [.name "path"],
    literal ["Where it is written.", "@parameter " ++ Attributes.written targetAttributes, "@required",
      "@type path", "@deprecated Use site."],
    .assignment 19 [.name "quiet_flag"],
    literal ["@parameter " ++ Attributes.written quietAttributes, "@since 1.1", "@readonly"]]

theorem taskTags_carry : Documented.TaskTags taskTags declaration := by
  have no : Documented.Says true (taskTags.get? "requiresProject") false :=
    .word (v := "False") (by decide) (by decide) (by decide)
  refine ⟨⟨?_, ?_⟩, ?_, ?_, ⟨no, .absent, .absent, .bare, ?_⟩, ?_, ?_⟩ <;>
    simp [taskTags, declaration, Tags.get?, Documented.taskTags, Documented.goalTag, List.lookup_cons, ofString_beq,
      ofString_inj]

theorem targetAttributes_carry : Documented.ParameterAttributes targetAttributes target := by
  refine ⟨⟨?_, ?_⟩, ?_, ?_, ?_⟩ <;>
    simp [targetAttributes, target, Tags.get?, Documented.attributeNames, List.lookup_cons, ofString_beq, ofString_inj]

theorem targetTags_carry : Documented.ParameterTags targetTags target := by
  refine ⟨⟨?_, ?_⟩, ⟨targetAttributes, targetAttributes_carry, ?_⟩, ?_, .bare, .absent, ?_, ?_⟩ <;>
    simp [targetTags, target, Tags.get?, Documented.parameterTags, Documented.parameterTag, List.lookup_cons,
      ofString_beq, ofString_inj]

theorem quietAttributes_carry : Documented.ParameterAttributes quietAttributes quiet := by
  refine ⟨⟨?_, ?_⟩, ?_, ?_, ?_⟩ <;>
    simp [quietAttributes, quiet, Tags.get?, Documented.attributeNames, ofString_beq, ofString_inj]

theorem quietTags_carry : Documented.ParameterTags quietTags quiet := by
  refine ⟨⟨?_, ?_⟩, ⟨quietAttributes, quietAttributes_carry, ?_⟩, ?_, .absent, .bare, ?_, ?_⟩ <;>
    simp [quietTags, quiet, Tags.get?, Documented.parameterTags, Documented.parameterTag, List.lookup_cons,
      ofString_beq, ofString_inj]

theorem documented_carries : Documented.Carries documented declaration where
  task := ⟨_, taskTags, rfl, ⟨1, by decide +kernel⟩, taskTags_carry⟩
  members := by
    refine .other (fun _ _ => .inert rfl) (.other (fun next hnext => ?_)
      (.parameter targetTags_carry ⟨0, by decide +kernel⟩
        (.parameter quietTags_carry ⟨0, by decide +kernel⟩ .nil)))
    cases hnext
    exact .untagged rfl (by decide +kernel) (fun _ h => nomatch h)

def targetKeys : List (Text × Value) := [
  ("name", .text "target"), ("type", .text "path"), ("required", .truth true), ("default-value", .text "out/site"),
  ("expression", .text "build.target"), ("description", .text "Where it is written."),
  ("deprecated", .text "Use site.")]

def quietKeys : List (Text × Value) := [
  ("name", .text "quiet"), ("readonly", .truth true), ("since", .text "1.1"), ("default_value", .null)]

def taskKeys (call : Text) : List (Text × Value) := [
  ("goal", .text "report"), ("call", .text call), ("phase", .text "site"), ("requires-project", .truth false),
  ("thread_safe", .truth true), ("dependency_resolution", .text "compile"),
  ("description", .text "Writes the report."), ("since", .text "1.0"),
  ("parameters", .list [Scripts.mapping targetKeys, Scripts.mapping quietKeys])]

theorem targetKeys_carry : Scripts.ParameterEntry targetKeys target := by
  refine ⟨⟨?_, ?_⟩, ?_, ?_, ?_, ?_, ?_, ?_, ?_, ?_, ?_⟩ <;>
    simp [targetKeys, target, Record.stated?, Record.get?_ofPairs, ScriptParameter.fields, Value.States,
      Value.Sets, Value.ofText?, List.lookup_cons, ofString_beq, ofString_inj]

theorem quietKeys_carry : Scripts.ParameterEntry quietKeys quiet := by
  refine ⟨⟨?_, ?_⟩, ?_, ?_, ?_, ?_, ?_, ?_, ?_, ?_, ?_⟩ <;>
    simp [quietKeys, quiet, Record.stated?, Record.get?_ofPairs, ScriptParameter.fields, Value.States,
      Value.Sets, Value.ofText?, List.lookup_cons, ofString_beq, ofString_inj]

theorem taskKeys_carry (call : Text) : Scripts.Carries (Scripts.mapping (taskKeys call)) call declaration := by
  have parameters : List.Forall₂ Scripts.CarriesParameter
      [Scripts.mapping targetKeys, Scripts.mapping quietKeys] declaration.parameters :=
    .cons (.mapping targetKeys_carry) (.cons (.mapping quietKeys_carry) .nil)
  refine .mapping ⟨⟨?_, ?_⟩, ?_, ?_, ?_, ?_, ⟨?_, ?_, ?_, ?_, ?_⟩, ?_, ?_, ⟨_, ?_, parameters⟩, ?_⟩ <;>
    simp [taskKeys, declaration, Record.stated?, Record.get?_ofPairs, ScriptTask.fields, ScriptTask.projectNames,
      ScriptTask.onlineNames, ScriptTask.threadNames, ScriptTask.resolutionNames, Value.States, Value.Sets,
      Value.ofText?, List.lookup_cons, ofString_beq, ofString_inj]

/-- A source root with a script in it, and a script beside the root. -/
def sources : Sources where
  fs := ⟨.directory [("src", .directory [("a.tasks.yaml", .file []), ("report.sh", .file [])]),
    ("tool.sh", .file [])], []⟩
  roots := [⟨true, ["src"]⟩]
  conventions := .default

def sourceRoot : Path := ⟨true, ["src"]⟩

def metadata : Path := ⟨true, ["src", "a.tasks.yaml"]⟩

def module (name : Text) : Module := ⟨⟨true, ["src", "a.py"]⟩, name, []⟩

theorem agreed : ∃ (a b c : Task) (read : ScriptTask),
    Decorated.task? sources.conventions (module "a") [] (decorated []) = .ok (some a) ∧
    (Documented.classTasks sources.conventions (module "a") documented).result = .ok [b] ∧
    ScriptTask.ofValue (Scripts.mapping (taskKeys "report.sh")) = .ok read ∧
    Scripts.task sources sourceRoot metadata read = .ok c ∧
    a = declaration.task (Decorated.implementation (module "a") [] (decorated [])) Decorated.strategy ∧
    a.SameDeclaration b ∧ a.SameDeclaration c := by
  have known : ∀ phase ∈ declaration.phase, sources.conventions.isKnownPhase phase = true := by decide
  have below : Scripts.Below sources sourceRoot metadata "report.sh" "report.sh" :=
    ⟨by decide, ["report.sh"], by decide, by decide⟩
  have unannotated : Decorated.Unannotated (decorated []) declaration := ⟨[], rfl, fun _ _ _ => List.not_mem_nil⟩
  exact @styles_agree declaration sources (module "a") (module "a") [] sourceRoot metadata (decorated []) documented
    (Scripts.mapping (taskKeys "report.sh")) "report.sh" ⟨"report.sh", by decide⟩ declaration_portable
    (by decide) known (decorated_carries []) unannotated documented_carries (taskKeys_carry "report.sh")
    below (by decide)

theorem outside_unread (read : ScriptTask) (c : Task)
    (h : ScriptTask.ofValue (Scripts.mapping (taskKeys "../tool.sh")) = .ok read) :
    Scripts.task sources sourceRoot metadata read ≠ .ok c := by
  cases (Scripts.entry_of_carried (taskKeys_carry "../tool.sh")).symm.trans h
  have refused : (Scripts.task sources sourceRoot metadata (declaration.script "../tool.sh")).isOk = false := by
    decide +kernel
  intro made
  rw [made] at refused
  cases refused

def halfNamed : TaskDeclaration :=
  { declaration with parameters := [{ quiet with name := ⟨[.half 0], by decide⟩ }], distinct := by decide }

def halfArguments : List (Text × Scalar) := [
  ("name", .text [.half 0]), ("readonly", .truth true), ("since", .text "1.1")]

def halfDecorated : Decorated.Definition :=
  { decorated [] with decorators := [call "task" taskArguments, call "parameter" halfArguments] }

theorem halfDecorated_carries : Decorated.Carries .default halfDecorated halfNamed where
  apart := by simp [Conventions.default, ofString_inj]
  task := by
    obtain ⟨known, name, phase, requirements, description, since, deprecated, unconfigured⟩ := task_carried
    exact ⟨_, _, rfl, call_passes _ taskArguments,
      ⟨known, name, phase, requirements, description, since, deprecated, unconfigured⟩⟩
  parameters := by
    refine .cons ⟨_, call_passes _ halfArguments, ⟨⟨?_, ?_⟩, ?_, ?_, ?_, ?_, ?_, ?_, ?_, ?_, ?_⟩⟩ .nil
    all_goals
      simp [options, halfArguments, quiet, Decorated.Options.get?, Decorated.parameterNames, Value.States,
        Value.Sets, Value.ofText?, List.lookup_cons, ofString_beq, ofString_inj]
  undocumented := rfl

theorem task?_ne_of_isOk {m : Module} {d : Decorated.Definition}
    (refused : (Decorated.task? .default m [] d).isOk = false) (a : Task) :
    Decorated.task? .default m [] d ≠ .ok (some a) := by
  intro made
  rw [made] at refused
  cases refused

theorem extracted_of_types {x : Except Failure (Option Task)} {types : List Text}
    (h : x.toOption.join.map (fun a => a.parameters.map (·.type)) = some types) :
    ∃ a, x = .ok (some a) ∧ a.parameters.map (·.type) = types := by
  obtain ⟨a, joined, same⟩ := Option.map_eq_some_iff.1 h
  cases x with
  | error f => cases joined
  | ok found =>
    have made : found = some a := joined
    exact ⟨a, congrArg Except.ok made, same⟩

theorem annotated_differs : ∃ a b : Task,
    Decorated.task? .default (module "a") [] (decorated [("quiet", "int")]) = .ok (some a) ∧
    (Documented.classTasks .default (module "a") documented).result = .ok [b] ∧ ¬ a.SameDeclaration b := by
  have stated : (Decorated.task? .default (module "a") [] (decorated [("quiet", "int")])).toOption.join.map
      (fun a => a.parameters.map (·.type)) = some (["path", "int"] : List Text) := by
    decide +kernel
  obtain ⟨a, made, int⟩ := extracted_of_types stated
  refine ⟨a, _, made, Documented.classTasks_of_carries documented_carries declaration_portable (by decide)
    (by decide) (by decide), fun same => ?_⟩
  have parameters := congrArg (fun t : Task => t.parameters.map (·.type)) same
  have types : (["path", "str"] : List Text) = ["path", "int"] := parameters.trans int
  exact absurd types (by decide)

/-- Where the styles do not agree: a script beside the source root, lone halves in the name of a parameter or
of a module, and an annotation of a parameter that the decorators give no type. -/
theorem not_agreed :
    (declaration.Portable ∧ Scripts.Carries (Scripts.mapping (taskKeys "../tool.sh")) "../tool.sh" declaration ∧
      sources.fs.hasFile (metadata.parent ++ Path.ofText "../tool.sh") = .ok true ∧
      ∀ read c, ScriptTask.ofValue (Scripts.mapping (taskKeys "../tool.sh")) = .ok read →
        Scripts.task sources sourceRoot metadata read ≠ .ok c) ∧
    (halfNamed.Portable ∧ Decorated.Carries .default halfDecorated halfNamed ∧
      ∀ a, Decorated.task? .default (module "a") [] halfDecorated ≠ .ok (some a)) ∧
    (Decorated.Carries .default (decorated []) declaration ∧
      ∀ a, Decorated.task? .default (module [.half 0]) [] (decorated []) ≠ .ok (some a)) ∧
    Decorated.Carries .default (decorated [("quiet", "int")]) declaration ∧
      Documented.Carries documented declaration ∧ ∃ a b,
        Decorated.task? .default (module "a") [] (decorated [("quiet", "int")]) = .ok (some a) ∧
        (Documented.classTasks .default (module "a") documented).result = .ok [b] ∧ ¬ a.SameDeclaration b :=
  ⟨⟨declaration_portable, taskKeys_carry _, by decide, outside_unread⟩,
    ⟨by decide, halfDecorated_carries, task?_ne_of_isOk (by decide)⟩,
    ⟨decorated_carries [], task?_ne_of_isOk (by decide)⟩,
    decorated_carries _, documented_carries, annotated_differs⟩

end SiteReport

end TaskCatalog
