import TaskCatalog.Proofs.DecoratorMarks
import TaskCatalog.Proofs.DefinitionOrder
import TaskCatalog.Proofs.SourceFrame
import TaskCatalog.Proofs.SourceShortcut

/-!
Which tasks the decorators of a source tree come to. File by file there is one task for each class or function that is
reached through classes alone and bears the task decorator, in the order of the source, and none for anything else. A
task is placed under the names of the classes around it, and has the parameters of its decorators from top to bottom.
-/

namespace TaskCatalog

open Text Outcome

/-- What comes of a file below its root that is searched: nothing where its text lacks the mark, and what its module
comes to otherwise. -/
theorem Module.cases_of_search {s : Sources} {strategy mark : Text} {work : Module → Logged (List Task)}
    {root file : Path} {name : Text} {ts : List Task} (named : moduleName? root file = some name)
    (h : (search s strategy mark work root file).result = .ok ts) :
    ∃ chars, Sources.readText s.fs s.conventions.sourceEncoding file = .ok chars ∧
      (includes mark (ofChars chars) = false ∧ ts = [] ∨
        includes mark (ofChars chars) = true ∧ ∃ statements, Code.parse chars = .ok statements ∧
          (work ⟨file, name, statements⟩).result = .ok ts) := by
  rw [search, Logged.result_bind, Logged.result_ofExcept] at h
  obtain ⟨found, read, h⟩ := bind_eq_ok.1 h
  cases found with
  | none =>
    cases h
    obtain ⟨chars, text, unmarked⟩ := read?_eq_none.1 read
    exact ⟨chars, text, .inl ⟨unmarked, rfl⟩⟩
  | some m =>
    obtain ⟨chars, text, marked, statements, parsed, rfl⟩ := read?_eq_some.1 read
    rw [named] at h
    exact ⟨chars, text, .inr ⟨marked, statements, parsed, h⟩⟩

namespace Decorated

variable {c : Conventions} {m : Module} {d : Candidate} {t : Task}

/-- A parameter with the name and all else that a decorator states. -/
structure Candidate.DeclaresParameter (m : Module) (d : Candidate) (e : Code.Expression) (p : Parameter) : Prop where
  named : Names e p.name.val
  read : ∃ annotations, d.definition.annotations = .ok annotations ∧
    parameter (Site.ofLine strategy m.file d.definition.line) annotations e = .ok p

structure Candidate.Declares (c : Conventions) (m : Module) (d : Candidate) (t : Task) : Prop where
  made : task? c m d.scope d.definition = .ok (some t)
  implementation : t.implementation.val = m.name ++ ":" ++ join "." (d.scope ++ [d.definition.name])
  parameters : List.Forall₂ (d.DeclaresParameter m) (d.parameterMarks c) t.parameters

theorem declares_of_task? (h : task? c m d.scope d.definition = .ok (some t)) : d.Declares c m t := by
  cases comes_of_task? h with
  | @task e os annotations ps rs _ only given phase annotated read required built =>
    obtain ⟨placed, rfl⟩ := Site.parts_of_task rfl built
    refine ⟨h, placed, ?_⟩
    rw [parameterMarks_eq]
    exact (forall₂_of_mapM read).imp fun e p read => ⟨names_of_parameter read, annotations, annotated, read⟩

theorem isSome_of_task? {o : Option Task} (h : task? c m d.scope d.definition = .ok o) :
    o.isSome = decide (d.IsTask c) := by
  cases comes_of_task? h with
  | nothing unmarked => exact (decide_eq_false fun marked => isTask_iff.1 marked unmarked).symm
  | @task e os annotations ps rs t only =>
    exact (decide_eq_true (isTask_iff.2 (only ▸ List.cons_ne_nil e []))).symm

/-- The tasks of a module: one for each class or function that is reached and has a decorator for tasks, in the order
of their addresses. -/
def ModuleYields (c : Conventions) (m : Module) (ts : List Task) : Prop :=
  ∃ marked : List (Address × Candidate), marked.Pairwise (fun a b => a.1 < b.1) ∧
    (∀ address d, (address, d) ∈ marked ↔ Reached [] m.statements address d ∧ d.IsTask c) ∧
    List.Forall₂ (fun r t => r.2.Declares c m t) marked ts

/-- The tasks of a file below a root. It is a module to be looked at where its text holds the name of the decorator. -/
inductive FileYields (s : Sources) : Path × Path → List Task → Prop
  | passed {root file : Path} {chars : List Char}
    (text : Sources.readText s.fs s.conventions.sourceEncoding file = .ok chars)
    (unmarked : includes s.conventions.taskDecorator (ofChars chars) = false) : FileYields s (root, file) []
  | parsed {root file : Path} {chars : List Char} {name : Text} {statements : List Code.Statement} {ts : List Task}
    (text : Sources.readText s.fs s.conventions.sourceEncoding file = .ok chars)
    (marked : includes s.conventions.taskDecorator (ofChars chars) = true)
    (parsed : Code.parse chars = .ok statements) (named : moduleName? root file = some name)
    (tasks : ModuleYields s.conventions ⟨file, name, statements⟩ ts) : FileYields s (root, file) ts

theorem moduleYields_of_tasksIn {ts : List Task} (h : tasksIn c m [] m.statements = .ok ts) : ModuleYields c m ts := by
  rw [tasksIn_eq, ← map_reachedFrom [] 0, List.mapM_map] at h
  refine ⟨(reachedFrom [] 0 m.statements).filter fun r => r.2.IsTask c, ?_, fun address d => ?_, ?_⟩
  · exact (ascending_reachedFrom [] 0 m.statements).filter _
  · rw [List.mem_filter, mem_reachedFrom, reachedFrom_zero_iff, decide_eq_true_iff]
  · exact (forall₂_of_flatten (fun r o made => isSome_of_task? made) h).imp fun r t made => declares_of_task? made

theorem fileYields_of_named {s : Sources} {root file : Path} {name : Text} {ts : List Task}
    (named : moduleName? root file = some name) (h : (fileTasks s root file).result = .ok ts) :
    FileYields s (root, file) ts := by
  rw [fileTasks_eq_search] at h
  obtain ⟨chars, text, ⟨unmarked, rfl⟩ | ⟨marked, statements, parsed, h⟩⟩ := Module.cases_of_search named h
  · exact .passed text unmarked
  · rw [result_moduleTasks] at h
    exact .parsed text marked parsed named (moduleYields_of_tasksIn h)

theorem fileYields_of_fileTasks {s : Sources} {root file : Path} {ts : List Task}
    (listed : (root, file) ∈ s.files [Module.suffix]) (h : (fileTasks s root file).result = .ok ts) :
    FileYields s (root, file) ts := by
  obtain ⟨name, named⟩ := Sources.named_of_mem_files listed
  exact fileYields_of_named named h

theorem extract_yields (s : Sources) (ts : List Task) (h : (extract s).result = .ok ts) :
    ∃ parts, List.Forall₂ (FileYields s) (s.files [Module.suffix]) parts ∧ ts = parts.flatten := by
  obtain ⟨parts, each, rfl⟩ := Logged.forall₂_of_gather h
  rw [List.forall₂_map_left_iff] at each
  refine ⟨parts, ?_, rfl⟩
  exact (forall₂_imp_of_mem each.flip fun part pair listed found => fileYields_of_fileTasks listed found).flip

end Decorated

namespace NestedTasks

def module : List Char :=
  "@task\nclass A:\n class B:\n  @plugin_tools.a.task\n  @parameter('p')\n  @parameter(name='q')\n  def c(): pass\n".toList

def sources : Sources where
  fs := ⟨.directory [("src", .directory [("pkg", .directory
    [("a.py", .file (String.ofList module).toUTF8.toList)])])], []⟩
  roots := [⟨true, ["src"]⟩]
  conventions := .default

def outline (t : Task) : Text × List Text := (t.implementation.val, t.parameters.map fun p => p.name.val)

def outlines : List (Text × List Text) := [("pkg.a:A", []), ("pkg.a:A.B.c", ["p", "q"])]

def root : Path := ⟨true, ["src"]⟩

def file : Path := ⟨true, ["src", "pkg", "a.py"]⟩

theorem found : ∃ statements, Code.parse module = .ok statements ∧
    ∃ ts, Decorated.tasksIn .default ⟨file, "pkg.a", statements⟩ [] statements = .ok ts ∧ ts.map outline = outlines := by
  have shown : ((Code.parse module).toOption.bind fun statements =>
      Decorated.tasksWithin 3 .default ⟨file, "pkg.a", statements⟩).map (·.map outline) = some outlines := by
    decide +kernel
  obtain ⟨ts, made, listed⟩ := Option.map_eq_some_iff.1 shown
  obtain ⟨statements, parsed, within⟩ := Option.bind_eq_some_iff.1 made
  exact ⟨statements, toOption_eq_some.1 parsed, ts, Decorated.tasksIn_of_within within, listed⟩

theorem yielded : ∃ ts, (Decorated.extract sources).result = .ok ts ∧ ts.map outline = outlines ∧
    ∃ parts, List.Forall₂ (Decorated.FileYields sources) (sources.files [Module.suffix]) parts ∧ ts = parts.flatten := by
  obtain ⟨statements, parsed, ts, made, shown⟩ := found
  have files : sources.files [Module.suffix] = [(root, file)] := by decide +kernel
  have text : Sources.readText sources.fs sources.conventions.sourceEncoding file = .ok module :=
    toOption_eq_some.1 (by decide +kernel)
  have named : (moduleName? root file).getD [] = ("pkg.a" : Text) := by decide +kernel
  have result := Decorated.extract_of_file files text (by decide +kernel) parsed named made
  exact ⟨ts, result, shown, Decorated.extract_yields sources ts result⟩

end NestedTasks

namespace SoleModule

def root : Path := ⟨true, ["src"]⟩

def file : Path := ⟨true, ["src", "a.py"]⟩

/-- Sources that are one module. -/
def sources (chars : List Char) : Sources where
  fs := ⟨.directory [("src", .directory [("a.py", .file (String.ofList chars).toUTF8.toList)])], []⟩
  roots := [root]
  conventions := .default

theorem named : moduleName? root file = some ("a" : Text) := by decide +kernel

/-- What is extracted of the one module, where its classes have fewer than so many levels. -/
theorem extracted {chars : List Char} {levels : Nat} {ts : List Task}
    (files : (sources chars).files [Module.suffix] = [(root, file)])
    (text : Sources.readText (sources chars).fs Conventions.default.sourceEncoding file = .ok chars)
    (marked : includes Conventions.default.taskDecorator (ofChars chars) = true)
    (shown : ((Code.parse chars).toOption.bind fun statements =>
      Decorated.tasksWithin levels .default ⟨file, "a", statements⟩) = some ts) :
    (Decorated.extract (sources chars)).result = .ok ts := by
  obtain ⟨statements, parsed, within⟩ := Option.bind_eq_some_iff.1 shown
  exact Decorated.extract_of_file files text marked (toOption_eq_some.1 parsed) (congrArg (Option.getD · []) named)
    (Decorated.tasksIn_of_within within)

end SoleModule

end TaskCatalog
