import TaskCatalog.Proofs.Candidates
import TaskCatalog.Sources.Documented

/-!
What the search for a mark in a file's text passes over. A file without the mark counts as one without tasks, and its
module is not looked at: that shows where the module would have brought tasks or a failure.
-/

namespace TaskCatalog

open Text Outcome

namespace Module

variable {s : Sources} {strategy mark : Text} {work : Module → Logged (List Task)} {root file : Path} {m : Module}

/-- Works on the module of a file, unless a mark is missing in its text. -/
def search (s : Sources) (strategy mark : Text) (work : Module → Logged (List Task)) (root file : Path) :
    Logged (List Task) := do
  match ← Logged.ofExcept (read? s strategy mark root file) with
  | none => return []
  | some m => work m

/-- Whether a file does not hold a mark, but a module of some kind, or none at all. -/
def Hides (s : Sources) (mark : Text) (kind : Module → Prop) (root file : Path) : Prop :=
  ∃ chars, Sources.readText s.fs s.conventions.sourceEncoding file = .ok chars ∧ includes mark (ofChars chars) = false ∧
    ∀ statements, Code.parse chars = .ok statements → kind ⟨file, (moduleName? root file).getD [], statements⟩

theorem includes_nil (t : Text) : includes [] t = true := by
  cases t <;> rfl

theorem search_congr {other : Text} (same : ∀ chars, Sources.readText s.fs s.conventions.sourceEncoding file = .ok chars →
    includes mark (ofChars chars) = includes other (ofChars chars)) :
    search s strategy mark work root file = search s strategy other work root file := by
  have read : read? s strategy mark root file = read? s strategy other root file := by
    unfold read?
    dsimp only
    cases text : Sources.readText s.fs s.conventions.sourceEncoding file with
    | error fault => cases fault <;> rfl
    | ok chars =>
      dsimp only
      rw [same chars text]
  rw [search, search, read]

section

variable {chars : List Char} (text : Sources.readText s.fs s.conventions.sourceEncoding file = .ok chars)
include text

theorem search_of_unmarked (unmarked : includes mark (ofChars chars) = false) :
    search s strategy mark work root file = pure [] := by
  have none : read? s strategy mark root file = .ok none := by
    unfold read?
    rw [text]
    dsimp only
    rw [unmarked]
    rfl
  rw [search, none]
  rfl

theorem search_of_parsed (marked : includes mark (ofChars chars) = true) {statements : List Code.Statement}
    (parsed : Code.parse chars = .ok statements) :
    search s strategy mark work root file = work ⟨file, (moduleName? root file).getD [], statements⟩ := by
  rw [search, read?_eq_some.2 ⟨chars, text, marked, statements, parsed, rfl⟩]
  rfl

theorem search_of_unparsed (marked : includes mark (ofChars chars) = true) {fault : Code.SourceFault}
    (unparsed : Code.parse chars = .error fault) :
    ∃ f, (search s strategy mark work root file).result = .error f := by
  rw [search, Logged.result_bind, Logged.result_ofExcept]
  cases read : read? s strategy mark root file with
  | error f => exact ⟨f, rfl⟩
  | ok found =>
    unfold read? at read
    rw [text] at read
    dsimp only at read
    rw [if_pos marked, unparsed] at read
    cases fault <;> cases read

end

/-- The mark matters where the text does not hold it, but the module comes to more than no tasks. -/
theorem search_eq_iff {kind : Module → Prop} (quiet : ∀ m, work m = pure [] ↔ ¬ kind m) :
    search s strategy mark work root file = search s strategy [] work root file ↔ ¬ Hides s mark kind root file := by
  cases text : Sources.readText s.fs s.conventions.sourceEncoding file with
  | error fault =>
    refine iff_of_true (search_congr fun chars text' => ?_) ?_
    · cases text.symm.trans text'
    · rintro ⟨chars, text', -⟩
      cases text.symm.trans text'
  | ok chars =>
    have hidden_iff : Hides s mark kind root file ↔ includes mark (ofChars chars) = false ∧
        ∀ statements, Code.parse chars = .ok statements → kind ⟨file, (moduleName? root file).getD [], statements⟩ := by
      constructor
      · rintro ⟨_, text', unmarked, each⟩
        cases text.symm.trans text'
        exact ⟨unmarked, each⟩
      · rintro ⟨unmarked, each⟩
        exact ⟨chars, text, unmarked, each⟩
    rw [hidden_iff]
    cases marked : includes mark (ofChars chars) with
    | true =>
      refine iff_of_true (search_congr fun _ text' => ?_) (by simp)
      cases text.symm.trans text'
      rw [marked, includes_nil]
    | false =>
      rw [search_of_unmarked text marked]
      cases parsed : Code.parse chars with
      | ok statements =>
        rw [search_of_parsed text (includes_nil _) parsed, eq_comm, quiet]
        simp
      | error fault =>
        -- A text that is no module is passed over without its mark, and fails when it is looked at.
        obtain ⟨f, failed⟩ := search_of_unparsed text (includes_nil (ofChars chars)) parsed
        refine iff_of_false (fun same => ?_) (by simp)
        rw [← same] at failed
        cases failed

end Module

namespace Decorated

/-- The tasks of a module, and the record of them. -/
def moduleTasks (c : Conventions) (file : Path) (m : Module) : Logged (List Task) := do
  let ts ← Logged.ofExcept (tasksIn c m [] m.statements)
  if !ts.isEmpty then
    Logged.write .debug (file.text ++ ": " ++ ofNat ts.length ++ " decorated task(s)")
  return ts

theorem result_moduleTasks (c : Conventions) (file : Path) (m : Module) :
    (moduleTasks c file m).result = tasksIn c m [] m.statements := by
  rw [moduleTasks, Logged.result_bind, Logged.result_ofExcept]
  cases tasksIn c m [] m.statements with
  | error f => rfl
  | ok ts => cases ts <;> rfl

/-- The tasks of a file whose module is looked at whatever its text holds. -/
def visitedTasks (s : Sources) (root file : Path) : Logged (List Task) :=
  Module.search s strategy [] (moduleTasks s.conventions file) root file

/-- A module with a class or function that a decorator says something of. -/
def IsMarked (c : Conventions) (m : Module) : Prop := ∃ d ∈ candidates [] m.statements, d.marks c ≠ []

theorem fileTasks_eq_search (s : Sources) (root file : Path) :
    fileTasks s root file =
      Module.search s strategy s.conventions.taskDecorator (moduleTasks s.conventions file) root file :=
  congrArg (Logged.bind _) (funext fun found => by cases found <;> rfl)

theorem result_fileTasks {s : Sources} {root file : Path} {chars : List Char} {statements : List Code.Statement}
    (text : Sources.readText s.fs s.conventions.sourceEncoding file = .ok chars)
    (marked : includes s.conventions.taskDecorator (ofChars chars) = true)
    (parsed : Code.parse chars = .ok statements) : (fileTasks s root file).result =
      tasksIn s.conventions ⟨file, (moduleName? root file).getD [], statements⟩ [] statements := by
  rw [fileTasks_eq_search, Module.search_of_parsed text marked parsed, result_moduleTasks]

/-- What is extracted of one file with the mark in it are the tasks of its module. -/
theorem extract_of_file {s : Sources} {root file : Path} {chars : List Char} {name : Text}
    {statements : List Code.Statement} {ts : List Task} (files : s.files [Module.suffix] = [(root, file)])
    (text : Sources.readText s.fs s.conventions.sourceEncoding file = .ok chars)
    (marked : includes s.conventions.taskDecorator (ofChars chars) = true) (parsed : Code.parse chars = .ok statements)
    (named : (moduleName? root file).getD [] = name)
    (made : tasksIn s.conventions ⟨file, name, statements⟩ [] statements = .ok ts) : (extract s).result = .ok ts := by
  have here : (fileTasks s root file).result = .ok ts := by
    rw [result_fileTasks text marked parsed, named]
    exact made
  rw [extract, files, List.map_singleton]
  change ((fileTasks s root file).bind _).result = _
  rw [Logged.bind_result_ok _ here]
  exact congrArg Except.ok (List.append_nil ts)

theorem task?_eq_none_iff {c : Conventions} {m : Module} {d : Candidate} :
    task? c m d.scope d.definition = .ok none ↔ d.marks c = [] := by
  rw [Candidate.marks, List.append_eq_nil_iff]
  constructor
  · intro found
    cases comes_of_task? found with
    | nothing unmarked bare =>
      refine ⟨unmarked, ?_⟩
      by_cases one : c.parameterDecorator = c.taskDecorator
      · rw [one]
        exact unmarked
      · rwa [Definition.parameterCalls, if_neg one] at bare
  · rintro ⟨unmarked, bare⟩
    rw [task?, unmarked, bare, ite_self]
    rfl

theorem moduleTasks_eq_nil_iff {c : Conventions} {file : Path} (m : Module) :
    moduleTasks c file m = pure [] ↔ ¬ IsMarked c m := by
  have unmarked_iff : ¬ IsMarked c m ↔ tasksIn c m [] m.statements = .ok [] := by
    simp only [IsMarked, not_exists, not_and, not_not, tasksIn_eq, Outcome.flatten_eq_nil_iff, task?_eq_none_iff]
  rw [unmarked_iff]
  unfold moduleTasks
  cases tasksIn c m [] m.statements with
  | error f => exact iff_of_false (by rintro ⟨⟩) (by rintro ⟨⟩)
  | ok ts =>
    cases ts with
    | nil => exact iff_of_true rfl rfl
    | cons t ts => exact iff_of_false (by rintro ⟨⟩) (by rintro ⟨⟩)

end Decorated

namespace Documented

/-- The tasks of a file whose module is looked at whatever its text holds. -/
def visitedTasks (s : Sources) (root file : Path) : Logged (List Task) :=
  Module.search s strategy []
    (fun m => Logged.gather ((classes m.statements).map (classTasks s.conventions m))) root file

/-- A module with a class whose documentation has the tag of a goal. -/
def IsTagged (m : Module) : Prop :=
  ∃ d ∈ classes m.statements, ∃ documentation, Module.documentation? d.body = some documentation ∧
    Tags.occurs goalTag documentation = true

theorem fileTasks_eq_search (s : Sources) (root file : Path) :
    fileTasks s root file = Module.search s strategy ("@" ++ goalTag)
      (fun m => Logged.gather ((classes m.statements).map (classTasks s.conventions m))) root file :=
  congrArg (Logged.bind _) (funext fun found => by cases found <;> rfl)

theorem classTasks_eq_nil_iff {c : Conventions} {m : Module} {d : Definition} :
    classTasks c m d = pure [] ↔
      ¬ ∃ documentation, Module.documentation? d.body = some documentation ∧ Tags.occurs goalTag documentation = true := by
  have tagged_iff {o : Option Text} : (∃ documentation, o = some documentation ∧ Tags.occurs goalTag documentation = true) ↔
      o.filter (Tags.occurs goalTag) ≠ none := by
    cases o <;> simp
  rw [tagged_iff, not_not]
  unfold classTasks
  cases (Module.documentation? d.body).filter (Tags.occurs goalTag) with
  | none => exact iff_of_true rfl rfl
  | some documentation =>
    refine iff_of_false (fun quiet => ?_) (by rintro ⟨⟩)
    dsimp only at quiet
    cases made : task c m d documentation with
    | error f =>
      rw [made] at quiet
      cases quiet
    | ok t =>
      rw [made] at quiet
      cases quiet

theorem moduleTasks_eq_nil_iff {c : Conventions} (m : Module) :
    Logged.gather ((classes m.statements).map (classTasks c m)) = pure [] ↔ ¬ IsTagged m := by
  simp only [IsTagged, Logged.gather_eq_nil_iff, List.forall_mem_map, classTasks_eq_nil_iff, not_exists, not_and]

end Documented

/-- A file's tasks are those of its module, unless its text does not hold the mark that is searched for while the module
has a decorator, or a tag, all the same. -/
theorem Module.shortcut_iff (s : Sources) (root file : Path) :
    (Decorated.fileTasks s root file = Decorated.visitedTasks s root file ↔
      ¬ Hides s s.conventions.taskDecorator (Decorated.IsMarked s.conventions) root file) ∧
    (Documented.fileTasks s root file = Documented.visitedTasks s root file ↔
      ¬ Hides s ("@" ++ Documented.goalTag) Documented.IsTagged root file) := by
  rw [Decorated.fileTasks_eq_search, Documented.fileTasks_eq_search]
  exact ⟨search_eq_iff Decorated.moduleTasks_eq_nil_iff, search_eq_iff Documented.moduleTasks_eq_nil_iff⟩

/-- A module whose class declares a parameter, but is no task. -/
def Module.parameterAlone : List Char := "@parameter('x')\nclass A:\n    pass\n".toList

/-- Sources with that module only. -/
def Sources.parameterAlone : Sources where
  fs := ⟨.directory [("src", .directory [("a.py", .file (String.ofList Module.parameterAlone).toUTF8.toList)])], []⟩
  roots := [⟨true, ["src"]⟩]
  conventions := .default

/-- The name that is called on the only class of a module. -/
def Module.soleMark? : List Code.Statement → Option Text
  | [.classDefinition _ _ [.call (.name w) _ _] _] => some w
  | _ => none

/-- The extractor finds nothing, where to look at the module is to fail. -/
theorem Module.parameterAlone_hidden :
    (Decorated.extract .parameterAlone).result = .ok [] ∧
      ∃ n place, (Decorated.visitedTasks .parameterAlone ⟨true, ["src"]⟩ ⟨true, ["src", "a.py"]⟩).result =
        .error (.extraction ⟨.undecorated n "task", some Decorated.strategy, some place⟩) := by
  have silent : (Decorated.extract .parameterAlone).result.toOption = some [] := by decide +kernel
  have text : Sources.readText Sources.parameterAlone.fs Sources.parameterAlone.conventions.sourceEncoding
      ⟨true, ["src", "a.py"]⟩ = .ok parameterAlone := toOption_eq_some.1 (by decide +kernel)
  have called : (Code.parse parameterAlone).toOption.bind soleMark? = some "parameter" := by decide +kernel
  obtain ⟨statements, parsed, called⟩ := Option.bind_eq_some_iff.1 called
  refine ⟨toOption_eq_some.1 silent, ?_⟩
  unfold soleMark? at called
  split at called
  · next line n w positional keywords body =>
    cases called
    rw [Decorated.visitedTasks, search_of_parsed text (includes_nil _) (toOption_eq_some.1 parsed),
      Decorated.moduleTasks, Logged.result_bind, Logged.result_ofExcept, Decorated.tasksIn]
    exact ⟨n, _, rfl⟩
  · cases called

end TaskCatalog
