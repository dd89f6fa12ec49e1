import TaskCatalog.Proofs.DocumentedTasks
import TaskCatalog.Proofs.Forms
import TaskCatalog.Proofs.ParsedNames

/-!
How the tasks of a class refer to it. The task of its decorators has the names of all classes around it before its own,
the task of its documentation its own name alone. So the former tell the classes of a module apart by where they are
nested, and the latter do not.
-/

namespace TaskCatalog

open Text Outcome

/-- Names in the source consist of letters of names, those around a definition and its own. -/
theorem Decorated.Reached.named {scope : List Text} {statements : List Code.Statement} {address : Address}
    {d : Decorated.Candidate} (reached : Decorated.Reached scope statements address d)
    (named : Code.AllNamed statements) (outer : ∀ n ∈ scope, Code.HasNameLetters n) :
    ∀ n ∈ d.scope ++ [d.definition.name], Code.HasNameLetters n := by
  induction reached with
  | ofClass there =>
    cases named _ (List.mem_of_getElem? there) with
    | classDefinition spelled inside => exact List.forall_mem_append.2 ⟨outer, List.forall_mem_singleton.2 spelled⟩
  | ofFunction there =>
    cases named _ (List.mem_of_getElem? there) with
    | functionDefinition spelled inside => exact List.forall_mem_append.2 ⟨outer, List.forall_mem_singleton.2 spelled⟩
  | ofMember around _ ih =>
    cases named _ (List.mem_of_getElem? around) with
    | classDefinition spelled inside =>
      exact ih inside (List.forall_mem_append.2 ⟨outer, List.forall_mem_singleton.2 spelled⟩)

/-- A class in classes, with the names of those around it, the outermost first. -/
structure NestedClass where
  scope : List Text
  line : Nat
  name : Text
  decorators : List Code.Expression
  body : List Code.Statement

namespace NestedClass

def path (k : NestedClass) : List Text := k.scope ++ [k.name]

def candidate (k : NestedClass) : Decorated.Candidate :=
  Decorated.classCandidate k.scope k.line k.name k.decorators k.body

def definition (k : NestedClass) : Documented.Definition := ⟨k.line, k.name, k.body⟩

/-- The class at an address, where all around it are classes. -/
inductive In : List Text → List Code.Statement → List Nat → NestedClass → Prop
  | here {scope statements i line name decorators body}
      (there : statements[i]? = some (.classDefinition line name decorators body)) :
      In scope statements [i] ⟨scope, line, name, decorators, body⟩
  | inside {scope statements i line name decorators body address k}
      (around : statements[i]? = some (.classDefinition line name decorators body))
      (nested : In (scope ++ [name]) body address k) : In scope statements (i :: address) k

/-- The task that the decorators of a class declare, and the one that its documentation declares. -/
structure Comes (c : Conventions) (m : Module) (k : NestedClass) (t u : Task) : Prop where
  decorated : k.candidate.Declares c m t
  documented : k.definition.Declares c m u

variable {scope : List Text} {statements : List Code.Statement} {address other : List Nat} {k l : NestedClass}
  {c : Conventions} {m : Module} {t t' u u' : Task} {s : Sources} {root file : Path} {chars : List Char}
  {ts us : List Task}

theorem In.reached (nested : k.In scope statements address) : Decorated.Reached scope statements address k.candidate := by
  induction nested with
  | here there => exact .ofClass there
  | inside around _ ih => exact .ofMember around ih

theorem In.stands (nested : k.In scope statements address) :
    Code.Stands statements address (.classDefinition k.line k.name k.decorators k.body) := by
  induction nested with
  | here there => exact .here there
  | inside around _ ih => exact .inside around ih

theorem In.named (nested : k.In scope statements address) (named : Code.AllNamed statements)
    (outer : ∀ n ∈ scope, Code.HasNameLetters n) : ∀ n ∈ k.path, Code.HasNameLetters n :=
  nested.reached.named named outer

theorem dot_not_mem {name : Text} (named : Code.HasNameLetters name) : .scalar '.' ∉ name := fun member =>
  absurd (named _ member) (by decide)

/-- Names in the source have no dots, so that a path is found again in its text. -/
theorem In.splitOn_path (nested : k.In [] statements address) (parsed : Code.parse chars = .ok statements) :
    splitOn (.scalar '.') (join "." k.path) = k.path := by
  have named := nested.named (Code.named_of_parse parsed) (List.forall_mem_nil _)
  exact splitOn_join (List.concat_ne_nil _ _) fun n member => dot_not_mem (named n member)

theorem In.join_path_eq_iff (nested : k.In [] statements address) (other : l.In [] statements other)
    (parsed : Code.parse chars = .ok statements) : join "." k.path = join "." l.path ↔ k.path = l.path := by
  refine ⟨fun same => ?_, congrArg _⟩
  rw [← nested.splitOn_path parsed, same, other.splitOn_path parsed]

theorem In.join_path_eq_name_iff (nested : k.In [] statements address) (parsed : Code.parse chars = .ok statements) :
    join "." k.path = k.name ↔ k.scope = [] := by
  constructor
  · intro same
    have named := nested.named (Code.named_of_parse parsed) (List.forall_mem_nil _) k.name List.mem_concat_self
    have alone : k.path = [k.name] := by
      rw [← nested.splitOn_path parsed, same, splitOn_of_not_mem (dot_not_mem named)]
    exact List.self_eq_append_left.1 alone.symm
  · intro outermost
    rw [path, outermost]
    rfl

theorem Comes.decorated_eq (comes : k.Comes c m t u) : t.implementation.val = m.name ++ ":" ++ join "." k.path :=
  comes.decorated.implementation

theorem Comes.documented_eq (comes : k.Comes c m t u) : u.implementation.val = m.name ++ ":" ++ k.name :=
  comes.documented.implementation

section

variable (text : Sources.readText s.fs s.conventions.sourceEncoding m.file = .ok chars)
  (parsed : Code.parse chars = .ok m.statements) (named : moduleName? root m.file = some m.name)
  (nested : k.In [] m.statements address)

include text parsed named nested

theorem exists_decorated (marked : includes s.conventions.taskDecorator (ofChars chars) = true)
    (extracted : (Decorated.fileTasks s root m.file).result = .ok ts) (task : k.candidate.IsTask s.conventions) :
    ∃ t ∈ ts, k.candidate.Declares s.conventions m t := by
  rw [Decorated.result_fileTasks text marked parsed, named] at extracted
  obtain ⟨listed, -, complete, each⟩ := Decorated.moduleYields_of_tasksIn extracted
  exact exists_of_forall₂ each.flip ((complete address k.candidate).2 ⟨nested.reached, task⟩)

theorem exists_documented (tagged : includes ("@" ++ Documented.goalTag) (ofChars chars) = true)
    (extracted : (Documented.fileTasks s root m.file).result = .ok us) (task : k.definition.IsTask) :
    ∃ u ∈ us, k.definition.Declares s.conventions m u := by
  rw [Documented.fileTasks_eq_search, Module.search_of_parsed text tagged parsed, named] at extracted
  obtain ⟨listed, -, complete, each⟩ := Documented.moduleYields_of_gather extracted
  exact exists_of_forall₂ each.flip ((complete address k.definition).2 ⟨⟨k.decorators, nested.stands⟩, task⟩)

theorem exists_comes (marked : includes s.conventions.taskDecorator (ofChars chars) = true)
    (decorated : (Decorated.fileTasks s root m.file).result = .ok ts)
    (tagged : includes ("@" ++ Documented.goalTag) (ofChars chars) = true)
    (documented : (Documented.fileTasks s root m.file).result = .ok us)
    (byMark : k.candidate.IsTask s.conventions) (byTag : k.definition.IsTask) :
    ∃ t ∈ ts, ∃ u ∈ us, k.Comes s.conventions m t u := by
  obtain ⟨t, listed, declared⟩ := exists_decorated text parsed named nested marked decorated byMark
  obtain ⟨u, listed', declared'⟩ := exists_documented text parsed named nested tagged documented byTag
  exact ⟨t, listed, u, listed', declared, declared'⟩

/-- A class that is declared in both ways has a task of each, and the two refer to it alike if it is in no other class.
Tasks of decorators refer alike to two classes only where these have the same names in the module, tasks of
documentation wherever the classes' own names are the same. -/
theorem references_of_class (marked : includes s.conventions.taskDecorator (ofChars chars) = true)
    (decorated : (Decorated.fileTasks s root m.file).result = .ok ts)
    (tagged : includes ("@" ++ Documented.goalTag) (ofChars chars) = true)
    (documented : (Documented.fileTasks s root m.file).result = .ok us)
    (byMark : k.candidate.IsTask s.conventions) (byTag : k.definition.IsTask) :
    ∃ t ∈ ts, ∃ u ∈ us, k.Comes s.conventions m t u ∧ (t.implementation = u.implementation ↔ k.scope = []) ∧
      ∀ (l : NestedClass) (other : List Nat) (t' u' : Task), l.In [] m.statements other →
        l.Comes s.conventions m t' u' → (t.implementation = t'.implementation ↔ k.path = l.path) ∧
          (u.implementation = u'.implementation ↔ k.name = l.name) := by
  obtain ⟨t, listed, u, listed', comes⟩ :=
    exists_comes text parsed named nested marked decorated tagged documented byMark byTag
  refine ⟨t, listed, u, listed', comes, ?_, fun l other t' u' nested' comes' => ⟨?_, ?_⟩⟩
  · rw [Subtype.ext_iff, comes.decorated_eq, comes.documented_eq, List.append_cancel_left_eq]
    exact nested.join_path_eq_name_iff parsed
  · rw [Subtype.ext_iff, comes.decorated_eq, comes'.decorated_eq, List.append_cancel_left_eq]
    exact nested.join_path_eq_iff nested' parsed
  · rw [Subtype.ext_iff, comes.documented_eq, comes'.documented_eq, List.append_cancel_left_eq]

end

end NestedClass

namespace Namesakes

open SoleModule (root file named)

def module : List Char :=
  "class A:\n @task\n class B:\n  '@goal b'\nclass C:\n @task\n class B:\n  '@goal d'\n".toList

def sources : Sources := SoleModule.sources module

theorem text : Sources.readText sources.fs sources.conventions.sourceEncoding file = .ok module :=
  toOption_eq_some.1 (by decide +kernel)

theorem hasMark : includes sources.conventions.taskDecorator (ofChars module) = true := by decide +kernel

theorem hasTag : includes ("@" ++ Documented.goalTag) (ofChars module) = true := by decide +kernel

/-- A class of the module that is declared in both ways. -/
structure Declared (statements : List Code.Statement) (address : List Nat) (k : NestedClass) : Prop where
  nested : k.In [] statements address
  byMark : k.candidate.IsTask .default
  byTag : k.definition.IsTask

/-- The classes in the two classes of the module. -/
def members? : List Code.Statement → Option (NestedClass × NestedClass)
  | [.classDefinition _ name _ [.classDefinition line₁ name₁ decorators₁ body₁],
      .classDefinition _ name₂ _ [.classDefinition line₃ name₃ decorators₃ body₃]] =>
    some (⟨[name], line₁, name₁, decorators₁, body₁⟩, ⟨[name₂], line₃, name₃, decorators₃, body₃⟩)
  | _ => none

theorem in_of_members? {statements : List Code.Statement} {r : NestedClass × NestedClass}
    (h : members? statements = some r) : r.1.In [] statements [0, 0] ∧ r.2.In [] statements [1, 0] := by
  unfold members? at h
  split at h
  · cases h
    exact ⟨.inside rfl (.here rfl), .inside rfl (.here rfl)⟩
  · cases h

/-- Two classes of one name in different classes, in a module of which both extractors give tasks. -/
theorem found : ∃ statements k l, Code.parse module = .ok statements ∧ Declared statements [0, 0] k ∧
    Declared statements [1, 0] l ∧ (k.scope = ["A"] ∧ l.scope = ["C"] ∧ k.name = "B" ∧ l.name = "B") ∧
    (∃ ts, (Decorated.fileTasks sources root file).result = .ok ts) ∧
    ∃ us, (Documented.fileTasks sources root file).result = .ok us := by
  have shape : ((Code.parse module).toOption.bind members?).any (fun r : NestedClass × NestedClass =>
      decide ((r.1.candidate.IsTask .default ∧ r.1.definition.IsTask) ∧
        (r.2.candidate.IsTask .default ∧ r.2.definition.IsTask) ∧
        r.1.scope = ["A"] ∧ r.2.scope = ["C"] ∧ r.1.name = "B" ∧ r.2.name = "B")) = true := by
    decide +kernel
  have made : ((Code.parse module).toOption.bind fun statements =>
      Decorated.tasksWithin 3 .default ⟨file, "a", statements⟩).isSome = true := by
    decide +kernel
  have read : (Documented.fileTasks sources root file).result.toOption.isSome = true := by decide +kernel
  obtain ⟨r, member, shape⟩ := (Option.any_eq_true _ _).1 shape
  obtain ⟨statements, parsed, member⟩ := Option.bind_eq_some_iff.1 member
  obtain ⟨ts, made⟩ := Option.isSome_iff_exists.1 made
  obtain ⟨us, read⟩ := Option.isSome_iff_exists.1 read
  rw [parsed, Option.bind_some] at made
  rw [toOption_eq_some] at parsed
  obtain ⟨⟨byMark, byTag⟩, ⟨byMark', byTag'⟩, names⟩ := of_decide_eq_true shape
  obtain ⟨here, there⟩ := in_of_members? member
  refine ⟨statements, r.1, r.2, parsed, ⟨here, byMark, byTag⟩, ⟨there, byMark', byTag'⟩, names, ⟨ts, ?_⟩, us,
    toOption_eq_some.1 read⟩
  rw [Decorated.result_fileTasks text hasMark parsed, named]
  exact Decorated.tasksIn_of_within made

theorem referred : ∃ statements k ts us, (Decorated.fileTasks sources root file).result = .ok ts ∧
    (Documented.fileTasks sources root file).result = .ok us ∧ Declared statements [0, 0] k ∧ k.scope = ["A"] ∧
    ∃ t ∈ ts, ∃ u ∈ us, k.Comes .default ⟨file, "a", statements⟩ t u ∧
      (t.implementation = u.implementation ↔ k.scope = []) ∧
      ∀ (l : NestedClass) (other : List Nat) (t' u' : Task), l.In [] statements other →
        l.Comes .default ⟨file, "a", statements⟩ t' u' → (t.implementation = t'.implementation ↔ k.path = l.path) ∧
          (u.implementation = u'.implementation ↔ k.name = l.name) := by
  obtain ⟨statements, k, l, parsed, here, -, ⟨around, -⟩, ⟨ts, decorated⟩, us, documented⟩ := found
  exact ⟨statements, k, ts, us, decorated, documented, here, around,
    NestedClass.references_of_class (s := sources) (m := ⟨file, "a", statements⟩) text parsed named here.nested hasMark
      decorated hasTag documented here.byMark here.byTag⟩

/-- The two tasks of one class refer to it differently, and two tasks of different classes refer to them alike. -/
theorem confused : ∃ statements k l ts us, Code.parse module = .ok statements ∧
    (Decorated.fileTasks sources root file).result = .ok ts ∧ (Documented.fileTasks sources root file).result = .ok us ∧
    Declared statements [0, 0] k ∧ Declared statements [1, 0] l ∧ k.scope ≠ l.scope ∧
    ∃ t ∈ ts, ∃ u ∈ us, k.Comes .default ⟨file, "a", statements⟩ t u ∧ t.implementation ≠ u.implementation ∧
      ∃ t' ∈ ts, ∃ u' ∈ us, l.Comes .default ⟨file, "a", statements⟩ t' u' ∧ u.implementation = u'.implementation := by
  obtain ⟨statements, k, l, parsed, here, there, ⟨around, around', own, own'⟩, ⟨ts, decorated⟩, us, documented⟩ := found
  have tasks {address : List Nat} {k : NestedClass} (d : Declared statements address k) :
      ∃ t ∈ ts, ∃ u ∈ us, k.Comes .default ⟨file, "a", statements⟩ t u :=
    NestedClass.exists_comes (s := sources) (m := ⟨file, "a", statements⟩) text parsed named d.nested hasMark decorated
      hasTag documented d.byMark d.byTag
  obtain ⟨t, ht, u, hu, comes⟩ := tasks here
  obtain ⟨t', ht', u', hu', comes'⟩ := tasks there
  refine ⟨statements, k, l, ts, us, parsed, decorated, documented, here, there, ?_, t, ht, u, hu, comes, ?_,
    t', ht', u', hu', comes', Subtype.ext ?_⟩
  · rw [around, around']
    decide
  · rw [Ne, Subtype.ext_iff, comes.decorated_eq, comes.documented_eq, List.append_cancel_left_eq, NestedClass.path,
      around, own]
    decide
  · rw [comes.documented_eq, comes'.documented_eq, own, own']

end Namesakes

end TaskCatalog
