import TaskCatalog.Proofs.ExtractedTasks

/-!
Which of the marked classes and functions of a module come to a task. They may stand in the module or in a class of it,
and there in the blocks of other statements. A task comes of each that stands in no such block, where the text of the
module holds the name of the decorator; the others are passed over without a failure.
-/

namespace TaskCatalog

open Text Outcome

namespace Decorated

/-- A class or function at the level of a module or of a class in it, with the number of blocks of other statements
around it. -/
inductive Levelled : List Text → List Code.Statement → Address → Nat → Candidate → Prop
  | ofClass {scope statements i line name decorators body}
      (there : statements[i]? = some (.classDefinition line name decorators body)) :
      Levelled scope statements [i] 0 (classCandidate scope line name decorators body)
  | ofFunction {scope statements i line name decorators signature body}
      (there : statements[i]? = some (.functionDefinition line name decorators signature body)) :
      Levelled scope statements [i] 0 (functionCandidate scope line name decorators signature body)
  | ofMember {scope statements i line name decorators body address blocks d}
      (around : statements[i]? = some (.classDefinition line name decorators body))
      (inside : Levelled (scope ++ [name]) body address blocks d) : Levelled scope statements (i :: address) blocks d
  | ofBlock {scope statements i inner address blocks d} (around : statements[i]? = some (.compound inner))
      (inside : Levelled scope inner address blocks d) : Levelled scope statements (i :: address) (blocks + 1) d

variable {scope : List Text} {statements : List Code.Statement} {address : Address} {blocks other : Nat} {d e : Candidate}

theorem Reached.levelled (reached : Reached scope statements address d) : Levelled scope statements address 0 d := by
  induction reached with
  | ofClass there => exact .ofClass there
  | ofFunction there => exact .ofFunction there
  | ofMember around _ ih => exact .ofMember around ih

theorem Levelled.reached (levelled : Levelled scope statements address blocks d) (apart : blocks = 0) :
    Reached scope statements address d := by
  induction levelled with
  | ofClass there => exact .ofClass there
  | ofFunction there => exact .ofFunction there
  | ofMember around _ ih => exact .ofMember around (ih apart)
  | ofBlock => cases apart

theorem Levelled.address_ne_nil (levelled : Levelled scope statements address blocks d) : address ≠ [] := by
  cases levelled <;> exact List.cons_ne_nil _ _

/-- What stands at an address, and in how many blocks, is determined by the address. -/
theorem Levelled.unique (here : Levelled scope statements address blocks d)
    (there : Levelled scope statements address other e) : blocks = other ∧ d = e := by
  induction here generalizing other e with
  | ofClass found =>
    cases there with
    | ofClass found' =>
      cases found.symm.trans found'
      exact ⟨rfl, rfl⟩
    | ofFunction found' => cases found.symm.trans found'
    | ofMember _ inside | ofBlock _ inside => exact absurd rfl inside.address_ne_nil
  | ofFunction found =>
    cases there with
    | ofClass found' => cases found.symm.trans found'
    | ofFunction found' =>
      cases found.symm.trans found'
      exact ⟨rfl, rfl⟩
    | ofMember _ inside | ofBlock _ inside => exact absurd rfl inside.address_ne_nil
  | ofMember around inside ih =>
    cases there with
    | ofClass | ofFunction => exact absurd rfl inside.address_ne_nil
    | ofMember around' inside' =>
      cases around.symm.trans around'
      exact ih inside'
    | ofBlock around' => cases around.symm.trans around'
  | ofBlock around inside ih =>
    cases there with
    | ofClass | ofFunction => exact absurd rfl inside.address_ne_nil
    | ofMember around' => cases around.symm.trans around'
    | ofBlock around' inside' =>
      cases around.symm.trans around'
      exact (ih inside').imp_left (congrArg (· + 1))

/-- The tasks of a module, each with the address of the class or function that it comes of. -/
structure Contributions (c : Conventions) (m : Module) (ts : List Task) (places : List Address) : Prop where
  ascending : places.Pairwise (· < ·)
  each : List.Forall₂ (fun address t => ∃ blocks d, Levelled [] m.statements address blocks d ∧ d.Declares c m t)
    places ts

theorem ModuleYields.contributions {c : Conventions} {m : Module} {ts : List Task} (yields : ModuleYields c m ts) :
    ∃ places, Contributions c m ts places ∧
      ∀ address, address ∈ places ↔ ∃ d, Reached [] m.statements address d ∧ d.IsTask c := by
  obtain ⟨marked, ascending, found, each⟩ := yields
  refine ⟨marked.map Prod.fst, ⟨List.pairwise_map.2 ascending, ?_⟩, fun address => ?_⟩
  · rw [List.forall₂_map_left_iff]
    refine (forall₂_imp_of_mem each.flip fun t r listed declares => ?_).flip
    exact ⟨0, r.2, ((found r.1 r.2).1 listed).1.levelled, declares⟩
  · rw [List.mem_map]
    constructor
    · rintro ⟨r, listed, rfl⟩
      exact ⟨r.2, (found r.1 r.2).1 listed⟩
    · rintro ⟨d, marked⟩
      exact ⟨(address, d), (found address d).2 marked, rfl⟩

theorem contributions_nil (c : Conventions) (m : Module) : Contributions c m [] [] := ⟨.nil, .nil⟩

/-- A marked class or function comes to one task if it stands in no block and the text holds the decorator's name, and
to none otherwise. -/
theorem contributions_count {s : Sources} {root file : Path} {chars : List Char} {statements : List Code.Statement}
    {ts : List Task} (text : Sources.readText s.fs s.conventions.sourceEncoding file = .ok chars)
    (parsed : Code.parse chars = .ok statements) (extracted : (fileTasks s root file).result = .ok ts) :
    ∃ places, Contributions s.conventions ⟨file, (moduleName? root file).getD [], statements⟩ ts places ∧
      ∀ address blocks d, Levelled [] statements address blocks d → d.IsTask s.conventions → places.count address =
        if blocks = 0 ∧ includes s.conventions.taskDecorator (ofChars chars) = true then 1 else 0 := by
  cases marked : includes s.conventions.taskDecorator (ofChars chars) with
  | false =>
    rw [fileTasks_eq_search, Module.search_of_unmarked text marked] at extracted
    cases extracted
    exact ⟨[], contributions_nil _ _, fun address blocks d _ _ => by simp⟩
  | true =>
    rw [result_fileTasks text marked parsed] at extracted
    obtain ⟨places, contributions, found⟩ := (moduleYields_of_tasksIn extracted).contributions
    refine ⟨places, contributions, fun address blocks d levelled task => ?_⟩
    have listed_iff : address ∈ places ↔ blocks = 0 := by
      rw [found]
      constructor
      · rintro ⟨e, reached, -⟩
        exact (levelled.unique reached.levelled).1
      · exact fun apart => ⟨d, levelled.reached apart, task⟩
    have once : places.Nodup := contributions.ascending.imp ne_of_lt
    rw [once.count]
    simp only [listed_iff, and_true]

end Decorated

namespace BlockedTask

open SoleModule (root file)

def module : List Char := "@task\nclass A: pass\nif A:\n @task\n class B: pass\n".toList

def sources : Sources := SoleModule.sources module

theorem text : Sources.readText sources.fs sources.conventions.sourceEncoding file = .ok module :=
  toOption_eq_some.1 (by decide +kernel)

theorem marked : includes sources.conventions.taskDecorator (ofChars module) = true := by decide +kernel

/-- The class that stands in the module and the one in its block. -/
def classes? : List Code.Statement → Option (Decorated.Candidate × Decorated.Candidate)
  | [.classDefinition line name decorators body, .compound [.classDefinition line₁ name₁ decorators₁ body₁]] =>
    some (Decorated.classCandidate [] line name decorators body,
      Decorated.classCandidate [] line₁ name₁ decorators₁ body₁)
  | _ => none

theorem levelled_of_classes? {statements : List Code.Statement} {r : Decorated.Candidate × Decorated.Candidate}
    (h : classes? statements = some r) :
    Decorated.Levelled [] statements [0] 0 r.1 ∧ Decorated.Levelled [] statements [1, 0] 1 r.2 := by
  unfold classes? at h
  split at h
  · cases h
    exact ⟨.ofClass rfl, .ofBlock rfl (.ofClass rfl)⟩
  · cases h

/-- Both classes have the decorator; the only task is that of the class outside the block. -/
theorem found : ∃ statements ts d e, Code.parse module = .ok statements ∧
    (Decorated.fileTasks sources root file).result = .ok ts ∧ ts.map (·.implementation.val) = (["a:A"] : List Text) ∧
    Decorated.Levelled [] statements [0] 0 d ∧ d.IsTask .default ∧
    Decorated.Levelled [] statements [1, 0] 1 e ∧ e.IsTask .default ∧ e.scope ++ [e.definition.name] = ["B"] := by
  have marks : ((Code.parse module).toOption.bind classes?).any (fun r => decide (r.1.IsTask .default ∧
      r.2.IsTask .default ∧ r.2.scope ++ [r.2.definition.name] = (["B"] : List Text))) = true := by
    decide +kernel
  have shown : ((Code.parse module).toOption.bind fun statements =>
      Decorated.tasksWithin 2 .default ⟨file, "a", statements⟩).map (·.map (·.implementation.val)) =
        some (["a:A"] : List Text) := by
    decide +kernel
  obtain ⟨r, found, decorated⟩ := (Option.any_eq_true _ _).1 marks
  obtain ⟨statements, parsed, classes⟩ := Option.bind_eq_some_iff.1 found
  obtain ⟨ts, made, placed⟩ := Option.map_eq_some_iff.1 shown
  rw [parsed, Option.bind_some] at made
  obtain ⟨first, second, path⟩ := of_decide_eq_true decorated
  obtain ⟨outside, inside⟩ := levelled_of_classes? classes
  refine ⟨statements, ts, r.1, r.2, toOption_eq_some.1 parsed, ?_, placed, outside, first, inside, second, path⟩
  rw [Decorated.result_fileTasks text marked (toOption_eq_some.1 parsed), SoleModule.named]
  exact Decorated.tasksIn_of_within made

theorem counted : ∃ statements ts places, Code.parse module = .ok statements ∧
    (Decorated.fileTasks sources root file).result = .ok ts ∧
    Decorated.Contributions .default ⟨file, (moduleName? root file).getD [], statements⟩ ts places ∧
    places.count [0] = 1 ∧ places.count [1, 0] = 0 := by
  obtain ⟨statements, ts, d, e, parsed, extracted, -, outside, first, inside, second, -⟩ := found
  obtain ⟨places, contributions, count⟩ := Decorated.contributions_count text parsed extracted
  refine ⟨statements, ts, places, parsed, extracted, contributions, ?_, ?_⟩
  · rw [count [0] 0 d outside first, if_pos ⟨rfl, marked⟩]
  · rw [count [1, 0] 1 e inside second, if_neg (fun apart => absurd apart.1 Nat.one_ne_zero)]

/-- No task of the file is the one that the class in the block declares. -/
theorem passed_over : ∃ statements ts e, Code.parse module = .ok statements ∧
    (Decorated.fileTasks sources root file).result = .ok ts ∧
    Decorated.Levelled [] statements [1, 0] 1 e ∧ e.IsTask .default ∧
    ∀ t ∈ ts, ¬ e.Declares .default ⟨file, (moduleName? root file).getD [], statements⟩ t := by
  obtain ⟨statements, ts, d, e, parsed, extracted, placed, -, -, inside, second, path⟩ := found
  refine ⟨statements, ts, e, parsed, extracted, inside, second, fun t listed declares => ?_⟩
  have here : t.implementation.val ∈ (["a:A"] : List Text) := placed ▸ List.mem_map_of_mem listed
  have apart : (("a" : Text) ++ ":" ++ join "." ["B"]) ∉ (["a:A"] : List Text) := by decide
  rw [declares.implementation, path, SoleModule.named] at here
  exact apart here

end BlockedTask

end TaskCatalog
