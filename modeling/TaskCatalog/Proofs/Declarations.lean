import Mathlib.Data.List.TakeWhile
import TaskCatalog.Proofs.Candidates
import TaskCatalog.Proofs.Checks
import TaskCatalog.Sources.Documented
import TaskCatalog.Sources.Scripts

/-!
What the extractors ensure of every task, in whatever style it is declared.
-/

namespace TaskCatalog

open Text

structure Task.Declared (c : Conventions) (strategy : Text) (t : Task) : Prop where
  language : t.language = some strategy
  phase : ∀ phase, t.phase = some phase → phase ∈ c.lifecyclePhases

namespace Conventions

def Allows (c : Conventions) (v : Value) : Prop := v = .null ∨ ∃ phase ∈ c.lifecyclePhases, v = .text phase

variable {c : Conventions} {phase : Text}

theorem mem_of_isKnownPhase (h : c.isKnownPhase phase = true) : phase ∈ c.lifecyclePhases :=
  List.contains_iff_mem.1 h

theorem allows_of_isKnownPhase (h : c.isKnownPhase phase = true) : c.Allows (.text phase) :=
  .inr ⟨phase, mem_of_isKnownPhase h, rfl⟩

end Conventions

namespace Sources

variable {α : Type} {s : Sources} {work : Sources → Logged α} {a : α} {suffixes : List Text}

theorem fault?_eq_none_iff : s.fault? = none ↔ ∀ root ∈ s.roots, s.fs.searchFault? root = none :=
  List.findSome?_eq_none_iff

theorem searchable_of_faultless (faultless : s.fault? = none) : s.searchable = s := by
  have all : s.roots.takeWhile (fun root => (s.fs.searchFault? root).isNone) = s.roots :=
    List.takeWhile_eq_self_iff.2 fun root listed => by rw [fault?_eq_none_iff.1 faultless root listed]; rfl
  rw [searchable, all]

theorem search_of_faultless (faultless : s.fault? = none) : s.search suffixes = ⟨s.files suffixes, none⟩ := by
  rw [search, searchable_of_faultless faultless, faultless]

theorem result_searched (work : Sources → Logged α) (s : Sources) : (s.searched work).result =
    (work s.searchable).result.bind fun a => match s.fault? with | some e => .error (.file e) | none => .ok a := by
  rw [searched, Logged.result_bind]
  refine congrArg _ (funext fun a => ?_)
  cases s.fault? <;> rfl

theorem searched_eq_ok : (s.searched work).result = .ok a ↔ s.fault? = none ∧ (work s).result = .ok a := by
  rw [result_searched]
  constructor
  · intro returned
    obtain ⟨b, worked, returned⟩ := Outcome.bind_eq_ok.1 returned
    cases faultless : s.fault? with
    | some e =>
      rw [faultless] at returned
      cases returned
    | none =>
      rw [faultless] at returned
      cases returned
      rw [searchable_of_faultless faultless] at worked
      exact ⟨rfl, worked⟩
  · rintro ⟨faultless, worked⟩
    rw [searchable_of_faultless faultless, worked, faultless]
    rfl

end Sources

theorem Sources.forall_of_files {s : Sources} {suffixes : List Text} {P : Task → Prop}
    {fileTasks : Path → Path → Logged (List Task)} {ts : List Task}
    (h : (Logged.gather ((s.files suffixes).map fun (root, file) => fileTasks root file)).result = .ok ts)
    (each : ∀ root file found, (fileTasks root file).result = .ok found → ∀ t ∈ found, P t) :
    ∀ t ∈ ts, P t := by
  intro t ht
  obtain ⟨work, hwork, found, hfound, ht⟩ := Logged.mem_of_gather h ht
  obtain ⟨⟨root, file⟩, -, rfl⟩ := List.mem_map.1 hwork
  exact each root file found hfound t ht

/-- What is extracted of several files is what is extracted of each, one after the other. -/
theorem Sources.forall₂_of_files {s : Sources} {suffixes : List Text} {Yields : Path × Path → List Task → Prop}
    {fileTasks : Path → Path → Logged (List Task)} {ts : List Task}
    (h : (Logged.gather ((s.files suffixes).map fun (root, file) => fileTasks root file)).result = .ok ts)
    (each : ∀ root file found, (root, file) ∈ s.files suffixes → (fileTasks root file).result = .ok found →
      Yields (root, file) found) :
    ∃ parts, List.Forall₂ Yields (s.files suffixes) parts ∧ ts = parts.flatten := by
  obtain ⟨parts, made, rfl⟩ := Logged.forall₂_of_gather h
  rw [List.forall₂_map_left_iff] at made
  refine ⟨parts, ?_, rfl⟩
  exact (Outcome.forall₂_imp_of_mem made.flip fun part pair listed found => each pair.1 pair.2 part listed found).flip

namespace Site

variable {s : Site} {c : Conventions} {pairs : List (Text × Value)} {ps : List Parameter}
  {rs : Requirements} {t : Task} {v : Value}

theorem fail_bind_ne_ok {α β : Type} {f : ExtractionFault} {next : α → Except Failure β} {b : β} :
    s.fail f >>= next ≠ .ok b := by
  intro h
  obtain ⟨_, failed, -⟩ := Outcome.bind_eq_ok.1 h
  cases failed

theorem parameter_eq_ok_iff {r : Record} {p : Parameter} :
    s.parameter r = .ok p ↔ Parameter.ofRecord r = .ok p := by
  unfold parameter
  cases Parameter.ofRecord r with
  | ok q => simp
  | error ps => simp [Site.fail]

theorem ofParts_of_task {fields : Record} (h : s.task fields ps rs = .ok t) :
    Task.ofParts (s.parts fields ps rs) = .ok t := by
  unfold task at h
  split at h
  · cases h
  · split at h
    · next passed =>
      cases h
      exact passed
    · cases h

theorem task_eq_ok {fields : Record} (h : s.task fields ps rs = .ok t) :
    t.language = some s.strategy ∧ fields.optionalText "phase" = .ok t.phase := by
  obtain ⟨-, hphase, hlanguage⟩ := Task.ofParts_eq_ok (ofParts_of_task h)
  exact ⟨(Checked.ok.inj hlanguage).symm, hphase⟩

theorem named_of_task {name : Text} (stated : pairs.lookup ("name" : Text) = some (.text name))
    (h : s.task (Record.ofPairs pairs) ps rs = .ok t) : t.name.text = name := by
  obtain ⟨⟨named, -⟩, -⟩ := Task.ofParts_eq_ok (ofParts_of_task h)
  exact Record.goalName_of_required stated named

theorem parts_of_task {place : Text} (stated : pairs.lookup ("implementation" : Text) = some (.text place))
    (h : s.task (Record.ofPairs pairs) ps rs = .ok t) : t.implementation.val = place ∧ t.parameters = ps := by
  obtain ⟨⟨-, placed, taken⟩, -⟩ := Task.ofParts_eq_ok (ofParts_of_task h)
  exact ⟨Record.text_of_required stated placed, (Checked.ok.inj taken).symm⟩

theorem declared_of_task (h : s.task (Record.ofPairs pairs) ps rs = .ok t)
    (stated : pairs.lookup ("phase" : Text) = some v) (allowed : c.Allows v) : t.Declared c s.strategy := by
  obtain ⟨language, hphase⟩ := task_eq_ok h
  have hget : (Record.ofPairs pairs).get? "phase" = some v := by rw [Record.get?_ofPairs, stated]
  rw [Record.optionalText, Record.withDefault_of_get? hget, Checked.located_eq_ok] at hphase
  refine ⟨language, ?_⟩
  intro phase hp
  rcases allowed with rfl | ⟨known, hknown, rfl⟩
  · have hnone : none = t.phase := Checked.ok.inj hphase
    rw [hp] at hnone
    cases hnone
  · have hsome : some known = t.phase := Checked.ok.inj hphase
    rw [hp] at hsome
    cases hsome
    exact hknown

end Site

namespace Decorated

variable {c : Conventions} {m : Module} {scope : List Text} {d : Definition} {t : Task} {ts : List Task}
  {v : Value} {s : Site}

theorem allows_of_checkPhase (h : checkPhase s c v = .ok ()) : c.Allows v := by
  unfold checkPhase at h
  split at h
  · exact .inl rfl
  · split at h
    · rename_i known
      exact Conventions.allows_of_isKnownPhase known
    · simp [Site.fail] at h
  · split at h <;> cases h

theorem declared_of_task? (h : task? c m scope d = .ok (some t)) : t.Declared c strategy := by
  cases comes_of_task? h with
  | task _ _ phase _ _ _ built => exact Site.declared_of_task built rfl (allows_of_checkPhase phase)

theorem declared_of_tasksIn {statements : List Code.Statement}
    (h : tasksIn c m scope statements = .ok ts) : ∀ t ∈ ts, t.Declared c strategy := by
  rw [tasksIn_eq] at h
  obtain ⟨found, each, rfl⟩ := Outcome.map_eq_ok.1 h
  intro t ht
  obtain ⟨o, ho, ht⟩ := List.mem_flatMap.1 ht
  obtain ⟨d, -, hd⟩ := Outcome.mem_of_mapM each ho
  rw [Option.mem_toList.1 ht] at hd
  exact declared_of_task? hd

theorem declared_of_fileTasks {s : Sources} {root file : Path}
    (h : (fileTasks s root file).result = .ok ts) : ∀ t ∈ ts, t.Declared s.conventions strategy := by
  rw [fileTasks, Logged.result_bind] at h
  obtain ⟨found, -, h⟩ := Outcome.bind_eq_ok.1 h
  cases found with
  | none =>
    cases h
    simp
  | some m =>
    rw [Logged.result_bind] at h
    obtain ⟨tasks, htasks, h⟩ := Outcome.bind_eq_ok.1 h
    have hts : ts = tasks := by
      split at h <;> cases h <;> rfl
    rw [hts]
    exact declared_of_tasksIn htasks

theorem declared_of_extract {s : Sources} (h : (extract s).result = .ok ts) :
    ∀ t ∈ ts, t.Declared s.conventions strategy :=
  Sources.forall_of_files h fun _ _ _ => declared_of_fileTasks

end Decorated

namespace Documented

variable {c : Conventions} {m : Module} {d : Definition} {documentation : Text} {t : Task}
  {ts : List Task} {phase : Option Text} {s : Site}

theorem allows_of_checkPhase (h : checkPhase s c phase = .ok ()) : c.Allows (Value.ofText? phase) := by
  unfold checkPhase at h
  split at h
  · exact .inl rfl
  · split at h
    · rename_i known
      exact Conventions.allows_of_isKnownPhase known
    · simp [Site.fail] at h

/-- What a class, its documentation and the tags in it state of a task. -/
def taskFields (m : Module) (d : Definition) (documentation : Text) (tags : Tags) : List (Text × Value) := [
  ("name", .text ((tags.get? goalTag).getD [])), ("implementation", .text (m.name ++ ":" ++ d.name)),
  ("description", Value.ofText? (firstParagraph documentation)), ("phase", Value.ofText? (tags.get? "phase")),
  ("since", Value.ofText? (tags.get? "since")), ("deprecated", Value.ofText? (tags.get? "deprecated"))]

/-- A task is made of a documentation whose tags are known ones, with a goal and a phase that is known, and of the
parameters in the body of the class. -/
theorem made_of_task (h : task c m d documentation = .ok t) :
    ∃ tags rs ps, Tags.ofText (Site.ofLine strategy m.file d.line) documentation = .ok tags ∧
      tags.unknown taskTags = [] ∧ (tags.get? goalTag).getD [] ≠ [] ∧ c.Allows (Value.ofText? (tags.get? "phase")) ∧
      requirements (Site.ofLine strategy m.file d.line) tags = .ok rs ∧ parameters m.file d.body = .ok ps ∧
      (Site.ofLine strategy m.file d.line).task (Record.ofPairs (taskFields m d documentation tags)) ps rs = .ok t := by
  rw [task] at h
  obtain ⟨tags, read, h⟩ := Outcome.bind_eq_ok.1 h
  dsimp only at h
  split at h
  · next known =>
    split at h
    · exact absurd h Site.fail_bind_ne_ok
    · next goal =>
      obtain ⟨_, phase, h⟩ := Outcome.bind_eq_ok.1 h
      obtain ⟨rs, required, h⟩ := Outcome.bind_eq_ok.1 h
      obtain ⟨ps, listed, h⟩ := Outcome.bind_eq_ok.1 h
      exact ⟨tags, rs, ps, read, known, fun empty => goal (List.isEmpty_iff.2 empty), allows_of_checkPhase phase,
        required, listed, h⟩
  · exact absurd h Site.fail_bind_ne_ok

theorem declared_of_task (h : task c m d documentation = .ok t) : t.Declared c strategy := by
  obtain ⟨tags, rs, ps, -, -, -, allowed, -, -, made⟩ := made_of_task h
  exact Site.declared_of_task made rfl allowed

theorem declared_of_classTasks (h : (classTasks c m d).result = .ok ts) :
    ∀ t ∈ ts, t.Declared c strategy := by
  unfold classTasks at h
  split at h
  · cases h
    simp
  · rw [Logged.result_bind] at h
    obtain ⟨t, ht, h⟩ := Outcome.bind_eq_ok.1 h
    cases h
    simpa using declared_of_task ht

theorem declared_of_fileTasks {s : Sources} {root file : Path}
    (h : (fileTasks s root file).result = .ok ts) : ∀ t ∈ ts, t.Declared s.conventions strategy := by
  rw [fileTasks, Logged.result_bind] at h
  obtain ⟨found, -, h⟩ := Outcome.bind_eq_ok.1 h
  cases found with
  | none =>
    cases h
    simp
  | some m =>
    intro t ht
    obtain ⟨work, hwork, found, hfound, ht⟩ := Logged.mem_of_gather h ht
    obtain ⟨d, -, rfl⟩ := List.mem_map.1 hwork
    exact declared_of_classTasks hfound t ht

theorem declared_of_extract {s : Sources} (h : (extract s).result = .ok ts) :
    ∀ t ∈ ts, t.Declared s.conventions strategy :=
  Sources.forall_of_files h fun _ _ _ => declared_of_fileTasks

end Documented

namespace Scripts

variable {s : Sources} {root file : Path} {e : ScriptTask} {t : Task} {ts : List Task}

def script (file : Path) (e : ScriptTask) : Path := file.parent ++ Path.ofText e.call

def site (file : Path) (e : ScriptTask) : Site := ⟨strategy, file.text ++ " (goal " ++ e.goal ++ ")"⟩

def checkPhase (s : Sources) (file : Path) (e : ScriptTask) : Except Failure Unit :=
  match e.phase with
  | some phase => if s.conventions.isKnownPhase phase then .ok () else (site file e).fail (.unknownPhase phase)
  | none => .ok ()

/-- The task of a script that is there, with its place from the root on. -/
def placed (s : Sources) (root file : Path) (e : ScriptTask) (ps : List Parameter) : Except Failure Task :=
  match (s.fs.resolve (script file e)).relativeTo? (s.fs.resolve root) with
  | none => (site file e).fail (.outsideScript e.call)
  | some parts => (site file e).task (taskFields e (Path.text ⟨false, parts⟩)) ps e.requirements

/-- The task of an entry as one check after the other. -/
theorem task_eq (s : Sources) (root file : Path) (e : ScriptTask) :
    task s root file e = (s.fs.hasFile (script file e)).mapError .file >>= fun there =>
      if there then
        checkPhase s file e >>= fun _ =>
          e.parameters.mapM (fun p => (site file e).parameter (parameterFields p)) >>= placed s root file e
      else (site file e).fail (.missingScript e.call) := by
  unfold task
  refine congrArg _ (funext fun there => ?_)
  cases there with
  | false => rfl
  | true =>
    unfold checkPhase
    cases e.phase with
    | none => rfl
    | some phase => cases known : s.conventions.isKnownPhase phase <;> simp only [known] <;> rfl

theorem allows_of_checkPhase (h : checkPhase s file e = .ok ()) : s.conventions.Allows (Value.ofText? e.phase) := by
  unfold checkPhase at h
  split at h
  · rename_i phase stated
    rw [stated]
    split at h
    · rename_i known
      exact Conventions.allows_of_isKnownPhase known
    · cases h
  · rename_i unstated
    rw [unstated]
    exact .inl rfl

/-- A task is made of a script that is there, in a phase that is known, with its parameters and the path from the root. -/
theorem made_of_task (h : task s root file e = .ok t) :
    s.fs.hasFile (script file e) = .ok true ∧ s.conventions.Allows (Value.ofText? e.phase) ∧
      ∃ ps parts, e.parameters.mapM (fun p => (site file e).parameter (parameterFields p)) = .ok ps ∧
        (s.fs.resolve (script file e)).relativeTo? (s.fs.resolve root) = some parts ∧
        (site file e).task (taskFields e (Path.text ⟨false, parts⟩)) ps e.requirements = .ok t := by
  rw [task_eq] at h
  obtain ⟨there, present, h⟩ := Outcome.bind_eq_ok.1 h
  cases there with
  | false => cases h
  | true =>
    obtain ⟨_, phase, h⟩ := Outcome.bind_eq_ok.1 h
    obtain ⟨ps, taken, h⟩ := Outcome.bind_eq_ok.1 h
    refine ⟨Outcome.mapError_eq_ok.1 present, allows_of_checkPhase phase, ps, ?_⟩
    unfold placed at h
    split at h
    · cases h
    · rename_i parts inside
      exact ⟨parts, taken, inside, h⟩

theorem declared_of_task (h : task s root file e = .ok t) : t.Declared s.conventions strategy := by
  obtain ⟨-, allowed, ps, parts, -, -, made⟩ := made_of_task h
  exact Site.declared_of_task made rfl allowed

/-- The tasks of a metadata file are made of its entries, one of each. -/
theorem made_of_fileTasks (h : (fileTasks s root file).result = .ok ts) :
    ∃ es, entries s file = .ok es ∧ List.Forall₂ (fun e t => task s root file e = .ok t) es ts := by
  simp only [fileTasks, Logged.result_bind, Logged.result_ofExcept, Logged.result_write] at h
  obtain ⟨es, read, h⟩ := Outcome.bind_eq_ok.1 h
  exact ⟨es, read, Outcome.forall₂_of_mapM h⟩

theorem declared_of_fileTasks (h : (fileTasks s root file).result = .ok ts) :
    ∀ t ∈ ts, t.Declared s.conventions strategy := by
  obtain ⟨es, -, each⟩ := made_of_fileTasks h
  intro t ht
  obtain ⟨e, -, made⟩ := Outcome.exists_of_forall₂ each ht
  exact declared_of_task made

theorem declared_of_extract (h : (extract s).result = .ok ts) :
    ∀ t ∈ ts, t.Declared s.conventions strategy :=
  Sources.forall_of_files h fun _ _ _ => declared_of_fileTasks

end Scripts

end TaskCatalog
