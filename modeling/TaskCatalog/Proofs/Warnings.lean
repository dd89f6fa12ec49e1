import TaskCatalog.CommandLine.Session
import TaskCatalog.Proofs.ScanOutcome

/-!
Who warns. The extractors at hand, the generators and the assembly write no warnings; a scan writes those of its
extractors, and one of its own where they find no tasks.
-/

namespace TaskCatalog

open Text

namespace Logged

variable {α β : Type} {x : Logged α} {f : α → Logged β} {works : List (Logged (List α))} {w : Text}

/-- Work that writes no warnings. -/
def Quiet (x : Logged α) : Prop := ∀ r ∈ x.log, r.level ≠ .warning

theorem Quiet.count (quiet : x.Quiet) (w : Text) : x.log.count ⟨.warning, w⟩ = 0 := by
  rw [List.count_eq_zero]
  intro member
  exact quiet _ member rfl

theorem log_bind {a : α} (f : α → Logged β) (done : x.result = .ok a) : (x >>= f).log = x.log ++ (f a).log :=
  bind_log_ok f done

theorem quiet_ofExcept (r : Except Failure α) : (ofExcept r).Quiet := List.forall_mem_nil _

theorem quiet_pure (a : α) : (Pure.pure a : Logged α).Quiet := List.forall_mem_nil _

theorem quiet_fail (f : Failure) : (fail f : Logged α).Quiet := List.forall_mem_nil _

theorem quiet_write {level : Level} (apart : level ≠ .warning) (message : Text) : (write level message).Quiet :=
  List.forall_mem_singleton.2 apart

theorem Quiet.bind (quiet : x.Quiet) (next : ∀ a, (f a).Quiet) : (x >>= f).Quiet := by
  change (x.bind f).Quiet
  cases done : x.result with
  | error e =>
    rw [bind_error f done]
    exact quiet
  | ok a =>
    rw [Quiet, bind_log_ok f done, List.forall_mem_append]
    exact ⟨quiet, next a⟩

theorem quiet_gather (each : ∀ x ∈ works, x.Quiet) : (gather works).Quiet := by
  induction works with
  | nil => exact quiet_pure []
  | cons x works ih =>
    rw [List.forall_mem_cons] at each
    exact each.1.bind fun found => (ih each.2).bind fun more => quiet_pure (found ++ more)

end Logged

open Logged

theorem Sources.quiet_of_files {s : Sources} {suffixes : List Text} {work : Path → Path → Logged (List Task)}
    (each : ∀ root file, (work root file).Quiet) :
    (gather ((s.files suffixes).map fun (root, file) => work root file)).Quiet :=
  quiet_gather (List.forall_mem_map.2 fun (root, file) _ => each root file)

theorem Sources.quiet_searched {work : Sources → Logged α} (s : Sources) (each : ∀ s, (work s).Quiet) :
    (s.searched work).Quiet := by
  refine (each _).bind fun a => ?_
  cases s.fault? with
  | none => exact quiet_pure a
  | some e => exact quiet_fail _

namespace Extractor

theorem quiet_decorated (s : Sources) : (decorated.extract s).Quiet := by
  refine Sources.quiet_searched s fun s => Sources.quiet_of_files fun root file => (quiet_ofExcept _).bind fun found => ?_
  cases found with
  | none => exact quiet_pure []
  | some m =>
    refine (quiet_ofExcept _).bind fun ts => ?_
    dsimp only
    split
    · exact (quiet_write (by decide) _).bind fun _ => quiet_pure ts
    · exact quiet_pure ts

theorem quiet_documented (s : Sources) : (documented.extract s).Quiet := by
  refine Sources.quiet_searched s fun s => Sources.quiet_of_files fun root file => (quiet_ofExcept _).bind fun found => ?_
  cases found with
  | none => exact quiet_pure []
  | some m =>
    refine quiet_gather (List.forall_mem_map.2 fun d _ => ?_)
    unfold Documented.classTasks
    split
    · exact quiet_pure []
    · exact (quiet_ofExcept _).bind fun t => (quiet_write (by decide) _).bind fun _ => quiet_pure [t]

theorem quiet_scripts (s : Sources) : (scripts.extract s).Quiet :=
  Sources.quiet_searched s fun s => Sources.quiet_of_files fun _ _ =>
    (quiet_ofExcept _).bind fun _ => (quiet_write (by decide) _).bind fun _ => quiet_ofExcept _

end Extractor

theorem Registry.quiet_standard {e : Extractor} (registered : e ∈ standard) (s : Sources) : (e.extract s).Quiet := by
  simp only [standard, List.mem_cons, List.not_mem_nil, or_false] at registered
  rcases registered with rfl | rfl | rfl
  · exact Extractor.quiet_decorated s
  · exact Extractor.quiet_documented s
  · exact Extractor.quiet_scripts s

theorem Generator.quiet_execute (g : Generator) (fs : FileSystem) (directory : Path) (d : Descriptor) :
    (g.execute fs directory d).outcome.Quiet := by
  unfold execute
  dsimp only
  split
  · exact (quiet_write (by decide) _).bind fun _ => quiet_fail _
  · refine (quiet_write (by decide) _).bind fun _ => ?_
    split
    · exact quiet_fail _
    · exact List.forall_mem_map.2 fun _ _ => (by decide : Level.debug ≠ .warning)

theorem Builder.quiet_build (b : Builder) : b.build.Quiet :=
  (quiet_ofExcept _).bind fun d => (quiet_write (by decide) _).bind fun _ => quiet_pure d

theorem RunResult.quiet_advance (r : RunResult) (s : State) : (r.advance s).Quiet := by
  unfold advance
  split
  · exact (quiet_write (by decide) _).bind fun _ => quiet_pure _
  · exact quiet_fail _

namespace Scan

variable {sources : Sources} {es : List Extractor} {e : Extractor} {found all : List Found} {tasks : List Task} {w : Text}

/-- What extractors write themselves. -/
def records (sources : Sources) (es : List Extractor) : Log := es.flatMap fun e => (e.extract sources).log

theorem records_cons (sources : Sources) (e : Extractor) (es : List Extractor) :
    records sources (e :: es) = (e.extract sources).log ++ records sources es :=
  List.flatMap_cons

theorem count_apply (given : (e.extract sources).result = .ok tasks) (w : Text) :
    (apply e sources).log.count ⟨.warning, w⟩ = (e.extract sources).log.count ⟨.warning, w⟩ := by
  simp only [apply, given]
  rw [log_bind _ (result_write _ _), log_bind _ rfl, log_bind _ (result_write _ _), List.count_append, List.count_append,
    List.count_append, (quiet_write (by decide) _).count, (quiet_write (by decide) _).count, (quiet_pure _).count,
    Nat.zero_add, Nat.add_zero]

theorem count_gather (gathered : (gather sources found es).result = .ok all) (w : Text) :
    (gather sources found es).log.count ⟨.warning, w⟩ = (records sources es).count ⟨.warning, w⟩ := by
  induction es generalizing found with
  | nil => rfl
  | cons e es ih =>
    rw [result_gather_cons] at gathered
    obtain ⟨tasks, applied, gathered⟩ := Outcome.bind_eq_ok.1 gathered
    obtain ⟨more, merged, gathered⟩ := Outcome.bind_eq_ok.1 gathered
    have given : (e.extract sources).result = .ok tasks := Outcome.mapError_eq_ok.1 (result_apply e sources ▸ applied)
    have logged : (gather sources found (e :: es)).log = (apply e sources).log ++ (gather sources more es).log := by
      rw [gather, log_bind _ applied, log_bind _ ((result_ofExcept _).trans merged)]
      rfl
    rw [logged, List.count_append, count_apply given, ih gathered, records_cons, List.count_append]

/-- What a scan warns of itself. -/
def nothingFound : Text := "No tasks found in plugin sources"

theorem count_scan (scanned : (scan es sources).result = .ok tasks) (other : w ≠ nothingFound) :
    (scan es sources).log.count ⟨.warning, w⟩ = (records sources es).count ⟨.warning, w⟩ := by
  rw [result_scan] at scanned
  obtain ⟨found, gathered, -⟩ := Outcome.bind_eq_ok.1 scanned
  have own : (⟨.warning, nothingFound⟩ : LogRecord) ≠ ⟨.warning, w⟩ := by
    intro same
    cases same
    exact other rfl
  rw [scan, log_bind _ gathered, List.count_append, count_gather gathered]
  dsimp only
  split
  · rw [log_bind _ (result_write _ _), List.count_append, ((quiet_ofExcept _).bind fun _ => quiet_pure _).count]
    change _ + (List.count (⟨.warning, w⟩ : LogRecord) [⟨.warning, nothingFound⟩] + 0) = _
    rw [List.count_singleton, beq_false_of_ne own]
    rfl
  · rw [((quiet_ofExcept _).bind fun _ => quiet_pure _).count, Nat.add_zero]

end Scan

end TaskCatalog
