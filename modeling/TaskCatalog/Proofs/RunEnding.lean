import TaskCatalog.Proofs.Outcome
import TaskCatalog.Run.Pipeline

/-!
How a run ends: it skips the project, finishes with a descriptor, or fails at the first stage that
fails. What a failed run leaves behind depends on how far it came.
-/

namespace TaskCatalog

open Text

namespace Pipeline

inductive Stage where
  | lookup
  | selection
  | settling
  | scan
  | build
  | generate
  deriving DecidableEq

/-- Whether a stage comes before the first extractor is called. -/
def Stage.isEarly : Stage → Bool
  | .lookup | .selection | .settling => true
  | .scan | .build | .generate => false

def chosen (p : Pipeline) (q : RunRequest) : Except Failure Scanner :=
  Scanner.select (Scanner.mk p.registry none) q.options.extractors

def opening (p : Pipeline) (q : RunRequest) :
    Except (Stage × Failure) (Generator × Scanner × GoalPrefix) := do
  let g ← (generator q.kind).mapError (Stage.lookup, ·)
  let scanner ← (p.chosen q).mapError (Stage.selection, ·)
  let goalPrefix ← (settlePrefix q).result.mapError (Stage.settling, ·)
  return (g, scanner, goalPrefix)

/-- All stages one after the other, up to the first that fails. -/
def stages (p : Pipeline) (fs : FileSystem) (q : RunRequest) : Except (Stage × Failure) Descriptor := do
  let (g, scanner, goalPrefix) ← p.opening q
  let tasks ← (scanner.scan (p.sources fs q)).result.mapError (Stage.scan, ·)
  let d ← (assemble q goalPrefix.value tasks).result.mapError (Stage.build, ·)
  let _ ← (g.execute fs q.output d).outcome.result.mapError (Stage.generate, ·)
  return d

/-- A run that calls no extractor: whatever is done under the registered names, the run is the same. -/
def CallsNone (p : Pipeline) (fs : FileSystem) (q : RunRequest) : Prop :=
  ∀ r : Registry, r.names = p.registry.names → (Pipeline.mk r p.conventions).run fs q = p.run fs q

structure Skips (p : Pipeline) (fs : FileSystem) (q : RunRequest) (r : Run) : Prop where
  packaging : q.project.packaging ≠ Project.pluginPackaging
  failure : r.failure = none
  state : r.result.state = .done
  skipped : r.result.skipped = true
  descriptor : r.result.descriptor = none
  artifacts : r.result.artifacts = []
  warnings : r.result.warnings = []
  files : r.fs = fs
  uncalled : p.CallsNone fs q

structure Finishes (p : Pipeline) (fs : FileSystem) (q : RunRequest) (d : Descriptor) (r : Run) :
    Prop where
  packaging : q.project.packaging = Project.pluginPackaging
  stages : p.stages fs q = .ok d
  failure : r.failure = none
  state : r.result.state = .done
  skipped : r.result.skipped = false
  descriptor : r.result.descriptor = some d

structure Fails (p : Pipeline) (fs : FileSystem) (q : RunRequest) (stage : Stage) (f : Failure)
    (r : Run) : Prop where
  packaging : q.project.packaging = Project.pluginPackaging
  stages : p.stages fs q = .error (stage, f)
  failure : r.failure = some f
  state : r.result.state = .failed
  uncalled : stage.isEarly → p.CallsNone fs q
  files : stage ≠ .generate → r.fs = fs
  descriptor : r.result.descriptor.isSome ↔ stage = .generate
  artifacts : r.result.artifacts = []

inductive Ending where
  | skipped
  | finished (d : Descriptor)
  | failed (stage : Stage) (f : Failure)

def Ends (p : Pipeline) (fs : FileSystem) (q : RunRequest) (r : Run) : Ending → Prop
  | .skipped => Skips p fs q r
  | .finished d => Finishes p fs q d r
  | .failed stage f => Fails p fs q stage f r

def Ended (p : Pipeline) (fs : FileSystem) (q : RunRequest) (r : Run) : Prop := ∃ e, Ends p fs q r e

end Pipeline

namespace Run

variable {α : Type} {r : Run} {work : Logged α} {next : α → Run → Run} {a : α} {f : Failure} {s : State}
  {fs : FileSystem} {result : RunResult} {Q : Run → Prop}

theorem stage_ok (h : work.result = .ok a) :
    r.stage work next = next a { r with log := r.log ++ work.log } := by
  simp [stage, h]

theorem stage_error (h : work.result = .error f) :
    r.stage work next = fail { r with log := r.log ++ work.log } f := by
  simp [stage, h]

theorem result_advance {result : RunResult} (h : result.state.allows s = true) :
    (result.advance s).result = .ok { result with state := s } := by
  simp only [RunResult.advance, h, if_true, Logged.result_bind, Logged.result_write, Logged.result_pure]
  rfl

theorem fail_result (h : r.result.state.allows .failed = true) :
    (r.fail f).result = { r.result with state := .failed } := by
  simp only [fail, result_advance h]
  rfl

/-- A run that goes on, with its files and its result so far. -/
structure At (r : Run) (fs : FileSystem) (result : RunResult) : Prop where
  files : r.fs = fs
  result : r.result = result
  running : r.failure = none

theorem At.stage_ok (h : r.At fs result) (done : work.result = .ok a)
    (go : ∀ r : Run, r.At fs result → Q (next a r)) : Q (r.stage work next) := by
  rw [Run.stage_ok done]
  exact go _ ⟨h.files, h.result, h.running⟩

theorem At.stage_error (h : r.At fs result) (failing : work.result = .error f)
    (stop : ∀ r : Run, r.At fs result → Q (r.fail f)) : Q (r.stage work next) := by
  rw [Run.stage_error failing]
  exact stop _ ⟨h.files, h.result, h.running⟩

theorem At.reach {next : Run → Run} (h : r.At fs result) (allowed : result.state.allows s = true)
    (go : ∀ r : Run, r.At fs { result with state := s } → Q (next r)) : Q (r.reach s next) := by
  have hr : (r.result.advance s).result = .ok { result with state := s } := by
    rw [h.result]
    exact result_advance allowed
  rw [Run.reach, Run.stage_ok hr]
  exact go _ ⟨h.files, rfl, h.running⟩

end Run

namespace Pipeline

variable {p : Pipeline} {fs : FileSystem} {q : RunRequest} {r : Run} {stage : Stage} {f : Failure}
  {g : Generator} {scanner : Scanner} {goalPrefix : GoalPrefix}

theorem opening_eq_ok : p.opening q = .ok (g, scanner, goalPrefix) ↔
    generator q.kind = .ok g ∧ p.chosen q = .ok scanner ∧ (settlePrefix q).result = .ok goalPrefix := by
  cases hg : generator q.kind <;> cases hs : p.chosen q <;> cases hp : (settlePrefix q).result <;>
    simp [opening, hg, hs, hp, bind, Except.bind, Except.mapError, pure, Except.pure]

theorem opening_eq_error : p.opening q = .error (stage, f) ↔
    (stage = .lookup ∧ generator q.kind = .error f) ∨
    (stage = .selection ∧ (∃ g, generator q.kind = .ok g) ∧ p.chosen q = .error f) ∨
    (stage = .settling ∧ (∃ g, generator q.kind = .ok g) ∧ (∃ scanner, p.chosen q = .ok scanner) ∧
      (settlePrefix q).result = .error f) := by
  cases hg : generator q.kind <;> cases hs : p.chosen q <;> cases hp : (settlePrefix q).result <;>
    simp [opening, hg, hs, hp, bind, Except.bind, Except.mapError, pure, Except.pure, eq_comm]

theorem isEarly_of_opening (h : p.opening q = .error (stage, f)) : stage.isEarly = true := by
  rcases opening_eq_error.1 h with ⟨rfl, -⟩ | ⟨rfl, -⟩ | ⟨rfl, -⟩ <;> rfl

theorem chosen_eq (p : Pipeline) (q : RunRequest) :
    p.chosen q = ((p.registry.select q.options.extractors).mapError .configuration).map
      (Scanner.mk p.registry) := rfl

theorem opening_of_names {p' : Pipeline} (names : p'.registry.names = p.registry.names)
    (h : p.opening q = .error (stage, f)) : p'.opening q = .error (stage, f) := by
  have hselect : p'.registry.select q.options.extractors = p.registry.select q.options.extractors := by
    simp only [Registry.select, names]
  have hchosen := chosen_eq p' q
  rw [hselect] at hchosen
  rw [opening_eq_error, chosen_eq] at h
  rw [opening_eq_error, hchosen]
  cases hs : p.registry.select q.options.extractors with
  | ok selection => simpa [hs, Except.mapError, Except.map] using h
  | error fault => simpa [hs, Except.mapError, Except.map] using h

theorem run_of_opening_error (plugin : q.project.isPlugin = true)
    (h : p.opening q = .error (stage, f)) : p.run fs q = (Run.start fs).fail f := by
  rw [run, if_pos plugin]
  rcases opening_eq_error.1 h with ⟨-, hg⟩ | ⟨-, ⟨g, hg⟩, hs⟩ | ⟨-, ⟨g, hg⟩, ⟨scanner, hs⟩, hp⟩
  · rw [Run.stage_error hg]
    rfl
  · rw [Run.stage_ok hg, Run.stage_error hs]
    rfl
  · have hlog : (settlePrefix q).log = [] := by
      unfold settlePrefix at hp ⊢
      split at hp
      · rfl
      · simp at hp
    rw [Run.stage_ok hg, Run.stage_ok hs, Run.stage_error hp, hlog]
    rfl

theorem skip_skips (h : q.project.packaging ≠ Project.pluginPackaging) :
    Skips p fs q (p.run fs q) := by
  have hp : q.project.isPlugin = false := by simpa [Project.isPlugin] using h
  have hrun (p : Pipeline) : p.run fs q = skip fs q := by rw [run, hp]; rfl
  rw [hrun]
  exact ⟨h, rfl, rfl, rfl, rfl, rfl, rfl, rfl, fun r _ => by rw [hrun, hrun]⟩

theorem fails_of_fail {files : FileSystem} {result : RunResult} (h : r.At files result)
    (packaging : q.project.packaging = Project.pluginPackaging)
    (stages : p.stages fs q = .error (stage, f)) (going : result.state.allows .failed = true)
    (uncalled : stage.isEarly → p.CallsNone fs q) (unchanged : stage ≠ .generate → files = fs)
    (descriptor : result.descriptor.isSome ↔ stage = .generate) (artifacts : result.artifacts = []) :
    Fails p fs q stage f (r.fail f) := by
  have hresult : (r.fail f).result = { result with state := .failed } := by
    rw [← h.result] at going ⊢
    exact Run.fail_result going
  refine ⟨packaging, stages, rfl, ?_, uncalled, ?_, ?_, ?_⟩
  · rw [hresult]
  · intro hs
    exact h.files.trans (unchanged hs)
  · rw [hresult]
    exact descriptor
  · rw [hresult]
    exact artifacts

theorem fails_opening (packaging : q.project.packaging = Project.pluginPackaging)
    (h : p.opening q = .error (stage, f)) : Fails p fs q stage f (p.run fs q) := by
  have plugin : q.project.isPlugin = true := by simpa [Project.isPlugin] using packaging
  have hstages : p.stages fs q = .error (stage, f) := by rw [stages, h]; rfl
  have early := isEarly_of_opening h
  have uncalled : p.CallsNone fs q := by
    intro registry names
    rw [run_of_opening_error plugin h, run_of_opening_error plugin (opening_of_names names h)]
  have start : (Run.start fs).At fs .initial := ⟨rfl, rfl, rfl⟩
  rw [run_of_opening_error plugin h]
  refine fails_of_fail start packaging hstages rfl (fun _ => uncalled)
    (fun _ => rfl) ?_ rfl
  cases stage <;> simp_all [Stage.isEarly, RunResult.initial]

theorem stages_eq (fs : FileSystem) (h : p.opening q = .ok (g, scanner, goalPrefix)) :
    p.stages fs q =
      (scanner.scan (p.sources fs q)).result.mapError (Stage.scan, ·) >>= fun tasks =>
        (assemble q goalPrefix.value tasks).result.mapError (Stage.build, ·) >>= fun d =>
          (g.execute fs q.output d).outcome.result.mapError (Stage.generate, ·) >>= fun _ => .ok d := by
  rw [stages, h]
  rfl

theorem ended_of_generate {result : RunResult} {d : Descriptor} (h : r.At fs result)
    (packaging : q.project.packaging = Project.pluginPackaging)
    (stages : p.stages fs q =
      ((g.execute fs q.output d).outcome.result.mapError (Stage.generate, ·) >>= fun _ => .ok d))
    (state : result.state = .assembled) (skipped : result.skipped = false)
    (descriptor : result.descriptor = some d) (artifacts : result.artifacts = []) :
    Ended p fs q (generate g q d r) := by
  have written : ({ r with fs := (g.execute r.fs q.output d).fs } : Run).At
      (g.execute fs q.output d).fs result := ⟨by rw [h.files], h.result, h.running⟩
  rw [generate, h.files] at *
  rcases Outcome.ok_or_error (g.execute fs q.output d).outcome.result with ⟨paths, hw⟩ | ⟨f, hw⟩
  · rw [Outcome.bind_mapError_ok hw] at stages
    refine written.stage_ok hw fun r hr => ?_
    have named : ({ r with result := { r.result with artifacts := paths } } : Run).At
        (g.execute fs q.output d).fs { result with artifacts := paths } :=
      ⟨hr.files, by rw [hr.result], hr.running⟩
    refine named.reach (by rw [state]; rfl) fun r hr => ?_
    refine hr.reach rfl fun r hr => ?_
    refine ⟨.finished d, packaging, stages, hr.running, ?_, ?_, ?_⟩
    · exact congrArg RunResult.state hr.result
    · exact (congrArg RunResult.skipped hr.result).trans skipped
    · exact (congrArg RunResult.descriptor hr.result).trans descriptor
  · rw [Outcome.bind_mapError_error hw] at stages
    refine written.stage_error hw fun r hr => ?_
    exact ⟨.failed .generate f, fails_of_fail hr packaging stages (by rw [state]; rfl)
      (fun early => nomatch early) (fun other => absurd rfl other) (by simp [descriptor]) artifacts⟩

/-- The stages of a run that follow its opening. -/
def onward (p : Pipeline) (fs : FileSystem) (q : RunRequest) (g : Generator) (scanner : Scanner)
    (goalPrefix : GoalPrefix) (r : Run) : Run :=
  r.stage (scanner.scan (p.sources fs q)) fun tasks r =>
  r.reach .scanned fun r =>
  r.stage (assemble q goalPrefix.value tasks) fun d r =>
  { r with result := { r.result with descriptor := some d } }.reach .assembled fun r =>
  generate g q d r

/-- What is known of a run when its opening is done. -/
def opened (goalPrefix : GoalPrefix) : RunResult :=
  { RunResult.initial with
    state := .prefixResolved, goalPrefix := some goalPrefix.value, warnings := goalPrefix.warning.toList }

theorem run_of_opening {Q : Run → Prop} (plugin : q.project.isPlugin = true)
    (h : p.opening q = .ok (g, scanner, goalPrefix))
    (go : ∀ r : Run, r.At fs (opened goalPrefix) → Q (onward p fs q g scanner goalPrefix r)) :
    Q (p.run fs q) := by
  obtain ⟨hg, hs, hp⟩ := opening_eq_ok.1 h
  have start : (Run.start fs).At fs .initial := ⟨rfl, rfl, rfl⟩
  rw [run, if_pos plugin]
  refine start.stage_ok hg fun r hr => ?_
  refine hr.stage_ok hs fun r hr => ?_
  refine hr.stage_ok hp fun r hr => ?_
  have settled : ({ r with result := { r.result with
      goalPrefix := some goalPrefix.value, warnings := goalPrefix.warning.toList } } : Run).At fs
      { opened goalPrefix with state := .idle } := ⟨hr.files, by rw [hr.result]; rfl, hr.running⟩
  exact settled.reach rfl go

theorem ended_of_onward (h : r.At fs (opened goalPrefix))
    (packaging : q.project.packaging = Project.pluginPackaging)
    (stages : p.stages fs q =
      (scanner.scan (p.sources fs q)).result.mapError (Stage.scan, ·) >>= fun tasks =>
        (assemble q goalPrefix.value tasks).result.mapError (Stage.build, ·) >>= fun d =>
          (g.execute fs q.output d).outcome.result.mapError (Stage.generate, ·) >>= fun _ => .ok d) :
    Ended p fs q (onward p fs q g scanner goalPrefix r) := by
  rw [onward]
  rcases Outcome.ok_or_error (scanner.scan (p.sources fs q)).result with ⟨tasks, hscan⟩ | ⟨f, hscan⟩
  · rw [Outcome.bind_mapError_ok hscan] at stages
    refine h.stage_ok hscan fun r hr => ?_
    refine hr.reach rfl fun r hr => ?_
    rcases Outcome.ok_or_error (assemble q goalPrefix.value tasks).result with ⟨d, hd⟩ | ⟨f, hd⟩
    · rw [Outcome.bind_mapError_ok hd] at stages
      refine hr.stage_ok hd fun r hr => ?_
      have described : ({ r with result := { r.result with descriptor := some d } } : Run).At fs
          { opened goalPrefix with state := .scanned, descriptor := some d } :=
        ⟨hr.files, by rw [hr.result], hr.running⟩
      refine described.reach rfl fun r hr => ?_
      exact ended_of_generate hr packaging stages rfl rfl rfl rfl
    · rw [Outcome.bind_mapError_error hd] at stages
      refine hr.stage_error hd fun r hr => ?_
      exact ⟨.failed .build f, fails_of_fail hr packaging stages rfl (fun early => nomatch early)
        (fun _ => rfl) (by simp [opened, RunResult.initial]) rfl⟩
  · rw [Outcome.bind_mapError_error hscan] at stages
    refine h.stage_error hscan fun r hr => ?_
    exact ⟨.failed .scan f, fails_of_fail hr packaging stages rfl (fun early => nomatch early)
      (fun _ => rfl) (by simp [opened, RunResult.initial]) rfl⟩

theorem ended_of_opening (packaging : q.project.packaging = Project.pluginPackaging)
    (h : p.opening q = .ok (g, scanner, goalPrefix)) : Ended p fs q (p.run fs q) := by
  have plugin : q.project.isPlugin = true := by simpa [Project.isPlugin] using packaging
  refine run_of_opening plugin h fun r hr => ?_
  exact ended_of_onward hr packaging (stages_eq fs h)

theorem ends_unique {e e' : Ending} (h : Ends p fs q r e) (h' : Ends p fs q r e') : e = e' := by
  -- the packaging parts skipping from the rest, the outcome of the stages parts the others
  cases e with
  | skipped =>
    cases e' with
    | skipped => rfl
    | finished d => exact absurd h'.packaging h.packaging
    | failed stage f => exact absurd h'.packaging h.packaging
  | finished d =>
    cases e' with
    | skipped => exact absurd h.packaging h'.packaging
    | finished d' => cases h.stages.symm.trans h'.stages; rfl
    | failed stage f => cases h.stages.symm.trans h'.stages
  | failed stage f =>
    cases e' with
    | skipped => exact absurd h.packaging h'.packaging
    | finished d => cases h.stages.symm.trans h'.stages
    | failed stage' f' => cases h.stages.symm.trans h'.stages; rfl

theorem run_ended (p : Pipeline) (fs : FileSystem) (q : RunRequest) : Ended p fs q (p.run fs q) := by
  by_cases packaging : q.project.packaging = Project.pluginPackaging
  · cases ho : p.opening q with
    | error x => exact ⟨.failed x.1 x.2, fails_opening packaging ho⟩
    | ok x => exact ended_of_opening packaging ho
  · exact ⟨.skipped, skip_skips packaging⟩

/-- A run ends in exactly one way; it skips if and only if the project is no plugin. -/
theorem run_ends (p : Pipeline) (fs : FileSystem) (q : RunRequest) :
    (∃! e, Ends p fs q (p.run fs q) e) ∧
      (Ends p fs q (p.run fs q) .skipped ↔ q.project.packaging ≠ Project.pluginPackaging) := by
  refine ⟨?_, fun h => h.packaging, skip_skips⟩
  obtain ⟨e, he⟩ := run_ended p fs q
  exact ⟨e, he, fun e' he' => ends_unique he' he⟩

end Pipeline

end TaskCatalog
