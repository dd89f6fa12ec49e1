import TaskCatalog.Proofs.BuilderHistory
import TaskCatalog.Proofs.CatalogShape
import TaskCatalog.Proofs.DerivedPrefix
import TaskCatalog.Proofs.Warnings

/-!
The goal prefix of a run. A prefix that the options state is checked before any extractor is called, the derived one
when the descriptor is assembled; the run keeps the prefix that was settled, and warns once if it is not the derived
one.
-/

namespace TaskCatalog

open Text

namespace Run

variable {α : Type} {r : Run} {work : Logged α} {next : α → Run → Run} {p : GoalPrefix} {w : Text} {n : Nat} {s : State}

/-- A run with a settled prefix; one of the texts was logged so many times as a warning. -/
structure Prefixed (r : Run) (p : GoalPrefix) (w : Text) (n : Nat) : Prop where
  value : r.result.goalPrefix = some p.value
  warnings : r.result.warnings = p.warning.toList
  carried : ∀ d, r.result.descriptor = some d → d.goalPrefix = p.value
  count : r.log.count ⟨.warning, w⟩ = n

theorem reach_ok {next : Run → Run} (allowed : r.result.state.allows s = true) :
    r.reach s next = next { r with
      log := r.log ++ (r.result.advance s).log, result := { r.result with state := s } } := by
  rw [reach, stage_ok (result_advance allowed)]

/-- Nothing is settled yet, and the text was logged so many times as a warning. -/
structure Unsettled (r : Run) (w : Text) (n : Nat) : Prop where
  result : r.result = .initial
  count : r.log.count ⟨.warning, w⟩ = n

theorem Unsettled.stage {a : α} {m : Nat} (h : r.Unsettled w n) (done : work.result = .ok a)
    (go : ∀ r : Run, r.Unsettled w (n + work.log.count ⟨.warning, w⟩) → (next a r).Prefixed p w m) :
    (r.stage work next).Prefixed p w m := by
  rw [stage_ok done]
  exact go _ ⟨h.result, by rw [List.count_append, h.count]⟩

theorem Unsettled.reach {next : Run → Run} {m : Nat} (h : r.Unsettled w n)
    (go : ∀ r : Run, r.Prefixed p w n → (next r).Prefixed p w m) :
    (({ r with result := { r.result with goalPrefix := some p.value, warnings := p.warning.toList } } : Run).reach
      .prefixResolved next).Prefixed p w m := by
  rw [reach_ok (by rw [h.result]; rfl)]
  refine go _ ⟨rfl, rfl, ?_, ?_⟩
  · intro d carried
    rw [h.result] at carried
    cases carried
  · rw [List.count_append, h.count, (RunResult.quiet_advance _ _).count, Nat.add_zero]

theorem Prefixed.append (h : r.Prefixed p w n) (more : Log) :
    ({ r with log := r.log ++ more } : Run).Prefixed p w (n + more.count ⟨.warning, w⟩) :=
  ⟨h.value, h.warnings, h.carried, by rw [List.count_append, h.count]⟩

theorem Prefixed.write (h : r.Prefixed p w n) {x : Logged α} (quiet : x.Quiet) :
    ({ r with log := r.log ++ x.log } : Run).Prefixed p w n := by
  have written := h.append x.log
  rwa [quiet.count, Nat.add_zero] at written

theorem Prefixed.state (h : r.Prefixed p w n) (s : State) :
    ({ r with result := { r.result with state := s } } : Run).Prefixed p w n :=
  ⟨h.value, h.warnings, h.carried, h.count⟩

theorem Prefixed.fail (h : r.Prefixed p w n) (f : Failure) : (r.fail f).Prefixed p w n := by
  have told : (r.fail f).log.count ⟨.warning, w⟩ = n := by
    change (r.log ++ ⟨.error, _⟩ :: (r.result.advance .failed).log).count ⟨.warning, w⟩ = n
    rw [List.count_append, List.count_cons_of_ne (by simp), h.count, (r.result.quiet_advance .failed).count, Nat.add_zero]
  by_cases going : r.result.state.allows .failed = true
  · refine ⟨?_, ?_, ?_, told⟩ <;> rw [fail_result going]
    · exact h.value
    · exact h.warnings
    · exact h.carried
  · have kept : (r.fail f).result = r.result := by
      simp only [Run.fail, RunResult.advance, if_neg going]
      rfl
    refine ⟨?_, ?_, ?_, told⟩ <;> rw [kept]
    · exact h.value
    · exact h.warnings
    · exact h.carried

theorem Prefixed.stage (h : r.Prefixed p w n) (quiet : work.Quiet)
    (go : ∀ a (r : Run), work.result = .ok a → r.Prefixed p w n → (next a r).Prefixed p w n) :
    (r.stage work next).Prefixed p w n := by
  cases done : work.result with
  | ok a =>
    rw [stage_ok done]
    exact go a _ done (h.write quiet)
  | error f =>
    rw [stage_error done]
    exact (h.write quiet).fail f

theorem Prefixed.reach {next : Run → Run} (h : r.Prefixed p w n)
    (go : ∀ r : Run, r.Prefixed p w n → (next r).Prefixed p w n) : (r.reach s next).Prefixed p w n := by
  by_cases allowed : r.result.state.allows s = true
  · rw [reach_ok allowed]
    exact go _ ((h.write (r.result.quiet_advance s)).state s)
  · have stuck : (r.result.advance s).result =
        .error (.runtime ("Illegal pipeline transition " ++ r.result.state.name ++ " -> " ++ s.name)) := by
      rw [RunResult.advance, if_neg allowed]
      rfl
    rw [Run.reach, stage_error stuck]
    exact (h.write (r.result.quiet_advance s)).fail _

end Run

namespace GoalPrefix

variable {artifactId override : Option Text} {p : GoalPrefix} {t : Text}

theorem mismatch_ne_nothingFound (override default : Text) : mismatch override default ≠ Scan.nothingFound := by
  intro same
  have first : (mismatch override default).head? = some (.scalar 'G') := rfl
  rw [same] at first
  revert first
  decide

/-- A prefix is settled if it is derived or stated and usable; there is a warning if the two differ. -/
theorem resolve_eq_ok (h : resolve artifactId override = .ok p) :
    p.value = override.getD (derive (artifactId.getD [])) ∧
      p.warning = (override.filter (· ≠ derive (artifactId.getD []))).map (mismatch · (derive (artifactId.getD []))) := by
  generalize given : derive (artifactId.getD []) = default
  simp only [resolve, given] at h
  cases override with
  | none =>
    cases h
    exact ⟨rfl, rfl⟩
  | some value =>
    dsimp only at h
    split at h
    · cases h
    · by_cases same : value = default
      · rw [if_pos same] at h
        cases h
        refine ⟨rfl, ?_⟩
        rw [Option.filter_some, if_neg (by simpa using same)]
        rfl
      · rw [if_neg same] at h
        cases h
        refine ⟨rfl, ?_⟩
        rw [Option.filter_some, if_pos (by simpa using same)]
        rfl

theorem resolve_of_usable (usable : ∀ value ∈ override, Usable value) : ∃ p, resolve artifactId override = .ok p := by
  unfold resolve
  dsimp only
  split
  · exact ⟨_, rfl⟩
  · next value =>
    rw [usable_iff.1 (usable value rfl)]
    dsimp only
    split <;> exact ⟨_, rfl⟩

theorem resolve_of_unusable (artifactId : Option Text) {value : Text} (unusable : ¬ Usable value) :
    ∃ fault, Faulty value fault ∧ resolve artifactId (some value) = .error (fault, value) := by
  rw [usable_iff] at unusable
  obtain ⟨fault, faulty⟩ := Option.ne_none_iff_exists'.1 unusable
  refine ⟨fault, faulty_iff.2 faulty, ?_⟩
  simp only [resolve, faulty]

end GoalPrefix

namespace Pipeline

variable {p : Pipeline} {fs : FileSystem} {q : RunRequest} {g : Generator} {scanner : Scanner} {goalPrefix : GoalPrefix}
  {tasks : List Task} {d : Descriptor} {stage : Stage} {f : Failure} {value : Text}

theorem resolve_of_settlePrefix (h : (settlePrefix q).result = .ok goalPrefix) :
    GoalPrefix.resolve q.project.artifactId q.options.goalPrefix = .ok goalPrefix ∧
      (settlePrefix q).log = goalPrefix.warning.toList.map (LogRecord.mk .warning) := by
  unfold settlePrefix at h ⊢
  split at h
  · cases h
  · next settled =>
    cases h
    rw [settled]
    exact ⟨rfl, rfl⟩

theorem assembles_assemble (q : RunRequest) (value : Text) (tasks : List Task) :
    Builder.Assembles q.project.identity q.project.dependencies (some value) tasks (assemble q value tasks).result :=
  Builder.assembles_build
    (((Builder.empty.withGoalPrefix (some value)).addTasks tasks).withIdentity q.project.identity
      |>.withDependencies q.project.dependencies)

theorem goalPrefix_of_assemble (h : (assemble q value tasks).result = .ok d) : d.goalPrefix = value := by
  have built := assembles_assemble q value tasks
  rw [h] at built
  cases built with
  | built complete usable identity goalPrefix => exact (Option.some.inj goalPrefix).symm

/-- Complete parts with distinct tasks are refused because of the prefix alone. -/
theorem assemble_refuses_iff (complete : q.project.identity.Complete)
    (distinct : (tasks.map fun t => t.name.text).Nodup) :
    (∃ fault, (assemble q value tasks).result = .error (.invalidDescriptor fault)) ↔ ¬ GoalPrefix.Usable value := by
  constructor
  · rintro ⟨fault, refused⟩ usable
    obtain ⟨d, built, -⟩ := Builder.build?_of_complete
      (b := ((Builder.empty.withGoalPrefix (some value)).addTasks tasks).withIdentity q.project.identity
        |>.withDependencies q.project.dependencies) complete usable distinct
    rw [assemble, Builder.result_build, built] at refused
    cases refused
  · intro unusable
    have built := assembles_assemble q value tasks
    generalize (assemble q value tasks).result = result at built ⊢
    cases built with
    | built complete usable identity goalPrefix =>
      rw [← Option.some.inj goalPrefix] at usable
      exact absurd usable unusable
    | lacking => exact ⟨_, rfl⟩
    | prefixed => exact ⟨_, rfl⟩
    | repeating => exact ⟨_, rfl⟩

theorem prefixed_generate {r : Run} {w : Text} {n : Nat} (h : r.Prefixed goalPrefix w n) (g : Generator) (q : RunRequest)
    (d : Descriptor) : (generate g q d r).Prefixed goalPrefix w n := by
  have written : ({ r with fs := (g.execute r.fs q.output d).fs } : Run).Prefixed goalPrefix w n :=
    ⟨h.value, h.warnings, h.carried, h.count⟩
  unfold generate
  refine written.stage (g.quiet_execute _ _ _) fun paths r _ hr => ?_
  have named : ({ r with result := { r.result with artifacts := paths } } : Run).Prefixed goalPrefix w n :=
    ⟨hr.value, hr.warnings, hr.carried, hr.count⟩
  refine named.reach fun r hr => hr.reach fun r hr => ⟨hr.value, hr.warnings, hr.carried, ?_⟩
  rw [List.count_append, hr.count]
  rfl

theorem prefixed_of_scan (plugin : q.project.isPlugin = true) (opened : p.opening q = .ok (g, scanner, goalPrefix))
    (scanned : (scanner.scan (p.sources fs q)).result = .ok tasks) (w : Text) :
    (p.run fs q).Prefixed goalPrefix w
      ((settlePrefix q).log.count ⟨.warning, w⟩ + (scanner.scan (p.sources fs q)).log.count ⟨.warning, w⟩) := by
  obtain ⟨known, registered, settled⟩ := opening_eq_ok.1 opened
  have start : (Run.start fs).Unsettled w 0 := ⟨rfl, rfl⟩
  rw [run, if_pos plugin]
  refine start.stage known fun r hr => hr.stage registered fun r hr => hr.stage settled fun r hr => ?_
  refine hr.reach fun r hr => ?_
  rw [Run.stage_ok scanned]
  have told := hr.append (scanner.scan (p.sources fs q)).log
  simp only [(Logged.quiet_ofExcept _).count, Nat.zero_add] at told
  refine told.reach fun r hr => hr.stage (Builder.quiet_build _) fun d r built hr => ?_
  have assembled : ({ r with result := { r.result with descriptor := some d } } : Run).Prefixed goalPrefix w _ :=
    ⟨hr.value, hr.warnings, fun _ same => Option.some.inj same ▸ goalPrefix_of_assemble built, hr.count⟩
  exact assembled.reach fun r hr => prefixed_generate hr g q d

theorem fails_iff_stages (packaging : q.project.packaging = Project.pluginPackaging) :
    Fails p fs q stage f (p.run fs q) ↔ p.stages fs q = .error (stage, f) := by
  refine ⟨fun fails => fails.stages, fun failed => ?_⟩
  obtain ⟨e, ends⟩ := run_ended p fs q
  cases e with
  | skipped => exact absurd packaging ends.packaging
  | finished d => cases failed.symm.trans ends.stages
  | failed stage' f' =>
    cases failed.symm.trans ends.stages
    exact ends

theorem fails_build_iff (packaging : q.project.packaging = Project.pluginPackaging)
    (opened : p.opening q = .ok (g, scanner, goalPrefix)) (scanned : (scanner.scan (p.sources fs q)).result = .ok tasks) :
    Fails p fs q .build f (p.run fs q) ↔ (assemble q goalPrefix.value tasks).result = .error f := by
  rw [fails_iff_stages packaging, stages_eq fs opened, Outcome.bind_mapError_ok scanned]
  cases assembled : (assemble q goalPrefix.value tasks).result with
  | error e =>
    rw [Outcome.bind_mapError_error rfl]
    simp
  | ok d =>
    rw [Outcome.bind_mapError_ok rfl]
    cases (g.execute fs q.output d).outcome.result <;> simp [bind, Except.bind, Except.mapError]

theorem distinct_of_scan (scanned : (scanner.scan (p.sources fs q)).result = .ok tasks) :
    (tasks.map fun t => t.name.text).Nodup := by
  have ends := Scan.ends_scan (p.sources fs q) scanner.activeExtractors
  change Scan.Ends _ _ _ (scanner.scan (p.sources fs q)).result at ends
  rw [scanned] at ends
  generalize called (p.sources fs q) [] scanner.activeExtractors = names at ends
  cases ends with
  | returned returned distinct pass =>
    rw [List.map_map]
    exact distinct

/-- The prefix that is used is the stated one or else the default; a run warns once if the two differ. -/
structure Settles (p : Pipeline) (fs : FileSystem) (q : RunRequest) (default : Text) : Prop where
  value : (p.run fs q).result.goalPrefix = some (q.options.goalPrefix.getD default)
  carried : ∀ d, (p.run fs q).result.descriptor = some d → d.goalPrefix = q.options.goalPrefix.getD default
  warned : (p.run fs q).result.warnings ≠ [] ↔ ∃ stated, q.options.goalPrefix = some stated ∧ stated ≠ default
  once : ∀ w ∈ (p.run fs q).result.warnings, (p.run fs q).result.warnings = [w] ∧
    (p.run fs q).log.count ⟨.warning, w⟩ =
      1 + (Scan.records (p.sources fs q) (p.registry.active q.options.extractors)).count ⟨.warning, w⟩
  standard : (∀ e ∈ p.registry, e ∈ Registry.standard) →
    ∀ w ∈ (p.run fs q).result.warnings, (p.run fs q).log.count ⟨.warning, w⟩ = 1

theorem count_records_standard (registered : ∀ e ∈ p.registry, e ∈ Registry.standard) (fs : FileSystem)
    (q : RunRequest) (w : Text) :
    (Scan.records (p.sources fs q) (p.registry.active q.options.extractors)).count ⟨.warning, w⟩ = 0 := by
  rw [List.count_eq_zero]
  intro member
  obtain ⟨e, active, member⟩ := List.mem_flatMap.1 member
  exact Registry.quiet_standard (registered e (Registry.mem_of_mem_active active)) _ _ member rfl

theorem settles_of_scan (plugin : q.project.isPlugin = true) (opened : p.opening q = .ok (g, scanner, goalPrefix))
    (scanned : (scanner.scan (p.sources fs q)).result = .ok tasks) :
    p.Settles fs q (GoalPrefix.derive (q.project.artifactId.getD [])) := by
  obtain ⟨-, registered, settled⟩ := opening_eq_ok.1 opened
  obtain ⟨resolved, logged⟩ := resolve_of_settlePrefix settled
  obtain ⟨value, warning⟩ := GoalPrefix.resolve_eq_ok resolved
  have prefixed := prefixed_of_scan plugin opened scanned
  have warnings := (prefixed []).warnings
  have once : ∀ w ∈ (p.run fs q).result.warnings, (p.run fs q).result.warnings = [w] ∧
      (p.run fs q).log.count ⟨.warning, w⟩ =
        1 + (Scan.records (p.sources fs q) (p.registry.active q.options.extractors)).count ⟨.warning, w⟩ := by
    intro w given
    rw [warnings, Option.mem_toList] at given
    refine ⟨by rw [warnings, given, Option.toList_some], ?_⟩
    have own : w ≠ Scan.nothingFound := by
      rw [warning] at given
      obtain ⟨stated, -, rfl⟩ := Option.map_eq_some_iff.1 given
      exact GoalPrefix.mismatch_ne_nothingFound stated _
    rw [(prefixed w).count, logged, given, ← activeExtractors_of_chosen registered]
    congr 1
    · simp
    · exact Scan.count_scan scanned own
  refine ⟨?_, ?_, ?_, once, ?_⟩
  · rw [(prefixed []).value, value]
  · rw [← value]
    exact (prefixed []).carried
  · rw [warnings, warning]
    cases q.options.goalPrefix with
    | none => simp
    | some stated =>
      by_cases same : stated = GoalPrefix.derive (q.project.artifactId.getD []) <;> simp [Option.filter, same]
  · intro registered w given
    rw [(once w given).2, count_records_standard registered]

theorem usable_derive_iff {t : Text} : GoalPrefix.Usable (GoalPrefix.derive t) ↔
    GoalPrefix.derive t ≠ [] ∧ ∀ l ∈ t, ¬ (GoalPrefix.isSeparator l = true ∨ isBlank l = true) := by
  simp [GoalPrefix.usable_iff, GoalPrefix.fault?_derive_eq_none_iff]

/-- A stated prefix that is not usable stops a run before any extractor is called; otherwise the stated prefix is used, or
else the derived one, which assembly refuses if and only if nothing is left of the artifact id or a letter of it is
refused. -/
theorem run_settles (p : Pipeline) (fs : FileSystem) (q : RunRequest) (g : Generator) (scanner : Scanner) (artifactId : Text)
    (packaging : q.project.packaging = Project.pluginPackaging) (complete : q.project.identity.Complete)
    (identified : q.project.artifactId = some artifactId) (known : generator q.kind = .ok g)
    (registered : p.chosen q = .ok scanner) :
    (∀ stated, q.options.goalPrefix = some stated → ¬ GoalPrefix.Usable stated → p.CallsNone fs q ∧
      ∃ fault, GoalPrefix.Faulty stated fault ∧
        Fails p fs q .settling (.configuration (.goalPrefix stated fault)) (p.run fs q)) ∧
    (∀ tasks, (scanner.scan (p.sources fs q)).result = .ok tasks →
      ((∀ stated, q.options.goalPrefix = some stated → GoalPrefix.Usable stated) →
        p.Settles fs q (GoalPrefix.derive artifactId)) ∧
      (q.options.goalPrefix = none →
        ((∃ fault, Fails p fs q .build (.invalidDescriptor fault) (p.run fs q)) ↔
          GoalPrefix.derive artifactId = [] ∨ ∃ l ∈ artifactId, GoalPrefix.isSeparator l = true ∨ isBlank l = true))) ∧
    ∀ l, GoalPrefix.isSeparator l = true ∨ isBlank l = true → (l ∈ GoalPrefix.derive artifactId ↔ l ∈ artifactId) := by
  have plugin : q.project.isPlugin = true := by simpa [Project.isPlugin] using packaging
  have opens (usable : ∀ stated, q.options.goalPrefix = some stated → GoalPrefix.Usable stated) :
      ∃ goalPrefix, p.opening q = .ok (g, scanner, goalPrefix) := by
    obtain ⟨goalPrefix, resolved⟩ : ∃ settled, GoalPrefix.resolve q.project.artifactId q.options.goalPrefix = .ok settled :=
      GoalPrefix.resolve_of_usable usable
    refine ⟨goalPrefix, opening_eq_ok.2 ⟨known, registered, ?_⟩⟩
    rw [settlePrefix, resolved]
  refine ⟨?_, ?_, fun l refused => GoalPrefix.mem_derive_of_refused refused artifactId⟩
  · intro stated given unusable
    obtain ⟨fault, faulty, refused⟩ := GoalPrefix.resolve_of_unusable q.project.artifactId unusable
    have opened : p.opening q = .error (.settling, .configuration (.goalPrefix stated fault)) := by
      refine opening_eq_error.2 (.inr (.inr ⟨rfl, ⟨g, known⟩, ⟨scanner, registered⟩, ?_⟩))
      rw [settlePrefix, given, refused]
      rfl
    have fails : Fails p fs q .settling (.configuration (.goalPrefix stated fault)) (p.run fs q) :=
      fails_opening packaging opened
    exact ⟨fails.uncalled rfl, fault, faulty, fails⟩
  · intro tasks scanned
    constructor
    · intro usable
      obtain ⟨goalPrefix, opened⟩ := opens usable
      have settles := settles_of_scan plugin opened scanned
      rwa [identified] at settles
    · intro absent
      obtain ⟨goalPrefix, opened⟩ := opens fun stated given => by rw [absent] at given; cases given
      obtain ⟨value, -⟩ :=
        GoalPrefix.resolve_eq_ok (resolve_of_settlePrefix (opening_eq_ok.1 opened).2.2).1
      rw [absent, identified] at value
      simp only [fails_build_iff packaging opened scanned, assemble_refuses_iff complete (distinct_of_scan scanned), value,
        Option.getD_none, Option.getD_some, usable_derive_iff]
      grind

def renamedRequest : RunRequest :=
  { goalClassRequest with options := ⟨some "b", none⟩ }

theorem renamed_warned :
    (run ⟨.standard, .default⟩ goalClassFiles renamedRequest).result.goalPrefix = some "b" ∧
      ∃ w, (run ⟨.standard, .default⟩ goalClassFiles renamedRequest).result.warnings = [w] ∧
        (run ⟨.standard, .default⟩ goalClassFiles renamedRequest).log.count ⟨.warning, w⟩ = 1 := by
  have known : generator renamedRequest.kind = .ok .markdown := rfl
  have found : (Scanner.scan ⟨.standard, none⟩
      ((Pipeline.mk .standard .default).sources goalClassFiles renamedRequest)).result.toOption.isSome = true := by
    decide +kernel
  have usable : GoalPrefix.fault? "b" = none := by decide
  have other : ("b" : Text) ≠ GoalPrefix.derive "a-maven-plugin" := by decide +kernel
  obtain ⟨tasks, scanned⟩ := Option.isSome_iff_exists.1 found
  have settles := ((run_settles ⟨.standard, .default⟩ goalClassFiles renamedRequest .markdown ⟨.standard, none⟩
    "a-maven-plugin" rfl (Identity.complete_iff.2 (by decide)) rfl known rfl).2.1 tasks
      (Outcome.toOption_eq_some.1 scanned)).1 fun stated given =>
        GoalPrefix.usable_iff.2 (Option.some.inj given ▸ usable)
  refine ⟨settles.value, ?_⟩
  obtain ⟨w, more, warned⟩ := List.exists_cons_of_ne_nil (settles.warned.2 ⟨"b", rfl, other⟩)
  have given : w ∈ (run ⟨.standard, .default⟩ goalClassFiles renamedRequest).result.warnings := by
    rw [warned]
    exact List.mem_cons_self
  exact ⟨w, (settles.once w given).1, settles.standard (fun e registered => registered) w given⟩

end Pipeline

end TaskCatalog
