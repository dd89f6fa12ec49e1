import TaskCatalog.Proofs.CatalogShape
import TaskCatalog.Proofs.Writing

/-!
The files of a run. Nothing is written before the descriptor is there; from then on the texts of its
artifacts are written one after the other, and what was written stays when a later one fails.
-/

namespace TaskCatalog

open Text

namespace Generator

variable {g : Generator} (fs : FileSystem) (directory : Path) {d : Descriptor} {files : List (Text × Text)}

theorem descriptor_artifacts {files : List (Text × Text)} : descriptor.artifacts d = .ok files ↔
    ∃ entries, d.document = .ok entries ∧ Yaml.Writing.entriesSpelled entries = true
      ∧ files = [(descriptorFile, Yaml.write entries)] := by
  rw [artifacts, Outcome.bind_eq_ok]
  refine exists_congr fun entries => and_congr_right fun _ => ?_
  cases Yaml.Writing.entriesSpelled entries with
  | true => simp [Pure.pure, Except.pure, eq_comm]
  | false => simp [throw, throwThe, MonadExceptOf.throw]

theorem execute_of_fault {fault : PlainFault} (h : g.artifacts d = .error fault) :
    (g.execute fs directory d).fs = fs ∧ ∃ f, (g.execute fs directory d).outcome.result = .error f := by
  rw [execute, h]
  exact ⟨rfl, _, rfl⟩

theorem execute_of_texts (h : g.artifacts d = .ok files) :
    (g.execute fs directory d).fs = (fs.writeTexts directory files).1 ∧
      (g.execute fs directory d).outcome.result =
        (fs.writeTexts directory files).2.mapError (g.failure directory) := by
  rw [execute, h]
  refine ⟨rfl, ?_⟩
  cases hw : (fs.writeTexts directory files).2 with
  | ok paths => simp [hw, Logged.bind, Except.mapError, Logged.write]
  | error cause => simp [hw, Logged.bind, Except.mapError, Logged.write, Logged.fail]

end Generator

namespace Pipeline

/-- What a run has before it writes: the generator, the goal prefix and the descriptor. -/
def prepared? (p : Pipeline) (fs : FileSystem) (q : RunRequest) : Option (Generator × GoalPrefix × Descriptor) :=
  if q.project.isPlugin then do
    let (g, scanner, goalPrefix) ← (p.opening q).toOption
    let tasks ← (scanner.scan (p.sources fs q)).result.toOption
    let d ← (assemble q goalPrefix.value tasks).result.toOption
    return (g, goalPrefix, d)
  else none

/-- The texts that a run writes below its output directory if nothing fails. -/
def texts? (p : Pipeline) (fs : FileSystem) (q : RunRequest) : Option (List (Text × Text)) :=
  (p.prepared? fs q).bind fun (g, _, d) => (g.artifacts d).toOption

def assembled (goalPrefix : GoalPrefix) (d : Descriptor) : RunResult :=
  ⟨.assembled, false, some goalPrefix.value, some d, [], goalPrefix.warning.toList⟩

variable {p : Pipeline} {fs : FileSystem} {q : RunRequest} {g : Generator} {goalPrefix : GoalPrefix}
  {d : Descriptor} {files : List (Text × Text)} {f : Failure} {scanner : Scanner}

theorem prepared?_eq_some : p.prepared? fs q = some (g, goalPrefix, d) ↔
    q.project.isPlugin = true ∧ ∃ scanner tasks, p.opening q = .ok (g, scanner, goalPrefix) ∧
      (scanner.scan (p.sources fs q)).result = .ok tasks ∧
      (assemble q goalPrefix.value tasks).result = .ok d := by
  rw [prepared?]
  split
  · rename_i plugin
    simp only [plugin, true_and, bind, Option.bind_eq_some_iff, Outcome.toOption_eq_some, pure, Option.some.injEq,
      Prod.mk.injEq]
    constructor
    · rintro ⟨⟨g, scanner, goalPrefix⟩, opened, tasks, scanned, d, built, rfl, rfl, rfl⟩
      exact ⟨scanner, tasks, opened, scanned, built⟩
    · rintro ⟨scanner, tasks, opened, scanned, built⟩
      exact ⟨_, opened, tasks, scanned, d, built, rfl, rfl, rfl⟩
  · rename_i other
    simp [other]

theorem run_of_prepared {Q : Run → Prop} (h : p.prepared? fs q = some (g, goalPrefix, d))
    (go : ∀ r : Run, r.At fs (assembled goalPrefix d) → Q (generate g q d r)) : Q (p.run fs q) := by
  obtain ⟨plugin, scanner, tasks, opened, scanned, built⟩ := prepared?_eq_some.1 h
  refine run_of_opening plugin opened fun r hr => ?_
  rw [onward]
  refine hr.stage_ok scanned fun r hr => ?_
  refine hr.reach rfl fun r hr => ?_
  refine hr.stage_ok built fun r hr => ?_
  have described : ({ r with result := { r.result with descriptor := some d } } : Run).At fs
      { assembled goalPrefix d with state := .scanned } := ⟨hr.files, by rw [hr.result]; rfl, hr.running⟩
  exact described.reach rfl go

theorem generate_of_written {Q : Run → Prop} {r : Run} {paths : List Path}
    (hr : r.At fs (assembled goalPrefix d)) (written : (g.execute fs q.output d).outcome.result = .ok paths)
    (go : ∀ r : Run, r.At (g.execute fs q.output d).fs
      { assembled goalPrefix d with state := .done, artifacts := paths } → Q r) : Q (generate g q d r) := by
  have stored : ({ r with fs := (g.execute fs q.output d).fs } : Run).At
      (g.execute fs q.output d).fs (assembled goalPrefix d) := ⟨rfl, hr.result, hr.running⟩
  rw [generate, hr.files]
  refine stored.stage_ok written fun r hr => ?_
  have named : ({ r with result := { r.result with artifacts := paths } } : Run).At
      (g.execute fs q.output d).fs { assembled goalPrefix d with artifacts := paths } :=
    ⟨hr.files, by rw [hr.result], hr.running⟩
  refine named.reach rfl fun r hr => ?_
  exact hr.reach rfl fun r hr => go _ ⟨hr.files, hr.result, hr.running⟩

theorem generate_of_unwritten {Q : Run → Prop} {r : Run} (hr : r.At fs (assembled goalPrefix d))
    (unwritten : (g.execute fs q.output d).outcome.result = .error f)
    (go : ∀ r : Run, r.At (g.execute fs q.output d).fs (assembled goalPrefix d) → Q (r.fail f)) :
    Q (generate g q d r) := by
  have stored : ({ r with fs := (g.execute fs q.output d).fs } : Run).At
      (g.execute fs q.output d).fs (assembled goalPrefix d) := ⟨rfl, hr.result, hr.running⟩
  rw [generate, hr.files]
  exact stored.stage_error unwritten go

theorem run_of_written {paths : List Path} (h : p.prepared? fs q = some (g, goalPrefix, d))
    (written : (g.execute fs q.output d).outcome.result = .ok paths) :
    (p.run fs q).At (g.execute fs q.output d).fs
      { assembled goalPrefix d with state := .done, artifacts := paths } := by
  refine run_of_prepared (Q := fun r => r.At _ _) h fun r hr => ?_
  exact generate_of_written (Q := fun r => r.At _ _) hr written fun _ done => done

theorem run_of_unwritten (h : p.prepared? fs q = some (g, goalPrefix, d))
    (unwritten : (g.execute fs q.output d).outcome.result = .error f) :
    (p.run fs q).fs = (g.execute fs q.output d).fs ∧ (p.run fs q).failure = some f := by
  refine run_of_prepared (Q := fun r => r.fs = _ ∧ r.failure = _) h fun r hr => ?_
  exact generate_of_unwritten (Q := fun r => r.fs = _ ∧ r.failure = _) hr unwritten
    fun _ stopped => ⟨stopped.files, rfl⟩

/-- Where the stages end or fail with the last of them, the run was prepared to write. -/
theorem prepared_of_stages (packaging : q.project.packaging = Project.pluginPackaging)
    (late : ∀ stage f, p.stages fs q = .error (stage, f) → stage = .generate) :
    ∃ x, p.prepared? fs q = some x := by
  have plugin : q.project.isPlugin = true := by simpa [Project.isPlugin] using packaging
  cases opened : p.opening q with
  | error x =>
    have early := @isEarly_of_opening p q x.1 x.2 opened
    rw [late x.1 x.2 (by rw [stages, opened]; rfl)] at early
    cases early
  | ok x =>
    obtain ⟨g, scanner, goalPrefix⟩ := x
    rw [stages_eq fs opened] at late
    cases scanned : (scanner.scan (p.sources fs q)).result with
    | error f => cases late .scan f (by rw [scanned]; rfl)
    | ok tasks =>
      rw [Outcome.bind_mapError_ok scanned] at late
      cases built : (assemble q goalPrefix.value tasks).result with
      | error f => cases late .build f (by rw [built]; rfl)
      | ok d => exact ⟨_, prepared?_eq_some.2 ⟨plugin, scanner, tasks, opened, scanned, built⟩⟩

theorem files_of_unprepared (h : p.prepared? fs q = none) : (p.run fs q).fs = fs := by
  obtain ⟨e, ends⟩ := run_ended p fs q
  cases e with
  | skipped => exact ends.files
  | finished d =>
    have none : ∀ stage f, p.stages fs q = .error (stage, f) → stage = .generate := by
      intro stage f failed
      cases ends.stages.symm.trans failed
    obtain ⟨x, hx⟩ := prepared_of_stages ends.packaging none
    cases h.symm.trans hx
  | failed stage f =>
    refine ends.files fun last => ?_
    have only : ∀ other f', p.stages fs q = .error (other, f') → other = .generate := by
      intro other f' failed
      cases ends.stages.symm.trans failed
      exact last
    obtain ⟨x, hx⟩ := prepared_of_stages ends.packaging only
    cases h.symm.trans hx

theorem files_of_textless (h : p.texts? fs q = none) : (p.run fs q).fs = fs := by
  cases prepared : p.prepared? fs q with
  | none => exact files_of_unprepared prepared
  | some x =>
    obtain ⟨g, goalPrefix, d⟩ := x
    rw [texts?, prepared] at h
    cases made : g.artifacts d with
    | ok files => simp [made, Except.toOption] at h
    | error fault =>
      obtain ⟨same, f, unwritten⟩ := Generator.execute_of_fault fs q.output made
      exact (run_of_unwritten prepared unwritten).1.trans same

/-- The texts of a run are written up to the first that fails, if one fails. -/
theorem trace_of_texts (h : p.texts? fs q = some files) :
    ∃ ws result, FileSystem.Trace q.output fs files ws ((p.run fs q).fs, result) ∧
      ((p.run fs q).failure = none ↔ ∃ paths, result = .ok paths) := by
  obtain ⟨⟨g, goalPrefix, d⟩, prepared, made⟩ := Option.bind_eq_some_iff.1 h
  obtain ⟨ws, trace⟩ := FileSystem.trace_writeTexts fs q.output files
  obtain ⟨filed, outcome⟩ :=
    Generator.execute_of_texts fs q.output (Outcome.toOption_eq_some.1 made)
  refine ⟨ws, (fs.writeTexts q.output files).2, ?_⟩
  cases result : (fs.writeTexts q.output files).2 with
  | ok paths =>
    have run := run_of_written prepared (outcome.trans (by rw [result]; rfl))
    rw [run.files, filed, run.running, ← result]
    exact ⟨trace, by simp [result]⟩
  | error cause =>
    obtain ⟨files, failed⟩ := run_of_unwritten prepared (outcome.trans (by rw [result]; rfl))
    rw [files, filed, failed, ← result]
    exact ⟨trace, by simp [result]⟩

theorem unchanged_iff {root later : Node} {ws : List (Location × Bytes)} (h : root.Updates ws later) :
    (∀ l, later.kind? l = root.kind? l) ↔
      ∀ l content, Node.latest? ws l = some content → root.content? l = some content := by
  constructor
  · intro same l content last
    rw [Node.content?_eq_some, ← same, h.kind?_eq, last]
    rfl
  · intro there l
    rw [h.kind?_eq]
    cases last : Node.latest? ws l with
    | none => rfl
    | some content => exact (Node.content?_eq_some.1 (there l content last)).symm

/-- Files after a run that failed: as they were, if the run had no texts to write yet. Otherwise it left
what it wrote before the text that failed, and the files are as they were only if they held that before. -/
def LeavesBehind (p : Pipeline) (fs : FileSystem) (q : RunRequest) (later : FileSystem) : Prop :=
  match p.texts? fs q with
  | none => later = fs
  | some files => ∃ ws cause, FileSystem.Trace q.output fs files ws (later, .error cause) ∧
      (∀ l, later.root.kind? l = ((Node.latest? ws l).map Node.Kind.file).or (fs.root.kind? l)) ∧
      ((∀ l, later.root.kind? l = fs.root.kind? l) ↔
        ∀ l content, Node.latest? ws l = some content → fs.root.content? l = some content)

theorem failed_run_leaves (p : Pipeline) (fs : FileSystem) (q : RunRequest) (f : Failure)
    (failed : (p.run fs q).failure = some f) : p.LeavesBehind fs q (p.run fs q).fs := by
  rw [LeavesBehind]
  cases h : p.texts? fs q with
  | none => exact files_of_textless h
  | some files =>
    obtain ⟨ws, result, trace, finished⟩ := trace_of_texts h
    cases result with
    | ok paths =>
      rw [failed] at finished
      cases finished.2 ⟨paths, rfl⟩
    | error cause =>
      exact ⟨ws, cause, trace, trace.updates.kind?_eq, unchanged_iff trace.updates⟩

/-- A directory stands where a page is to be written. -/
def blockedPageFiles : FileSystem :=
  ⟨.directory [("src", .directory [("a.py", .file goalClass.toUTF8.toList)]),
    ("out", .directory [("a-task.md", .directory [])])], []⟩

theorem blockedPage_leaves : ∃ f, (run ⟨.standard, .default⟩ blockedPageFiles goalClassRequest).failure = some f ∧
    LeavesBehind ⟨.standard, .default⟩ blockedPageFiles goalClassRequest
      (run ⟨.standard, .default⟩ blockedPageFiles goalClassRequest).fs := by
  have failed : (run ⟨.standard, .default⟩ blockedPageFiles goalClassRequest).failure.isSome = true := by
    decide +kernel
  obtain ⟨f, hf⟩ := Option.isSome_iff_exists.1 failed
  exact ⟨f, hf, failed_run_leaves _ blockedPageFiles goalClassRequest f hf⟩

/-- The overview stays behind although the run failed. -/
theorem blockedPage_leaves_overview :
    (run ⟨.standard, .default⟩ blockedPageFiles goalClassRequest).failure.isSome = true ∧
      blockedPageFiles.root.content? ["out", "index.md"] = none ∧
      ((run ⟨.standard, .default⟩ blockedPageFiles goalClassRequest).fs.root.content?
        ["out", "index.md"]).isSome = true := by
  decide +kernel

end Pipeline

end TaskCatalog
