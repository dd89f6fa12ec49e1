import TaskCatalog.Proofs.RunFiles
import TaskCatalog.Proofs.SourceFrame

/-!
A run that returned, done again: where the output directory is apart from the sources, the second run
reads the same sources, ends with the same result and leaves every file as it is.
-/

namespace TaskCatalog

open Text

/-- An output directory that sources cannot be read from. -/
structure FileSystem.Apart (fs : FileSystem) (roots : List Path) (out : Location) : Prop where
  linkless : ∀ names target, fs.root.at? (out ++ names) ≠ some (.link target)
  outside : ∀ root ∈ roots, ∀ l, fs.locate? root = some l → ¬ l <+: out ∧ ¬ out <+: l
  /-- Only a link below a source root could lead from it into the directory. -/
  untargeted : ∀ root ∈ roots, ∀ node, fs.node? root = some node → ∀ names ∈ node.paths, ∀ l,
    fs.destination? (root ++ (⟨false, names⟩ : Path)) = some l → ¬ out <+: l

theorem Generator.file_namesEntry {g : Generator} {d : Descriptor} {files : List (Text × Text)}
    (h : g.artifacts d = .ok files) : ∀ file ∈ files, Path.NamesEntry file.1 := by
  intro file hf
  cases g with
  | descriptor =>
    obtain ⟨entries, -, -, rfl⟩ := descriptor_artifacts.1 h
    rw [List.mem_singleton.1 hf]
    exact (by decide : Path.NamesEntry descriptorFile)
  | help =>
    cases h
    rw [List.mem_singleton.1 hf]
    exact (by decide : Path.NamesEntry helpFile)
  | markdown =>
    cases h
    rcases List.mem_cons.1 hf with rfl | hf
    · exact (by decide : Path.NamesEntry "index.md")
    obtain ⟨t, -, rfl⟩ := List.mem_map.1 hf
    have size : (Markdown.page t).length = t.name.text.length + 8 := by
      rw [Markdown.page, List.length_append]
      rfl
    constructor
    · intro same
      have one := (congrArg List.length same).symm.trans size
      change 1 = _ + 8 at one
      omega
    · intro same
      have two := (congrArg List.length same).symm.trans size
      change 2 = _ + 8 at two
      omega

namespace FileSystem

variable {fs later : FileSystem} {roots : List Path} {directory : Path} {files : List (Text × Text)}
  {ws : List (Location × Bytes)} {out l : Location}

/-- What is written lies directly in the output directory. -/
theorem Trace.inside {result : FileSystem × Except WriteFault (List Path)}
    (trace : Trace directory fs files ws result) (named : ∀ file ∈ files, Path.NamesEntry file.1)
    (apart : ∀ out, fs.locate? directory = some out → fs.Apart roots out) :
    ∀ w ∈ ws, ∃ out name, fs.locate? directory = some out ∧ w.1 = out ++ [name] := by
  intro w hw
  obtain ⟨file, hf, led⟩ := trace.located w hw
  have linkless : ∀ out, fs.locate? directory = some out → ∀ target,
      fs.root.kind? (out ++ [file.1]) ≠ some (.link target) := by
    intro out located target there
    exact (apart out located).linkless [file.1] target (Node.kind?_eq_link.1 there)
  obtain ⟨out, located, same⟩ := destination?_below led (named file hf) linkless
  exact ⟨out, file.1, located, same⟩

/-- Sources are kept by what is written into a directory apart from them. -/
theorem Apart.kept {c : Conventions} (updates : fs.root.Updates ws later.root)
    (current : later.current = fs.current) (apart : ∀ w ∈ ws, ∃ out name,
      fs.Apart roots out ∧ w.1 = out ++ [name]) :
    Sources.Kept ⟨fs, roots, c⟩ later where
  grows := ⟨current, updates.grows⟩
  roots := by
    intro root hr l located
    refine updates.at?_eq fun w hw => ?_
    obtain ⟨out, name, apart, same⟩ := apart w hw
    obtain ⟨above, below⟩ := apart.outside root hr l located
    rw [same]
    refine ⟨fun inside => ?_, fun inside => below ((List.prefix_append _ _).trans inside)⟩
    rcases List.prefix_concat_iff.1 inside with rfl | inside
    · exact below (List.prefix_append _ _)
    · exact above inside
  files := by
    intro root hr node hnode names hnames
    rw [content?, content?, Grows.destination?_eq ⟨current, updates.grows⟩]
    cases led : fs.destination? (root ++ (⟨false, names⟩ : Path)) with
    | none => rfl
    | some l =>
      have unwritten : ∀ w ∈ ws, w.1 ≠ l := by
        intro w hw same
        obtain ⟨out, name, apart, there⟩ := apart w hw
        refine apart.untargeted root hr node hnode names hnames l led ?_
        rw [← same, there]
        exact List.prefix_append _ _
      have kind := updates.kind?_eq l
      rw [Node.latest?_eq_none unwritten] at kind
      exact Node.content?_congr kind

end FileSystem

namespace Pipeline

/-- A run whose files a second run of the same request leaves as they are. -/
structure Repeats (p : Pipeline) (fs : FileSystem) (q : RunRequest) : Prop where
  frame : ∀ l, (∀ path ∈ (p.run fs q).result.artifacts, (p.run fs q).fs.locate? path ≠ some l) →
    (p.run fs q).fs.root.kind? l = fs.root.kind? l
  returns : (p.run (p.run fs q).fs q).failure = none
  result : (p.run (p.run fs q).fs q).result = (p.run fs q).result
  files : ∀ l, (p.run (p.run fs q).fs q).fs.root.kind? l = (p.run fs q).fs.root.kind? l

variable {p : Pipeline} {fs later : FileSystem} {q : RunRequest} {g : Generator} {goalPrefix : GoalPrefix}
  {d : Descriptor} {files : List (Text × Text)} {ws : List (Location × Bytes)}

theorem repeats_of_unchanged (same : (p.run fs q).fs = fs) (returned : (p.run fs q).failure = none) :
    p.Repeats fs q where
  frame := by simp [same]
  returns := by rw [same, returned]
  result := by rw [same]
  files := by simp [same]

/-- What a run that returned wrote, and its result. -/
theorem written_of_returned (h : p.texts? fs q = some files) (returned : (p.run fs q).failure = none) :
    ∃ g goalPrefix d ws, p.prepared? fs q = some (g, goalPrefix, d) ∧ g.artifacts d = .ok files ∧
      FileSystem.Trace q.output fs files ws ((p.run fs q).fs, .ok (p.run fs q).result.artifacts) ∧
      (p.run fs q).result = { assembled goalPrefix d with
        state := .done, artifacts := files.map fun file => FileSystem.fileIn q.output file.1 } := by
  obtain ⟨⟨g, goalPrefix, d⟩, prepared, made⟩ := Option.bind_eq_some_iff.1 h
  have made := Outcome.toOption_eq_some.1 made
  obtain ⟨ws, trace⟩ := FileSystem.trace_writeTexts fs q.output files
  obtain ⟨filed, outcome⟩ := Generator.execute_of_texts fs q.output made
  cases written : (fs.writeTexts q.output files).2 with
  | error cause =>
    have failed := (run_of_unwritten prepared (outcome.trans (by rw [written]; rfl))).2
    cases returned.symm.trans failed
  | ok paths =>
    have run := run_of_written prepared (outcome.trans (by rw [written]; rfl))
    have all : FileSystem.Trace q.output fs files ws ((p.run fs q).fs, .ok paths) := by
      rw [run.files, filed, ← written]
      exact trace
    refine ⟨g, goalPrefix, d, ws, prepared, made, ?_, ?_⟩
    · rw [run.result]
      exact all
    · rw [run.result, all.all.1]

theorem prepared?_on {c : Conventions} (kept : Sources.Kept ⟨fs, q.project.sourceRoots, c⟩ later)
    (prepared : prepared? ⟨.standard, c⟩ fs q = some (g, goalPrefix, d)) :
    prepared? ⟨.standard, c⟩ later q = some (g, goalPrefix, d) := by
  obtain ⟨plugin, scanner, tasks, opened, scanned, built⟩ := prepared?_eq_some.1 prepared
  obtain ⟨-, chosen, -⟩ := opening_eq_ok.1 opened
  rw [chosen_eq] at chosen
  obtain ⟨selection, -, rfl⟩ := Outcome.map_eq_ok.1 chosen
  exact prepared?_eq_some.2 ⟨plugin, _, tasks, opened, kept.scan_ok scanned, built⟩

/-- Of a run with the standard extractors that returned, only the artifacts differ from what was there,
and running again changes nothing, if its output directory is apart from the sources. -/
theorem run_repeats (c : Conventions) (fs : FileSystem) (q : RunRequest)
    (apart : ∀ out, fs.locate? q.output = some out → fs.Apart q.project.sourceRoots out)
    (returned : (run ⟨.standard, c⟩ fs q).failure = none) : Repeats ⟨.standard, c⟩ fs q := by
  cases texts : texts? ⟨.standard, c⟩ fs q with
  | none => exact repeats_of_unchanged (files_of_textless texts) returned
  | some files =>
    obtain ⟨g, goalPrefix, d, ws, prepared, made, trace, result⟩ := written_of_returned texts returned
    have inside := trace.inside (Generator.file_namesEntry made) apart
    have kept : Sources.Kept ⟨fs, q.project.sourceRoots, c⟩ (run ⟨.standard, c⟩ fs q).fs := by
      refine FileSystem.Apart.kept trace.updates trace.current fun w hw => ?_
      obtain ⟨out, name, located, same⟩ := inside w hw
      exact ⟨out, name, apart out located, same⟩
    have prepared' := prepared?_on kept prepared
    obtain ⟨final, rewritten, updates⟩ := trace.again
    obtain ⟨filed, outcome⟩ := Generator.execute_of_texts (run ⟨.standard, c⟩ fs q).fs q.output made
    have second := run_of_written prepared' (outcome.trans (by rw [rewritten]; rfl))
    refine ⟨fun l unlisted => ?_, second.running, ?_, fun l => ?_⟩
    · have unwritten : ∀ w ∈ ws, w.1 ≠ l := by
        intro w hw same
        obtain ⟨file, hf, led⟩ := trace.located w hw
        obtain ⟨content, there⟩ := trace.updates.file_of_mem hw
        have led' := (trace.grows.destination?_eq _).trans led
        have located := FileSystem.locate?_of_destination led' (by rw [there]; exact Option.some_ne_none _)
        refine unlisted (FileSystem.fileIn q.output file.1) ?_ (located.trans (congrArg some same))
        rw [result]
        exact List.mem_map_of_mem hf
      rw [trace.updates.kind?_eq l, Node.latest?_eq_none unwritten]
      rfl
    · rw [second.result, result]
    · rw [second.files, filed, rewritten]
      exact trace.updates.again updates l

theorem goalClass_apart (out : Location) (located : goalClassFiles.locate? goalClassRequest.output = some out) :
    goalClassFiles.Apart goalClassRequest.project.sourceRoots out := by
  have there : goalClassFiles.locate? goalClassRequest.output = some (["out"] : List Text) := by decide +kernel
  have source : goalClassFiles.locate? ⟨true, ["src"]⟩ = some (["src"] : List Text) := by decide +kernel
  have module : goalClassFiles.destination? ⟨true, ["src", "a.py"]⟩ =
      some (["src", "a.py"] : List Text) := by
    decide +kernel
  cases there.symm.trans located
  refine ⟨fun names target linked => ?_, fun root hr l at? => ?_, fun root hr node hnode names hnames l led => ?_⟩
  · cases names with
    | nil => cases linked
    | cons name rest => cases linked
  · cases List.mem_singleton.1 hr
    cases source.symm.trans at?
    decide
  · cases List.mem_singleton.1 hr
    rw [FileSystem.node?, source] at hnode
    cases hnode
    cases List.mem_singleton.1 hnames
    cases module.symm.trans led
    decide

theorem goalClass_repeats :
    (run ⟨.standard, .default⟩ goalClassFiles goalClassRequest).result.artifacts.length = 2 ∧
      Repeats ⟨.standard, .default⟩ goalClassFiles goalClassRequest :=
  ⟨by decide +kernel, run_repeats .default goalClassFiles goalClassRequest goalClass_apart (by decide +kernel)⟩

end Pipeline

end TaskCatalog
