import TaskCatalog.CommandLine.Session
import TaskCatalog.Proofs.Declarations
import TaskCatalog.Proofs.Forms
import TaskCatalog.Proofs.RunEnding
import TaskCatalog.Proofs.ScanOutcome

/-!
What the descriptor of a finished run with the standard extractors is like.
-/

namespace TaskCatalog

open Text

structure Task.WellFormed (c : Conventions) (active : List Extractor) (t : Task) : Prop where
  name : GoalName.Form t.name.text
  named : ∀ p ∈ t.parameters, p.name.val ≠ []
  distinct : (t.parameters.map fun p => p.name.val).Nodup
  phase : ∀ phase, t.phase = some phase → phase ∈ c.lifecyclePhases
  language : ∃ e ∈ active, t.language = some e.name
  expressions : ∀ p ∈ t.parameters, ∀ text, p.expression = some text → Expression.Form text

structure Descriptor.WellFormed (c : Conventions) (active : List Extractor) (d : Descriptor) : Prop where
  distinct : (d.tasks.map fun t => t.name.text).Nodup
  tasks : ∀ t ∈ d.tasks, t.WellFormed c active

theorem Registry.mem_of_mem_active {r : Registry} {selection : Selection} {e : Extractor}
    (h : e ∈ r.active selection) : e ∈ r := by
  cases selection with
  | none => exact h
  | some names => exact (List.mem_filter.1 h).1

theorem Registry.declared_of_standard {e : Extractor} (he : e ∈ standard) {s : Sources} {ts : List Task}
    (h : (e.extract s).result = .ok ts) : ∀ t ∈ ts, t.Declared s.conventions e.name := by
  simp only [standard, List.mem_cons, List.not_mem_nil, or_false] at he
  rcases he with rfl | rfl | rfl
  · exact Decorated.declared_of_extract (Sources.searched_eq_ok.1 h).2
  · exact Documented.declared_of_extract (Sources.searched_eq_ok.1 h).2
  · exact Scripts.declared_of_extract (Sources.searched_eq_ok.1 h).2

theorem Registry.eq_of_select {r : Registry} {selection selection' : Selection}
    (h : r.select selection = .ok selection') : selection' = selection := by
  unfold select at h
  split at h
  · cases h
    rfl
  · split at h
    · cases h
      rfl
    · cases h

theorem Builder.tasks_of_build? {b : Builder} {d : Descriptor} (h : b.build? = .ok d) :
    d.tasks = b.tasks := by
  unfold build? at h
  cases hm : missingFields b.identity with
  | cons field fields => simp [hm] at h
  | nil =>
    cases hp : GoalPrefix.fault? (b.goalPrefix.getD []) with
    | some fault => simp [hm, hp] at h
    | none =>
      simp only [hm, hp] at h
      split at h
      · cases h
        rfl
      · cases h

theorem Builder.tasks_of_build {b : Builder} {d : Descriptor} (h : b.build.result = .ok d) :
    d.tasks = b.tasks := by
  rw [build, Logged.result_bind] at h
  obtain ⟨d', hd, h⟩ := Outcome.bind_eq_ok.1 h
  cases h
  rw [Logged.result_ofExcept, Outcome.mapError_eq_ok] at hd
  exact tasks_of_build? hd

namespace Scan

variable {sources : Sources} {es : List Extractor} {found : List Found} {t : Task} {tasks : List Task}

theorem Returned.exists_extractor (h : Returned sources es found) (ht : t ∈ found.map (·.task)) :
    ∃ e ∈ es, ∃ tasks, (e.extract sources).result = .ok tasks ∧ t ∈ tasks := by
  induction h with
  | nil => simp at ht
  | @cons e es tasks found he returned ih =>
    rw [List.map_append, map_task_tagged] at ht
    rcases List.mem_append.1 ht with ht | ht
    · exact ⟨e, by simp, tasks, he, ht⟩
    · obtain ⟨e', he', found⟩ := ih ht
      exact ⟨e', by simp [he'], found⟩

theorem passes_of_scan (h : (scan es sources).result = .ok tasks) (ht : t ∈ tasks) :
    (∃ e ∈ es, ∃ given, (e.extract sources).result = .ok given ∧ t ∈ given) ∧
      ∀ p ∈ t.parameters, p.Passes := by
  have ends := ends_scan sources es
  rw [h] at ends
  generalize called sources [] es = names at ends
  cases ends with
  | returned returned distinct pass =>
    refine ⟨returned.exists_extractor ht, ?_⟩
    intro p hp
    exact pass (t, p) (List.mem_flatMap.2 ⟨t, ht, List.mem_map_of_mem hp⟩)

end Scan

namespace Pipeline

variable {p : Pipeline} {fs : FileSystem} {q : RunRequest} {d : Descriptor} {scanner : Scanner}

theorem activeExtractors_of_chosen (h : p.chosen q = .ok scanner) :
    scanner.activeExtractors = p.registry.active q.options.extractors := by
  rw [chosen_eq] at h
  obtain ⟨selection, hselection, rfl⟩ := Outcome.map_eq_ok.1 h
  rw [Outcome.mapError_eq_ok] at hselection
  rw [Registry.eq_of_select hselection]
  rfl

theorem scan_of_stages (h : p.stages fs q = .ok d) :
    (scan (p.registry.active q.options.extractors) (p.sources fs q)).result = .ok d.tasks := by
  obtain ⟨⟨g, scanner, goalPrefix⟩, hopening, h⟩ := Outcome.bind_eq_ok.1 h
  obtain ⟨tasks, hscan, h⟩ := Outcome.bind_eq_ok.1 h
  obtain ⟨d', hd, h⟩ := Outcome.bind_eq_ok.1 h
  obtain ⟨_, -, h⟩ := Outcome.bind_eq_ok.1 h
  cases h
  rw [Outcome.mapError_eq_ok] at hscan hd
  have hactive := activeExtractors_of_chosen (opening_eq_ok.1 hopening).2.1
  have htasks : d.tasks = tasks := by
    rw [Builder.tasks_of_build hd]
    rfl
  rw [htasks, ← hactive]
  exact hscan

theorem descriptor_wellFormed (c : Conventions) (fs : FileSystem) (q : RunRequest)
    (returned : (run ⟨.standard, c⟩ fs q).failure = none)
    (unskipped : (run ⟨.standard, c⟩ fs q).result.skipped = false) :
    ∃ d, (run ⟨.standard, c⟩ fs q).result.descriptor = some d ∧
      d.WellFormed c (Registry.standard.active q.options.extractors) := by
  obtain ⟨e, ends⟩ := run_ended ⟨.standard, c⟩ fs q
  cases e with
  | skipped =>
    rw [ends.skipped] at unskipped
    cases unskipped
  | failed stage f =>
    rw [ends.failure] at returned
    cases returned
  | finished d =>
    refine ⟨d, ends.descriptor, d.distinct, ?_⟩
    intro t ht
    obtain ⟨⟨e, he, given, hgiven, htask⟩, pass⟩ := Scan.passes_of_scan (scan_of_stages ends.stages) ht
    have declared := Registry.declared_of_standard (Registry.mem_of_mem_active he) hgiven t htask
    exact {
      name := t.name.form
      named := fun p _ => p.name.property
      distinct := t.distinct
      phase := declared.phase
      language := ⟨e, he, declared.language⟩
      expressions := by
        intro p hp text stated
        have := pass p hp
        rw [Parameter.Passes, stated] at this
        exact Expression.form_of_fault? this }

def goalClass : String := "class A:\n '@goal a'\n b = c\n '@parameter expression=\"$\x7bd\x7d\"'\n"

def goalClassFiles : FileSystem :=
  ⟨.directory [("src", .directory [("a.py", .file goalClass.toUTF8.toList)]), ("out", .directory [])], []⟩

def goalClassRequest : RunRequest where
  project := ⟨Project.pluginPackaging, some "g", some "a-maven-plugin", some "1", some "A", none, [],
    [⟨true, ["src"]⟩], ⟨true, []⟩⟩
  output := ⟨true, ["out"]⟩
  options := .default
  kind := "markdown"

theorem goalClass_wellFormed :
    ∃ d, (run ⟨.standard, .default⟩ goalClassFiles goalClassRequest).result.descriptor = some d ∧
      d.taskNames = ["a"] ∧ d.WellFormed .default (Registry.standard.active none) := by
  have h : (run ⟨.standard, .default⟩ goalClassFiles goalClassRequest).failure = none ∧
      (run ⟨.standard, .default⟩ goalClassFiles goalClassRequest).result.skipped = false ∧
      (run ⟨.standard, .default⟩ goalClassFiles goalClassRequest).result.taskNames = ["a"] := by
    decide +kernel
  obtain ⟨returned, unskipped, names⟩ := h
  obtain ⟨d, hd, wellFormed⟩ :=
    descriptor_wellFormed .default goalClassFiles goalClassRequest returned unskipped
  refine ⟨d, hd, ?_, wellFormed⟩
  rw [RunResult.taskNames, hd] at names
  exact names

end Pipeline

end TaskCatalog
