import TaskCatalog.Artifact.Generator
import TaskCatalog.Proofs.TextOrder

/-!
Descriptors with the same tasks in different orders. The tasks in ascending order of their names are the same, so that
the pages for readers and the help module do not tell in which order the tasks were found.
-/

namespace TaskCatalog

open Text

/-- The same plugin, with its tasks in another order. -/
structure Descriptor.Reordered (d d' : Descriptor) : Prop where
  groupId : d'.groupId = d.groupId
  artifactId : d'.artifactId = d.artifactId
  version : d'.version = d.version
  name : d'.name = d.name
  description : d'.description = d.description
  goalPrefix : d'.goalPrefix = d.goalPrefix
  dependencies : d'.dependencies = d.dependencies
  tasks : d'.tasks.Perm d.tasks

namespace Markdown

theorem sortedTasks_perm (d : Descriptor) : (sortedTasks d).Perm d.tasks := List.mergeSort_perm _ _

theorem pairwise_sortedTasks (d : Descriptor) : (sortedTasks d).Pairwise fun a b => a.name.text ≤ b.name.text :=
  pairwise_mergeSort (fun t : Task => t.name.text) d.tasks

end Markdown

theorem HelpModule.goalData_eq (d : Descriptor) :
    goalData d = .map ((Markdown.sortedTasks d).map fun t => (.text t.name.text, taskData t)) := rfl

namespace Descriptor

variable {d d' : Descriptor} {a b : Task}

theorem eq_of_name (ha : a ∈ d.tasks) (hb : b ∈ d.tasks) (same : a.name.text = b.name.text) : a = b :=
  List.inj_on_of_nodup_map d.distinct ha hb same

namespace Reordered

theorem sortedTasks_eq (h : d.Reordered d') : Markdown.sortedTasks d' = Markdown.sortedTasks d := by
  have permuted : (Markdown.sortedTasks d').Perm (Markdown.sortedTasks d) :=
    ((Markdown.sortedTasks_perm d').trans h.tasks).trans (Markdown.sortedTasks_perm d).symm
  refine permuted.eq_of_pairwise (fun a b ha hb hab hba => ?_) (Markdown.pairwise_sortedTasks d')
    (Markdown.pairwise_sortedTasks d)
  -- names are distinct, so that the order by names leaves no choice
  have ha := h.tasks.mem_iff.1 ((Markdown.sortedTasks_perm d').mem_iff.1 ha)
  have hb := (Markdown.sortedTasks_perm d).mem_iff.1 hb
  exact eq_of_name ha hb (List.le_antisymm hab hba)

theorem coordinates_eq (h : d.Reordered d') : d'.coordinates = d.coordinates := by
  rw [coordinates, coordinates, h.groupId, h.artifactId, h.version]

theorem qualifiedGoal_eq (h : d.Reordered d') (name : Text) : d'.qualifiedGoal name = d.qualifiedGoal name := by
  rw [qualifiedGoal, qualifiedGoal, h.goalPrefix]

theorem overviewRow_eq (h : d.Reordered d') : Markdown.overviewRow d' = Markdown.overviewRow d := by
  funext t
  rw [Markdown.overviewRow, Markdown.overviewRow, h.qualifiedGoal_eq]

theorem overview_eq (h : d.Reordered d') : Markdown.overview d' = Markdown.overview d := by
  have rows : Markdown.overviewTable d' = Markdown.overviewTable d := by
    have empty : d'.tasks.isEmpty = d.tasks.isEmpty := by
      rw [Bool.eq_iff_iff, List.isEmpty_iff, List.isEmpty_iff, ← List.length_eq_zero_iff, h.tasks.length_eq,
        List.length_eq_zero_iff]
    rw [Markdown.overviewTable, Markdown.overviewTable, empty, h.sortedTasks_eq, h.overviewRow_eq]
  rw [Markdown.overview, Markdown.overview, h.name, h.description, h.coordinates_eq, h.goalPrefix, rows, h.dependencies]

theorem taskPage_eq (h : d.Reordered d') (t : Task) : Markdown.taskPage d' t = Markdown.taskPage d t := by
  rw [Markdown.taskPage, Markdown.taskPage, h.qualifiedGoal_eq, h.coordinates_eq]

theorem pages_eq (h : d.Reordered d') : Markdown.pages d' = Markdown.pages d := by
  have pages := funext fun t => congrArg (Prod.mk (Markdown.page t)) (h.taskPage_eq t)
  rw [Markdown.pages, Markdown.pages, h.overview_eq, h.sortedTasks_eq, pages]

theorem helpText_eq (h : d.Reordered d') : HelpModule.text d' = HelpModule.text d := by
  have plugin : HelpModule.pluginData d' = HelpModule.pluginData d := by
    rw [HelpModule.pluginData, HelpModule.pluginData, h.coordinates_eq, h.goalPrefix, h.name]
  have goals : HelpModule.goalData d' = HelpModule.goalData d := by
    rw [HelpModule.goalData_eq, HelpModule.goalData_eq, h.sortedTasks_eq]
  rw [HelpModule.text, HelpModule.text, h.name, plugin, goals]

end Reordered

end Descriptor

/-- Whatever is in the directory, the pages and the help module are written, or fail to be, as if the tasks had been
found in the other order. -/
theorem Generator.execute_reordered {d d' : Descriptor} (h : d.Reordered d') (fs : FileSystem) (directory : Path) :
    markdown.execute fs directory d' = markdown.execute fs directory d ∧
      help.execute fs directory d' = help.execute fs directory d := by
  have pages : markdown.artifacts d' = markdown.artifacts d := congrArg Except.ok h.pages_eq
  have module : help.artifacts d' = help.artifacts d := congrArg (fun t => Except.ok [(helpFile, t)]) h.helpText_eq
  exact ⟨by rw [execute, execute, pages], by rw [execute, execute, module]⟩

namespace TwoGoals

def build : Task where
  name := ⟨"build", by decide⟩
  implementation := ⟨"a:Build", by decide⟩
  description := some "Builds."
  parameters := []
  phase := none
  requirements := {}
  configuration := []
  since := none
  deprecated := none
  language := some "decorator"
  distinct := List.nodup_nil

def clean : Task where
  name := ⟨"clean", by decide⟩
  implementation := ⟨"clean.sh", by decide⟩
  description := none
  parameters := []
  phase := some "clean"
  requirements := {}
  configuration := []
  since := none
  deprecated := none
  language := some "script"
  distinct := List.nodup_nil

def descriptor (tasks : List Task) (distinct : (tasks.map fun t => t.name.text).Nodup) : Descriptor where
  groupId := "org.example"
  artifactId := "two-maven-plugin"
  version := "1.0"
  name := "Two"
  description := none
  goalPrefix := "two"
  dependencies := []
  tasks := tasks
  distinct := distinct

def ascending : Descriptor := descriptor [build, clean] (by decide)

def descending : Descriptor := descriptor [clean, build] (by decide)

theorem reordered_of_perm {ts us : List Task} (distinct : (ts.map fun t => t.name.text).Nodup)
    (distinct' : (us.map fun t => t.name.text).Nodup) (permuted : us.Perm ts) :
    (descriptor ts distinct).Reordered (descriptor us distinct') where
  groupId := rfl
  artifactId := rfl
  version := rfl
  name := rfl
  description := rfl
  goalPrefix := rfl
  dependencies := rfl
  tasks := permuted

theorem reordered : ascending.Reordered descending := reordered_of_perm _ _ (.swap build clean [])

/-- A directory with a page that is there before. -/
def files : FileSystem :=
  ⟨.directory [("out", .directory [("build-task.md", .file "before".toUTF8.toList)])], []⟩

theorem written_alike : ascending.taskNames ≠ descending.taskNames ∧ ascending.Reordered descending ∧
    Generator.markdown.execute files ⟨false, ["out"]⟩ descending =
      Generator.markdown.execute files ⟨false, ["out"]⟩ ascending ∧
    Generator.help.execute files ⟨false, ["out"]⟩ descending =
      Generator.help.execute files ⟨false, ["out"]⟩ ascending :=
  ⟨by decide, reordered, Generator.execute_reordered reordered files ⟨false, ["out"]⟩⟩

end TwoGoals

end TaskCatalog
