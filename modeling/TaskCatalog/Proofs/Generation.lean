import TaskCatalog.Proofs.Rerun
import TaskCatalog.Proofs.SourceShortcut
import TaskCatalog.Proofs.TaskOrder
import TaskCatalog.Proofs.WrittenValues

/-!
What comes of a generator. Either its files are there and hold its texts, or the failure names it; only
configuration that cannot be spelled out in a document makes other failures escape.
-/

namespace TaskCatalog

open Text Outcome

namespace Value

/-- A value that can be the key of an entry in a document. -/
inductive Key : Value → Prop
  | scalar {s : Scalar} (spellable : s ≠ .ellipsis) : Key (.scalar s)
  | tuple {items : List Value} (all : ∀ v ∈ items, Key v) : Key (.tuple items)

/-- A value that can be spelled out in a document, if its bytes are texts: there are no ellipses in it,
nor whole numbers of too many digits, nor itself. -/
inductive Spellable : Value → Prop
  | scalar {s : Scalar} (plain : s ≠ .ellipsis) (spelled : s.isSpelled = true) : Spellable (.scalar s)
  | tuple {items : List Value} (all : ∀ v ∈ items, Spellable v) : Spellable (.tuple items)
  | list {items : List Value} (all : ∀ v ∈ items, Spellable v) : Spellable (.list items)
  | set {items : List Value} (all : ∀ v ∈ items, Spellable v) : Spellable (.set items)
  | map {entries : List (Value × Value)} (keys : ∀ e ∈ entries, Key e.1) (all : ∀ e ∈ entries, Spellable e.2) :
    Spellable (.map entries)

end Value

section

open Yaml.Writing (areSpelled_iff entriesSpelled_iff)

namespace Value

variable {v : Value} {vs : List Value} {es : List (Value × Value)} {done : List (Text × Plain)}

theorem Spellable.thaw (spellable : Spellable v) : Spellable v.thaw := by
  induction spellable with
  | scalar plain spelled => exact .scalar plain spelled
  | tuple all ih =>
    rw [Value.thaw, thawItems_eq]
    exact .list (List.forall_mem_map.2 ih)
  | list all ih => exact .list all
  | set all ih => exact .set all
  | map keys all ih =>
    rw [Value.thaw, thawEntries_eq]
    exact .map (List.forall_mem_map.2 keys) (List.forall_mem_map.2 ih)

end Value

open Plain

namespace Plain

end Plain

end

namespace FileSystem

variable {fs : FileSystem} {directory : Path} {files : List (Text × Text)} {file : Text × Text} {cause : WriteFault}

/-- No link in the directory has the name of one of the texts. -/
def Unlinked (fs : FileSystem) (directory : Path) (files : List (Text × Text)) : Prop :=
  ∀ out, fs.locate? directory = some out → ∀ file ∈ files, ∀ target,
    fs.root.kind? (out ++ [file.1]) ≠ some (.link target)

theorem alone_of_unlinked {l : Location} (unlinked : fs.Unlinked directory files)
    (named : ∀ file ∈ files, Path.NamesEntry file.1) (distinct : (files.map (·.1)).Nodup) (member : file ∈ files)
    (led : fs.destination? (fileIn directory file.1) = some l) : fs.Alone directory files file := by
  have below {other : Text × Text} (ho : other ∈ files) (led : fs.destination? (fileIn directory other.1) = some l) :
      ∃ out, fs.locate? directory = some out ∧ l = out ++ [other.1] :=
    destination?_below led (named other ho) fun out located => unlinked out located other ho
  intro other ho same
  obtain ⟨out, located, rfl⟩ := below member led
  obtain ⟨out', located', at'⟩ := below ho (same.trans led)
  cases located.symm.trans located'
  exact List.inj_on_of_nodup_map distinct ho member (List.singleton_inj.1 (List.append_cancel_left at')).symm

end FileSystem

namespace Generator

variable {g : Generator} {d : Descriptor} {files : List (Text × Text)} {fault : PlainFault}

theorem files_distinct (h : g.artifacts d = .ok files) : (files.map (·.1)).Nodup := by
  cases g with
  | descriptor =>
    obtain ⟨entries, -, -, rfl⟩ := descriptor_artifacts.1 h
    exact List.nodup_singleton _
  | help =>
    cases h
    exact List.nodup_singleton _
  | markdown =>
    cases h
    have names : ((Markdown.sortedTasks d).map fun t => t.name.text).Nodup :=
      ((Markdown.sortedTasks_perm d).map _).nodup_iff.2 d.distinct
    have pages : ((Markdown.sortedTasks d).map Markdown.page).Nodup := by
      have shown : (Markdown.sortedTasks d).map Markdown.page =
          ((Markdown.sortedTasks d).map fun t => t.name.text).map fun name : Text => name ++ ("-task.md" : Text) := by
        rw [List.map_map]
        rfl
      rw [shown]
      exact names.map fun _ _ same => List.append_cancel_right same
    rw [Markdown.pages, List.map_cons, List.nodup_cons, List.map_map]
    refine ⟨fun overview => ?_, pages⟩
    -- the name of a page is longer than that of the overview, as no goal's name is empty
    obtain ⟨t, -, same⟩ := List.mem_map.1 overview
    have size := congrArg List.length same
    have filled := List.length_pos_iff.2 t.name.ne_nil
    change (t.name.text ++ _).length = 8 at size
    rw [List.length_append] at size
    change _ + 8 = 8 at size
    omega

end Generator

namespace Ellipsis

def module : List Char := "@task('build', configuration=\x7b'a': ...\x7d)\ndef build():\n    pass\n".toList

def sources : Sources where
  fs := ⟨.directory [("src", .directory [("a.py", .file (String.ofList module).toUTF8.toList)])], []⟩
  roots := [⟨true, ["src"]⟩]
  conventions := .default

theorem name_valid : GoalName.fault? "build" = none := by decide

/-- The task of the module. -/
def task : Task where
  name := ⟨"build", name_valid⟩
  implementation := ⟨"a:build", by decide⟩
  description := none
  parameters := []
  phase := none
  requirements := {}
  configuration := [("a", .ellipsis)]
  since := none
  deprecated := none
  language := some "decorator"
  distinct := List.nodup_nil

def root : Path := ⟨true, ["src"]⟩

def file : Path := ⟨true, ["src", "a.py"]⟩

theorem extracted : (Decorated.extract sources).result = .ok [task] := by
  have shown : ((Code.parse module).toOption.bind fun statements =>
      Decorated.tasksWithin 1 .default ⟨file, "a", statements⟩) = some [task] := by
    decide +kernel
  obtain ⟨statements, parsed, within⟩ := Option.bind_eq_some_iff.1 shown
  have files : sources.files [Module.suffix] = [(root, file)] := by decide +kernel
  have text : Sources.readText sources.fs sources.conventions.sourceEncoding file = .ok module :=
    toOption_eq_some.1 (by decide +kernel)
  have named : (moduleName? root file).getD [] = ("a" : Text) := by decide +kernel
  exact Decorated.extract_of_file files text (by decide +kernel) (toOption_eq_some.1 parsed) named
    (Decorated.tasksIn_of_within within)

end Ellipsis

end TaskCatalog
