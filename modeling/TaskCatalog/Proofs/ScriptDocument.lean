import TaskCatalog.Proofs.DocumentFields
import TaskCatalog.Proofs.FileNames
import TaskCatalog.Proofs.Reload

/-!
A task's document as an entry of script metadata. Without the place of the task, with its parameters told
as read-only where they were editable and the other way round, and with a script to call, the entry comes
to the task it was made of.
-/

namespace TaskCatalog

open Text

namespace Value

/-- Data of texts, numbers, truth values and nothing, in sequences and under texts. -/
inductive Json : Value → Prop
  | null : Json .null
  | truth (b : Bool) : Json (.truth b)
  | whole (n : Int) : Json (.whole n)
  | real (x : Float) : Json (.real x)
  | text (t : Text) : Json (.text t)
  | list {vs : List Value} (items : ∀ v ∈ vs, Json v) : Json (.list vs)
  | tuple {vs : List Value} (items : ∀ v ∈ vs, Json v) : Json (.tuple vs)
  | map {es : List (Value × Value)} (keys : ∀ e ∈ es, ∃ k, e.1 = .text k) (values : ∀ e ∈ es, Json e.2) :
    Json (.map es)

theorem Json.thaw {v : Value} (json : v.Json) : v.thaw.Json := by
  induction json with
  | tuple items ih =>
    rw [Value.thaw, thawItems_eq]
    exact .list (List.forall_mem_map.2 ih)
  | map keys values ih =>
    rw [Value.thaw, thawEntries_eq]
    exact .map (List.forall_mem_map.2 keys) (List.forall_mem_map.2 ih)
  | list items _ => exact .list items
  | _ => constructor

theorem plainItems_ok {vs : List Value} (plain : ∀ v ∈ vs, ∃ p, v.plain = .ok p) : ∃ ps, plainItems vs = .ok ps := by
  induction vs with
  | nil => exact ⟨[], rfl⟩
  | cons v vs ih =>
    rw [List.forall_mem_cons] at plain
    obtain ⟨p, here⟩ := plain.1
    obtain ⟨ps, later⟩ := ih plain.2
    rw [plainItems, here, later]
    exact ⟨p :: ps, rfl⟩

theorem plainEntries_ok {es : List (Value × Value)} (keys : ∀ e ∈ es, ∃ k, e.1 = .text k)
    (plain : ∀ e ∈ es, ∃ p, e.2.plain = .ok p) (done : List (Text × Plain)) :
    ∃ entries, plainEntries es done = .ok entries := by
  induction es generalizing done with
  | nil => exact ⟨done, rfl⟩
  | cons e es ih =>
    obtain ⟨k, v⟩ := e
    rw [List.forall_mem_cons] at keys plain
    obtain ⟨key, rfl : k = .text key⟩ := keys.1
    obtain ⟨p, here⟩ := plain.1
    obtain ⟨entries, later⟩ := ih keys.2 plain.2 (Plain.setEntry key p done)
    refine ⟨entries, ?_⟩
    rw [plainEntries, here]
    exact later

theorem Json.plain {v : Value} (json : v.Json) : ∃ p, v.plain = .ok p := by
  induction json with
  | list items ih | tuple items ih =>
    obtain ⟨ps, plain⟩ := plainItems_ok ih
    exact ⟨.list ps, by rw [Value.plain, plain]; rfl⟩
  | map keys values ih =>
    obtain ⟨entries, plain⟩ := plainEntries_ok keys ih []
    exact ⟨.map entries, by rw [Value.plain, plain]; rfl⟩
  | _ => exact ⟨_, rfl⟩

end Value

namespace Plain

section

variable {fs : List (Text × Plain)}

end

end Plain

open Plain

namespace Parameter

end Parameter

namespace Task

end Task

namespace Record

variable {fs : List (Text × Plain)} {k : Text}

/-- A mapping whose keys are among those of one with one key for each field. -/
theorem OneKeyEach.compact {fields : List (List Text)} (keys : OneKeyEach (fs.map (·.1)) fields) :
    OneKeyEach (((Plain.compact fs).map fun e => (e.1, e.2.toValue)).map (·.1)) fields := by
  rw [List.map_map]
  have included : (Plain.compact fs).map (·.1) ⊆ fs.map (·.1) := Plain.keys_compact.subset
  exact ⟨fun key member => keys.allowed key (included member),
    fun names known a ha b hb => keys.once names known a (included ha) b (included hb)⟩

end Record

namespace Parameter

end Parameter

namespace Task

/-- What is read from the entry of a task. -/
def script (t : Task) (configuration : List (Text × Plain)) (call : Text) : ScriptTask where
  goal := t.name.text
  call := call
  description := t.description
  phase := t.phase
  requirements := t.requirements
  since := t.since
  deprecated := t.deprecated
  parameters := t.parameters.map fun p => p.declaration.script
  configuration := configuration.map fun e => (e.1, e.2.toValue)

variable (t : Task) (configuration : List (Text × Plain)) (call : Text)

end Task

namespace Plain

mutual

theorem toValue_isCyclic : (p : Plain) → p.toValue.isCyclic = false
  | .null | .truth _ | .whole _ | .real _ | .text _ => rfl
  | .list items => itemsToValues_areCyclic items
  | .map entries => entriesToValues_areCyclic entries

theorem itemsToValues_areCyclic : (ps : List Plain) → Value.areCyclic (itemsToValues ps) = false
  | [] => rfl
  | p :: ps => by
    rw [itemsToValues, Value.areCyclic, toValue_isCyclic p, itemsToValues_areCyclic ps]
    rfl

theorem entriesToValues_areCyclic : (es : List (Text × Plain)) → Value.entriesCyclic (entriesToValues es) = false
  | [] => rfl
  | (k, p) :: es => by
    rw [entriesToValues, Value.entriesCyclic, toValue_isCyclic p, entriesToValues_areCyclic es]
    rfl

end

end Plain

/-- A task as a script's: with the script for its place. -/
def Task.scripted (t : Task) (implementation : { t : Text // t ≠ [] }) : Task :=
  { t with implementation := implementation, language := some Scripts.strategy }

namespace Scripts

variable {t : Task} {configuration : List (Text × Plain)} {call : Text} {s : Sources} {root file : Path}

end Scripts

namespace ReportScript

/-- A source root with a metadata file and a script beside it. -/
def sources : Sources where
  fs := ⟨.directory [("src", .directory [("a.tasks.yaml", .file []), ("report.sh", .file [])])], []⟩
  roots := [⟨true, ["src"]⟩]
  conventions := .default

def sourceRoot : Path := ⟨true, ["src"]⟩

def metadata : Path := ⟨true, ["src", "a.tasks.yaml"]⟩

theorem name_valid : GoalName.fault? "report" = none := by decide

theorem place_ne_nil : ("a:Report" : Text) ≠ [] := by decide

theorem target_ne_nil : ("target" : Text) ≠ [] := by decide

def task : Task where
  name := ⟨"report", name_valid⟩
  implementation := ⟨"a:Report", place_ne_nil⟩
  description := some []
  parameters := [⟨⟨"target", target_ne_nil⟩, "path", true, false, none, some "$\x7btarget\x7d", none, some "1.0", none⟩]
  phase := some "site"
  requirements := { threadSafe := true }
  configuration := [("sizes", .tuple [.whole 3, .null, .map [(.text "deep", .truth false)]]), ("empty", .map [])]
  since := none
  deprecated := some "use site"
  language := some "decorator"
  distinct := by decide

end ReportScript

end TaskCatalog
