import TaskCatalog.Proofs.SourceFrame

/-!
Names of files are proper texts: not empty, and without lone halves. In a file system that holds only such
names, a path that is there resolves to such names, whatever links it takes.
-/

namespace TaskCatalog

open Text

/-- A text that can name a file. -/
def FileSystem.Names (t : Text) : Prop := t ≠ [] ∧ isName t = true

instance (t : Text) : Decidable (FileSystem.Names t) := inferInstanceAs (Decidable (_ ∧ _))

namespace Node

mutual

/-- Whether all names in a tree are names of files. -/
def isNamed : Node → Bool
  | .file _ | .link _ => true
  | .directory entries => areNamed entries

def areNamed : List (Text × Node) → Bool
  | [] => true
  | (name, node) :: rest => decide (FileSystem.Names name) && isNamed node && areNamed rest

end

mutual

/-- Whether all names in a tree pass a test. -/
def allNames (test : Text → Bool) : Node → Bool
  | .file _ | .link _ => true
  | .directory entries => allEntries test entries

def allEntries (test : Text → Bool) : List (Text × Node) → Bool
  | [] => true
  | (name, node) :: rest => test name && allNames test node && allEntries test rest

end

mutual

theorem isNamed_eq : ∀ node : Node, node.isNamed = node.allNames fun t => decide (FileSystem.Names t)
  | .file _ | .link _ => rfl
  | .directory entries => areNamed_eq entries

theorem areNamed_eq : ∀ entries : List (Text × Node),
    areNamed entries = allEntries (fun t => decide (FileSystem.Names t)) entries
  | [] => rfl
  | (name, node) :: rest => by rw [areNamed, allEntries, isNamed_eq node, areNamed_eq rest]

end

variable {root node : Node} {name : Text} {entries : List (Text × Node)} {l : Location} {test : Text → Bool}

theorem passes_of_entry? (passes : allEntries test entries = true) (found : entry? name entries = some node) :
    test name = true ∧ node.allNames test = true := by
  induction entries with
  | nil => cases found
  | cons entry entries ih =>
    obtain ⟨other, child⟩ := entry
    rw [allEntries, Bool.and_eq_true, Bool.and_eq_true] at passes
    unfold entry? at found
    split at found
    · rename_i same
      cases found
      exact same ▸ passes.1
    · exact ih passes.2 found

theorem passes_of_at? (passes : root.allNames test = true) (there : root.at? l = some node) :
    ∀ name ∈ l, test name = true := by
  induction l generalizing root with
  | nil => exact List.forall_mem_nil _
  | cons name rest ih =>
    cases root with
    | file content => cases there
    | link target => cases there
    | directory entries =>
      rw [at?_directory] at there
      obtain ⟨child, found, there⟩ := Option.bind_eq_some_iff.1 there
      obtain ⟨here, below⟩ := passes_of_entry? passes found
      exact List.forall_mem_cons.2 ⟨here, ih below there⟩

end Node

namespace FileSystem

variable {fs : FileSystem} {p : Path} {l : Location}

theorem exists_of_isFile (there : fs.isFile p = true) (located : fs.locate? p = some l) :
    ∃ content, fs.root.at? l = some (.file content) := by
  rw [isFile_eq, Bool.and_eq_true, content?_eq_locate, located, Option.bind_some] at there
  obtain ⟨content, found⟩ := Option.isSome_iff_exists.1 there.2
  exact ⟨content, Node.kind?_eq_file.1 (Node.content?_eq_some.1 found)⟩

theorem Names.whole {t : Text} (named : Names t) : t.any Letter.isHalf = false := by
  rw [List.any_eq_false]
  intro letter member
  have satisfied := List.all_eq_true.1 named.2 letter member
  cases letter with
  | scalar c => simp [Letter.isHalf]
  | half h => simp [Letter.satisfies] at satisfied

end FileSystem

namespace Path

end Path

end TaskCatalog
