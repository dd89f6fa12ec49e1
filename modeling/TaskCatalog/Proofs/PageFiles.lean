import TaskCatalog.Proofs.Generation
import TaskCatalog.Proofs.TableRows

/-!
The pages as files. Each goal name is the beginning of a file's name that leads nowhere but to a file in the output
directory, and distinct goals have distinct pages, so that all of them stand beside the overview and nothing else is
touched.
-/

namespace TaskCatalog

open Text

/-- A name that stands for a file directly in whichever directory it is looked for. -/
structure Path.IsChildName (name : Text) : Prop where
  single : ofText name = ⟨false, [name]⟩
  inside : name ≠ dotDot
  usable : FileSystem.isName name = true

namespace Markdown

def overviewFile : Text := "index.md"

/-- Where the link leads that has a goal as its text and stands first in a row: what is in the parentheses behind it. -/
def linkTarget? (goal row : Text) : Option Text :=
  let front : Text := "| [" ++ goal ++ "]("
  if front.isPrefixOf row then some ((row.drop front.length).takeWhile (· ≠ .scalar ')')) else none

def pageNames (d : Descriptor) : List Text := overviewFile :: (sortedTasks d).map page

variable {d : Descriptor} {t : Task}

theorem letters_of_goalName (n : GoalName) {l : Letter} (hl : l ∈ n.text) :
    l ≠ .scalar '/' ∧ l ≠ .scalar ')' ∧ l ≠ .scalar '\x00' ∧ ∃ c, l = .scalar c := by
  obtain ⟨c, rfl, part⟩ := n.form.parts l hl
  refine ⟨?_, ?_, ?_, c, rfl⟩ <;> rintro ⟨rfl⟩ <;> revert part <;> decide

theorem isChildName_of_letters {name : Text} (long : 2 < name.length)
    (letters : ∀ l ∈ name, l ≠ .scalar '/' ∧ l ≠ .scalar '\x00' ∧ ∃ c, l = .scalar c) : Path.IsChildName name := by
  have unparted : Letter.scalar '/' ∉ name := fun member => (letters _ member).1 rfl
  refine ⟨?_, ?_, ?_⟩
  · have filled : name.isEmpty = false := by
      cases name with
      | nil => simp at long
      | cons => rfl
    have apart : (name != Path.dot) = true := by
      rw [bne_iff_ne]
      rintro rfl
      revert long
      decide
    have relative : name.head? ≠ some (.scalar '/') := fun first => unparted (List.mem_of_mem_head? first)
    rw [Path.ofText, Path.partsOf, splitOn_of_not_mem unparted]
    simp [filled, apart, relative]
  · rintro rfl
    revert long
    decide
  · rw [FileSystem.isName, List.all_eq_true]
    intro l hl
    obtain ⟨-, stated, c, rfl⟩ := letters l hl
    simpa using fun same : c = '\x00' => stated (congrArg Letter.scalar same)

theorem isChildName_page (t : Task) : Path.IsChildName (page t) := by
  refine isChildName_of_letters ?_ fun l hl => ?_
  · have size : (page t).length = t.name.text.length + 8 := by
      rw [page, List.length_append]
      rfl
    omega
  · rcases List.mem_append.1 hl with hl | hl
    · obtain ⟨slash, -, null, character⟩ := letters_of_goalName t.name hl
      exact ⟨slash, null, character⟩
    · have suffix : ∀ l ∈ ("-task.md" : Text), l ≠ .scalar '/' ∧ l ≠ .scalar '\x00' ∧ l.isHalf = false := by decide
      obtain ⟨slash, null, whole⟩ := suffix l hl
      refine ⟨slash, null, ?_⟩
      cases l with
      | scalar c => exact ⟨c, rfl⟩
      | half n => cases whole

theorem isChildName_overview : Path.IsChildName overviewFile :=
  ⟨by decide, by decide, by decide⟩

theorem linkTarget?_overviewRow (d : Descriptor) (t : Task) :
    linkTarget? (d.qualifiedGoal t.name.text) (overviewRow d t) = some (page t) := by
  -- no letter of a goal's name closes the parentheses early
  have unclosed : ∀ l ∈ page t, decide (l ≠ .scalar ')') = true := by
    intro l hl
    rcases List.mem_append.1 hl with hl | hl
    · exact decide_eq_true (letters_of_goalName t.name hl).2.1
    · exact (by decide : ∀ l ∈ ("-task.md" : Text), decide (l ≠ .scalar ')') = true) l hl
  have closing : (") | " : Text) = .scalar ')' :: (" | " : Text) := by decide
  have row : overviewRow d t = ("| [" ++ d.qualifiedGoal t.name.text ++ "](" : Text) ++
      (page t ++ .scalar ')' :: ((" | " : Text) ++ cellOr noDescription t.description ++ (" |" : Text))) := by
    simp only [overviewRow, closing, List.append_assoc, List.cons_append]
  rw [linkTarget?, row, if_pos (List.isPrefixOf_iff_prefix.2 (List.prefix_append _ _)), List.drop_left,
    List.takeWhile_append_of_pos unclosed, List.takeWhile_cons_of_neg (by decide), List.append_nil]

theorem ascending_sortedTasks (d : Descriptor) : (sortedTasks d).Pairwise fun a b => a.name.text < b.name.text := by
  have distinct : ((sortedTasks d).map fun t => t.name.text).Nodup :=
    ((sortedTasks_perm d).map _).nodup_iff.2 d.distinct
  refine ((pairwise_sortedTasks d).and (List.pairwise_map.1 distinct)).imp fun ordered => ?_
  exact (List.le_iff_lt_or_eq.1 ordered.1).resolve_right ordered.2

theorem pages_names (d : Descriptor) : (pages d).map Prod.fst = pageNames d := by
  rw [pages, List.map_cons, List.map_map]
  rfl

theorem isChildName_of_mem {file : Text × Text} (member : file ∈ pages d) : Path.IsChildName file.1 := by
  rcases List.mem_cons.1 member with rfl | member
  · exact isChildName_overview
  · obtain ⟨t, -, rfl⟩ := List.mem_map.1 member
    exact isChildName_page t

theorem drop_overviewTable (d : Descriptor) : (overviewTable d).drop 2 = (sortedTasks d).map (overviewRow d) := by
  rw [overviewTable]
  split
  · next none =>
    have empty : sortedTasks d = [] := (List.isEmpty_iff.1 none ▸ sortedTasks_perm d).eq_nil
    rw [empty]
    rfl
  · rfl

end Markdown

namespace FileSystem

variable {fs later : FileSystem} {directory : Path} {files : List (Text × Text)} {paths : List Path}

theorem paths_of_written (h : fs.writeTexts directory files = (later, .ok paths)) :
    paths = files.map fun file => fileIn directory file.1 := by
  obtain ⟨ws, trace⟩ := trace_writeTexts fs directory files
  rw [h] at trace
  exact trace.all.1

theorem holds_of_unlinked (h : fs.writeTexts directory files = (later, .ok paths))
    (unlinked : fs.Unlinked directory files) (named : ∀ file ∈ files, Path.NamesEntry file.1)
    (distinct : (files.map (·.1)).Nodup) : ∀ file ∈ files, later.Holds directory file := by
  intro file member
  obtain ⟨ws, trace⟩ := trace_writeTexts fs directory files
  rw [h] at trace
  obtain ⟨w, -, lands⟩ := (lands_of_mem trace.all.2).1 file member
  exact holds_of_written h member (alone_of_unlinked unlinked named distinct member lands.led)

theorem located_of_written (h : fs.writeTexts directory files = (later, .ok paths))
    (unlinked : fs.Unlinked directory files) (named : ∀ file ∈ files, Path.NamesEntry file.1) :
    ∀ file ∈ files, ∃ out, fs.locate? directory = some out ∧
      later.locate? (fileIn directory file.1) = some (out ++ [file.1]) := by
  intro file member
  obtain ⟨ws, trace⟩ := trace_writeTexts fs directory files
  rw [h] at trace
  obtain ⟨-, placed⟩ := trace.all
  obtain ⟨w, hw, lands⟩ := (lands_of_mem placed).1 file member
  obtain ⟨out, located, same⟩ :=
    destination?_below lands.led (named file member) fun out located => unlinked out located file member
  obtain ⟨content, there⟩ := trace.updates.file_of_mem hw
  refine ⟨out, located, ?_⟩
  rw [← same]
  exact locate?_of_destination ((trace.grows.destination?_eq _).trans lands.led)
    (by rw [there]; exact Option.some_ne_none _)

theorem kept_of_written {l : Location} (h : fs.writeTexts directory files = (later, .ok paths))
    (unlisted : ∀ path ∈ paths, later.locate? path ≠ some l) : later.root.kind? l = fs.root.kind? l := by
  obtain ⟨ws, trace⟩ := trace_writeTexts fs directory files
  rw [h] at trace
  obtain ⟨rfl, placed⟩ := trace.all
  have unwritten : ∀ w ∈ ws, w.1 ≠ l := by
    rintro w hw rfl
    obtain ⟨file, member, lands⟩ := (lands_of_mem placed).2 w hw
    obtain ⟨content, there⟩ := trace.updates.file_of_mem hw
    refine unlisted (fileIn directory file.1) (List.mem_map_of_mem member) ?_
    exact locate?_of_destination ((trace.grows.destination?_eq _).trans lands.led)
      (by rw [there]; exact Option.some_ne_none _)
  rw [trace.updates.kind?_eq, Node.latest?_eq_none unwritten]
  rfl

end FileSystem

open FileSystem Markdown

/-- A directory after the overview and the pages of a descriptor were written there. -/
structure Markdown.PagesWritten (fs later : FileSystem) (directory : Path) (d : Descriptor) (paths : List Path) :
    Prop where
  tasks : (sortedTasks d).Perm d.tasks
  ascending : (sortedTasks d).Pairwise fun a b => a.name.text < b.name.text
  listed : paths = fileIn directory overviewFile :: (sortedTasks d).map fun t => fileIn directory (page t)
  distinct : paths.Nodup
  /-- No name of a page leads out of a directory, or deeper into it. -/
  children : ∀ path ∈ paths, ∃ name, Path.IsChildName name ∧ path = directory ++ Path.ofText name
  /-- The files are there, in the directory itself, and no two paths lead to one file. -/
  located : ∃ out, fs.locate? directory = some out ∧
    paths.map later.locate? = (pageNames d).map fun name => some (out ++ [name])
  apart : (paths.map later.locate?).Nodup
  rows : (overviewTable d).drop 2 = (sortedTasks d).map (overviewRow d)
  links : ∀ t ∈ d.tasks, ∃ target, linkTarget? (d.qualifiedGoal t.name.text) (overviewRow d t) = some target ∧
    target = page t ∧ fileIn directory target ∈ paths
  overview : later.Holds directory (overviewFile, overview d)
  pages : ∀ t ∈ d.tasks, later.Holds directory (page t, taskPage d t)
  frame : ∀ l, (∀ path ∈ paths, later.locate? path ≠ some l) → later.root.kind? l = fs.root.kind? l

theorem Generator.pages_written (fs : FileSystem) (directory : Path) (d : Descriptor) (paths : List Path)
    (unlinked : fs.Unlinked directory (pages d))
    (written : (markdown.execute fs directory d).outcome.result = .ok paths) :
    PagesWritten fs (markdown.execute fs directory d).fs directory d paths := by
  have made : markdown.artifacts d = .ok (pages d) := rfl
  obtain ⟨filed, outcome⟩ := execute_of_texts fs directory made
  rw [outcome, Outcome.mapError_eq_ok] at written
  have finished : fs.writeTexts directory (pages d) = ((markdown.execute fs directory d).fs, .ok paths) :=
    Prod.ext filed.symm written
  generalize (markdown.execute fs directory d).fs = later at finished
  have named := file_namesEntry made
  have distinct := files_distinct made
  have listed := paths_of_written finished
  have holds := holds_of_unlinked finished unlinked named distinct
  have located := located_of_written finished unlinked named
  obtain ⟨out, there, -⟩ := located (overviewFile, overview d) List.mem_cons_self
  have places : paths.map later.locate? = (pageNames d).map fun name => some (out ++ [name]) := by
    rw [listed, ← pages_names, List.map_map, List.map_map]
    refine List.map_congr_left fun file member => ?_
    obtain ⟨out', there', place⟩ := located file member
    cases there.symm.trans there'
    exact place
  have apart : (paths.map later.locate?).Nodup := by
    rw [places, ← pages_names]
    exact distinct.map fun a b same => by simpa using same
  have member {t : Task} (ht : t ∈ d.tasks) : (page t, taskPage d t) ∈ pages d :=
    List.mem_cons_of_mem _ (List.mem_map_of_mem ((sortedTasks_perm d).mem_iff.2 ht))
  exact {
    tasks := sortedTasks_perm d
    ascending := ascending_sortedTasks d
    listed := by rw [listed, pages, List.map_cons, List.map_map]; rfl
    distinct := .of_map _ apart
    children := by
      rw [listed, List.forall_mem_map]
      intro file hf
      have child := isChildName_of_mem hf
      exact ⟨file.1, child, by rw [child.single]; rfl⟩
    located := ⟨out, there, places⟩
    apart := apart
    rows := drop_overviewTable d
    links := fun t ht => ⟨page t, linkTarget?_overviewRow d t, rfl, by
      rw [listed]
      exact List.mem_map.2 ⟨_, member ht, rfl⟩⟩
    overview := holds _ List.mem_cons_self
    pages := fun t ht => holds _ (member ht)
    frame := fun l => kept_of_written finished }

namespace TwoGoals

theorem sortedTasks_descending : sortedTasks descending = [build, clean] :=
  reordered.sortedTasks_eq.trans (List.mergeSort_of_pairwise (by decide))

def listed : List Path :=
  [⟨false, ["out", "index.md"]⟩, ⟨false, ["out", "build-task.md"]⟩, ⟨false, ["out", "clean-task.md"]⟩]

/-- The page that is there before is written anew, and the overview and the other page are put beside it. -/
theorem pages_beside : files.Unlinked ⟨false, ["out"]⟩ (pages descending) ∧
    (Generator.markdown.execute files ⟨false, ["out"]⟩ descending).outcome.result = .ok listed ∧
    PagesWritten files (Generator.markdown.execute files ⟨false, ["out"]⟩ descending).fs ⟨false, ["out"]⟩ descending
      listed := by
  have unlinked : files.Unlinked ⟨false, ["out"]⟩ (pages descending) := by
    intro out located file member target linked
    have there : files.locate? ⟨false, ["out"]⟩ = some (["out"] : List Text) := by decide +kernel
    have linkless : ∀ name ∈ pageNames descending,
        (files.root.at? ["out", name]).all (fun | .link _ => false | _ => true) = true := by
      rw [pageNames, sortedTasks_descending]
      decide +kernel
    cases located.symm.trans there
    obtain ⟨node, found, link⟩ := Option.map_eq_some_iff.1 linked
    have plain := linkless file.1 (pages_names descending ▸ List.mem_map_of_mem member)
    rw [show files.root.at? ["out", file.1] = some node from found] at plain
    cases node with
    | file | directory => cases link
    | link => cases plain
  have texts : (files.writeTexts ⟨false, ["out"]⟩ (pages descending)).2 = .ok listed := by
    rw [pages, overview, overviewTable, sortedTasks_descending]
    exact Outcome.toOption_eq_some.1 (by decide +kernel)
  have written : (Generator.markdown.execute files ⟨false, ["out"]⟩ descending).outcome.result = .ok listed := by
    have made : Generator.markdown.artifacts descending = .ok (pages descending) := rfl
    rw [(Generator.execute_of_texts files ⟨false, ["out"]⟩ made).2, texts]
    rfl
  exact ⟨unlinked, written, Generator.pages_written files ⟨false, ["out"]⟩ descending listed unlinked written⟩

end TwoGoals

end TaskCatalog
