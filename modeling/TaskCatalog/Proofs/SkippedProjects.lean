import TaskCatalog.CommandLine.Session
import TaskCatalog.Proofs.ConsoleStyles
import TaskCatalog.Proofs.Locations
import TaskCatalog.Proofs.RunEnding

/-!
Projects that are no plugins, on the command line. Nothing is extracted for them and no file is written. The command
ends well if what is said of the packaging can be shown, and this is a matter of the markup in it.
-/

namespace TaskCatalog

open Text

namespace Markup

end Markup

namespace FileSystem

variable {fs made : FileSystem} {p : Path}

/-- Making a directory leaves every file as it is and makes none. -/
theorem content?_makeDirectory (h : fs.makeDirectory p = .ok made) (l : Location) :
    made.root.content? l = fs.root.content? l := by
  unfold makeDirectory at h
  split at h
  · cases h
  next name last =>
  split at h
  · next location arrived =>
    split at h
    · next entries there =>
      split at h
      · cases h
      · next fresh =>
        cases h
        obtain ⟨-, vacant⟩ := not_or.1 fresh
        rw [Option.not_isSome_iff_eq_none] at vacant
        have takes := Node.Takes.of_vacant there vacant
        by_cases same : l = location ++ [name]
        · subst same
          rw [Node.content?, Node.content?, Node.at?_put takes, Node.at?_snoc there, vacant]
        · exact Node.content?_congr (Node.kind?_put_of_ne takes (fun _ _ => rfl) same)
    · cases h
  · cases h
  · cases h

theorem content?_makeDirectoriesWithin {depth : Nat} (h : fs.makeDirectoriesWithin p depth = .ok made) (l : Location) :
    made.root.content? l = fs.root.content? l := by
  induction depth generalizing p made with
  | zero => cases h
  | succ depth ih =>
    have existing {fs : FileSystem} {e : FileError} (h : (if fs.isDirectory p then Except.ok fs else .error e) = .ok made) :
        made = fs := by
      split at h <;> cases h
      rfl
    rw [makeDirectoriesWithin] at h
    dsimp only at h
    split at h
    · next done first =>
      cases h
      exact content?_makeDirectory first l
    · next e refused =>
      split at h
      · split at h
        · cases h
        · obtain ⟨between, inner, h⟩ := Outcome.bind_eq_ok.1 h
          rw [← ih inner]
          split at h
          · next done last =>
            cases h
            exact content?_makeDirectory last l
          · rw [existing h]
      · rw [existing h]

theorem content?_makeDirectories (h : fs.makeDirectories p = .ok made) (l : Location) :
    made.root.content? l = fs.root.content? l := content?_makeDirectoriesWithin h l

end FileSystem

namespace Session

/-- A command to generate that gets as far as its run: with which settings, for what request and project, and on which
files. -/
structure Begins (environment : List (Text × Text)) (arguments : List Text) (fs : FileSystem) (settings : Settings)
    (q : GenerateRequest) (project : Project) (ready : FileSystem) : Prop where
  asked : ∃ rest, Opening.ofArguments? arguments = some (.generate rest) ∧
    GenerateRequest.ofArguments? rest = some (.work q)
  settled : Settings.load fs environment [] = .ok settings
  prepared : ∃ logged, prepareLog settings (start fs) = .ok logged ∧
    (Project.load logged q.projectFile).result = .ok project ∧ logged.makeDirectories q.output = .ok ready

variable {environment : List (Text × Text)} {arguments : List Text} {fs ready : FileSystem} {settings : Settings}
  {q : GenerateRequest} {project : Project} {s : Session}

theorem files_prepareLog {logged : FileSystem} (h : prepareLog settings (start fs) = .ok logged) (l : Location) :
    logged.root.content? l = fs.root.content? l := by
  unfold prepareLog at h
  split at h
  · next first rest named =>
    cases made : fs.makeDirectories (Path.ofText (first :: rest)) with
    | error e =>
      rw [start, made] at h
      cases h
    | ok done =>
      rw [start, made] at h
      cases h
      exact FileSystem.content?_makeDirectories made l
  · cases h
    rfl

theorem Begins.files (begins : Begins environment arguments fs settings q project ready) (l : Location) :
    ready.root.content? l = fs.root.content? l := by
  obtain ⟨logged, prepared, -, made⟩ := begins.prepared
  rw [FileSystem.content?_makeDirectories made, files_prepareLog prepared]

end Session

namespace PackagedProject

open Session

/-- Files with a project of a packaging. -/
def files (packaging : String) : FileSystem :=
  ⟨.directory [("plugin-project.yaml", .file ("packaging: '" ++ packaging ++ "'\n").toUTF8.toList)], []⟩

def arguments : List Text := ["generate", "-o", "out"]

def projectFile : Path := ⟨false, ["plugin-project.yaml"]⟩

section

variable {packaging : String}
  (loaded : (Project.load (files packaging) projectFile).result.toOption.map (·.packaging) = some (ofString packaging))
  (set : (Settings.load (files packaging) [] []).toOption.map (·.logDirectory) = some none)
  (made : ((files packaging).makeDirectories ⟨false, ["out"]⟩).toOption.isSome = true)
include loaded set made

theorem begins : ∃ settings q project ready,
    Begins [] arguments (files packaging) settings q project ready ∧ project.packaging = ofString packaging := by
  obtain ⟨project, loaded, named⟩ := Option.map_eq_some_iff.1 loaded
  obtain ⟨settings, settled, unlogged⟩ := Option.map_eq_some_iff.1 set
  obtain ⟨ready, made⟩ := Option.isSome_iff_exists.1 made
  have opened : Opening.ofArguments? arguments = some (.generate ["-o", "out"]) := by
    with_unfolding_all rfl
  have asked : GenerateRequest.ofArguments? ["-o", "out"] =
      some (.work ⟨"descriptor", projectFile, ⟨false, ["out"]⟩, ⟨none, none⟩⟩) := by
    with_unfolding_all rfl
  refine ⟨settings, _, project, ready, ⟨⟨_, opened, asked⟩, Outcome.toOption_eq_some.1 settled,
    files packaging, ?_, Outcome.toOption_eq_some.1 loaded, Outcome.toOption_eq_some.1 made⟩, named⟩
  rw [prepareLog, unlogged]
  rfl

end

end PackagedProject

end TaskCatalog
