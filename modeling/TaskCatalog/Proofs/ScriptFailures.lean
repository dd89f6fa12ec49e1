import TaskCatalog.Proofs.Declarations
import TaskCatalog.Proofs.DocumentFaults
import TaskCatalog.Proofs.ReportedFailures
import TaskCatalog.Sources.Scripts

/-!
How the extraction of scripts fails: with a failure that it states of a metadata file, but for the documents that hold
what cannot be made a value, the scripts that cannot be looked for and the configurations that contain themselves.
-/

namespace TaskCatalog

open Text Outcome

namespace Scripts

variable {s : Sources} {root file : Path} {f : Failure} {e : ScriptTask}

/-- What is wrong with a metadata file that its extractor does not state. -/
inductive Escapes (s : Sources) (file : Path) : Failure → Prop
  /-- The encoding is not UTF-8, but unknown or one that needs a mark. -/
  | encoding {b : Breakdown} : Encoding.ofName? s.conventions.sourceEncoding ≠ some .utf8 →
      Sources.readText s.fs s.conventions.sourceEncoding file = .error (.breakdown b) → Escapes s file (.breakdown b)
  /-- An escape stands for no character, or a scalar is none of its kind. -/
  | unmade {chars : List Char} {e : Yaml.Fault} {b : Breakdown} :
      Sources.readText s.fs s.conventions.sourceEncoding file = .ok chars → Yaml.read chars = .error e →
      Yaml.ReadFaults chars e → e.breakdown? = some b → Escapes s file (.breakdown b)
  /-- A script's path is too long to be looked for. -/
  | overlong {es : List ScriptTask} {e : ScriptTask} {cause : FileError} : entries s file = .ok es → e ∈ es →
      s.fs.hasFile (file.parent ++ Path.ofText e.call) = .error cause → Escapes s file (.file cause)
  /-- A configuration contains itself. -/
  | selfContaining {es : List ScriptTask} {e : ScriptTask} : entries s file = .ok es → e ∈ es →
      (∃ entry ∈ e.configuration, entry.2.isCyclic = true) → Escapes s file (.breakdown .selfContaining)

theorem entries_fails :
    Fails (fun f => f.IsReported strategy file ∨ Escapes s file f) (entries s file) := by
  have stated (fault : ExtractionFault) : ((⟨strategy, file.text⟩ : Site).fault fault).IsReported strategy file :=
    Site.reported (Site.isIn_file strategy file) fault
  unfold entries
  dsimp only
  cases text : Sources.readText s.fs s.conventions.sourceEncoding file with
  | error fault =>
    cases fault with
    | read cause => exact .inl (stated _)
    | breakdown b => exact .inr (.encoding (Sources.foreign_of_breakdown text) text)
  | ok chars =>
    dsimp only
    cases document : Yaml.read chars with
    | error fault =>
      dsimp only
      cases broken : fault.breakdown? with
      | none => exact .inl (stated _)
      | some b => exact .inr (.unmade text document ((Yaml.read_fails chars).of_error document) broken)
    | ok v =>
      dsimp only
      split
      · trivial
      · exact .inl (stated _)

theorem exists_cyclic {entries : List (Value × Value)} (cyclic : Value.entriesCyclic entries = true) :
    ∃ entry ∈ entries, entry.2.isCyclic = true := by
  induction entries with
  | nil => cases cyclic
  | cons entry rest ih =>
    rw [Value.entriesCyclic, Bool.or_eq_true] at cyclic
    rcases cyclic with here | later
    · exact ⟨entry, List.mem_cons_self, here⟩
    · obtain ⟨other, member, cyclic⟩ := ih later
      exact ⟨other, List.mem_cons_of_mem _ member, cyclic⟩

theorem isCyclic_of_fields {implementation : Text}
    (cyclic : (((taskFields e implementation).get? "configuration").getD .null).isCyclic = true) :
    ∃ entry ∈ e.configuration, entry.2.isCyclic = true := by
  have stated : (taskFields e implementation).get? "configuration" =
      some (.map (e.configuration.map fun entry => (.text entry.1, entry.2))) := by
    rw [taskFields, Record.get?_ofPairs]
    rfl
  rw [stated] at cyclic
  obtain ⟨_, member, cyclic⟩ := exists_cyclic cyclic
  obtain ⟨entry, inside, rfl⟩ := List.mem_map.1 member
  exact ⟨entry, inside, cyclic⟩

theorem isIn_site (file : Path) (e : ScriptTask) : (site file e).IsIn file := by
  rw [Site.IsIn, site, List.append_assoc, List.append_assoc]
  exact List.prefix_append _ _

theorem checkPhase_states : Fails (site file e).States (checkPhase s file e) := by
  unfold checkPhase
  split
  · exact .ite trivial ⟨_, rfl⟩
  · trivial

theorem placed_fails {es : List ScriptTask} (read : entries s file = .ok es) (member : e ∈ es) (ps : List Parameter) :
    Fails (fun f => f.IsReported strategy file ∨ Escapes s file f) (placed s root file e ps) := by
  unfold placed
  split
  · exact .inl (Site.reported (isIn_site file e) _)
  · refine (Site.task_fails (isIn_site file e)).weaken fun f fault => ?_
    rcases fault with reported | ⟨cyclic, rfl⟩
    · exact .inl reported
    · exact .inr (.selfContaining read member (isCyclic_of_fields cyclic))

theorem task_fails {es : List ScriptTask} (read : entries s file = .ok es) (member : e ∈ es) :
    Fails (fun f => f.IsReported strategy file ∨ Escapes s file f) (task s root file e) := by
  rw [task_eq]
  have sought : Fails (fun f => f.IsReported strategy file ∨ Escapes s file f)
      ((s.fs.hasFile (script file e)).mapError .file) :=
    Ends.mapError (.of_all (fun _ _ => trivial) fun cause missed => .inr (.overlong read member missed))
  refine sought.bind fun there _ => .ite ?_ (.inl (Site.reported (isIn_site file e) _))
  refine (checkPhase_states.weaken fun f stated => .inl (stated.reported (isIn_site file e))).bind fun _ _ => ?_
  refine (Ends.mapM_fails fun p _ => ?_).bind fun ps _ => placed_fails read member ps
  exact (Site.parameter_fails (isIn_site file e)).weaken fun f reported => .inl reported

theorem fileTasks_fails (s : Sources) (root file : Path) :
    Fails (fun f => f.IsReported strategy file ∨ Escapes s file f) (fileTasks s root file).result := by
  rw [fileTasks, Logged.result_bind, Logged.result_ofExcept]
  cases read : entries s file with
  | error f => exact entries_fails.of_error read
  | ok es =>
    show Fails _ (es.mapM (task s root file))
    exact Ends.mapM_fails fun e member => task_fails read member

/-- Whatever the sources are, scripts are extracted, or the failure is one that the extractor states of a metadata file,
but for what escapes it. -/
theorem extract_fails (s : Sources) :
    Fails (fun f => ∃ root file, (root, file) ∈ s.files s.conventions.scriptSuffixes ∧
      (f.IsReported strategy file ∨ Escapes s file f)) (extract s).result :=
  Sources.fails_of_files fun root file _ => fileTasks_fails s root file

/-- Sources whose only metadata file states a day that no calendar has. -/
def impossibleDay : Sources where
  fs := ⟨.directory [("src", .directory [("a.sh", .file []),
    ("a.tasks.yaml", .file "tasks:\n- goal: a\n  call: a.sh\n  since: 2024-13-01\n".toUTF8.toList)])], []⟩
  roots := [⟨true, ["src"]⟩]
  conventions := .default

theorem impossibleDay_escapes :
    ∃ f, (extract impossibleDay).result = .error f ∧ ∀ file, ¬ f.IsReported strategy file := by
  have broken : (match (extract impossibleDay).result with
      | .error (.breakdown .badValue) => true
      | _ => false) = true := by
    decide +kernel
  split at broken
  · next escaped => exact ⟨_, escaped, Failure.not_isReported_breakdown _ _⟩
  · cases broken

end Scripts

end TaskCatalog
