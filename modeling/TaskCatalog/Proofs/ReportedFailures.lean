import TaskCatalog.Proofs.Outcome
import TaskCatalog.Sources.Conventions
import TaskCatalog.Sources.Site

/-!
Failures that are stated of a place in a file, with the extractor that reads it. The checks of a declaration fail with
no others, but for a configuration that contains itself.
-/

namespace TaskCatalog

open Text Outcome

/-- A failure that an extractor states of a place in a file. -/
def Failure.IsReported (strategy : Text) (file : Path) (f : Failure) : Prop :=
  ∃ fault place, f = .extraction ⟨fault, some strategy, some place⟩ ∧ file.text <+: place

theorem Failure.not_isReported_breakdown (b : Breakdown) (strategy : Text) (file : Path) :
    ¬ (Failure.breakdown b).IsReported strategy file := by
  rintro ⟨_, _, reported, -⟩
  cases reported

namespace Site

variable {s : Site} {f : Failure} {fault : ExtractionFault} {file : Path} {fields : Record} {ps : List Parameter}
  {rs : Requirements}

/-- A site in a file. -/
def IsIn (s : Site) (file : Path) : Prop := file.text <+: s.place

theorem isIn_file (strategy : Text) (file : Path) : IsIn ⟨strategy, file.text⟩ file := List.prefix_refl _

theorem isIn_line (strategy : Text) (file : Path) (line : Nat) : (ofLine strategy file line).IsIn file := by
  rw [IsIn, ofLine, List.append_assoc]
  exact List.prefix_append _ _

theorem reported (inside : s.IsIn file) (fault : ExtractionFault) : (s.fault fault).IsReported s.strategy file :=
  ⟨fault, s.place, rfl, inside⟩

/-- A failure that is stated of the very site. -/
def States (s : Site) (f : Failure) : Prop := ∃ fault, f = s.fault fault

theorem States.reported (stated : s.States f) (inside : s.IsIn file) : f.IsReported s.strategy file := by
  obtain ⟨fault, rfl⟩ := stated
  exact Site.reported inside fault

theorem parameter_states : Fails s.States (s.parameter fields) := by
  unfold parameter
  split
  · trivial
  · exact ⟨_, rfl⟩

theorem parameter_fails (inside : s.IsIn file) : Fails (·.IsReported s.strategy file) (s.parameter fields) :=
  parameter_states.weaken fun _ stated => stated.reported inside

/-- Beside what it states, a task fails only for a configuration that contains itself. -/
theorem task_fails (inside : s.IsIn file) :
    Fails (fun f => f.IsReported s.strategy file ∨
      ((fields.get? "configuration").getD .null).isCyclic = true ∧ f = .breakdown .selfContaining)
      (s.task fields ps rs) := by
  unfold task
  split
  · next cyclic => exact .inr ⟨cyclic, rfl⟩
  · split
    · trivial
    · exact .inl (reported inside _)

end Site

/-- A text is read under UTF-8, or the failure to read it can be stated. -/
theorem Sources.readText_fails (fs : FileSystem) (encoding : Text) (file : Path) :
    Fails (fun fault => (∃ cause, fault = .read cause) ∨ Encoding.ofName? encoding ≠ some .utf8)
      (readText fs encoding file) := by
  unfold readText
  split
  · exact .inl ⟨_, rfl⟩
  · split
    · next unknown => exact .inr (by rw [unknown]; exact nofun)
    · next e known =>
      split
      · trivial
      · exact .inl ⟨_, rfl⟩
      · next missing =>
        refine .inr fun utf8 => ?_
        obtain rfl : e = .utf8 := Option.some.inj (known.symm.trans utf8)
        obtain ⟨u, -, other⟩ := Outcome.mapError_eq_error.1 (show (decodeUtf8 _).mapError _ = _ from missing)
        cases other

/-- Only text that is read under another encoding is not read without a cause. -/
theorem Sources.foreign_of_breakdown {fs : FileSystem} {encoding : Text} {file : Path} {b : Breakdown}
    (unread : readText fs encoding file = .error (.breakdown b)) : Encoding.ofName? encoding ≠ some .utf8 := by
  rcases (readText_fails fs encoding file).of_error unread with ⟨cause, other⟩ | foreign
  · cases other
  · exact foreign

theorem Sources.fails_of_files {s : Sources} {suffixes : List Text} {P : Path → Path → Failure → Prop}
    {fileTasks : Path → Path → Logged (List Task)}
    (each : ∀ root file, (root, file) ∈ s.files suffixes → Fails (P root file) (fileTasks root file).result) :
    Fails (fun f => ∃ root file, (root, file) ∈ s.files suffixes ∧ P root file f)
      (Logged.gather ((s.files suffixes).map fun (root, file) => fileTasks root file)).result := by
  refine Logged.gather_fails fun work member => ?_
  obtain ⟨⟨root, file⟩, listed, rfl⟩ := List.mem_map.1 member
  exact (each root file listed).weaken fun _ fault => ⟨root, file, listed, fault⟩

end TaskCatalog
