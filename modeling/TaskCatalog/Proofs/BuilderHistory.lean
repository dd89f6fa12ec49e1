import TaskCatalog.Assembly.Builder
import TaskCatalog.Proofs.Outcome
import TaskCatalog.Proofs.TextOrder
import Mathlib.Data.List.Induction

/-!
One builder over any calls: what it holds can be told from the calls alone, and what building gives
can be told from what it holds, whichever of the checks comes first.
-/

namespace TaskCatalog

open Text

namespace GoalPrefix

structure Usable (t : Text) : Prop where
  nonempty : t ≠ []
  separators : ∀ l ∈ t, l ≠ .scalar '/' ∧ l ≠ .scalar '\\'
  blanks : ∀ l ∈ t, isBlank l = false

inductive Faulty : Text → Fault → Prop
  | empty : Faulty [] .empty
  | separator {t l} : l ∈ t → l = .scalar '/' ∨ l = .scalar '\\' → Faulty t .separator
  | whitespace {t l} : (∀ l ∈ t, l ≠ .scalar '/' ∧ l ≠ .scalar '\\') → l ∈ t → isBlank l = true →
      Faulty t .whitespace

variable {t : Text} {l : Letter} {fault : Fault}

theorem isSeparator_iff : isSeparator l = true ↔ l = .scalar '/' ∨ l = .scalar '\\' := by
  simp [isSeparator]

theorem usable_iff : Usable t ↔ fault? t = none := by
  rw [fault?_eq_none_iff]
  constructor
  · intro h
    refine ⟨h.nonempty, fun l hl => ⟨?_, h.blanks l hl⟩⟩
    rw [Bool.eq_false_iff, ne_eq, isSeparator_iff, not_or]
    exact h.separators l hl
  · rintro ⟨nonempty, h⟩
    refine ⟨nonempty, fun l hl => ?_, fun l hl => (h l hl).2⟩
    rw [← not_or, ← isSeparator_iff, (h l hl).1]
    exact Bool.false_ne_true

theorem faulty_iff : Faulty t fault ↔ fault? t = some fault := by
  constructor
  · intro h
    cases h with
    | empty => rfl
    | @separator _ l hl separates =>
      have found : t.any isSeparator = true := List.any_eq_true.2 ⟨l, hl, isSeparator_iff.2 separates⟩
      simp [fault?, List.ne_nil_of_mem hl, found]
    | @whitespace _ l plain hl blank =>
      have missing : t.any isSeparator = false := by
        simp only [List.any_eq_false, isSeparator_iff, not_or]
        exact plain
      have found : t.any isBlank = true := List.any_eq_true.2 ⟨l, hl, blank⟩
      simp [fault?, List.ne_nil_of_mem hl, missing, found]
  · intro h
    simp only [fault?] at h
    split at h
    · rename_i empty
      cases h
      rw [List.isEmpty_iff.1 empty]
      exact .empty
    · split at h
      · rename_i found
        cases h
        obtain ⟨l, hl, separates⟩ := List.any_eq_true.1 found
        exact .separator hl (isSeparator_iff.1 separates)
      · rename_i missing
        split at h
        · rename_i found
          cases h
          obtain ⟨l, hl, blank⟩ := List.any_eq_true.1 found
          simp only [Bool.not_eq_true, List.any_eq_false, isSeparator_iff, not_or] at missing
          exact .whitespace missing hl blank
        · cases h

end GoalPrefix

namespace Identity

def Stated (t : Option Text) : Prop := ∃ u, t = some u ∧ ∃ l ∈ u, isBlank l = false

/-- The fields that a descriptor needs, in the order in which they are reported. -/
def needed (i : Identity) : List (Text × Option Text) :=
  [("group_id", i.groupId), ("artifact_id", i.artifactId), ("version", i.version), ("name", i.name)]

def Complete (i : Identity) : Prop := ∀ f ∈ i.needed, Stated f.2

structure Lacks (i : Identity) (fields : List Text) : Prop where
  ordered : fields.Sublist (i.needed.map (·.1))
  absent : ∀ f ∈ i.needed, f.1 ∈ fields ↔ ¬ Stated f.2

variable {i : Identity} {t : Option Text} {fields : List Text}

theorem present_iff : Builder.present t = true ↔ Stated t := by
  cases t with
  | none => simp [Builder.present, Stated]
  | some u => simp [Builder.present, Stated, isAllBlank]

theorem missingFields_eq (i : Identity) :
    Builder.missingFields i = (i.needed.filter fun f => !Builder.present f.2).map (·.1) := by
  rw [← List.filterMap_eq_map, ← List.filterMap_eq_filter, List.filterMap_filterMap]
  refine List.filterMap_congr fun f _ => ?_
  cases h : Builder.present f.2 <;> simp [h, Option.guard]

theorem complete_iff : i.Complete ↔ Builder.missingFields i = [] := by
  simp only [Complete, missingFields_eq, List.map_eq_nil_iff, List.filter_eq_nil_iff,
    ← present_iff, Bool.not_eq_true', Bool.not_eq_false]

theorem Complete.stated (h : i.Complete) : ∃ groupId artifactId version name,
    i = ⟨some groupId, some artifactId, some version, some name, i.description⟩ := by
  simp only [Complete, needed, List.forall_mem_cons, List.not_mem_nil, false_implies, implies_true,
    and_true] at h
  obtain ⟨⟨groupId, hg, -⟩, ⟨artifactId, ha, -⟩, ⟨version, hv, -⟩, ⟨name, hn, -⟩⟩ := h
  exact ⟨groupId, artifactId, version, name, by rw [← hg, ← ha, ← hv, ← hn]⟩

theorem nodup_needed (i : Identity) : (i.needed.map (·.1)).Nodup := by
  change (["group_id", "artifact_id", "version", "name"] : List Text).Nodup
  decide

theorem lacks_missingFields (i : Identity) : i.Lacks (Builder.missingFields i) := by
  rw [missingFields_eq]
  refine ⟨List.Sublist.map _ List.filter_sublist, ?_⟩
  intro f hf
  rw [← present_iff]
  constructor
  · intro h
    obtain ⟨g, hg, same⟩ := List.mem_map.1 h
    obtain ⟨hg, absent⟩ := List.mem_filter.1 hg
    rw [List.inj_on_of_nodup_map i.nodup_needed hg hf same] at absent
    simpa using absent
  · intro h
    exact List.mem_map.2 ⟨f, List.mem_filter.2 ⟨hf, by simpa using h⟩, rfl⟩

/-- A part of a list without repetition is told by its members. -/
theorem eq_filter_of_sublist {fs all : List Text} (h : fs.Sublist all) (distinct : all.Nodup) :
    fs = all.filter (· ∈ fs) := by
  induction h with
  | slnil => rfl
  | @cons fs all f h ih =>
    obtain ⟨fresh, distinct⟩ := List.nodup_cons.1 distinct
    rw [List.filter_cons_of_neg (by simpa using fun hf => fresh (h.subset hf))]
    exact ih distinct
  | @cons_cons fs all f h ih =>
    obtain ⟨fresh, distinct⟩ := List.nodup_cons.1 distinct
    have others : all.filter (· ∈ f :: fs) = all.filter (· ∈ fs) := by
      refine List.filter_congr fun g hg => ?_
      have apart : g ≠ f := fun same => fresh (same ▸ hg)
      simp [apart]
    rw [List.filter_cons_of_pos (by simp), others, ← ih distinct]

theorem Lacks.unique {fields' : List Text} (h : i.Lacks fields) (h' : i.Lacks fields') :
    fields = fields' := by
  have same : ∀ x ∈ i.needed.map (·.1), (x ∈ fields ↔ x ∈ fields') := by
    intro x hx
    obtain ⟨f, hf, rfl⟩ := List.mem_map.1 hx
    rw [h.absent f hf, h'.absent f hf]
  calc fields = (i.needed.map (·.1)).filter (· ∈ fields) := eq_filter_of_sublist h.ordered i.nodup_needed
    _ = (i.needed.map (·.1)).filter (· ∈ fields') := List.filter_congr fun x hx => by simp only [same x hx]
    _ = fields' := (eq_filter_of_sublist h'.ordered i.nodup_needed).symm

end Identity

/-- The texts that occur more than once, each once, in ascending order. -/
structure Repeats (ts repeated : List Text) : Prop where
  ascending : repeated.Pairwise (· < ·)
  members : ∀ t, t ∈ repeated ↔ 1 < ts.count t

theorem repeats_repeated (ts : List Text) : Repeats ts (Descriptor.repeated ts) := by
  refine ⟨ascending_sort_distinct _, ?_⟩
  intro t
  simp only [Descriptor.repeated, mem_sort, mem_distinct, List.mem_filter, decide_eq_true_eq,
    and_iff_right_iff_imp]
  intro h
  exact List.count_pos_iff.1 (Nat.lt_trans Nat.zero_lt_one h)

theorem Repeats.unique {ts names names' : List Text} (h : Repeats ts names) (h' : Repeats ts names') :
    names = names' :=
  eq_of_ascending h.ascending h'.ascending fun t => (h.members t).trans (h'.members t).symm

namespace Builder

/-- What building gives for an identity, dependencies, a prefix and tasks. -/
inductive Assembles (i : Identity) (ds : List Dependency) (p : Option Text) (ts : List Task) :
    Except Failure Descriptor → Prop
  | built {d : Descriptor} (complete : i.Complete) (usable : GoalPrefix.Usable d.goalPrefix)
      (identity : i = ⟨some d.groupId, some d.artifactId, some d.version, some d.name, d.description⟩)
      (goalPrefix : p = some d.goalPrefix) (dependencies : d.dependencies = ds)
      (tasks : d.tasks = ts) : Assembles i ds p ts (.ok d)
  | lacking {fields} (lacks : i.Lacks fields) (some : fields ≠ []) :
      Assembles i ds p ts (.error (.invalidDescriptor (.missingFields fields)))
  | prefixed {fault} (complete : i.Complete) (faulty : GoalPrefix.Faulty (p.getD []) fault) :
      Assembles i ds p ts (.error (.invalidDescriptor (.goalPrefix (p.getD []) fault)))
  | repeating {names} (complete : i.Complete) (usable : GoalPrefix.Usable (p.getD []))
      (repeats : Repeats (ts.map fun t => t.name.text) names) (some : names ≠ []) :
      Assembles i ds p ts (.error (.invalidDescriptor (.invalid [⟨[], .repeatedTasks names⟩])))

/-- A call on a builder. -/
inductive Call where
  | withIdentity (i : Identity)
  | withDependencies (ds : List Dependency)
  | withGoalPrefix (p : Option Text)
  | addTasks (ts : List Task)
  | build

/-- The builder after a call, and what came of it if the call built. -/
def call (b : Builder) : Call → Builder × Option (Except Failure Descriptor)
  | .withIdentity i => (b.withIdentity i, none)
  | .withDependencies ds => (b.withDependencies ds, none)
  | .withGoalPrefix p => (b.withGoalPrefix p, none)
  | .addTasks ts => (b.addTasks ts, none)
  | .build => (b, some b.build.result)

def run (b : Builder) (calls : List Call) : Builder := calls.foldl (fun b c => (b.call c).1) b

namespace Call

def identity? : Call → Option Identity
  | .withIdentity i => some i
  | _ => none

def dependencies? : Call → Option (List Dependency)
  | .withDependencies ds => some ds
  | _ => none

def goalPrefix? : Call → Option (Option Text)
  | .withGoalPrefix p => some p
  | _ => none

def tasks : Call → List Task
  | .addTasks ts => ts
  | _ => []

end Call

/-- What the last call that states something states. -/
def last {α : Type} (f : Call → Option α) (default : α) (calls : List Call) : α :=
  (calls.reverse.findSome? f).getD default

def lastIdentity (calls : List Call) : Identity := last Call.identity? .none calls

def lastDependencies (calls : List Call) : List Dependency := last Call.dependencies? [] calls

def lastGoalPrefix (calls : List Call) : Option Text := last Call.goalPrefix? none calls

variable {b : Builder} {calls : List Call} {c : Call} {i : Identity} {ds : List Dependency}
  {p : Option Text} {ts : List Task} {r r' : Except Failure Descriptor}

theorem last_snoc {α : Type} (f : Call → Option α) (default : α) (calls : List Call) (c : Call) :
    last f default (calls ++ [c]) = (f c).getD (last f default calls) := by
  rw [last, List.reverse_append, List.reverse_singleton, List.singleton_append, List.findSome?_cons]
  cases f c <;> rfl

theorem call_eq (b : Builder) (c : Call) :
    (b.call c).1 = ⟨c.identity?.getD b.identity, c.goalPrefix?.getD b.goalPrefix,
      c.dependencies?.getD b.dependencies, b.tasks ++ c.tasks⟩ := by
  cases c with
  | addTasks ts => rfl
  | _ => exact congrArg (Builder.mk _ _ _) (List.append_nil b.tasks).symm

theorem run_empty (calls : List Call) :
    run .empty calls = ⟨lastIdentity calls, lastGoalPrefix calls, lastDependencies calls,
      calls.flatMap Call.tasks⟩ := by
  induction calls using List.reverseRecOn with
  | nil => rfl
  | append_singleton calls c ih =>
    rw [run, List.foldl_append]
    change ((run .empty calls).call c).1 = _
    rw [ih, call_eq]
    simp only [lastIdentity, lastGoalPrefix, lastDependencies, last_snoc, List.flatMap_append,
      List.flatMap_singleton]

theorem run_append (b : Builder) (calls later : List Call) :
    b.run (calls ++ later) = (b.run calls).run later :=
  List.foldl_append

theorem result_build (b : Builder) : b.build.result = b.build?.mapError .invalidDescriptor := by
  rw [build, Logged.result_bind, Logged.result_ofExcept]
  cases b.build? <;> simp [Except.mapError, bind, Except.bind]

theorem build?_of_complete (complete : b.identity.Complete)
    (usable : GoalPrefix.Usable (b.goalPrefix.getD [])) (distinct : (b.tasks.map fun t => t.name.text).Nodup) :
    ∃ d, b.build? = .ok d ∧ b.goalPrefix = some d.goalPrefix ∧ d.dependencies = b.dependencies ∧
      d.tasks = b.tasks ∧ b.identity =
        ⟨some d.groupId, some d.artifactId, some d.version, some d.name, d.description⟩ := by
  have none_missing := Identity.complete_iff.1 complete
  have unrepeated := Descriptor.repeated_eq_nil_iff.2 distinct
  obtain ⟨groupId, artifactId, version, name, hi⟩ := complete.stated
  obtain ⟨goalPrefix, hp⟩ : ∃ u, b.goalPrefix = some u := by
    refine Option.ne_none_iff_exists'.1 fun hp => ?_
    rw [hp] at usable
    exact usable.nonempty rfl
  have faultless := GoalPrefix.usable_iff.1 usable
  refine ⟨⟨groupId, artifactId, version, name, b.identity.description, goalPrefix, b.dependencies,
    b.tasks, distinct⟩, ?_, hp, rfl, rfl, hi⟩
  simp only [build?, none_missing, faultless, dif_pos unrepeated]
  rw [hi, hp]
  rfl

theorem assembles_build (b : Builder) :
    Assembles b.identity b.dependencies b.goalPrefix b.tasks b.build.result := by
  rw [result_build]
  by_cases complete : b.identity.Complete
  · have none_missing := Identity.complete_iff.1 complete
    cases hp : GoalPrefix.fault? (b.goalPrefix.getD []) with
    | some fault =>
      simp only [build?, none_missing, hp]
      exact .prefixed complete (GoalPrefix.faulty_iff.2 hp)
    | none =>
      have usable := GoalPrefix.usable_iff.2 hp
      by_cases distinct : (b.tasks.map fun t => t.name.text).Nodup
      · obtain ⟨d, hd, goalPrefix, dependencies, tasks, identity⟩ := build?_of_complete complete usable distinct
        rw [hd]
        refine .built complete ?_ identity goalPrefix dependencies tasks
        rwa [goalPrefix] at usable
      · have repeated := mt Descriptor.repeated_eq_nil_iff.1 distinct
        simp only [build?, none_missing, hp, dif_neg repeated]
        exact .repeating complete usable (repeats_repeated _) repeated
  · have missing := mt Identity.complete_iff.2 complete
    obtain ⟨field, fields, hm⟩ := List.exists_cons_of_ne_nil missing
    have lacks := b.identity.lacks_missingFields
    simp only [build?, hm] at lacks ⊢
    exact .lacking lacks (by simp)

theorem Assembles.result_eq (h : Assembles b.identity b.dependencies b.goalPrefix b.tasks r) :
    b.build.result = r := by
  rw [result_build]
  cases h with
  | @built d complete usable identity goalPrefix dependencies tasks =>
    have usable' : GoalPrefix.Usable (b.goalPrefix.getD []) := by rwa [goalPrefix]
    obtain ⟨d', hd, hp, hds, hts, hi⟩ := build?_of_complete complete usable' (tasks ▸ d.distinct)
    rw [hd]
    have same : d' = d := by
      cases d
      cases d'
      simp_all
    rw [same]
    rfl
  | lacking lacks some =>
    rw [lacks.unique b.identity.lacks_missingFields] at some ⊢
    obtain ⟨field, fields, hm⟩ := List.exists_cons_of_ne_nil some
    simp only [build?, hm, Except.mapError]
  | prefixed complete faulty =>
    simp only [build?, Identity.complete_iff.1 complete, GoalPrefix.faulty_iff.1 faulty, Except.mapError]
  | repeating complete usable repeats some =>
    rw [repeats.unique (repeats_repeated _)] at some ⊢
    simp only [build?, Identity.complete_iff.1 complete, GoalPrefix.usable_iff.1 usable, dif_neg some,
      Except.mapError]

/-- Whatever the calls before it, a build depends on the last identity, dependencies and prefix and on
all the tasks; it accepts them or gives the first of the faults, and later calls do not notice it. -/
theorem build_history (calls : List Call) :
    (∀ r, ((run .empty calls).call .build).2 = some r ↔
      Assembles (lastIdentity calls) (lastDependencies calls) (lastGoalPrefix calls)
        (calls.flatMap Call.tasks) r) ∧
    ((∃ d, ((run .empty calls).call .build).2 = some (.ok d)) ↔
      (lastIdentity calls).Complete ∧ GoalPrefix.Usable ((lastGoalPrefix calls).getD []) ∧
        ((calls.flatMap Call.tasks).map fun t => t.name.text).Nodup) ∧
    ∀ later, run .empty (calls ++ .build :: later) = run .empty (calls ++ later) := by
  have outcome (r : Except Failure Descriptor) : ((run .empty calls).call .build).2 = some r ↔
      Assembles (lastIdentity calls) (lastDependencies calls) (lastGoalPrefix calls)
        (calls.flatMap Call.tasks) r := by
    have assembles := assembles_build (run .empty calls)
    have result_eq := Assembles.result_eq (b := run .empty calls) (r := r)
    simp only [run_empty] at assembles result_eq
    rw [call, Option.some_inj, run_empty]
    constructor
    · rintro rfl
      exact assembles
    · exact result_eq
  refine ⟨outcome, ?_, fun later => by rw [run_append, run_append]; rfl⟩
  constructor
  · rintro ⟨d, hd⟩
    cases (outcome _).1 hd with
    | built complete usable identity goalPrefix dependencies tasks =>
      rw [goalPrefix, ← tasks]
      exact ⟨complete, usable, d.distinct⟩
  · rintro ⟨complete, usable, distinct⟩
    obtain ⟨d, hd, -⟩ := build?_of_complete (b := run .empty calls) (by rwa [run_empty])
      (by rwa [run_empty]) (by rwa [run_empty])
    exact ⟨d, by rw [call, result_build, hd]; rfl⟩

end Builder

end TaskCatalog
