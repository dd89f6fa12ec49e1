import TaskCatalog.Catalog.Descriptor
import TaskCatalog.Proofs.PlainForm
import TaskCatalog.Proofs.ScriptStyle

/-!
A descriptor that is read again from its own plain form. The checks pass all that a descriptor can hold,
and the plain form of what they make is the one that was read.
-/

namespace TaskCatalog

open Text

namespace Checked

variable {α : Type} {pairs : List (Text × Value)}

theorem keys_of_texts (pairs : List (Text × Value)) :
    mapping.keys (pairs.map fun e => (.text e.1, e.2)) = .ok (pairs.map (·.1)) := by
  induction pairs with
  | nil => rfl
  | cons pair pairs ih =>
    rw [List.map_cons, mapping.keys, ih]
    rfl

theorem setEntry_of_new {k : Text} {v : Value} (new : k ∉ pairs.map (·.1)) :
    Value.setEntry (.text k) v (pairs.map fun e => (.text e.1, e.2))
      = (pairs ++ [(k, v)]).map fun e => (.text e.1, e.2) := by
  induction pairs with
  | nil => rfl
  | cons pair pairs ih =>
    obtain ⟨j, w⟩ := pair
    rw [List.map_cons, List.mem_cons, not_or] at new
    have apart : (Value.text j).equals (.text k) = false := by
      simp [Value.equals, Scalar.equals, Scalar.whole?, Ne.symm new.1]
    rw [List.map_cons, Value.setEntry, apart, ih new.2]
    rfl

theorem mapOfEntries_of_new (done : List (Text × Value)) (distinct : ((done ++ pairs).map (·.1)).Nodup) :
    (pairs.map fun e => (Value.text e.1, e.2)).foldl (fun done (k, v) => Value.setEntry k v done)
        (done.map fun e => (.text e.1, e.2))
      = (done ++ pairs).map fun e => (.text e.1, e.2) := by
  induction pairs generalizing done with
  | nil => simp
  | cons pair pairs ih =>
    obtain ⟨k, v⟩ := pair
    have new : k ∉ done.map (·.1) := by
      rw [List.map_append, List.map_cons] at distinct
      exact fun member => (List.nodup_append.1 distinct).2.2 k member k List.mem_cons_self rfl
    rw [List.map_cons, List.foldl_cons]
    show List.foldl _ (Value.setEntry (.text k) v _) _ = _
    rw [setEntry_of_new new, ih _ (by simpa using distinct), List.append_assoc]
    rfl

theorem texts_of_entries (pairs : List (Text × Value)) : (pairs.map fun e => (Value.text e.1, e.2)).filterMap
    (fun | (.text k, v) => some (k, v) | _ => none) = pairs := by
  rw [List.filterMap_map]
  exact List.filterMap_some

/-- A mapping whose keys are texts already passes as it stands. -/
theorem mapping_of_texts (distinct : (pairs.map (·.1)).Nodup) :
    mapping (.map (pairs.map fun e => (.text e.1, e.2))) = .ok pairs := by
  have kept : Value.mapOfEntries (pairs.map fun e => (.text e.1, e.2)) = pairs.map fun e => (.text e.1, e.2) :=
    mapOfEntries_of_new [] distinct
  have zipped : ((pairs.map (·.1)).zip (pairs.map (·.2))).map (fun e => (Value.text e.1, e.2))
      = pairs.map fun e => (.text e.1, e.2) := by
    rw [List.zip_map', List.map_map]
    rfl
  rw [mapping, keys_of_texts, map, List.map_map]
  exact congrArg Checked.ok ((congrArg _ ((congrArg Value.mapOfEntries zipped).trans kept)).trans (texts_of_entries pairs))

end Checked

theorem Plain.toValue_optionalText (t : Option Text) : (Plain.optionalText t).toValue = Value.ofText? t := by
  cases t <;> rfl

/-- The fields of a record in plain form. -/
def Record.ofPlain (es : List (Text × Plain)) : Record := Record.ofPairs (es.map fun e => (e.1, e.2.toValue))

namespace Record

theorem get?_ofPlain {k : Text} {p : Plain} (es : List (Text × Plain)) (distinct : (es.map (·.1)).Nodup)
    (member : (k, p) ∈ es) : (ofPlain es).get? k = some p.toValue := by
  refine get?_of_mem ?_ (List.mem_map_of_mem (f := fun e : Text × Plain => (e.1, e.2.toValue)) member)
  rwa [List.map_map]

theorem ofValue_plain (model : Text) (es : List (Text × Plain)) :
    ofValue model (Plain.map es).toValue = .ok (ofPlain es) := by
  rw [Plain.toValue, ofValue, ofPlain, ofPairs, List.map_map, Plain.entriesToValues_eq]
  rfl

end Record

theorem Checked.list_plain {α : Type} (kind : ProblemKind) (check : Value → Checked α) (f : α → Plain) {as : List α}
    (reads : ∀ a ∈ as, check (f a).toValue = .ok a) : list kind check (Plain.list (as.map f)).toValue = .ok as := by
  rw [Plain.toValue, Plain.itemsToValues_eq, List.map_map]
  refine each_eq_ok_iff.2 (List.forall₂_map_left_iff.2 ?_)
  exact List.forall₂_same.2 reads

theorem Requirements.ofValue_plain (r : Requirements) : ofValue r.plain.toValue = .ok r := by
  rw [ofValue, plain, Record.ofValue_plain]
  have stated {k : Text} {p : Plain} := Record.get?_ofPlain (k := k) (p := p)
    [("requires_project", .truth r.requiresProject), ("requires_online", .truth r.requiresOnline),
      ("aggregator", .truth r.aggregator), ("thread_safe", .truth r.threadSafe),
      ("dependency_resolution", .optionalText r.dependencyResolution)] (by simp [ofString_inj])
  have project := stated (k := "requires_project") (p := .truth r.requiresProject) (by simp)
  have online := stated (k := "requires_online") (p := .truth r.requiresOnline) (by simp)
  have aggregator := stated (k := "aggregator") (p := .truth r.aggregator) (by simp)
  have threads := stated (k := "thread_safe") (p := .truth r.threadSafe) (by simp)
  have resolution := stated (k := "dependency_resolution") (p := .optionalText r.dependencyResolution) (by simp)
  rw [Plain.toValue_optionalText] at resolution
  show ofRecord _ = _
  rw [ofRecord]
  simp only [Record.truth_of_get? project, Record.truth_of_get? online, Record.truth_of_get? aggregator,
    Record.truth_of_get? threads, Record.optionalText_of_get? resolution]
  rfl

theorem Dependency.ofValue_plain (d : Dependency) : ofValue d.plain.toValue = .ok d := by
  rw [ofValue, plain, Record.ofValue_plain]
  have stated {k : Text} {p : Plain} := Record.get?_ofPlain (k := k) (p := p)
    [("group_id", .text d.groupId), ("artifact_id", .text d.artifactId), ("version", .text d.version),
      ("type", .text d.type)] (by simp [ofString_inj])
  have groupId := stated (k := "group_id") (p := .text d.groupId) (by simp)
  have artifactId := stated (k := "artifact_id") (p := .text d.artifactId) (by simp)
  have version := stated (k := "version") (p := .text d.version) (by simp)
  have type := stated (k := "type") (p := .text d.type) (by simp)
  have passes (t : Text) : Checked.text (Plain.text t).toValue = .ok t := rfl
  show ofRecord _ = _
  rw [ofRecord]
  simp only [Record.required_of_get? groupId (passes _), Record.required_of_get? artifactId (passes _),
    Record.required_of_get? version (passes _), Record.withDefault_of_get? type, passes]
  rfl

/-- The declaration that a parameter is the parameter of. -/
def Parameter.declaration (p : Parameter) : ParameterDeclaration where
  name := p.name
  type := some p.type
  required := p.required
  readOnly := !p.editable
  defaultValue := p.defaultValue
  expression := p.expression
  description := p.description
  since := p.since
  deprecated := p.deprecated

theorem Parameter.parameter_declaration (p : Parameter) : p.declaration.parameter = p := by
  simp [declaration, ParameterDeclaration.parameter]

theorem Parameter.ofValue_plain {p : Parameter} (readable : p.name.val.any Letter.isHalf = false) :
    ofValue p.plain.toValue = .ok p := by
  have read := ofRecord_fields p.declaration readable
  rw [p.parameter_declaration] at read
  rw [ofValue, plain, Record.ofValue_plain]
  refine Eq.trans (congrArg ofRecord ?_) read
  simp [Record.ofPlain, ParameterDeclaration.fields, declaration, Plain.toValue_optionalText, Plain.toValue]

/-- A task whose place and parameters go by proper texts, as the checks of them leave it. -/
structure Task.Readable (t : Task) : Prop where
  implementation : t.implementation.val.any Letter.isHalf = false
  parameters : ∀ p ∈ t.parameters, p.name.val.any Letter.isHalf = false

theorem Checked.readable_of_nonempty {v : Value} {t : { t : Text // t ≠ [] }} (passed : nonempty v = .ok t) :
    t.val.any Letter.isHalf = false := by
  obtain ⟨u, -, passed⟩ := andThen_eq_ok.1 passed
  split at passed
  · cases passed
  · rename_i whole
    split at passed
    · cases passed
    · cases passed
      exact Bool.eq_false_iff.2 whole

theorem Checked.mem_of_list {α : Type} {kind : ProblemKind} {check : Value → Checked α} {v : Value} {as : List α}
    (passed : list kind check v = .ok as) : ∀ a ∈ as, ∃ v, check v = .ok a := by
  rw [list] at passed
  split at passed
  · intro a member
    obtain ⟨v, -, made⟩ := Outcome.exists_of_forall₂ (each_eq_ok_iff.1 passed) member
    exact ⟨v, made⟩
  · cases passed

theorem Record.of_required {α : Type} {r : Record} {name : Text} {check : Value → Checked α} {a : α}
    (passed : r.required name check = .ok a) : ∃ v, check v = .ok a := by
  rw [required, field] at passed
  split at passed
  · exact ⟨_, Checked.located_eq_ok.1 passed⟩
  · cases passed

theorem Record.of_withDefault {α : Type} {r : Record} {name : Text} {default : α} {check : Value → Checked α} {a : α}
    (passed : r.withDefault name default check = .ok a) : a = default ∨ ∃ v, check v = .ok a := by
  rw [withDefault, field] at passed
  split at passed
  · exact .inr ⟨_, Checked.located_eq_ok.1 passed⟩
  · cases passed
    exact .inl rfl

theorem Parameter.readable_of_ofValue {v : Value} {p : Parameter} (passed : ofValue v = .ok p) :
    p.name.val.any Letter.isHalf = false := by
  obtain ⟨r, -, passed⟩ := Checked.andThen_eq_ok.1 passed
  obtain ⟨v, passed⟩ := Record.of_required (named_of_ofRecord passed)
  exact Checked.readable_of_nonempty passed

theorem Task.readable_of_ofValue {v : Value} {t : Task} (passed : ofValue v = .ok t) : t.Readable := by
  obtain ⟨r, -, passed⟩ := Checked.andThen_eq_ok.1 passed
  obtain ⟨⟨-, placed, taken⟩, -⟩ := ofParts_eq_ok passed
  obtain ⟨_, placed⟩ := Record.of_required placed
  refine ⟨Checked.readable_of_nonempty placed, fun p member => ?_⟩
  rcases Record.of_withDefault taken with none | ⟨_, listed⟩
  · rw [none] at member
    cases member
  · obtain ⟨_, read⟩ := Checked.mem_of_list listed p member
    exact Parameter.readable_of_ofValue read

/-- A task with its configuration as it is read from the plain form. -/
def Task.configured (t : Task) (configuration : List (Text × Plain)) : Task :=
  { t with configuration := configuration.map fun e => (e.1, e.2.toValue.freeze) }

theorem Task.ofParts_configured {t : Task} {configuration : List (Text × Plain)} {parts : TaskParts}
    (same : parts = {
      name := .ok t.name, implementation := .ok t.implementation, description := .ok t.description,
      parameters := .ok t.parameters, phase := .ok t.phase, requirements := .ok t.requirements,
      configuration := .ok (configuration.map fun e => (e.1, e.2.toValue)), since := .ok t.since,
      deprecated := .ok t.deprecated, language := .ok t.language }) :
    ofParts parts = .ok (t.configured configuration) := by
  rw [same]
  have distinct := distinctParameters_of_nodup t.name.text t.distinct
  refine (congrArg (Checked.map _) distinct).trans ?_
  rw [Checked.map, configured, List.map_map]
  rfl

theorem Checked.mapping_plain {configuration : List (Text × Plain)} (distinct : (configuration.map (·.1)).Nodup) :
    mapping (Plain.map configuration).toValue = .ok (configuration.map fun e => (e.1, e.2.toValue)) := by
  have kept : ((configuration.map fun e => (e.1, e.2.toValue)).map (·.1)).Nodup := by rwa [List.map_map]
  have read := mapping_of_texts kept
  rw [List.map_map] at read
  rwa [Plain.toValue, Plain.entriesToValues_eq]

theorem Task.ofValue_plain {t : Task} {p : Plain} {configuration : List (Text × Plain)} (readable : t.Readable)
    (told : t.configurationPlain = .ok (.map configuration)) (shown : t.plain = .ok p) :
    ofValue p.toValue = .ok (t.configured configuration) := by
  have distinct : (configuration.map (·.1)).Nodup := by
    cases Value.plain_settled _ _ told
    assumption
  rw [plain, told] at shown
  cases shown
  rw [ofValue, Record.ofValue_plain]
  have stated {k : Text} {p : Plain} := Record.get?_ofPlain (k := k) (p := p)
    [("name", .text t.name.text), ("implementation", .text t.implementation),
      ("description", .optionalText t.description),
      ("parameters", .list (t.parameters.map Parameter.plain)), ("phase", .optionalText t.phase),
      ("requirements", t.requirements.plain), ("configuration", .map configuration),
      ("since", .optionalText t.since), ("deprecated", .optionalText t.deprecated),
      ("language", .optionalText t.language)] (by simp [ofString_inj])
  have name := stated (k := "name") (p := .text t.name.text) (by simp)
  have implementation := stated (k := "implementation") (p := .text t.implementation) (by simp)
  have description := stated (k := "description") (p := .optionalText t.description) (by simp)
  have parameters := stated (k := "parameters") (p := .list (t.parameters.map Parameter.plain)) (by simp)
  have phase := stated (k := "phase") (p := .optionalText t.phase) (by simp)
  have requirements := stated (k := "requirements") (p := t.requirements.plain) (by simp)
  have stores := stated (k := "configuration") (p := .map configuration) (by simp)
  have since := stated (k := "since") (p := .optionalText t.since) (by simp)
  have deprecated := stated (k := "deprecated") (p := .optionalText t.deprecated) (by simp)
  have language := stated (k := "language") (p := .optionalText t.language) (by simp)
  rw [Plain.toValue_optionalText] at description phase since deprecated language
  refine ofParts_configured ?_
  have listed := Checked.list_plain .notTuple Parameter.ofValue Parameter.plain
    fun p member => Parameter.ofValue_plain (readable.parameters p member)
  simp only [Record.required_of_get? name (Checked.goalName_text t.name),
    Record.required_of_get? implementation (Checked.nonempty_text readable.implementation),
    Record.optionalText_of_get? description, Record.optionalText_of_get? phase, Record.optionalText_of_get? since,
    Record.optionalText_of_get? deprecated, Record.optionalText_of_get? language,
    Record.withDefault_of_get? parameters, Record.withDefault_of_get? requirements, Record.withDefault_of_get? stores,
    listed, Requirements.ofValue_plain, Checked.mapping_plain distinct, Checked.located]

/-- Settled data that is kept frozen is what the configuration is written out as. -/
theorem Task.configurationPlain_of_frozen {t : Task} {configuration : List (Text × Plain)}
    (settled : (Plain.map configuration).Settled)
    (kept : t.configuration = configuration.map fun e => (e.1, e.2.toValue.freeze)) :
    t.configurationPlain = .ok (.map configuration) := by
  have final := settled.plain_frozen
  rw [Plain.toValue, Value.freeze, Plain.entriesToValues_eq, Value.freezeEntries_eq, List.map_map] at final
  rw [configurationPlain, kept, List.map_map]
  exact final

theorem Task.configured_plain {t : Task} {p : Plain} {configuration : List (Text × Plain)}
    (told : t.configurationPlain = .ok (.map configuration)) (shown : t.plain = .ok p) :
    (t.configured configuration).plain = .ok p := by
  have again : (t.configured configuration).configurationPlain = .ok (.map configuration) :=
    configurationPlain_of_frozen (Value.plain_settled _ _ told) rfl
  rw [plain, told] at shown
  rw [plain, again]
  exact shown

namespace Descriptor

/-- The descriptor of data in plain form. -/
def ofPlain (p : Plain) : Checked Descriptor := (Record.ofValue "PluginDescriptor" p.toValue).andThen ofRecord

def Readable (d : Descriptor) : Prop := ∀ t ∈ d.tasks, t.Readable

theorem tasks_of_ofParts {parts : Parts} {d : Descriptor} (passed : ofParts parts = .ok d) :
    parts.tasks = .ok d.tasks := by
  rw [ofParts, Checked.andThen_eq_ok] at passed
  simp only [Checked.seq_eq_ok, Checked.fmap_eq_ok] at passed
  obtain ⟨_, ⟨_, tasks, ⟨_, _, ⟨_, _, ⟨_, _, ⟨_, _, ⟨_, _, ⟨_, _, ⟨_, -, rfl⟩, -, rfl⟩, -, rfl⟩, -, rfl⟩, -, rfl⟩, -, rfl⟩,
    -, rfl⟩, taken, rfl⟩, built⟩ := passed
  obtain ⟨kept, passed, rfl⟩ := Checked.map_eq_ok.1 built
  have same : kept.val = tasks := by
    rw [distinctTasks] at passed
    split at passed
    · cases passed
      rfl
    · cases passed
  exact taken.trans (congrArg Checked.ok same.symm)

/-- All descriptors that pass their checks are readable. -/
theorem readable_of_ofRecord {r : Record} {d : Descriptor} (passed : ofRecord r = .ok d) : d.Readable := by
  intro t member
  rcases Record.of_withDefault (tasks_of_ofParts passed) with none | ⟨_, listed⟩
  · rw [none] at member
    cases member
  · obtain ⟨_, read⟩ := Checked.mem_of_list listed t member
    exact Task.readable_of_ofValue read

theorem distinctTasks_of_nodup {ts : List Task} (distinct : (ts.map fun t => t.name.text).Nodup) :
    distinctTasks ts = .ok ⟨ts, distinct⟩ := by
  rw [distinctTasks, dif_pos (repeated_eq_nil_iff.2 distinct)]

/-- Tasks that are read from their plain forms are the same in name and in plain form. -/
theorem tasks_of_plain {ts : List Task} {ps : List Plain} (readable : ∀ t ∈ ts, t.Readable)
    (shown : ts.mapM Task.plain = .ok ps) :
    ∃ us, List.Forall₂ (fun p u => Task.ofValue p.toValue = .ok u) ps us ∧ us.mapM Task.plain = .ok ps
      ∧ us.map (fun u => u.name.text) = ts.map fun t => t.name.text := by
  induction ts generalizing ps with
  | nil =>
    cases shown
    exact ⟨[], .nil, rfl, rfl⟩
  | cons t ts ih =>
    rw [List.forall_mem_cons] at readable
    rw [List.mapM_cons] at shown
    obtain ⟨p, here, shown⟩ := Outcome.bind_eq_ok.1 shown
    obtain ⟨ps, later, shown⟩ := Outcome.bind_eq_ok.1 shown
    cases shown
    obtain ⟨us, read, plain, names⟩ := ih readable.2 later
    obtain ⟨_, told, -⟩ := Outcome.map_eq_ok.1 here
    obtain ⟨configuration, rfl⟩ : ∃ es, _ = Plain.map es := by
      obtain ⟨es, -, same⟩ := Outcome.map_eq_ok.1 told
      exact ⟨es, same.symm⟩
    refine ⟨t.configured configuration :: us, .cons (Task.ofValue_plain readable.1 told here) read, ?_, ?_⟩
    · rw [List.mapM_cons, Task.configured_plain told here, plain]
      rfl
    · rw [List.map_cons, names]
      rfl

theorem ofParts_checked {d : Descriptor} {parts : Parts}
    (same : parts = {
      groupId := .ok d.groupId, artifactId := .ok d.artifactId, version := .ok d.version, name := .ok d.name,
      description := .ok d.description, goalPrefix := .ok d.goalPrefix, dependencies := .ok d.dependencies,
      tasks := .ok d.tasks }) : ofParts parts = .ok d := by
  rw [same]
  exact congrArg (Checked.map _) (distinctTasks_of_nodup d.distinct)

/-- The plain form of a descriptor passes all checks, and the descriptor that is made of it has the same. -/
theorem ofPlain_plain {d : Descriptor} {p : Plain} (readable : d.Readable) (shown : d.plain = .ok p) :
    ∃ e, ofPlain p = .ok e ∧ e.plain = .ok p := by
  obtain ⟨ps, tasks, rfl⟩ := Outcome.map_eq_ok.1 shown
  obtain ⟨us, read, plain, names⟩ := tasks_of_plain readable tasks
  have distinct : (us.map fun u => u.name.text).Nodup := names ▸ d.distinct
  refine ⟨{ d with tasks := us, distinct := distinct }, ?_, Outcome.map_eq_ok.2 ⟨ps, plain, rfl⟩⟩
  have stated {k : Text} {p : Plain} := Record.get?_ofPlain (k := k) (p := p)
    [("group_id", .text d.groupId), ("artifact_id", .text d.artifactId),
      ("version", .text d.version), ("name", .text d.name), ("description", .optionalText d.description),
      ("goal_prefix", .text d.goalPrefix), ("dependencies", .list (d.dependencies.map Dependency.plain)),
      ("tasks", .list ps)] (by simp [ofString_inj])
  have groupId := stated (k := "group_id") (p := .text d.groupId) (by simp)
  have artifactId := stated (k := "artifact_id") (p := .text d.artifactId) (by simp)
  have version := stated (k := "version") (p := .text d.version) (by simp)
  have name := stated (k := "name") (p := .text d.name) (by simp)
  have description := stated (k := "description") (p := .optionalText d.description) (by simp)
  have goalPrefix := stated (k := "goal_prefix") (p := .text d.goalPrefix) (by simp)
  have dependencies := stated (k := "dependencies") (p := .list (d.dependencies.map Dependency.plain)) (by simp)
  have listed := stated (k := "tasks") (p := .list ps) (by simp)
  rw [Plain.toValue_optionalText] at description
  have passes (t : Text) : Checked.text (Plain.text t).toValue = .ok t := rfl
  have dependenciesRead := Checked.list_plain .notTuple Dependency.ofValue Dependency.plain
    fun dependency (_ : dependency ∈ d.dependencies) => Dependency.ofValue_plain dependency
  have tasksRead : Checked.list .notTuple Task.ofValue (Plain.list ps).toValue = .ok us := by
    rw [Plain.toValue, Plain.itemsToValues_eq]
    exact Checked.each_eq_ok_iff.2 (List.forall₂_map_left_iff.2 read)
  rw [ofPlain, Record.ofValue_plain]
  refine ofParts_checked ?_
  simp only [Record.required_of_get? groupId (passes _), Record.required_of_get? artifactId (passes _),
    Record.required_of_get? version (passes _), Record.required_of_get? name (passes _),
    Record.optionalText_of_get? description, Record.required_of_get? goalPrefix (passes _),
    Record.withDefault_of_get? dependencies, Record.withDefault_of_get? listed, dependenciesRead, tasksRead,
    Checked.located]

end Descriptor

namespace NestedPlugin

/-- A plugin whose one task holds a configuration of all kinds of values. -/
def descriptor : Descriptor where
  groupId := "org.example"
  artifactId := "nested-maven-plugin"
  version := "1.0"
  name := "Nested"
  description := some []
  goalPrefix := "nested"
  dependencies := [⟨"org.example", "report", "2.0", "jar"⟩]
  tasks := [{
    name := ⟨"nest", by decide⟩
    implementation := ⟨"a:Nest", by decide⟩
    description := none
    parameters := [⟨⟨"depth", by decide⟩, "int", true, false, some "1", none, none, none, none⟩]
    phase := some "site"
    requirements := {}
    configuration := [
      ("layers", .map [(.truth true, .tuple [.list [.whole (-3)], .null]), (.text "true", .bytes [104, 105])]),
      ("days", .set [.day ⟨2024, 2, 29⟩])]
    since := none
    deprecated := none
    language := some "decorator"
    distinct := by decide }]
  distinct := by decide

theorem descriptor_readable : descriptor.Readable := by
  refine List.forall_mem_singleton.2 ⟨by decide, ?_⟩
  exact List.forall_mem_singleton.2 (by decide)

theorem reloaded : ∃ p e, descriptor.Readable ∧ descriptor.plain = .ok p ∧
    Descriptor.ofPlain p = .ok e ∧ e.plain = .ok p := by
  obtain ⟨e, read, same⟩ := Descriptor.ofPlain_plain (d := descriptor) descriptor_readable rfl
  exact ⟨_, e, descriptor_readable, rfl, read, same⟩

end NestedPlugin

end TaskCatalog
