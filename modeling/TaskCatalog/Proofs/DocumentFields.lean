import TaskCatalog.Proofs.Declaration
import TaskCatalog.Proofs.Outcome
import TaskCatalog.Proofs.PlainEquality

/-!
What a document keeps of a descriptor. A field that is left out is one without a value, and each field
has only one such state, so two documents are the same just when the descriptors' plain forms are, and
the plain form can be put together again from the document.
-/

namespace TaskCatalog

open Text

theorem GoalName.eq_iff {m n : GoalName} : m = n ↔ m.text = n.text := by
  cases m
  cases n
  simp

theorem Task.configurationPlain_map {t : Task} {c : Plain} (told : t.configurationPlain = .ok c) :
    ∃ entries, c = .map entries := by
  obtain ⟨entries, -, same⟩ := Outcome.map_eq_ok.1 told
  exact ⟨entries, same.symm⟩

namespace Plain

/-- A value that a compact mapping keeps. -/
def stated? (p : Plain) : Option Plain := if p.isUnset then none else some p

section

variable {fs gs : List (Text × Plain)} {k : Text}

theorem compact_cons (p : Plain) :
    compact ((k, p) :: fs) = if p.isUnset then compact fs else (k, p) :: compact fs := by
  cases unset : p.isUnset <;> simp [compact, unset]

theorem lookup_compact (distinct : (fs.map (·.1)).Nodup) (k : Text) :
    (compact fs).lookup k = (fs.lookup k).bind stated? := by
  induction fs with
  | nil => rfl
  | cons f fs ih =>
    obtain ⟨key, p⟩ := f
    rw [List.map_cons, List.nodup_cons] at distinct
    have rest := ih distinct.2
    rw [compact_cons, List.lookup_cons]
    by_cases same : k = key
    · subst same
      rw [beq_self_eq_true, Option.bind_some, stated?]
      cases p.isUnset with
      | true =>
        rw [Association.lookup_of_not_mem distinct.1] at rest
        exact rest
      | false => simp
    · rw [beq_eq_false_iff_ne.2 same]
      cases p.isUnset with
      | true => exact rest
      | false => simpa [List.lookup_cons, beq_eq_false_iff_ne.2 same] using rest

theorem keys_compact : ((compact fs).map (·.1)).Sublist (fs.map (·.1)) := List.filter_sublist.map _

/-- What holds of the values found under each key holds of the values in their order. -/
theorem forall_lookup_iff {P : Option Plain → Option Plain → Prop} (keys : fs.map (·.1) = gs.map (·.1))
    (distinct : (fs.map (·.1)).Nodup) :
    (∀ k ∈ fs.map (·.1), P (fs.lookup k) (gs.lookup k)) ↔
      List.Forall₂ (fun f g => P (some f.2) (some g.2)) fs gs := by
  induction fs generalizing gs with
  | nil =>
    rw [List.map_nil, eq_comm, List.map_eq_nil_iff] at keys
    simp [keys]
  | cons f fs ih =>
    obtain ⟨key, p⟩ := f
    cases gs with
    | nil => cases keys
    | cons g gs =>
      obtain ⟨_, q⟩ := g
      obtain ⟨rfl, tail⟩ := List.cons.inj keys
      rw [List.map_cons, List.nodup_cons] at distinct
      rw [List.forall₂_cons, ← ih tail distinct.2, List.map_cons, List.forall_mem_cons]
      refine and_congr (by simp) (forall_congr' fun k => forall_congr' fun member => ?_)
      have apart : k ≠ key := fun same => distinct.1 (same ▸ member)
      simp only [List.lookup_cons, beq_eq_false_iff_ne.2 apart]

end

section

variable {α β : Type} {S : α → β → Prop} {as cs : List α} {bs ds : List β}

/-- Lists that match item by item stand in the same relation when their items do. -/
theorem forall₂_iff_of_match {Q : β → β → Prop} {R : α → α → Prop}
    (agree : ∀ a b c d, S a b → S c d → (Q b d ↔ R a c)) (left : List.Forall₂ S as bs)
    (right : List.Forall₂ S cs ds) : List.Forall₂ Q bs ds ↔ List.Forall₂ R as cs := by
  induction left generalizing cs ds with
  | nil => cases right <;> simp
  | cons here _ ih =>
    cases right with
    | nil => simp
    | cons there later => rw [List.forall₂_cons, List.forall₂_cons, agree _ _ _ _ here there, ih later]

end

namespace Equality

variable {R : Plain → Plain → Prop} {fs gs : List (Text × Plain)}

/-- Values that are the same just when a compact mapping keeps the same of both. -/
def Settled (R : Plain → Plain → Prop) (p q : Plain) : Prop := Option.Rel R p.stated? q.stated? ↔ R p q

theorem fields (E : Equality R) (keys : fs.map (·.1) = gs.map (·.1)) (distinct : (fs.map (·.1)).Nodup) :
    R (.map fs) (.map gs) ↔ List.Forall₂ (fun f g => R f.2 g.2) fs gs := by
  rw [E.map distinct (List.Sublist.refl _) (keys ▸ List.Sublist.refl _),
    forall_lookup_iff (P := Option.Rel R) keys distinct]
  simp only [Option.rel_some_some]

theorem compact (E : Equality R) (keys : fs.map (·.1) = gs.map (·.1)) (distinct : (fs.map (·.1)).Nodup)
    (settled : List.Forall₂ (fun f g => Settled R f.2 g.2) fs gs) :
    R (.map (compact fs)) (.map (Plain.compact gs)) ↔ List.Forall₂ (fun f g => R f.2 g.2) fs gs := by
  have right : ((Plain.compact gs).map (·.1)).Sublist (fs.map (·.1)) := keys ▸ keys_compact
  rw [E.map distinct keys_compact right]
  simp only [lookup_compact distinct, lookup_compact (keys ▸ distinct)]
  rw [forall_lookup_iff (P := fun o p => Option.Rel R (o.bind stated?) (p.bind stated?)) keys distinct]
  exact ⟨settled.mp fun _ _ kept => kept.1, settled.mp fun _ _ kept => kept.2⟩

theorem settled_text (s t : Text) : Settled R (.text s) (.text t) := Option.rel_some_some

theorem settled_truth (a b : Bool) : Settled R (.truth a) (.truth b) := Option.rel_some_some

theorem settled_optionalText (E : Equality R) (s t : Option Text) :
    Settled R (.optionalText s) (.optionalText t) := by
  cases s <;> cases t <;>
    simp [Settled, optionalText, stated?, isUnset, E.null, E.null_text, E.text_null]

theorem settled_list (E : Equality R) (ps qs : List Plain) : Settled R (.list ps) (.list qs) := by
  cases ps <;> cases qs <;> simp [Settled, stated?, isUnset, E.list]

theorem settled_map (E : Equality R) : Settled R (.map fs) (.map gs) := by
  have both : R (.map []) (.map []) :=
    (E.map List.nodup_nil (List.Sublist.refl _) (List.Sublist.refl _)).2 (by simp)
  cases fs with
  | nil =>
    cases gs with
    | nil => simp [Settled, stated?, isUnset, both]
    | cons g gs =>
      have apart : ¬ R (.map []) (.map (g :: gs)) := fun same => by simpa using E.empty same
      simp [Settled, stated?, isUnset, apart]
  | cons f fs =>
    cases gs with
    | nil =>
      have apart : ¬ R (.map (f :: fs)) (.map []) := fun same => by simpa using E.empty same
      simp [Settled, stated?, isUnset, apart]
    | cons g gs => exact Option.rel_some_some

theorem optionalText (E : Equality R) {s t : Option Text} :
    R (.optionalText s) (.optionalText t) ↔ s = t := by
  cases s <;> cases t <;> simp [Plain.optionalText, E.null, E.null_text, E.text_null, E.text]

theorem listOf (E : Equality R) {α : Type} {f : α → Plain} (determines : ∀ a b, R (f a) (f b) ↔ a = b)
    {as bs : List α} : R (.list (as.map f)) (.list (bs.map f)) ↔ as = bs := by
  rw [E.list, List.forall₂_map_left_iff, List.forall₂_map_right_iff]
  simp only [determines, List.forall₂_eq_eq_eq]

theorem parameter_plain (E : Equality R) (p q : Parameter) : R p.plain q.plain ↔ p = q := by
  refine (E.fields (by rfl) (by simp [ofString_inj])).trans ?_
  cases p
  cases q
  simp [E.text, E.truth, E.optionalText, Subtype.ext_iff]

theorem parameter_document (E : Equality R) (p q : Parameter) : R p.document q.document ↔ p = q := by
  refine (E.compact (by rfl) (by simp [ofString_inj]) ?_).trans ?_
  · simp [settled_text, settled_truth, E.settled_optionalText]
  · cases p
    cases q
    simp [E.text, E.truth, E.optionalText, Subtype.ext_iff]

theorem dependency_plain (E : Equality R) (d e : Dependency) : R d.plain e.plain ↔ d = e := by
  refine (E.fields (by rfl) (by simp [ofString_inj])).trans ?_
  cases d
  cases e
  simp [E.text]

theorem dependency_document (E : Equality R) (d e : Dependency) : R d.document e.document ↔ d = e := by
  refine (E.fields (by rfl) (by simp [ofString_inj])).trans ?_
  cases d
  cases e
  simp [E.text]

theorem requirements_plain (E : Equality R) (r s : Requirements) : R r.plain s.plain ↔ r = s := by
  refine (E.fields (by rfl) (by simp [ofString_inj])).trans ?_
  cases r
  cases s
  simp [E.truth, E.optionalText]

/-- Tasks in both forms are the same when they differ at most in how their configuration is told. -/
theorem task_plain (E : Equality R) {t u : Task} {p q c e : Plain} (told : t.configurationPlain = .ok c)
    (toldToo : u.configurationPlain = .ok e) (shown : t.plain = .ok p) (shownToo : u.plain = .ok q) :
    R p q ↔ { t with configuration := [] } = { u with configuration := [] } ∧ R c e := by
  rw [Task.plain, told] at shown
  rw [Task.plain, toldToo] at shownToo
  cases shown
  cases shownToo
  refine (E.fields (by rfl) (by simp [ofString_inj])).trans ?_
  cases t
  cases u
  simp [E.text, E.optionalText, E.listOf E.parameter_plain, E.requirements_plain, Subtype.ext_iff,
    GoalName.eq_iff]
  tauto

theorem task_document (E : Equality R) {t u : Task} {p q : Plain} {c e : List (Text × Plain)}
    (told : t.configurationPlain = .ok (.map c)) (toldToo : u.configurationPlain = .ok (.map e))
    (shown : t.document = .ok p) (shownToo : u.document = .ok q) :
    R p q ↔ { t with configuration := [] } = { u with configuration := [] } ∧ R (.map c) (.map e) := by
  rw [Task.document, told] at shown
  rw [Task.document, toldToo] at shownToo
  cases shown
  cases shownToo
  refine (E.compact (by rfl) (by simp [ofString_inj]) ?_).trans ?_
  · simp [settled_text, settled_truth, E.settled_optionalText, E.settled_list, E.settled_map]
  cases t with
  | mk name implementation description parameters phase requirements =>
    cases u with
    | mk name' implementation' description' parameters' phase' requirements' =>
      cases requirements
      cases requirements'
      simp [E.text, E.truth, E.optionalText, E.listOf E.parameter_document, Subtype.ext_iff,
        GoalName.eq_iff]
      tauto

end Equality

end Plain

/-- The two forms of one task. -/
def Task.Shown (p e : Plain) : Prop := ∃ t : Task, t.plain = .ok p ∧ t.document = .ok e

theorem Task.document_of_plain {t : Task} {p : Plain} (plain : t.plain = .ok p) : ∃ e, t.document = .ok e := by
  obtain ⟨c, told, -⟩ := Outcome.map_eq_ok.1 plain
  rw [document, told]
  exact ⟨_, rfl⟩

theorem Task.shown_of_mapM {ts : List Task} {ps : List Plain} (plain : ts.mapM Task.plain = .ok ps) :
    ∃ es, ts.mapM Task.document = .ok es ∧ List.Forall₂ Task.Shown ps es := by
  induction ts generalizing ps with
  | nil =>
    cases plain
    exact ⟨[], rfl, .nil⟩
  | cons t ts ih =>
    rw [List.mapM_cons] at plain
    obtain ⟨p, here, plain⟩ := Outcome.bind_eq_ok.1 plain
    obtain ⟨ps, later, plain⟩ := Outcome.bind_eq_ok.1 plain
    cases plain
    obtain ⟨e, document⟩ := Task.document_of_plain here
    obtain ⟨es, documents, shown⟩ := ih later
    refine ⟨e :: es, ?_, .cons ⟨t, here, document⟩ shown⟩
    rw [List.mapM_cons, document, documents]
    rfl

namespace Descriptor

open Plain

def plainFields (d : Descriptor) (tasks : List Plain) : List (Text × Plain) :=
  [("group_id", .text d.groupId), ("artifact_id", .text d.artifactId),
    ("version", .text d.version), ("name", .text d.name),
    ("description", .optionalText d.description), ("goal_prefix", .text d.goalPrefix),
    ("dependencies", .list (d.dependencies.map Dependency.plain)), ("tasks", .list tasks)]

def documentFields (d : Descriptor) (tasks : List Plain) : List (Text × Plain) :=
  [("name", .text d.name), ("description", .optionalText d.description), ("group-id", .text d.groupId),
    ("artifact-id", .text d.artifactId), ("version", .text d.version), ("goal-prefix", .text d.goalPrefix),
    ("tasks", .list tasks), ("dependencies", .list (d.dependencies.map Dependency.document))]

theorem forms_of_plain {d : Descriptor} {p : Plain} (plain : d.plain = .ok p) :
    ∃ ps es, p = .map (d.plainFields ps) ∧ d.document = .ok (compact (d.documentFields es))
      ∧ List.Forall₂ Task.Shown ps es := by
  obtain ⟨ps, listed, rfl⟩ := Outcome.map_eq_ok.1 plain
  obtain ⟨es, documents, shown⟩ := Task.shown_of_mapM listed
  refine ⟨ps, es, rfl, ?_, shown⟩
  rw [document, documents]
  rfl

end Descriptor

namespace Plain

namespace Equality

variable {R : Plain → Plain → Prop}

theorem task (E : Equality R) (p e q f : Plain) (shown : Task.Shown p e) (shownToo : Task.Shown q f) :
    R e f ↔ R p q := by
  obtain ⟨t, plain, document⟩ := shown
  obtain ⟨u, plainToo, documentToo⟩ := shownToo
  obtain ⟨_, told, -⟩ := Outcome.map_eq_ok.1 plain
  obtain ⟨_, toldToo, -⟩ := Outcome.map_eq_ok.1 plainToo
  obtain ⟨c, rfl⟩ := Task.configurationPlain_map told
  obtain ⟨c', rfl⟩ := Task.configurationPlain_map toldToo
  rw [E.task_document told toldToo document documentToo, E.task_plain told toldToo plain plainToo]

theorem descriptor (E : Equality R) (d₁ d₂ : Descriptor) {ps qs es fs : List Plain}
    (shown : List.Forall₂ Task.Shown ps es) (shownToo : List.Forall₂ Task.Shown qs fs) :
    R (.map (Plain.compact (d₁.documentFields es))) (.map (Plain.compact (d₂.documentFields fs))) ↔
      R (.map (d₁.plainFields ps)) (.map (d₂.plainFields qs)) := by
  have tasks : R (.list es) (.list fs) ↔ R (.list ps) (.list qs) := by
    rw [E.list, E.list]
    exact forall₂_iff_of_match E.task shown shownToo
  refine (E.compact (by rfl) (by simp [Descriptor.documentFields, ofString_inj]) ?_).trans
    (Iff.trans ?_ (E.fields (by rfl) (by simp [Descriptor.plainFields, ofString_inj])).symm)
  · simp [Descriptor.documentFields, settled_text, E.settled_optionalText, E.settled_list]
  · simp [Descriptor.documentFields, Descriptor.plainFields, E.text, E.optionalText, tasks,
      E.listOf E.dependency_document, E.listOf E.dependency_plain]
    tauto

end Equality

/-- What stands under a key, or what a key that is left out stands for. -/
def entry (entries : List (Text × Plain)) (key : Text) (absent : Plain) : Plain := (entries.lookup key).getD absent

def entries : Plain → List (Text × Plain)
  | map entries => entries
  | _ => []

def items : Plain → List Plain
  | list items => items
  | _ => []

def restoredParameter (document : Plain) : Plain :=
  let stated := entry document.entries
  .map [("name", stated "name" .null), ("type", stated "type" .null), ("required", stated "required" .null),
    ("editable", stated "editable" .null), ("default_value", stated "default-value" .null),
    ("expression", stated "expression" .null), ("description", stated "description" .null),
    ("since", stated "since" .null), ("deprecated", stated "deprecated" .null)]

def restoredTask (document : Plain) : Plain :=
  let stated := entry document.entries
  .map [("name", stated "goal" .null), ("implementation", stated "implementation" .null),
    ("description", stated "description" .null),
    ("parameters", .list ((stated "parameters" .null).items.map restoredParameter)),
    ("phase", stated "phase" .null),
    ("requirements", .map [("requires_project", stated "requires-project" .null),
      ("requires_online", stated "requires-online" .null), ("aggregator", stated "aggregator" .null),
      ("thread_safe", stated "thread-safe" .null),
      ("dependency_resolution", stated "requires-dependency-resolution" .null)]),
    ("configuration", stated "configuration" (.map [])), ("since", stated "since" .null),
    ("deprecated", stated "deprecated" .null), ("language", stated "language" .null)]

def restoredDependency (document : Plain) : Plain :=
  let stated := entry document.entries
  .map [("group_id", stated "group-id" .null), ("artifact_id", stated "artifact-id" .null),
    ("version", stated "version" .null), ("type", stated "type" .null)]

/-- The plain form of a descriptor, from the entries of its document. -/
def restored (document : List (Text × Plain)) : Plain :=
  let stated := entry document
  .map [("group_id", stated "group-id" .null), ("artifact_id", stated "artifact-id" .null),
    ("version", stated "version" .null), ("name", stated "name" .null),
    ("description", stated "description" .null), ("goal_prefix", stated "goal-prefix" .null),
    ("dependencies", .list ((stated "dependencies" .null).items.map restoredDependency)),
    ("tasks", .list ((stated "tasks" .null).items.map restoredTask))]

section

variable {fs : List (Text × Plain)} (absent : Plain)

theorem entry_compact (distinct : (fs.map (·.1)).Nodup) (k : Text) :
    entry (compact fs) k absent = ((fs.lookup k).bind stated?).getD absent := by
  rw [entry, lookup_compact distinct]

theorem stated?_text (t : Text) : stated? (.text t) = some (.text t) := rfl

theorem stated?_truth (b : Bool) : stated? (.truth b) = some (.truth b) := rfl

theorem stated?_optionalText (t : Option Text) : (stated? (.optionalText t)).getD .null = .optionalText t := by
  cases t <;> rfl

theorem stated?_list (ps : List Plain) : ((stated? (.list ps)).getD .null).items = ps := by
  cases ps <;> rfl

theorem stated?_map (es : List (Text × Plain)) : (stated? (.map es)).getD (.map []) = .map es := by
  cases es <;> rfl

end

theorem restored_parameter (p : Parameter) : restoredParameter p.document = p.plain := by
  simp [restoredParameter, Parameter.document, Parameter.plain, entries, entry_compact, List.lookup_cons, ofString_inj,
    ofString_beq, stated?_text, stated?_truth, stated?_optionalText]

theorem restored_dependency (d : Dependency) : restoredDependency d.document = d.plain := by
  simp [restoredDependency, Dependency.document, Dependency.plain, entries, entry, List.lookup_cons, ofString_beq]

theorem restored_task {p e : Plain} (shown : Task.Shown p e) : restoredTask e = p := by
  obtain ⟨t, plain, document⟩ := shown
  obtain ⟨_, told, -⟩ := Outcome.map_eq_ok.1 plain
  obtain ⟨c, rfl⟩ := Task.configurationPlain_map told
  rw [Task.plain, told] at plain
  rw [Task.document, told] at document
  cases plain
  cases document
  have parameters : (t.parameters.map Parameter.document).map restoredParameter
      = t.parameters.map Parameter.plain := by
    rw [List.map_map]
    exact List.map_congr_left fun p _ => restored_parameter p
  simp only [restoredTask, entries, Requirements.plain, Plain.map.injEq]
  simp [entry_compact, ofString_inj, List.lookup_cons, ofString_beq, stated?_text, stated?_truth,
    stated?_optionalText, stated?_list, stated?_map, parameters]

theorem restored_document (d : Descriptor) {ps es : List Plain} (shown : List.Forall₂ Task.Shown ps es) :
    restored (compact (d.documentFields es)) = .map (d.plainFields ps) := by
  have tasks : es.map restoredTask = ps := by
    rw [← List.forall₂_eq_eq_eq, List.forall₂_map_left_iff]
    exact shown.flip.imp fun _ _ => restored_task
  have dependencies : (d.dependencies.map Dependency.document).map restoredDependency
      = d.dependencies.map Dependency.plain := by
    rw [List.map_map]
    exact List.map_congr_left fun d _ => restored_dependency d
  simp [restored, Descriptor.documentFields, Descriptor.plainFields, entry_compact, ofString_inj, List.lookup_cons,
    ofString_beq, stated?_text, stated?_optionalText, stated?_list, tasks, dependencies]

end Plain

/-- The document of a descriptor says all that its plain form says: two documents are the same just when
the plain forms are, entry for entry or for a reader to whom neither order nor kind of number matters,
and the plain form can be put together again from the document alone. -/
theorem Descriptor.documents_eq_iff {d₁ d₂ : Descriptor} {p₁ p₂ : Plain} (plain₁ : d₁.plain = .ok p₁)
    (plain₂ : d₂.plain = .ok p₂) :
    ∃ e₁ e₂, d₁.document = .ok e₁ ∧ d₂.document = .ok e₂
      ∧ (e₁ = e₂ ↔ p₁ = p₂)
      ∧ (Plain.equals (.map e₁) (.map e₂) = true ↔ Plain.equals p₁ p₂ = true)
      ∧ Plain.restored e₁ = p₁ ∧ Plain.restored e₂ = p₂ := by
  obtain ⟨ps, es, rfl, document₁, shown⟩ := forms_of_plain plain₁
  obtain ⟨qs, fs, rfl, document₂, shownToo⟩ := forms_of_plain plain₂
  refine ⟨_, _, document₁, document₂, ?_, ?_, Plain.restored_document d₁ shown,
    Plain.restored_document d₂ shownToo⟩
  · have same := Plain.equality_eq.descriptor d₁ d₂ shown shownToo
    rwa [Plain.map.injEq] at same
  · exact Plain.equality_equals.descriptor d₁ d₂ shown shownToo

namespace ReportPlugin

/-- A plugin with one task, described as given; its configuration holds nothing in four ways. -/
def descriptor (description : Option Text) : Descriptor where
  groupId := "org.example"
  artifactId := "report-maven-plugin"
  version := "1.0"
  name := "Report"
  description := none
  goalPrefix := "report"
  dependencies := []
  tasks := [{
    name := ⟨"report", by decide⟩
    implementation := ⟨"a:Report", by decide⟩
    description := description
    parameters := []
    phase := none
    requirements := {}
    configuration := [("title", .text []), ("quiet", .truth false), ("skip", .null), ("sizes", .tuple [])]
    since := none
    deprecated := none
    language := some "decorator"
    distinct := by decide }]
  distinct := by simp

theorem documents_differ : ∃ p₁ p₂ e₁ e₂,
    (descriptor none).plain = .ok p₁ ∧ (descriptor (some [])).plain = .ok p₂ ∧
    (descriptor none).document = .ok e₁ ∧ (descriptor (some [])).document = .ok e₂ ∧
    e₁ ≠ e₂ ∧ Plain.equals (.map e₁) (.map e₂) = false ∧ Plain.restored e₁ = p₁ ∧ Plain.restored e₂ = p₂ := by
  obtain ⟨e₁, e₂, document₁, document₂, same, equal, restored₁, restored₂⟩ :=
    @Descriptor.documents_eq_iff (descriptor none) (descriptor (some [])) _ _ rfl rfl
  refine ⟨_, _, e₁, e₂, rfl, rfl, document₁, document₂, ?_, ?_, restored₁, restored₂⟩
  · rw [Ne, same]
    intro described
    cases described
  · rw [Bool.eq_false_iff, Ne, equal]
    decide

end ReportPlugin

end TaskCatalog
