import TaskCatalog.Proofs.ExtractedTasks
import TaskCatalog.Proofs.ScriptStyle

/-!
The read-only flag beside the other flags of a parameter. In script metadata its value is checked as every flag is; a
decorator takes any value, and what counts as nothing for false.
-/

namespace TaskCatalog

open Text Outcome

theorem Site.task_of_names {s : Site} {fields : Record} {ps ps' : List Parameter} {rs : Requirements} {t : Task}
    (made : s.task fields ps rs = .ok t) (same : ps'.map (·.name.val) = ps.map (·.name.val)) :
    ∃ t', s.task fields ps' rs = .ok t' ∧ t'.parameters = ps' := by
  have passed := ofParts_of_task made
  obtain ⟨named, placed, described, taken, rest⟩ := Task.ofParts_eq_ok_iff.1 passed
  have kept : ps = t.parameters := Checked.ok.inj taken
  let t' : Task := { t with parameters := ps', distinct := by rw [same, kept]; exact t.distinct }
  have passed' : Task.ofParts (s.parts fields ps' rs) = .ok t' :=
    Task.ofParts_eq_ok_iff.2 ⟨named, placed, described, rfl, rest⟩
  refine ⟨t', ?_, rfl⟩
  unfold task at made ⊢
  split at made
  · cases made
  · next acyclic => rw [if_neg acyclic, passed']

/-- A parameter of which nothing but its name, its type and its flags is stated. -/
def Parameter.plainly (name : { t : Text // t ≠ [] }) (type : Text) (required editable : Bool) : Parameter :=
  ⟨name, type, required, editable, none, none, none, none, none⟩

/-- The fields of such a parameter, before its flags are checked. -/
def flagFields (name type : Text) (required editable : Value) : List (Text × Value) := [
  ("name", .text name), ("type", .text type), ("required", required), ("editable", editable), ("default_value", .null),
  ("expression", .null), ("description", .null), ("since", .null), ("deprecated", .null)]

theorem Parameter.ofRecord_flagFields {name type : Text} {required editable : Value} {p : Parameter} :
    ofRecord (Record.ofPairs (flagFields name type required editable)) = .ok p ↔
      ∃ n r e, Checked.nonempty (.text name) = .ok n ∧ Checked.truth required = .ok r ∧ Checked.truth editable = .ok e ∧
        p = plainly n type r e := by
  have distinct : ((flagFields name type required editable).map (·.1)).Nodup := by
    simp [flagFields, ofString_inj]
  have stated {field : Text} {v : Value} (h : (field, v) ∈ flagFields name type required editable) :
      (Record.ofPairs (flagFields name type required editable)).get? field = some v := Record.get?_of_mem distinct h
  have absent {field : Text} (h : (field, .null) ∈ flagFields name type required editable) :
      (Record.ofPairs (flagFields name type required editable)).optionalText field = .ok none :=
    Record.optionalText_of_get? (stated h)
  rw [ofRecord_eq_ok_iff, Record.required_eq_of_get? (stated (by simp [flagFields]) : _ = some (.text name)),
    Record.withDefault_of_get? (stated (by simp [flagFields]) : _ = some (.text type)),
    Record.withDefault_of_get? (stated (by simp [flagFields]) : _ = some required),
    Record.withDefault_of_get? (stated (by simp [flagFields]) : _ = some editable)]
  simp only [absent (show (ofString "default_value", Value.null) ∈ _ by simp [flagFields]),
    absent (show (ofString "expression", Value.null) ∈ _ by simp [flagFields]),
    absent (show (ofString "description", Value.null) ∈ _ by simp [flagFields]),
    absent (show (ofString "since", Value.null) ∈ _ by simp [flagFields]),
    absent (show (ofString "deprecated", Value.null) ∈ _ by simp [flagFields]), Checked.located_eq_ok]
  constructor
  · rintro ⟨named, typed, needed, edited, preset, expressed, described, dated, warned⟩
    refine ⟨p.name, p.required, p.editable, named, needed, edited, ?_⟩
    obtain ⟨name, type, required, editable, defaultValue, expression, description, since, deprecated⟩ := p
    cases typed
    cases preset
    cases expressed
    cases described
    cases dated
    cases warned
    rfl
  · rintro ⟨n, r, e, named, needed, edited, rfl⟩
    exact ⟨named, rfl, needed, edited, rfl, rfl, rfl, rfl, rfl⟩

/-- Fields that are flags of a parameter. -/
def AreFlags (flags : List (Text × Value)) : Prop := ∀ flag ∈ flags, flag.1 = "required" ∨ flag.1 = "readonly"

/-- A name and flags. -/
def stating (name : Text) (flags : List (Text × Value)) : List (Text × Value) := ("name", .text name) :: flags

theorem lookup_stating {name field : Text} {flags : List (Text × Value)} (other : field ≠ "name") :
    (stating name flags).lookup field = flags.lookup field := by
  rw [stating, List.lookup_cons, beq_false_of_ne other]

section

variable {flags : List (Text × Value)} {name field : Text} (only : AreFlags flags)
include only

theorem AreFlags.lookup (first : field ≠ "required") (second : field ≠ "readonly") : flags.lookup field = none := by
  refine Association.lookup_of_not_mem fun given => ?_
  obtain ⟨flag, member, rfl⟩ := List.mem_map.1 given
  exact (only flag member).elim first second

theorem AreFlags.lookup_stating (first : field ≠ "required") (second : field ≠ "readonly") (other : field ≠ "name") :
    (stating name flags).lookup field = none :=
  (TaskCatalog.lookup_stating other).trans (only.lookup first second)

theorem AreFlags.named : ∀ o ∈ stating name flags, o.1 = "name" ∨ o.1 = "required" ∨ o.1 = "readonly" :=
  List.forall_mem_cons.2 ⟨.inl rfl, fun flag member => .inr (only flag member)⟩

theorem AreFlags.distinct (once : (flags.map (·.1)).Nodup) : ((stating name flags).map (·.1)).Nodup := by
  rw [stating, List.map_cons, List.nodup_cons]
  refine ⟨fun taken => ?_, once⟩
  obtain ⟨flag, member, same⟩ := List.mem_map.1 taken
  have other : flag.1 ≠ "name" := by
    rcases only flag member with is | is <;> rw [is] <;> decide
  exact other same

end

theorem Record.truth_eq_ok_iff {r : Record} {field : Text} {default b : Bool} :
    r.withDefault field default Checked.truth = .ok b ↔ Checked.truth ((r.get? field).getD (.truth default)) = .ok b := by
  cases stated : r.get? field with
  | none =>
    rw [withDefault, field_of_absent ((stated?_singleton r field).trans stated) default]
    exact Iff.rfl
  | some v =>
    rw [withDefault_of_get? stated, Checked.located_eq_ok]
    exact Iff.rfl

namespace Scripts

variable {s : Site} {name : Text} {flags : List (Text × Value)} {v : Value} {p : Parameter} {read : ScriptParameter}

theorem extras_flags (only : AreFlags flags) :
    (Record.ofPairs (stating name flags)).extras ScriptParameter.fields = [] := by
  refine Record.extras_eq_nil ⟨?_, ?_⟩
  · refine List.forall_mem_map.2 fun o member => ?_
    rcases only.named o member with same | same | same <;> rw [same] <;> decide
  · intro names field a first b second
    obtain ⟨x, member, rfl⟩ := List.mem_map.1 first
    obtain ⟨y, other, rfl⟩ := List.mem_map.1 second
    rcases only.named x member with same | same | same <;> rcases only.named y other with same' | same' | same' <;>
      rw [same, same'] <;> revert names <;> decide

/-- What the entry of a parameter with a name and flags is read as. -/
theorem ofValue_flags (only : AreFlags flags) :
    ScriptParameter.ofValue (mapping (stating name flags)) = .ok read ↔
      ∃ r b, Checked.truth ((flags.lookup (ofString "required")).getD (.truth false)) = .ok r ∧
        Checked.truth ((flags.lookup (ofString "readonly")).getD (.truth false)) = .ok b ∧
        read = ⟨name, "str", r, b, none, none, none, none, none⟩ := by
  have missing (field : Text) (first : field ≠ "required") (second : field ≠ "readonly") (other : field ≠ "name") :
      (Record.ofPairs (stating name flags)).get? field = none :=
    (Record.get?_ofPairs _ field).trans (only.lookup_stating first second other)
  have absent {α : Type} (field : Text) (a : α) (check : Value → Checked α) (first : field ≠ "required")
      (second : field ≠ "readonly") (other : field ≠ "name") :
      (Record.ofPairs (stating name flags)).withDefault field a check = .ok a :=
    Record.field_of_absent ((Record.stated?_singleton _ field).trans (missing field first second other)) a
  have named : (Record.ofPairs (stating name flags)).required "name" Checked.text = .ok name :=
    Record.required_of_get? (Record.get?_ofPairs _ _) rfl
  have default : (Record.ofPairs (stating name flags)).field ["default-value", "default_value"] (some none)
      ScriptParameter.ofRecord.simpleText = .ok none := by
    refine Record.field_of_absent ?_ none
    simp only [Record.stated?, List.find?_cons, missing "default-value" (by decide) (by decide) (by decide),
      missing "default_value" (by decide) (by decide) (by decide)]
    rfl
  have required : (Record.ofPairs (stating name flags)).get? "required" = flags.lookup (ofString "required") :=
    (Record.get?_ofPairs _ _).trans (lookup_stating (by decide))
  have readOnly : (Record.ofPairs (stating name flags)).get? "readonly" = flags.lookup (ofString "readonly") :=
    (Record.get?_ofPairs _ _).trans (lookup_stating (by decide))
  change ScriptParameter.ofRecord (Record.ofPairs (stating name flags)) = .ok read ↔ _
  rw [ScriptParameter.ofRecord, extras_flags only, Checked.closed_nil]
  simp only [Record.optionalText, named, default, absent "type" _ _ (by decide) (by decide) (by decide),
    absent "expression" _ _ (by decide) (by decide) (by decide),
    absent "description" _ _ (by decide) (by decide) (by decide), absent "since" _ _ (by decide) (by decide) (by decide),
    absent "deprecated" _ _ (by decide) (by decide) (by decide), Checked.seq_eq_ok, Checked.fmap_eq_ok,
    Record.truth_eq_ok_iff, required, readOnly]
  constructor
  · rintro ⟨_, _, ⟨_, _, ⟨_, _, ⟨_, _, ⟨_, _, ⟨_, b, ⟨_, r, ⟨_, _, ⟨_, ⟨⟩, rfl⟩, ⟨⟩, rfl⟩, first, rfl⟩, second, rfl⟩, ⟨⟩, rfl⟩,
      ⟨⟩, rfl⟩, ⟨⟩, rfl⟩, ⟨⟩, rfl⟩, ⟨⟩, rfl⟩
    exact ⟨r, b, first, second, rfl⟩
  · rintro ⟨r, b, first, second, rfl⟩
    exact ⟨_, _, ⟨_, _, ⟨_, _, ⟨_, _, ⟨_, _, ⟨_, b, ⟨_, r, ⟨_, _, ⟨_, rfl, rfl⟩, rfl, rfl⟩, first, rfl⟩, second, rfl⟩, rfl, rfl⟩,
      rfl, rfl⟩, rfl, rfl⟩, rfl, rfl⟩, rfl, rfl⟩

/-- What becomes of the entry of a parameter in script metadata. -/
def Declares (s : Site) (entry : Value) (p : Parameter) : Prop :=
  ∃ read, ScriptParameter.ofValue entry = .ok read ∧ s.parameter (parameterFields read) = .ok p

theorem declares_flags (only : AreFlags flags) : Declares s (mapping (stating name flags)) p ↔
    ∃ n r b, Checked.nonempty (.text name) = .ok n ∧
      Checked.truth ((flags.lookup (ofString "required")).getD (.truth false)) = .ok r ∧
      Checked.truth ((flags.lookup (ofString "readonly")).getD (.truth false)) = .ok b ∧
      p = .plainly n "str" r (!b) := by
  have fields (r b : Bool) : parameterFields ⟨name, "str", r, b, none, none, none, none, none⟩ =
      Record.ofPairs (flagFields name "str" (.truth r) (.truth !b)) := rfl
  constructor
  · rintro ⟨read, made, passed⟩
    obtain ⟨r, b, required, readOnly, rfl⟩ := (ofValue_flags only).1 made
    rw [fields, Site.parameter_eq_ok_iff, Parameter.ofRecord_flagFields] at passed
    obtain ⟨n, _, _, readable, ⟨⟩, ⟨⟩, rfl⟩ := passed
    exact ⟨n, r, b, readable, required, readOnly, rfl⟩
  · rintro ⟨n, r, b, readable, required, readOnly, rfl⟩
    refine ⟨_, (ofValue_flags only).2 ⟨r, b, required, readOnly, rfl⟩, ?_⟩
    rw [fields, Site.parameter_eq_ok_iff, Parameter.ofRecord_flagFields]
    exact ⟨n, r, !b, readable, rfl, rfl, rfl⟩

theorem declares_bare_iff : Declares s (mapping (stating name [])) p ↔
    ∃ key, Checked.nonempty (.text name) = .ok key ∧ p = .plainly key "str" false true := by
  refine (declares_flags (List.forall_mem_nil _)).trans ?_
  constructor
  · rintro ⟨key, r, b, readable, ⟨⟩, ⟨⟩, rfl⟩
    exact ⟨key, readable, rfl⟩
  · rintro ⟨key, readable, rfl⟩
    exact ⟨key, false, false, readable, rfl, rfl, rfl⟩

theorem declares_readOnly_iff : Declares s (mapping (stating name [("readonly", v)])) p ↔
    ∃ q b, Declares s (mapping (stating name [])) q ∧ Checked.truth v = .ok b ∧ p = { q with editable := !b } := by
  refine (declares_flags (List.forall_mem_singleton.2 (.inr rfl))).trans ?_
  simp only [declares_bare_iff]
  constructor
  · rintro ⟨key, r, b, readable, ⟨⟩, checked, rfl⟩
    exact ⟨_, b, ⟨key, readable, rfl⟩, checked, rfl⟩
  · rintro ⟨_, b, ⟨key, readable, rfl⟩, checked, rfl⟩
    exact ⟨key, false, b, readable, rfl, checked, rfl⟩

end Scripts

namespace Decorated

variable {s : Site} {annotations : Annotations} {f n e : Code.Expression} {name flag : Text} {v : Value}
  {p : Parameter} {allowed : List Text}

theorem options_flags {keywords : List Code.Keyword} {flags : Options} (named : n.value = .ok (.text name))
    (given : List.Forall₂ Gives keywords flags) (only : AreFlags flags) (once : (flags.map (·.1)).Nodup) :
    options s parameterNames (.call f [n] keywords) = .ok (stating name flags) := by
  have known : ∀ flag ∈ flags, flag.1 ∈ parameterNames := by
    intro flag member
    rcases only flag member with same | same <;> rw [same] <;> decide
  rw [options, literal, named]
  exact addKeywords_gives given known (only.distinct once)

theorem parameter_of_options {os : Options} (given : options s parameterNames e = .ok os)
    (named : os.get? "name" = some (.text name)) (stated : name ≠ []) (unset : os.get? "default" = none) :
    parameter s annotations e = s.parameter (parameterFields annotations os name) := by
  have filled : name.isEmpty = false := by simpa using stated
  have first : os.truthy? "name" = some (.text name) := by
    rw [Options.truthy?, named, Option.filter_some, Value.isFalsy, filled]
    rfl
  have spelled : (os.value "default").isSpelled = true := by
    rw [Options.value, unset]
    rfl
  rw [parameter, given]
  simp only [bind, Except.bind, first, spelled, if_true]

theorem parameterFields_flags {flags : Options} (only : AreFlags flags) (annotations : Annotations) (name : Text) :
    parameterFields annotations (stating name flags) name =
      Record.ofPairs (flagFields name (annotatedType annotations name) ((flags.get? "required").getD (.truth false))
        (.truth (flags.truthy? "readonly").isNone)) := by
  have missing (field : Text) (first : field ≠ "required") (second : field ≠ "readonly") (other : field ≠ "name") :
      (stating name flags).lookup field = none := only.lookup_stating first second other
  have required : (stating name flags).lookup (ofString "required") = flags.lookup (ofString "required") := lookup_stating (by decide)
  have readOnly : (stating name flags).lookup (ofString "readonly") = flags.lookup (ofString "readonly") := lookup_stating (by decide)
  simp only [parameterFields, flagFields, Options.truthy?, Options.value, Options.get?, required, readOnly,
    missing "type" (by decide) (by decide) (by decide), missing "default" (by decide) (by decide) (by decide),
    missing "expression" (by decide) (by decide) (by decide), missing "description" (by decide) (by decide) (by decide),
    missing "since" (by decide) (by decide) (by decide), missing "deprecated" (by decide) (by decide) (by decide)]
  rfl

theorem parameter_flags {flags : Options} (given : options s parameterNames e = .ok (stating name flags))
    (only : AreFlags flags) (stated : name ≠ []) : parameter s annotations e = .ok p ↔
      ∃ n r, Checked.nonempty (.text name) = .ok n ∧
        Checked.truth ((flags.get? "required").getD (.truth false)) = .ok r ∧
        p = .plainly n (annotatedType annotations name) r (flags.truthy? "readonly").isNone := by
  have unset : Options.get? (stating name flags) "default" = none :=
    only.lookup_stating (by decide) (by decide) (by decide)
  rw [parameter_of_options given rfl stated unset, parameterFields_flags only, Site.parameter_eq_ok_iff,
    Parameter.ofRecord_flagFields]
  constructor
  · rintro ⟨n, r, e, readable, checked, flag, rfl⟩
    cases flag
    exact ⟨n, r, readable, checked, rfl⟩
  · rintro ⟨n, r, readable, checked, rfl⟩
    exact ⟨n, r, _, readable, checked, rfl, rfl⟩

/-- A definition with one more decorator, at a place among its own. -/
def Definition.within (d : Definition) (before after : List Code.Expression) (e : Code.Expression) : Definition :=
  { d with decorators := before ++ e :: after }

/-- A definition comes to a task with a parameter of the name. -/
def Definition.Has (c : Conventions) (m : Module) (scope : List Text) (name : Text) (d : Definition) (p : Parameter) :
    Prop :=
  ∃ t, task? c m scope d = .ok (some t) ∧ p ∈ t.parameters ∧ p.name.val = name

def bearing (name : Text) (es : List Code.Expression) : List Code.Expression :=
  es.filter fun e => decoratorName? e == some name

/-- All of a definition is accepted beside a parameter of the name at a place among its decorators. -/
inductive Definition.Admits (c : Conventions) (m : Module) (scope : List Text) (name : Text) (d : Definition)
    (before after : List Code.Expression) (annotations : Annotations) : Prop
  | intro {e : Code.Expression} {os : Options} {first last : List Parameter} {rs : Requirements}
    (only : bearing c.taskDecorator before ++ bearing c.taskDecorator after = [e])
    (given : options (Site.ofLine strategy m.file d.line) taskNames e = .ok os)
    (phase : checkPhase (Site.ofLine strategy m.file d.line) c (os.value "phase") = .ok ())
    (annotated : d.annotations = .ok annotations)
    (above : (bearing c.parameterDecorator before).mapM (parameter (Site.ofLine strategy m.file d.line) annotations) =
      .ok first)
    (below : (bearing c.parameterDecorator after).mapM (parameter (Site.ofLine strategy m.file d.line) annotations) =
      .ok last)
    (required : requirements (Site.ofLine strategy m.file d.line) os = .ok rs)
    (built : ∀ p : Parameter, p.name.val = name → ∃ t, (Site.ofLine strategy m.file d.line).task
      (taskFields os d (m.name ++ ":" ++ join "." (scope ++ [d.name]))) (first ++ p :: last) rs = .ok t)

variable {c : Conventions} {m : Module} {scope : List Text} {d : Definition} {before after : List Code.Expression}

theorem bearing_within (mark : decoratorName? e = some name) :
    (d.within before after e).decoratedBy name = bearing name before ++ e :: bearing name after := by
  rw [Definition.decoratedBy, Definition.within, List.filter_append, List.filter_cons_of_pos (by simpa using mark)]
  rfl

theorem bearing_within_other {other : Text} (mark : decoratorName? e = some name) (apart : name ≠ other) :
    (d.within before after e).decoratedBy other = bearing other before ++ bearing other after := by
  rw [Definition.decoratedBy, Definition.within, List.filter_append, List.filter_cons_of_neg (by simpa [mark] using apart)]
  rfl

/-- What a decorator for a parameter brings to a task does not depend on the rest, if that is accepted. -/
theorem has_within_iff (apart : c.parameterDecorator ≠ c.taskDecorator) (mark : decoratorName? e = some c.parameterDecorator)
    (names : ∀ s annotations p, parameter s annotations e = .ok p → p.name.val = name) :
    (d.within before after e).Has c m scope name p ↔ ∃ annotations, d.Admits c m scope name before after annotations ∧
      parameter (Site.ofLine strategy m.file d.line) annotations e = .ok p := by
  have calls : (d.within before after e).parameterCalls c =
      bearing c.parameterDecorator before ++ e :: bearing c.parameterDecorator after := by
    rw [Definition.parameterCalls, if_neg apart, bearing_within mark]
  have tasks : (d.within before after e).decoratedBy c.taskDecorator =
      bearing c.taskDecorator before ++ bearing c.taskDecorator after := bearing_within_other mark apart
  constructor
  · rintro ⟨t, made, member, named⟩
    cases comes_of_task? made with
    | @task call os annotations ps rs _ only given phase annotated read required built =>
      rw [calls] at read
      obtain ⟨first, q, last, above, here, below, rfl⟩ := mapM_within_iff.1 read
      have taken : t.parameters = first ++ q :: last := (Site.parts_of_task rfl built).2
      have found : q ∈ t.parameters := by simp [taken]
      have same : p = q :=
        List.inj_on_of_nodup_map t.distinct member found (named.trans (names _ _ q here).symm)
      subst same
      refine ⟨annotations, ⟨tasks ▸ only, given, phase, annotated, above, below, required, fun p' named' => ?_⟩, here⟩
      obtain ⟨t', built', -⟩ := Site.task_of_names built (show (first ++ p' :: last).map (·.name.val) = _ by
        simp [named', named])
      exact ⟨t', built'⟩
  · rintro ⟨annotations, ⟨only, given, phase, annotated, above, below, required, built⟩, here⟩
    have named := names _ _ p here
    obtain ⟨t, built⟩ := built p named
    refine ⟨t, task?_of_comes (.task (tasks.trans only) given phase annotated ?_ required built), ?_, named⟩
    · rw [calls]
      exact mapM_within_iff.2 ⟨_, p, _, above, here, below, rfl⟩
    · simp [(Site.parts_of_task rfl built).2]

/-- A definition with one more decorator, for a parameter, that is called with a name and keywords. -/
def Definition.calling (d : Definition) (before after : List Code.Expression) (f n : Code.Expression)
    (keywords : List Code.Keyword) : Definition :=
  d.within before after (.call f [n] keywords)

/-- What flags make of the parameter of a decorator. -/
theorem has_flags_iff {keywords : List Code.Keyword} {flags : Options} (apart : c.parameterDecorator ≠ c.taskDecorator)
    (bears : Bears f c.parameterDecorator) (named : n.value = .ok (.text name)) (stated : name ≠ [])
    (given : List.Forall₂ Gives keywords flags) (only : AreFlags flags) (once : (flags.map (·.1)).Nodup) :
    (d.calling before after f n keywords).Has c m scope name p ↔ ∃ annotations key r,
      d.Admits c m scope name before after annotations ∧ Checked.nonempty (.text name) = .ok key ∧
      Checked.truth ((flags.get? "required").getD (.truth false)) = .ok r ∧
      p = .plainly key (annotatedType annotations name) r (flags.truthy? "readonly").isNone := by
  have mark : decoratorName? (.call f [n] keywords) = some c.parameterDecorator :=
    decoratorName?_eq_some_iff.2 (.called bears [n] keywords)
  have read (s : Site) (annotations : Annotations) (p : Parameter) :
      parameter s annotations (.call f [n] keywords) = .ok p ↔ ∃ key r, Checked.nonempty (.text name) = .ok key ∧
        Checked.truth ((flags.get? "required").getD (.truth false)) = .ok r ∧
        p = .plainly key (annotatedType annotations name) r (flags.truthy? "readonly").isNone :=
    parameter_flags (options_flags named given only once) only stated
  have names (s : Site) (annotations : Annotations) (p : Parameter)
      (made : parameter s annotations (.call f [n] keywords) = .ok p) : p.name.val = name := by
    obtain ⟨key, r, readable, -, rfl⟩ := (read s annotations p).1 made
    exact Checked.val_of_nonempty readable
  rw [Definition.calling, has_within_iff apart mark names]
  simp only [read]
  constructor
  · rintro ⟨annotations, admits, key, r, readable, checked, same⟩
    exact ⟨annotations, key, r, admits, readable, checked, same⟩
  · rintro ⟨annotations, key, r, admits, readable, checked, same⟩
    exact ⟨annotations, admits, key, r, readable, checked, same⟩

section

variable (apart : c.parameterDecorator ≠ c.taskDecorator) (bears : Bears f c.parameterDecorator)
  (named : n.value = .ok (.text name)) (stated : name ≠ [])
include apart bears named stated

theorem has_bare_iff : (d.calling before after f n []).Has c m scope name p ↔
    ∃ annotations key, d.Admits c m scope name before after annotations ∧ Checked.nonempty (.text name) = .ok key ∧
      p = .plainly key (annotatedType annotations name) false true := by
  refine (has_flags_iff apart bears named stated .nil (List.forall_mem_nil _) List.nodup_nil).trans ?_
  constructor
  · rintro ⟨annotations, key, r, admits, readable, ⟨⟩, rfl⟩
    exact ⟨annotations, key, admits, readable, rfl⟩
  · rintro ⟨annotations, key, admits, readable, rfl⟩
    exact ⟨annotations, key, false, admits, readable, rfl, rfl⟩

variable (literal : e.value = .ok v)
include literal

/-- Any value is accepted as the read-only flag of a decorator. -/
theorem has_readOnly_iff : (d.calling before after f n [.mk (some "readonly") e]).Has c m scope name p ↔
    ∃ q, (d.calling before after f n []).Has c m scope name q ∧ p = { q with editable := v.isFalsy } := by
  have falsy : (Options.truthy? [("readonly", v)] "readonly").isNone = v.isFalsy := by
    change (Option.filter (fun v => !v.isFalsy) (some v)).isNone = v.isFalsy
    cases falsy : v.isFalsy <;> simp [falsy]
  have given : List.Forall₂ Gives [.mk (some "readonly") e] [("readonly", v)] := .cons ⟨literal⟩ .nil
  have only : AreFlags [("readonly", v)] := List.forall_mem_singleton.2 (.inr rfl)
  refine (has_flags_iff apart bears named stated given only (List.nodup_singleton _)).trans ?_
  simp only [has_bare_iff apart bears named stated, falsy]
  constructor
  · rintro ⟨annotations, key, r, admits, readable, ⟨⟩, rfl⟩
    exact ⟨_, ⟨annotations, key, admits, readable, rfl⟩, rfl⟩
  · rintro ⟨_, ⟨annotations, key, admits, readable, rfl⟩, rfl⟩
    exact ⟨annotations, key, false, admits, readable, rfl, rfl⟩

theorem has_required_iff : (d.calling before after f n [.mk (some "required") e]).Has c m scope name p ↔
    ∃ q b, (d.calling before after f n []).Has c m scope name q ∧ Checked.truth v = .ok b ∧
      p = { q with required := b } := by
  have given : List.Forall₂ Gives [.mk (some "required") e] [("required", v)] := .cons ⟨literal⟩ .nil
  have only : AreFlags [("required", v)] := List.forall_mem_singleton.2 (.inl rfl)
  refine (has_flags_iff apart bears named stated given only (List.nodup_singleton _)).trans ?_
  simp only [has_bare_iff apart bears named stated]
  constructor
  · rintro ⟨annotations, key, r, admits, readable, checked, rfl⟩
    exact ⟨_, r, ⟨annotations, key, admits, readable, rfl⟩, checked, rfl⟩
  · rintro ⟨_, b, ⟨annotations, key, admits, readable, rfl⟩, checked, rfl⟩
    exact ⟨annotations, key, b, admits, readable, checked, rfl⟩

end

/-- A value as the read-only flag of a decorator, as the other flag of one, and as the read-only flag in script metadata:
it is accepted by all or by none, and read-only is the negation of what the other flag is. -/
structure FlagsAgree (readOnly required scripted : Parameter → Prop) : Prop where
  accepted : (∃ p, readOnly p) ↔ ∃ p, required p
  negated : ∀ p q, readOnly p → required q → p.editable = !q.required
  acceptedScript : (∃ p, scripted p) ↔ ∃ p, readOnly p
  same : ∀ p q, scripted p → readOnly q → p.editable = q.editable

/-- As the read-only flag a decorator takes any value, and the parameter is editable if the value counts as nothing; the
other flag and that of script metadata must be a truth value of some form. All agree where the value is such a form and
counts as nothing just if it is false. -/
theorem readOnly_agrees_iff (before after : List Code.Expression) (scope : List Text) (s : Site)
    (apart : c.parameterDecorator ≠ c.taskDecorator) (bears : Bears f c.parameterDecorator)
    (named : n.value = .ok (.text name)) (stated : name ≠ []) (literal : e.value = .ok v) :
    let has (keywords : List Code.Keyword) := (d.calling before after f n keywords).Has c m scope name
    let declares (flags : List (Text × Value)) := Scripts.Declares s (Scripts.mapping (stating name flags))
    (∀ p, has [.mk (some "readonly") e] p ↔ ∃ q, has [] q ∧ p = { q with editable := v.isFalsy }) ∧
    (∀ p, has [.mk (some "required") e] p ↔
      ∃ q b, has [] q ∧ Checked.truth v = .ok b ∧ p = { q with required := b }) ∧
    (∀ p, declares [("readonly", v)] p ↔
      ∃ q b, declares [] q ∧ Checked.truth v = .ok b ∧ p = { q with editable := !b }) ∧
    ((∃ q, has [] q) → (FlagsAgree (has [.mk (some "readonly") e]) (has [.mk (some "required") e])
      (declares [("readonly", v)]) ↔ Checked.truth v = .ok (!v.isFalsy))) := by
  intro has declares
  have readOnly (p : Parameter) : has [.mk (some "readonly") e] p ↔ _ :=
    has_readOnly_iff apart bears named stated literal
  have required (p : Parameter) : has [.mk (some "required") e] p ↔ _ :=
    has_required_iff apart bears named stated literal
  have scripted (p : Parameter) : declares [("readonly", v)] p ↔ _ := Scripts.declares_readOnly_iff
  refine ⟨readOnly, required, scripted, ?_⟩
  rintro ⟨q, accepted⟩
  obtain ⟨annotations, key, -, readable, -⟩ := (has_bare_iff apart bears named stated).1 accepted
  have entry : declares [] (.plainly key "str" false true) := Scripts.declares_bare_iff.2 ⟨key, readable, rfl⟩
  constructor
  · intro agree
    obtain ⟨p, given⟩ := agree.accepted.1 ⟨_, (readOnly _).2 ⟨q, accepted, rfl⟩⟩
    obtain ⟨_, b, -, checked, -⟩ := (required p).1 given
    have flipped : v.isFalsy = !b :=
      agree.negated _ _ ((readOnly _).2 ⟨q, accepted, rfl⟩) ((required _).2 ⟨q, b, accepted, checked, rfl⟩)
    rw [checked, flipped, Bool.not_not]
  · intro checked
    refine ⟨iff_of_true ⟨_, (readOnly _).2 ⟨q, accepted, rfl⟩⟩ ⟨_, (required _).2 ⟨q, _, accepted, checked, rfl⟩⟩, ?_,
      iff_of_true ⟨_, (scripted _).2 ⟨_, _, entry, checked, rfl⟩⟩ ⟨_, (readOnly _).2 ⟨q, accepted, rfl⟩⟩, ?_⟩
    · intro p p' first second
      obtain ⟨_, -, rfl⟩ := (readOnly p).1 first
      obtain ⟨_, b, -, same, rfl⟩ := (required p').1 second
      cases checked.symm.trans same
      exact (Bool.not_not _).symm
    · intro p p' first second
      obtain ⟨_, b, -, same, rfl⟩ := (scripted p).1 first
      obtain ⟨_, -, rfl⟩ := (readOnly p').1 second
      cases checked.symm.trans same
      exact Bool.not_not _

end Decorated

namespace ReadOnlyWord

open SoleModule (file)

def word (t : Text) : Code.Expression := .constant (.text t) false

def task : Code.Expression := .call (.name "task") [word "a"] []

def definition : Decorated.Definition := ⟨3, "A", [], .ok [], none⟩

/-- The parameters of a class with a decorator for the task and one for a parameter, by what is stated of it. -/
def Has (keywords : List Code.Keyword) : Parameter → Prop :=
  (definition.calling [task] [] (.name "parameter") (word "p") keywords).Has .default ⟨file, "a", []⟩ [] "p"

/-- A word for false is accepted as each of the flags, but the read-only flag of a decorator takes it for true. -/
theorem disagrees : (∃ q, Has [] q) ∧
    ¬ Decorated.FlagsAgree (Has [.mk (some "readonly") (word "no")]) (Has [.mk (some "required") (word "no")])
      (Scripts.Declares ⟨"script", []⟩ (Scripts.mapping (stating "p" [("readonly", .text "no")]))) := by
  have apart : Conventions.default.parameterDecorator ≠ Conventions.default.taskDecorator := by decide
  have stated : ("p" : Text) ≠ [] := by decide
  have no : Checked.truth (.text "no") = .ok false := by rfl
  have agree := (Decorated.readOnly_agrees_iff (d := definition) (m := ⟨file, "a", []⟩) (n := word "p") (e := word "no")
    [task] [] [] ⟨"script", []⟩ apart (.alone "parameter") rfl stated rfl).2.2.2
  have bare : ((Decorated.task? .default ⟨file, "a", []⟩ []
      (definition.calling [task] [] (.name "parameter") (word "p") [])).toOption.any fun o =>
        o.any fun t => t.parameters.any fun p => p.name.val == "p") = true := by
    decide +kernel
  obtain ⟨o, made, some⟩ := (Option.any_eq_true _ _).1 bare
  obtain ⟨t, rfl, taken⟩ := (Option.any_eq_true _ _).1 some
  obtain ⟨q, member, named⟩ := List.any_eq_true.1 taken
  have has : ∃ q, Has [] q := ⟨q, t, toOption_eq_some.1 made, member, beq_iff_eq.1 named⟩
  refine ⟨has, fun all => ?_⟩
  cases no.symm.trans ((agree has).1 all)

/-- A class with a parameter that has one flag, which is a word for false. -/
def module (flag : String) : List Char :=
  ("@task('a')\n@parameter('p', " ++ flag ++ "='no')\nclass A: pass\n").toList

def flags (t : Task) : List (Bool × Bool) := t.parameters.map fun p => (p.required, p.editable)

theorem extracted {flag : String} {shown : List (List (Bool × Bool))}
    (files : (SoleModule.sources (module flag)).files [Module.suffix] = [(SoleModule.root, file)])
    (text : (Sources.readText (SoleModule.sources (module flag)).fs Conventions.default.sourceEncoding file).toOption =
      some (module flag))
    (marked : includes Conventions.default.taskDecorator (ofChars (module flag)) = true)
    (found : (((Code.parse (module flag)).toOption.bind fun statements =>
      Decorated.tasksWithin 2 .default ⟨file, "a", statements⟩).map (·.map flags)) = some shown) :
    ∃ ts, (Decorated.extract (SoleModule.sources (module flag))).result = .ok ts ∧ ts.map flags = shown := by
  obtain ⟨ts, made, same⟩ := Option.map_eq_some_iff.1 found
  exact ⟨ts, SoleModule.extracted files (toOption_eq_some.1 text) marked made, same⟩

/-- The word is false as the one flag, and counts for true as the read-only flag. -/
theorem departs :
    (∃ ts, (Decorated.extract (SoleModule.sources (module "required"))).result = .ok ts ∧
      ts.map flags = [[(false, true)]]) ∧
    (∃ ts, (Decorated.extract (SoleModule.sources (module "readonly"))).result = .ok ts ∧
      ts.map flags = [[(false, false)]]) :=
  ⟨extracted (by decide +kernel) (by decide +kernel) (by decide +kernel) (by decide +kernel),
    extracted (by decide +kernel) (by decide +kernel) (by decide +kernel) (by decide +kernel)⟩

end ReadOnlyWord

end TaskCatalog
