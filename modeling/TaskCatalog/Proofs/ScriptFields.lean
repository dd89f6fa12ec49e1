import TaskCatalog.Proofs.Declaration
import TaskCatalog.Proofs.Declarations

/-!
What script metadata that passes its checks says of the tasks and parameters that are made of it: each stated field
passed its own check, under whichever of its names it is stated, and goes into the task as it is.
-/

namespace TaskCatalog

open Text Outcome

namespace Record

variable {r : Record} {names : List Text} {name : Text} {v : Value} {α : Type} {a : α} {check : Value → Checked α}

theorem passed_of_stated {absent : Option α} (stated : r.stated? names = some v) (passed : r.field names absent check = .ok a) :
    check v = .ok a := by
  obtain ⟨name, found, there⟩ := Option.bind_eq_some_iff.1 stated
  simp only [Record.field, found, there, Option.getD_some, Checked.located_eq_ok] at passed
  exact passed

theorem passed_of_get? {default : α} (there : r.get? name = some v) (passed : r.withDefault name default check = .ok a) :
    check v = .ok a :=
  passed_of_stated ((stated?_singleton r name).trans there) passed

/-- In a record with nothing else in it, a field is stated under no more than one of its names. -/
theorem stated?_of_extras {fields : List (List Text)} (none : r.extras fields = [])
    (only : ∀ others ∈ fields, name ∈ others → others = names) (there : r.get? name = some v) :
    r.stated? names = some v := by
  obtain ⟨⟨key, w⟩, found, rfl⟩ := Option.map_eq_some_iff.1 there
  obtain rfl : key = .text name := by simpa using List.find?_some found
  have used := List.filterMap_eq_nil_iff.1 none _ (List.mem_of_find?_eq_some found)
  dsimp only at used
  split at used
  · next member =>
    obtain ⟨others, known, first⟩ := List.mem_filterMap.1 (List.contains_iff_mem.1 member)
    obtain rfl := only others known (List.mem_of_find?_eq_some first)
    rw [stated?, first]
    exact there
  · cases used

variable {pairs : List (Text × Value)}

theorem eq_of_text {t u default : Text} (stated : pairs.lookup name = some (.text t))
    (passed : (ofPairs pairs).withDefault name default Checked.text = .ok u) : u = t :=
  (Checked.ok.inj (show Checked.ok t = .ok u from passed_of_get? ((get?_ofPairs pairs name).trans stated) passed)).symm

theorem eq_of_truth {b c default : Bool} (stated : pairs.lookup name = some (.truth b))
    (passed : (ofPairs pairs).withDefault name default Checked.truth = .ok c) : c = b :=
  (Checked.ok.inj (show Checked.ok b = .ok c from passed_of_get? ((get?_ofPairs pairs name).trans stated) passed)).symm

theorem eq_of_optionalText {t u : Option Text} (stated : pairs.lookup name = some (Value.ofText? t))
    (passed : (ofPairs pairs).optionalText name = .ok u) : u = t :=
  Checked.ok.inj (passed.symm.trans (optionalText_of_get? ((get?_ofPairs pairs name).trans stated)))

end Record

theorem ScriptParameter.ofRecord_eq_ok_iff {r : Record} {p : ScriptParameter} : ofRecord r = .ok p ↔
    r.extras fields = [] ∧ r.required "name" Checked.text = .ok p.name ∧
      r.withDefault "type" (ofString "str") Checked.text = .ok p.type ∧
      r.withDefault "required" false Checked.truth = .ok p.required ∧
      r.withDefault "readonly" false Checked.truth = .ok p.readOnly ∧
      r.field ["default-value", "default_value"] (some none) ofRecord.simpleText = .ok p.defaultValue ∧
      r.optionalText "expression" = .ok p.expression ∧ r.optionalText "description" = .ok p.description ∧
      r.withDefault "since" none ofRecord.simpleText = .ok p.since ∧ r.optionalText "deprecated" = .ok p.deprecated := by
  simp only [ofRecord, Checked.closed_eq_ok, Checked.seq_eq_ok, Checked.fmap_eq_ok]
  constructor
  · rintro ⟨none, _, _, ⟨_, _, ⟨_, _, ⟨_, _, ⟨_, _, ⟨_, _, ⟨_, _, ⟨_, _, ⟨_, named, rfl⟩, typed, rfl⟩, needed, rfl⟩, fixed, rfl⟩,
      preset, rfl⟩, expressed, rfl⟩, described, rfl⟩, dated, rfl⟩, warned, rfl⟩
    exact ⟨none, named, typed, needed, fixed, preset, expressed, described, dated, warned⟩
  · rintro ⟨none, named, typed, needed, fixed, preset, expressed, described, dated, warned⟩
    exact ⟨none, _, _, ⟨_, _, ⟨_, _, ⟨_, _, ⟨_, _, ⟨_, _, ⟨_, _, ⟨_, _, ⟨_, named, rfl⟩, typed, rfl⟩, needed, rfl⟩, fixed, rfl⟩,
      preset, rfl⟩, expressed, rfl⟩, described, rfl⟩, dated, rfl⟩, warned, rfl⟩

theorem ScriptTask.ofRecord_eq_ok_iff {r : Record} {e : ScriptTask} : ofRecord r = .ok e ↔
    r.extras fields = [] ∧ r.required "goal" Checked.text = .ok e.goal ∧ r.required "call" Checked.text = .ok e.call ∧
      r.optionalText "description" = .ok e.description ∧ r.optionalText "phase" = .ok e.phase ∧
      requirementsOf r = .ok e.requirements ∧
      r.withDefault "since" none (fun v => (Checked.numberAsText v).andThen (Checked.optional Checked.text)) = .ok e.since ∧
      r.optionalText "deprecated" = .ok e.deprecated ∧
      r.withDefault "parameters" [] (Checked.list .notList ScriptParameter.ofValue) = .ok e.parameters ∧
      r.withDefault "configuration" [] Checked.mapping = .ok e.configuration := by
  simp only [ofRecord, Checked.closed_eq_ok, Checked.seq_eq_ok, Checked.fmap_eq_ok]
  constructor
  · rintro ⟨none, _, _, ⟨_, _, ⟨_, _, ⟨_, _, ⟨_, _, ⟨_, _, ⟨_, _, ⟨_, _, ⟨_, named, rfl⟩, called, rfl⟩, described, rfl⟩, phase,
      rfl⟩, required, rfl⟩, dated, rfl⟩, warned, rfl⟩, taken, rfl⟩, configured, rfl⟩
    exact ⟨none, named, called, described, phase, required, dated, warned, taken, configured⟩
  · rintro ⟨none, named, called, described, phase, required, dated, warned, taken, configured⟩
    exact ⟨none, _, _, ⟨_, _, ⟨_, _, ⟨_, _, ⟨_, _, ⟨_, _, ⟨_, _, ⟨_, _, ⟨_, named, rfl⟩, called, rfl⟩, described, rfl⟩, phase,
      rfl⟩, required, rfl⟩, dated, rfl⟩, warned, rfl⟩, taken, rfl⟩, configured, rfl⟩

namespace Scripts

variable {s : Sources} {root file : Path} {e : ScriptTask} {t : Task} {p : ScriptParameter} {q : Parameter}

/-- A parameter as its entry states it. -/
structure Takes (p : ScriptParameter) (q : Parameter) : Prop where
  name : q.name.val = p.name
  type : q.type = p.type
  required : q.required = p.required
  editable : q.editable = !p.readOnly
  defaultValue : q.defaultValue = p.defaultValue
  expression : q.expression = p.expression
  description : q.description = p.description
  since : q.since = p.since
  deprecated : q.deprecated = p.deprecated

theorem takes_of_parameter {site : Site} (made : site.parameter (parameterFields p) = .ok q) : Takes p q := by
  obtain ⟨named, typed, needed, edited, preset, expressed, described, dated, warned⟩ :=
    Parameter.ofRecord_eq_ok_iff.1 (Site.parameter_eq_ok_iff.1 made)
  exact ⟨Record.text_of_required rfl named, Record.eq_of_text rfl typed, Record.eq_of_truth rfl needed,
    Record.eq_of_truth rfl edited, Record.eq_of_optionalText rfl preset, Record.eq_of_optionalText rfl expressed,
    Record.eq_of_optionalText rfl described, Record.eq_of_optionalText rfl dated, Record.eq_of_optionalText rfl warned⟩

/-- A task as its entry states it, apart from its name and where its script lies. -/
structure Follows (e : ScriptTask) (t : Task) : Prop where
  description : t.description = e.description
  phase : t.phase = e.phase
  requirements : t.requirements = e.requirements
  since : t.since = e.since
  deprecated : t.deprecated = e.deprecated
  parameters : List.Forall₂ Takes e.parameters t.parameters

theorem follows_of_task (h : task s root file e = .ok t) : Follows e t := by
  obtain ⟨-, -, ps, parts, taken, -, made⟩ := made_of_task h
  have built := Task.ofParts_eq_ok_iff.1 (Site.ofParts_of_task made)
  simp only [Site.parts, taskFields] at built
  obtain ⟨-, -, described, parameters, phase, required, -, dated, warned, -⟩ := built
  refine ⟨Record.eq_of_optionalText rfl described, Record.eq_of_optionalText rfl phase, (Checked.ok.inj required).symm,
    Record.eq_of_optionalText rfl dated, Record.eq_of_optionalText rfl warned, ?_⟩
  rw [← Checked.ok.inj parameters]
  exact (forall₂_of_mapM taken).imp fun _ _ => takes_of_parameter

end Scripts

end TaskCatalog
