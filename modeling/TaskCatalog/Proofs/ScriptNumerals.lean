import TaskCatalog.Proofs.DocumentPlaces
import TaskCatalog.Proofs.ExactNumerals
import TaskCatalog.Proofs.ScalarTexts
import TaskCatalog.Proofs.ScriptFields

/-!
Numerals in script metadata. A version or a default value that stands there without quotes is a number before it is
looked at, and what is stored is how that number is written. Whole numbers come back as they stand, the others only
where they stand as a float is written.
-/

namespace TaskCatalog

open Text Number Outcome

theorem Yaml.ofInt_digitsValue {ds : List Char} (digits : AreDigits ds) (unpadded : Unpadded ds) :
    ofInt (digitsValue ds) = ofChars ds := by
  rw [ofInt_eq, Int.natAbs_natCast, decimalDigits_digitsValue digits unpadded,
    decide_eq_false (Int.not_lt.2 (Int.natCast_nonneg _))]
  rfl

namespace Yaml.Node

/-- A scalar that stands in a document by itself, without quotes or a tag. -/
def plain (t : Text) : Node := .scalar (Composer.scalarTag none true t) t

def plainText? : Node → Option Text
  | .scalar tag t => if tag = Composer.scalarTag none true t then some t else none
  | _ => none

variable {n : Node} {t : Text} {fuel : Nat} {v : Value}

theorem eq_plain (text : n.plainText? = some t) : n = .plain t := by
  unfold plainText? at text
  split at text
  · split at text
    · next tag =>
      cases text
      rw [plain, ← tag]
    · cases text
  · cases text

theorem scalarValue_of_plain {k : Kind} (spelled : Tag.ofSpelling t = .known k) (numeric : k = .whole ∨ k = .real)
    (read : (plain t).value fuel = .ok v) : scalarValue k t = .ok v := by
  cases fuel with
  | zero => cases read
  | succ fuel =>
    have same : plain t = .scalar (.known k) t := congrArg (Node.scalar · t) spelled
    rw [same] at read
    rcases numeric with rfl | rfl
    · exact Built.now_eq_ok.1 read
    · exact Built.now_eq_ok.1 read

theorem whole_of_plain {ds : List Char} (digits : AreDigits ds) (unpadded : Unpadded ds)
    (read : (plain (Text.ofChars ds)).value fuel = .ok v) : v = .whole (digitsValue ds) := by
  have spelled := ofSpelling_whole (digitsValue ds)
  rw [ofInt_digitsValue digits unpadded] at spelled
  have made := scalarValue_of_plain spelled (.inl rfl) read
  rw [scalarValue, chars?_ofChars] at made
  obtain ⟨n, whole, rfl⟩ := map_eq_ok.1 made
  rw [← decimalDigits_digitsValue digits unpadded] at whole
  rw [eq_of_whole whole]

theorem real_of_plain (n : Numeral) (read : (plain (Text.ofChars n.chars)).value fuel = .ok v) :
    v = .real (ofDecimal n.decimal.digits n.decimal.exponent) := by
  have made := scalarValue_of_plain (ofSpelling_numeral false n) (.inr rfl) read
  obtain ⟨x, real, rfl⟩ := map_eq_ok.1 made
  exact congrArg Value.real (Except.ok.inj (real.symm.trans (real_numeral false n)))

end Yaml.Node

namespace Scripts

/-- What is stored where a node is a bare numeral: of digits alone it is the numeral, and of a numeral with a point it is
what its float is written as. This is the numeral only if no zero could be left out at its end, if its number needs no
exponent and if it has no more than seventeen digits; then it is if it has no more than fifteen. -/
structure Stores (node : Yaml.Node) (stored : Option Text) : Prop where
  whole : ∀ ds, AreDigits ds → Unpadded ds → node = .plain (ofChars ds) → stored = some (ofChars ds)
  written : ∀ n : Numeral, node = .plain (ofChars n.chars) →
    stored = some (floatText .literal (ofDecimal n.decimal.digits n.decimal.exponent))
  only : ∀ n : Numeral, n.IsPlain → node = .plain (ofChars n.chars) → stored = some (ofChars n.chars) →
    Untrailed n.fraction ∧ IsNear n.decimal.value ∧ HasDigits 17 n.decimal.value
  kept : ∀ n : Numeral, n.IsPlain → node = .plain (ofChars n.chars) → Untrailed n.fraction → IsNear n.decimal.value →
    HasDigits 15 n.decimal.value → stored = some (ofChars n.chars)

variable {stored : Option Text}

theorem stored_of_whole {n : Int}
    (passed : (Checked.numberAsText (.whole n)).andThen (Checked.optional Checked.text) = .ok stored) :
    stored = some (ofInt n) := by
  obtain ⟨v, text, passed⟩ := Checked.andThen_eq_ok.1 passed
  change (if _ then _ else _) = _ at text
  split at text
  · cases text
    exact (Checked.ok.inj passed).symm
  · cases text

/-- The checks of versions and of default values treat numbers alike. -/
theorem stores_of_check {check : Value → Checked (Option Text)} {node : Yaml.Node} {fuel : Nat} {v : Value}
    (whole : ∀ n, check (.whole n) = (Checked.numberAsText (.whole n)).andThen (Checked.optional Checked.text))
    (real : ∀ x, check (.real x) = .ok (some (floatText .literal x))) (read : node.value fuel = .ok v)
    (passed : check v = .ok stored) : Stores node stored := by
  have written (n : Numeral) (same : node = .plain (ofChars n.chars)) :
      stored = some (floatText .literal (ofDecimal n.decimal.digits n.decimal.exponent)) := by
    subst same
    cases Yaml.Node.real_of_plain n read
    rw [real] at passed
    exact (Checked.ok.inj passed).symm
  refine ⟨fun ds digits unpadded same => ?_, written, fun n isPlain same stays => ?_,
    fun n isPlain same untrailed near few => ?_⟩
  · subst same
    cases Yaml.Node.whole_of_plain digits unpadded read
    rw [whole] at passed
    rw [stored_of_whole passed, Yaml.ofInt_digitsValue digits unpadded]
  · exact untrailed_of_floatText isPlain (Option.some.inj ((written n same).symm.trans stays))
  · rw [written n same, floatText_numeral isPlain untrailed near few]

/-- The keys of a default value. -/
def presetKeys : List Text := ["default-value", "default_value"]

structure ParameterStores (node : Yaml.Node) (q : Parameter) : Prop where
  since : ∀ m, node.field? "since" = some m → Stores m q.since
  defaultValue : ∀ key m, key ∈ presetKeys → node.field? key = some m → Stores m q.defaultValue

structure TaskStores (node : Yaml.Node) (t : Task) : Prop where
  since : ∀ m, node.field? "since" = some m → Stores m t.since
  parameters : ∀ list, node.field? "parameters" = some list → ∀ i m, list.item? i = some m →
    ∃ q, t.parameters[i]? = some q ∧ ParameterStores m q

variable {s : Sources} {root file : Path} {node : Yaml.Node} {fuel : Nat} {v : Value} {t : Task} {q : Parameter}

theorem get?_of_field {model name : Text} {r : Record} {m : Yaml.Node} (read : node.value fuel = .ok v)
    (record : Record.ofValue model v = .ok r) (field : node.field? name = some m) :
    ∃ w left, r.get? name = some w ∧ m.value left = .ok w := by
  obtain ⟨es, w, left, rfl, there, value⟩ := Yaml.Node.value_field field read
  cases record
  exact ⟨w, left, there, value⟩

/-- What a list of models makes of its items, one of each. -/
theorem of_item {α : Type} {kind : ProblemKind} {check : Value → Checked α} {as : List α} {i : Nat} {m : Yaml.Node}
    (read : node.value fuel = .ok v) (passed : Checked.list kind check v = .ok as) (item : node.item? i = some m) :
    ∃ a w left, as[i]? = some a ∧ check w = .ok a ∧ m.value left = .ok w := by
  obtain ⟨vs, w, left, rfl, there, value⟩ := Yaml.Node.value_item item read
  obtain ⟨a, found, made⟩ := getElem?_of_forall₂ (Checked.each_eq_ok_iff.1 passed) there
  exact ⟨a, w, left, found, made, value⟩

theorem parameterStores_of_ofValue {p : ScriptParameter} (read : node.value fuel = .ok v)
    (passed : ScriptParameter.ofValue v = .ok p) (takes : Takes p q) : ParameterStores node q := by
  obtain ⟨r, record, passed⟩ := Checked.andThen_eq_ok.1 passed
  obtain ⟨none, -, -, -, -, preset, -, -, dated, -⟩ := ScriptParameter.ofRecord_eq_ok_iff.1 passed
  have only : ∀ key ∈ presetKeys, ∀ others ∈ ScriptParameter.fields, key ∈ others → others = presetKeys := by decide
  refine ⟨fun m field => ?_, fun key m named field => ?_⟩
  · obtain ⟨w, left, there, value⟩ := get?_of_field read record field
    rw [takes.since]
    exact stores_of_check (fun _ => rfl) (fun _ => rfl) value (Record.passed_of_get? there dated)
  · obtain ⟨w, left, there, value⟩ := get?_of_field read record field
    rw [takes.defaultValue]
    exact stores_of_check (fun _ => rfl) (fun _ => rfl) value
      (Record.passed_of_stated (Record.stated?_of_extras none (only key named) there) preset)

theorem taskStores_of_ofValue {e : ScriptTask} (read : node.value fuel = .ok v) (passed : ScriptTask.ofValue v = .ok e)
    (follows : Follows e t) : TaskStores node t := by
  obtain ⟨r, record, passed⟩ := Checked.andThen_eq_ok.1 passed
  obtain ⟨-, -, -, -, -, -, dated, -, taken, -⟩ := ScriptTask.ofRecord_eq_ok_iff.1 passed
  refine ⟨fun m field => ?_, fun list field i m item => ?_⟩
  · obtain ⟨w, left, there, value⟩ := get?_of_field read record field
    rw [follows.since]
    exact stores_of_check (fun _ => rfl) (fun _ => rfl) value (Record.passed_of_get? there dated)
  · obtain ⟨w, left, there, value⟩ := get?_of_field read record field
    obtain ⟨p, u, below, found, made, value⟩ := of_item value (Record.passed_of_get? there taken) item
    obtain ⟨q, here, takes⟩ := getElem?_of_forall₂ follows.parameters found
    exact ⟨q, here, parameterStores_of_ofValue value made takes⟩

/-- The tasks of a metadata file, each with what is stored for the numerals of its entry. -/
def FileStores (s : Sources) (pair : Path × Path) (ts : List Task) : Prop :=
  ∀ chars root tasks, Sources.readText s.fs s.conventions.sourceEncoding pair.2 = .ok chars →
    Yaml.Node.ofChars chars = .ok (some root) → root.field? "tasks" = some tasks → ∀ i m, tasks.item? i = some m →
      ∃ t, ts[i]? = some t ∧ TaskStores m t

theorem document_of_entries {chars : List Char} {document : Yaml.Node} {es : List ScriptTask}
    (text : Sources.readText s.fs s.conventions.sourceEncoding file = .ok chars)
    (composed : Yaml.Node.ofChars chars = .ok (some document)) (read : entries s file = .ok es) :
    ∃ v, document.value document.height = .ok v ∧ ScriptTask.ofDocument v = .ok es := by
  have value : Yaml.read chars = (document.value document.height).mapError (·.2) := by
    unfold Yaml.read
    rw [composed]
    rfl
  unfold entries at read
  simp only [text] at read
  split at read
  · cases read
  · next v made =>
    split at read
    · next passed =>
      cases read
      exact ⟨v, mapError_eq_ok.1 (value.symm.trans made), passed⟩
    · cases read

theorem fileStores_of_fileTasks {ts : List Task} (h : (fileTasks s root file).result = .ok ts) :
    FileStores s (root, file) ts := by
  intro chars document tasks text composed field i m item
  obtain ⟨es, read, each⟩ := made_of_fileTasks h
  obtain ⟨v, value, passed⟩ := document_of_entries text composed read
  obtain ⟨entries, w, left, rfl, there, value⟩ := Yaml.Node.value_field field value
  obtain ⟨-, listed⟩ := Checked.closed_eq_ok.1 (show Checked.closed _ _ = .ok es from passed)
  obtain ⟨e, u, below, found, made, value⟩ := of_item value (Record.passed_of_get? there listed) item
  obtain ⟨t, here, task⟩ := getElem?_of_forall₂ each found
  exact ⟨t, here, taskStores_of_ofValue value made (follows_of_task task)⟩

/-- Every version and default value that stands as a bare numeral in a metadata file is stored as its number is written. -/
theorem numerals_stored {ts : List Task} (extracted : (extract s).result = .ok ts) :
    ∃ parts, List.Forall₂ (FileStores s) (s.files s.conventions.scriptSuffixes) parts ∧ ts = parts.flatten :=
  Sources.forall₂_of_files extracted fun _ _ _ _ => fileStores_of_fileTasks

end Scripts

namespace BareNumerals

open Scripts

def root : Path := ⟨true, ["src"]⟩

def file : Path := ⟨true, ["src", "a.tasks.yaml"]⟩

def sources (version : String) : Sources where
  fs := ⟨.directory [("src", .directory [("a.sh", .file []), ("a.tasks.yaml",
    .file ("tasks:\n- goal: a\n  call: a.sh\n  since: " ++ version ++ "\n").toUTF8.toList)])], []⟩
  roots := [root]
  conventions := .default

/-- The version that the entry of the task states without quotes. -/
def version? (s : Sources) : Option Text := do
  let chars ← (Sources.readText s.fs s.conventions.sourceEncoding file).toOption
  let document ← (Yaml.Node.ofChars chars).toOption.join
  let tasks ← document.field? "tasks"
  let entry ← tasks.item? 0
  let version ← entry.field? "since"
  version.plainText?

def quarter : Numeral := ⟨['1'], ['2', '5'], none, ⟨by decide, by decide⟩, ⟨by decide, by decide⟩⟩

theorem isNear_quarter : IsNear quarter.decimal.value := by
  have value : quarter.decimal.value = 1 + 25 / 10 ^ 2 := Numeral.value_of_positional rfl
  rw [IsNear, value]
  norm_num

theorem quarter_stored : version? (sources "1.25") = some "1.25" ∧
    ∃ t, (extract (sources "1.25")).result = .ok [t] ∧ t.since = some "1.25" := by
  have stated : version? (sources "1.25") = some "1.25" := by decide +kernel
  refine ⟨stated, ?_⟩
  have single : (extract (sources "1.25")).result.toOption.map List.length = some 1 := by decide +kernel
  obtain ⟨ts, extracted, one⟩ := Option.map_eq_some_iff.1 single
  obtain ⟨t, rfl⟩ := List.length_eq_one_iff.1 one
  rw [toOption_eq_some] at extracted
  refine ⟨t, extracted, ?_⟩
  have files : (sources "1.25").files (sources "1.25").conventions.scriptSuffixes = [(root, file)] := by decide +kernel
  obtain ⟨parts, each, whole⟩ := numerals_stored extracted
  rw [files] at each
  obtain ⟨chars, read, stated⟩ := Option.bind_eq_some_iff.1 stated
  obtain ⟨document, composed, stated⟩ := Option.bind_eq_some_iff.1 stated
  obtain ⟨tasks, listed, stated⟩ := Option.bind_eq_some_iff.1 stated
  obtain ⟨entry, first, stated⟩ := Option.bind_eq_some_iff.1 stated
  obtain ⟨version, field, bare⟩ := Option.bind_eq_some_iff.1 stated
  cases each with
  | cons here rest =>
    cases rest
    obtain ⟨u, there, stores⟩ := here chars document tasks (toOption_eq_some.1 read)
      (toOption_eq_some.1 (Option.join_eq_some_iff.1 composed)) listed 0 entry first
    cases whole.trans (List.append_nil _)
    cases there
    exact (stores.since version field).kept quarter ⟨rfl, by decide⟩ (Yaml.Node.eq_plain bare) (by decide) isNear_quarter
      ⟨_, _, by decide, rfl⟩

theorem zero_lost : version? (sources "1.10") = some "1.10" ∧
    (extract (sources "1.10")).result.toOption.map (·.map (·.since)) = some [some (ofString "1.1")] := by
  constructor
  · decide +kernel
  · decide +kernel

end BareNumerals

end TaskCatalog
