import TaskCatalog.Proofs.ClassOrder
import TaskCatalog.Proofs.ExtractedTasks

/-!
Which tasks the documentation of classes comes to. File by file there is one task for each class statement, wherever it
stands, whose documentation has the tag of a goal, in breadth-first order; the task has the tag's value as its name. Its
parameters are those of the attributes in the class's body with a documentation right behind them that has the tag of a
parameter, in the order of the source.
-/

namespace TaskCatalog

open Text Outcome

namespace Documented

open Code (Stands Shallower)

/-- An attribute of a class and the text that documents it. -/
structure Attribute where
  line : Nat
  name : Text
  hint : Option Code.Expression
  documentation : Text

/-- At a position of a class's body stands an attribute, and behind it a text with the tag of a parameter. -/
inductive Attribute.In (body : List Code.Statement) : Nat → Attribute → Prop
  | annotated {i line name hint text marked} (there : body[i]? = some (.annotated line (.name name) hint))
    (behind : body[i + 1]? = some (.expression (.constant (.text text) marked)))
    (tagged : Tags.occurs parameterTag (dedent text) = true) : In body i ⟨line, name, some hint, dedent text⟩
  | assigned {i line name text marked} (there : body[i]? = some (.assignment line [.name name]))
    (behind : body[i + 1]? = some (.expression (.constant (.text text) marked)))
    (tagged : Tags.occurs parameterTag (dedent text) = true) : In body i ⟨line, name, none, dedent text⟩

/-- What an attribute's documentation declares. -/
def Attribute.Declares (file : Path) (a : Attribute) (p : Parameter) : Prop :=
  ∃ hint, a.hint.mapM Module.annotationText = .ok hint ∧
    parameter (Site.ofLine strategy file a.line) a.name hint a.documentation = .ok p

variable {c : Conventions} {m : Module} {d : Definition} {file : Path} {body : List Code.Statement}
  {s next : Code.Statement} {t : Task} {p : Parameter} {ps : List Parameter} {ts : List Task} {documentation : Text}

/-- The attribute that a statement and the one behind it make together. -/
def attributeOf? (s next : Code.Statement) : Option Attribute :=
  (attribute? s).bind fun (line, name, hint) => ((Module.textOf? next).map dedent).bind fun documentation =>
    if Tags.occurs parameterTag documentation then some ⟨line, name, hint, documentation⟩ else none

theorem attributeOf?_annotated {line : Nat} {name text : Text} {hint : Code.Expression} {marked : Bool}
    (tagged : Tags.occurs parameterTag (dedent text) = true) :
    attributeOf? (.annotated line (.name name) hint) (.expression (.constant (.text text) marked)) =
      some ⟨line, name, some hint, dedent text⟩ := if_pos tagged

theorem attributeOf?_assigned {line : Nat} {name text : Text} {marked : Bool}
    (tagged : Tags.occurs parameterTag (dedent text) = true) :
    attributeOf? (.assignment line [.name name]) (.expression (.constant (.text text) marked)) =
      some ⟨line, name, none, dedent text⟩ := if_pos tagged

theorem in_iff {i : Nat} {a : Attribute} : Attribute.In body i a ↔
    ∃ s next, body[i]? = some s ∧ body[i + 1]? = some next ∧ attributeOf? s next = some a := by
  constructor
  · rintro (⟨there, behind, tagged⟩ | ⟨there, behind, tagged⟩)
    · exact ⟨_, _, there, behind, attributeOf?_annotated tagged⟩
    · exact ⟨_, _, there, behind, attributeOf?_assigned tagged⟩
  · rintro ⟨s, next, there, behind, made⟩
    obtain ⟨⟨line, name, hint⟩, set, made⟩ := Option.bind_eq_some_iff.1 made
    obtain ⟨documentation, documented, made⟩ := Option.bind_eq_some_iff.1 made
    obtain ⟨text, read, rfl⟩ := Option.map_eq_some_iff.1 documented
    split at made
    · next tagged =>
      cases made
      unfold Module.textOf? at read
      split at read
      · cases read
        unfold attribute? at set
        split at set
        · cases set
          exact .annotated there behind tagged
        · cases set
          exact .assigned there behind tagged
        · cases set
      · cases read
    · cases made

/-- What two statements in a row come to that have no fault. -/
inductive Comes (file : Path) (s next : Code.Statement) : Option Parameter → Prop
  | nothing (unmade : attributeOf? s next = none) : Comes file s next none
  | parameter {a : Attribute} {p : Parameter} (made : attributeOf? s next = some a) (declared : a.Declares file p) :
    Comes file s next (some p)

theorem comes_of_parameter? {o : Option Parameter} (h : parameter? file s next = .ok o) : Comes file s next o := by
  unfold parameter? at h
  split at h
  · next unset =>
    cases h
    exact .nothing (by rw [attributeOf?, unset, Option.bind_none])
  · next line name hint set =>
    obtain ⟨printed, shown, h⟩ := bind_eq_ok.1 h
    have rest : attributeOf? s next = ((Module.textOf? next).map dedent).bind fun documentation =>
        if Tags.occurs parameterTag documentation then some ⟨line, name, hint, documentation⟩ else none := by
      rw [attributeOf?, set, Option.bind_some]
    split at h
    · next undocumented =>
      cases h
      exact .nothing (by rw [rest, undocumented, Option.bind_none])
    · next documentation documented =>
      rw [documented, Option.bind_some] at rest
      split at h
      · next tagged =>
        obtain ⟨p, made, rfl⟩ := map_eq_ok.1 h
        exact .parameter (rest.trans (if_pos tagged)) ⟨printed, shown, made⟩
      · next untagged =>
        cases h
        exact .nothing (rest.trans (if_neg untagged))

/-- The statements of a body that have one behind them, each with that and with its position. -/
def pairs (body : List Code.Statement) : List ((Code.Statement × Code.Statement) × Nat) :=
  (body.zip (body.drop 1)).zipIdx

theorem mem_pairs {i : Nat} : ((s, next), i) ∈ pairs body ↔ body[i]? = some s ∧ body[i + 1]? = some next := by
  rw [pairs, List.mem_zipIdx_iff_getElem?, List.getElem?_zip_eq_some, List.getElem?_drop, Nat.add_comm 1]

/-- The parameters of a class: one for each of its attributes that is documented as one, in the order of the source. -/
structure Parameters (file : Path) (body : List Code.Statement) (places : List Nat) (ps : List Parameter) : Prop where
  ascending : places.Pairwise (· < ·)
  complete : ∀ i, i ∈ places ↔ ∃ a, Attribute.In body i a
  each : List.Forall₂ (fun i p => ∃ a, Attribute.In body i a ∧ a.Declares file p) places ps

theorem exists_parameters (h : parameters file body = .ok ps) : ∃ places, Parameters file body places ps := by
  obtain ⟨found, read, same⟩ := bind_eq_ok.1 h
  cases same
  let isMade (r : (Code.Statement × Code.Statement) × Nat) : Bool := (attributeOf? r.1.1 r.1.2).isSome
  have numbered : ((pairs body).mapM fun r => parameter? file r.1.1 r.1.2).map (·.flatMap Option.toList) =
      .ok (found.filterMap id) := by
    rw [← List.zipIdx_map_fst 0 (body.zip (body.drop 1)), List.mapM_map] at read
    rw [List.filterMap_eq_flatMap_toList]
    exact map_eq_ok.2 ⟨found, read, rfl⟩
  have fruitful : ∀ r o, parameter? file r.1.1 r.1.2 = .ok o → o.isSome = isMade r := by
    intro r o made
    cases comes_of_parameter? made with
    | nothing unmade => exact (congrArg Option.isSome unmade).symm
    | @parameter a p made' _ => exact (congrArg Option.isSome made').symm
  refine ⟨((pairs body).filter isMade).map Prod.snd, ?_, fun i => ?_, ?_⟩
  · exact List.pairwise_map.2 ((Code.pairwise_zipIdx _).filter _)
  · rw [List.mem_map]
    constructor
    · rintro ⟨⟨⟨s, next⟩, i⟩, listed, rfl⟩
      obtain ⟨listed, made⟩ := List.mem_filter.1 listed
      obtain ⟨there, behind⟩ := mem_pairs.1 listed
      obtain ⟨a, made⟩ := Option.isSome_iff_exists.1 made
      exact ⟨a, in_iff.2 ⟨s, next, there, behind, made⟩⟩
    · rintro ⟨a, inside⟩
      obtain ⟨s, next, there, behind, made⟩ := in_iff.1 inside
      exact ⟨((s, next), i), List.mem_filter.2 ⟨mem_pairs.2 ⟨there, behind⟩, Option.isSome_iff_exists.2 ⟨a, made⟩⟩, rfl⟩
  · rw [List.forall₂_map_left_iff]
    refine (forall₂_imp_of_mem (forall₂_of_flatten fruitful numbered).flip fun p r listed read => ?_).flip
    obtain ⟨there, behind⟩ := mem_pairs.1 (List.mem_filter.1 listed).1
    cases comes_of_parameter? read with
    | @parameter a _ made declared => exact ⟨a, in_iff.2 ⟨_, _, there, behind, made⟩, declared⟩

/-- The task of a class whose documentation has the tag of a goal. -/
structure Definition.Declares (c : Conventions) (m : Module) (d : Definition) (t : Task) : Prop where
  made : ∃ documentation tags, Module.documentation? d.body = some documentation ∧ task c m d documentation = .ok t ∧
    Tags.ofText (Site.ofLine strategy m.file d.line) documentation = .ok tags ∧ tags.get? goalTag = some t.name.text
  implementation : t.implementation.val = m.name ++ ":" ++ d.name
  parameters : ∃ places, Parameters m.file d.body places t.parameters

def Definition.IsTask (d : Definition) : Prop :=
  ∃ documentation, Module.documentation? d.body = some documentation ∧ Tags.occurs goalTag documentation = true

theorem declares_of_task (found : Module.documentation? d.body = some documentation)
    (h : task c m d documentation = .ok t) : d.Declares c m t := by
  obtain ⟨tags, rs, ps, read, -, goal, -, -, listed, made⟩ := made_of_task h
  obtain ⟨placed, rfl⟩ := Site.parts_of_task rfl made
  refine ⟨⟨documentation, tags, found, h, read, ?_⟩, placed, exists_parameters listed⟩
  rw [Site.named_of_task rfl made]
  cases stated : tags.get? goalTag with
  | none =>
    rw [stated] at goal
    exact absurd rfl goal
  | some value => rfl

instance : Decidable d.IsTask :=
  decidable_of_iff (((Module.documentation? d.body).filter (Tags.occurs goalTag)).isSome = true) <| by
    unfold Definition.IsTask
    cases Module.documentation? d.body <;> simp

theorem declares_of_classTasks (h : (classTasks c m d).result = .ok ts) (task : d.IsTask) :
    ∃ t, ts = [t] ∧ d.Declares c m t := by
  obtain ⟨documentation, found, tagged⟩ := task
  unfold classTasks at h
  rw [found, Option.filter_some, if_pos tagged] at h
  dsimp only at h
  rw [Logged.result_bind, Logged.result_ofExcept] at h
  obtain ⟨t, made, same⟩ := bind_eq_ok.1 h
  cases same
  exact ⟨t, rfl, declares_of_task found made⟩

theorem nil_of_classTasks (h : (classTasks c m d).result = .ok ts) (other : ¬ d.IsTask) : ts = [] := by
  rw [classTasks_eq_nil_iff.2 other] at h
  cases h
  rfl

/-- The tasks of a module: one for each class that stands in it and whose documentation has the tag of a goal, those of
lesser depth first and those of one depth in the order of the source. -/
def ModuleYields (c : Conventions) (m : Module) (ts : List Task) : Prop :=
  ∃ tagged : List (List Nat × Definition), tagged.Pairwise (fun a b => Shallower a.1 b.1) ∧
    (∀ address d, (address, d) ∈ tagged ↔
      (∃ decorators, Stands m.statements address (.classDefinition d.line d.name decorators d.body)) ∧ d.IsTask) ∧
    List.Forall₂ (fun r t => r.2.Declares c m t) tagged ts

/-- The tasks of a file below a root. It is a module to be looked at where its text holds the tag of a goal. -/
inductive FileYields (s : Sources) : Path × Path → List Task → Prop
  | passed {root file : Path} {chars : List Char}
    (text : Sources.readText s.fs s.conventions.sourceEncoding file = .ok chars)
    (untagged : includes ("@" ++ goalTag) (ofChars chars) = false) : FileYields s (root, file) []
  | parsed {root file : Path} {chars : List Char} {name : Text} {statements : List Code.Statement} {ts : List Task}
    (text : Sources.readText s.fs s.conventions.sourceEncoding file = .ok chars)
    (tagged : includes ("@" ++ goalTag) (ofChars chars) = true) (parsed : Code.parse chars = .ok statements)
    (named : moduleName? root file = some name) (tasks : ModuleYields s.conventions ⟨file, name, statements⟩ ts) :
    FileYields s (root, file) ts

theorem moduleYields_of_gather (h : (Logged.gather ((classes m.statements).map (classTasks c m))).result = .ok ts) :
    ModuleYields c m ts := by
  obtain ⟨parts, each, rfl⟩ := Logged.forall₂_of_gather h
  rw [← map_placedClasses, List.forall₂_map_left_iff, List.forall₂_map_left_iff] at each
  refine ⟨(placedClasses m.statements).filter fun r => r.2.IsTask, ?_, fun address d => ?_, ?_⟩
  · exact (ordered_placedClasses m.statements).filter _
  · rw [List.mem_filter, mem_placedClasses, decide_eq_true_iff]
  · exact forall₂_flatten each (fun r part made task => declares_of_classTasks made (of_decide_eq_true task))
      fun r part made other => nil_of_classTasks made (of_decide_eq_false other)

theorem fileYields_of_named {s : Sources} {root : Path} {name : Text} (named : moduleName? root file = some name)
    (h : (fileTasks s root file).result = .ok ts) : FileYields s (root, file) ts := by
  rw [fileTasks_eq_search] at h
  obtain ⟨chars, text, ⟨untagged, rfl⟩ | ⟨tagged, statements, parsed, h⟩⟩ := Module.cases_of_search named h
  · exact .passed text untagged
  · exact .parsed text tagged parsed named (moduleYields_of_gather h)

theorem fileYields_of_fileTasks {s : Sources} {root : Path} (listed : (root, file) ∈ s.files [Module.suffix])
    (h : (fileTasks s root file).result = .ok ts) : FileYields s (root, file) ts := by
  obtain ⟨name, named⟩ := Sources.named_of_mem_files listed
  exact fileYields_of_named named h

theorem extract_tagged (s : Sources) (ts : List Task) (h : (extract s).result = .ok ts) :
    ∃ parts, List.Forall₂ (FileYields s) (s.files [Module.suffix]) parts ∧ ts = parts.flatten := by
  obtain ⟨parts, each, rfl⟩ := Logged.forall₂_of_gather h
  rw [List.forall₂_map_left_iff] at each
  refine ⟨parts, ?_, rfl⟩
  exact (forall₂_imp_of_mem each.flip fun part pair listed found => fileYields_of_fileTasks listed found).flip

end Documented

namespace LayeredTasks

def module : List Char :=
  ("def f():\n class A:\n  '@goal a'\n  x = 1\n  '@parameter'\nclass B:\n '@goal b'\n if B:\n  class C:\n" ++
    "   '@goal c'\n   y: int\n   'Y.\\n@parameter'\n").toList

def sources : Sources := SoleModule.sources module

def outline (t : Task) : Text × List Text := (t.name.text, t.parameters.map fun p => p.name.val)

def outlines : List (Text × List Text) := [("b", []), ("a", ["x"]), ("c", ["y"])]

theorem tagged : ∃ ts, (Documented.extract sources).result = .ok ts ∧ ts.map outline = outlines ∧
    ∃ parts, List.Forall₂ (Documented.FileYields sources) (sources.files [Module.suffix]) parts ∧ ts = parts.flatten := by
  have shown : (Documented.extract sources).result.toOption.map (·.map outline) = some outlines := by decide +kernel
  obtain ⟨ts, result, listed⟩ := Option.map_eq_some_iff.1 shown
  rw [toOption_eq_some] at result
  exact ⟨ts, result, listed, Documented.extract_tagged sources ts result⟩

end LayeredTasks

end TaskCatalog
