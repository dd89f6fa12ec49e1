import TaskCatalog.Proofs.Association
import TaskCatalog.Proofs.Outcome
import TaskCatalog.Project

/-!
What comes of loading a project file: the project with the source roots that the file declares, or a configuration
failure, but for the files that are told apart here.
-/

namespace TaskCatalog

open Text Outcome

namespace Project

/-- The texts that a value gives one after the other: the letters of a text, the items of a collection, the keys of
a mapping or of the mapping around. -/
inductive Gives (around : List (Value × Value)) : Value → List Text → Prop
  | letters (t : Text) : Gives around (.text t) (t.map ([·]))
  | list (ts : List Text) : Gives around (.list (ts.map .text)) ts
  | tuple (ts : List Text) : Gives around (.tuple (ts.map .text)) ts
  | set (ts : List Text) : Gives around (.set (ts.map .text)) ts
  | keys {entries : List (Value × Value)} {ts : List Text} :
      entries.map (·.1) = ts.map .text → Gives around (.map entries) ts
  | around {ts : List Text} : around.map (·.1) = ts.map .text → Gives around .again ts

variable {fs : FileSystem} {file : Path} {entries around : List (Value × Value)} {v : Value} {ts roots : List Text}
  {p : Project}

theorem textsOf_eq_ok {vs : List Value} : declaredRoots.textsOf vs = .ok ts ↔ vs = ts.map .text := by
  induction vs generalizing ts with
  | nil => cases ts <;> simp [declaredRoots.textsOf]
  | cons v vs ih =>
    unfold declaredRoots.textsOf
    split
    · next impossible => cases impossible
    · next t rest same =>
      obtain ⟨rfl, rfl⟩ := List.cons.inj same
      rw [map_eq_ok]
      constructor
      · rintro ⟨us, read, rfl⟩
        rw [ih.1 read]
        rfl
      · intro same
        cases ts with
        | nil => cases same
        | cons u us =>
          obtain ⟨head, tail⟩ := List.cons.inj same
          cases head
          exact ⟨us, ih.2 tail, rfl⟩
    · next other whole =>
      constructor
      · exact nofun
      · intro same
        cases ts with
        | nil => cases same
        | cons u us => exact absurd (List.cons.inj (whole.symm.trans same)).1 (other u)

theorem declaredRoots_eq_ok : declaredRoots around v = .ok ts ↔ Gives around v ts := by
  constructor
  · intro h
    unfold declaredRoots at h
    split at h
    · cases h
      exact .letters _
    · rw [textsOf_eq_ok.1 h]
      exact .list ts
    · rw [textsOf_eq_ok.1 h]
      exact .tuple ts
    · rw [textsOf_eq_ok.1 h]
      exact .set ts
    · exact .keys (textsOf_eq_ok.1 h)
    · exact .around (textsOf_eq_ok.1 h)
    · cases h
  · rintro (_ | _ | _ | _ | keys | keys)
    · rfl
    · exact textsOf_eq_ok.2 rfl
    · exact textsOf_eq_ok.2 rfl
    · exact textsOf_eq_ok.2 rfl
    · exact textsOf_eq_ok.2 keys
    · exact textsOf_eq_ok.2 keys

theorem lookup?_withBase (base : Path) :
    Value.lookup? (withBase base entries) sourceRootsKey = Value.lookup? entries sourceRootsKey := by
  unfold withBase
  split
  · rfl
  · exact Value.lookup?_setEntry (by decide)

/-- A project file that holds a mapping; an empty document stands for an empty one. -/
inductive Holds (fs : FileSystem) (file : Path) : List (Value × Value) → Prop
  | mapping {bytes : Bytes} {chars : List Char} {entries : List (Value × Value)} : fs.read file = .ok bytes →
      decodeUtf8 bytes = .ok chars → Yaml.read (unifyLineBreaks chars) = .ok (.map entries) → Holds fs file entries
  | nothing {bytes : Bytes} {chars : List Char} {v : Value} : fs.read file = .ok bytes →
      decodeUtf8 bytes = .ok chars → Yaml.read (unifyLineBreaks chars) = .ok v → v.isFalsy = true → Holds fs file []

theorem fileEntries_eq_ok : fileEntries fs file = .ok entries ↔ Holds fs file entries := by
  constructor
  · intro h
    obtain ⟨bytes, read, h⟩ := bind_eq_ok.1 h
    obtain ⟨chars, decoded, h⟩ := bind_eq_ok.1 h
    rw [mapError_eq_ok] at read decoded
    split at h
    · next document =>
      cases h
      exact .mapping read decoded document
    · next v _ document =>
      split at h
      · next falsy =>
        cases h
        exact .nothing read decoded document falsy
      · cases h
    · cases h
  · rintro (⟨read, decoded, document⟩ | ⟨read, decoded, document, falsy⟩)
    · rw [fileEntries, bind_mapError_ok read, bind_mapError_ok decoded, document]
    · rw [fileEntries, bind_mapError_ok read, bind_mapError_ok decoded, document]
      split
      · next same =>
        cases same
        exact congrArg Except.ok (List.isEmpty_iff.1 falsy)
      · next _ same =>
        cases same
        exact if_pos falsy
      · next impossible => cases impossible

/-- The source roots that a mapping declares: the texts of a list, or the usual one where it states none. -/
inductive Declares (entries : List (Value × Value)) : List Text → Prop
  | absent : Value.lookup? entries sourceRootsKey = none → Declares entries [usualRoot]
  | null : Value.lookup? entries sourceRootsKey = some .null → Declares entries [usualRoot]
  | empty : Value.lookup? entries sourceRootsKey = some (.list []) → Declares entries [usualRoot]
  | list {ts : List Text} : ts ≠ [] → Value.lookup? entries sourceRootsKey = some (.list (ts.map .text)) →
      Declares entries ts

/-- The source roots of a project are the declared ones below a directory. -/
def HasRoots (p : Project) (base : Path) (roots : List Text) : Prop :=
  p.sourceRoots = roots.map fun root => base ++ Path.ofText root

/-- A project file is loaded with the source roots that it declares, or refused as a configuration. -/
def LoadsDeclared (fs : FileSystem) (file : Path) : Prop :=
  (∃ p entries roots, (load fs file).result = .ok p ∧ Holds fs file entries ∧ Declares entries roots ∧
    p.HasRoots (fs.resolve file).parent roots) ∨
  ∃ fault, (load fs file).result = .error (.configuration fault)

/-- A mapping makes a project, whatever its source roots are. -/
def IsProject (base : Path) (entries : List (Value × Value)) : Prop :=
  ∃ p, ofRecord base ⟨Value.setEntry (.text sourceRootsKey) (.list []) (withBase base entries)⟩ = .ok p

/-- The project files that are loaded otherwise. -/
inductive Departs (fs : FileSystem) (file : Path) : Prop
  | undecodable {bytes : Bytes} {u : Undecodable} : fs.read file = .ok bytes → decodeUtf8 bytes = .error u →
      Departs fs file
  | unmade {bytes : Bytes} {chars : List Char} {e : Yaml.Fault} : fs.read file = .ok bytes →
      decodeUtf8 bytes = .ok chars → Yaml.read (unifyLineBreaks chars) = .error e → e ≠ .malformed → Departs fs file
  | textless {entries : List (Value × Value)} {v : Value} : Holds fs file entries →
      Value.lookup? entries sourceRootsKey = some v → v.isFalsy = false →
      (∀ ts, ¬ Gives (withBase (fs.resolve file).parent entries) v ts) → Departs fs file
  | reinterpreted {entries : List (Value × Value)} {v : Value} : Holds fs file entries →
      Value.lookup? entries sourceRootsKey = some v → (∀ roots, ¬ Declares entries roots) →
      IsProject (fs.resolve file).parent entries → Departs fs file

theorem rootsOf_of_declares (base : Path) (h : Declares entries roots) :
    rootsOf (withBase base entries) = .ok roots := by
  unfold rootsOf
  rw [lookup?_withBase]
  cases h with
  | absent none => rw [none]; rfl
  | null stated => rw [stated]; rfl
  | empty stated => rw [stated]; rfl
  | list filled stated =>
    rw [stated, Option.getD_some]
    have truthy : (Value.list (roots.map .text)).isFalsy = false := by
      simpa [Value.isFalsy] using filled
    simp only [truthy, Bool.false_eq_true, if_false]
    exact declaredRoots_eq_ok.2 (.list roots)

theorem rootsOf_of_error {base : Path} {b : Breakdown} (h : rootsOf (withBase base entries) = .error b) :
    ∃ v, Value.lookup? entries sourceRootsKey = some v ∧ v.isFalsy = false ∧
      ∀ ts, ¬ Gives (withBase base entries) v ts := by
  unfold rootsOf at h
  rw [lookup?_withBase] at h
  cases stated : Value.lookup? entries sourceRootsKey with
  | none =>
    rw [stated] at h
    cases h
  | some v =>
    rw [stated, Option.getD_some] at h
    dsimp only at h
    split at h
    · cases h
    · next truthy =>
      refine ⟨v, rfl, Bool.eq_false_iff.2 truthy, fun ts gives => ?_⟩
      rw [declaredRoots_eq_ok.2 gives] at h
      cases h

theorem rootsOf_of_textless {base : Path} (stated : Value.lookup? entries sourceRootsKey = some v)
    (truthy : v.isFalsy = false) (textless : ∀ ts, ¬ Gives (withBase base entries) v ts) :
    ∃ b, rootsOf (withBase base entries) = .error b := by
  unfold rootsOf
  rw [lookup?_withBase, stated, Option.getD_some]
  simp only [truthy, Bool.false_eq_true, if_false]
  rcases ok_or_error (declaredRoots (withBase base entries) v) with ⟨ts, gives⟩ | failed
  · exact absurd (declaredRoots_eq_ok.1 gives) (textless ts)
  · exact failed

theorem ofEntries_of_ok (ok : rootsOf (withBase (fs.resolve file).parent entries) = .ok roots) :
    (IsProject (fs.resolve file).parent entries ∧
      ∃ p, ofEntries fs file entries = .ok p ∧ p.HasRoots (fs.resolve file).parent roots) ∨
    (¬ IsProject (fs.resolve file).parent entries ∧
      ∃ fault, ofEntries fs file entries = .error (.configuration fault)) := by
  rw [ofEntries, bind_mapError_ok ok]
  split
  · next p made => exact .inl ⟨⟨p, made⟩, _, rfl, rfl⟩
  · next problems refused =>
    refine .inr ⟨?_, _, rfl⟩
    rintro ⟨p, made⟩
    cases made.symm.trans refused

theorem ofEntries_of_error {b : Breakdown} (error : rootsOf (withBase (fs.resolve file).parent entries) = .error b) :
    ofEntries fs file entries = .error (.breakdown b) := by
  rw [ofEntries, bind_mapError_error error]

theorem load_eq : (load fs file).result = fileEntries fs file >>= ofEntries fs file := rfl

theorem load_of_holds (holds : Holds fs file entries) : (load fs file).result = ofEntries fs file entries := by
  rw [load_eq, fileEntries_eq_ok.2 holds]
  rfl

theorem loadsDeclared_of_holds (holds : Holds fs file entries) :
    LoadsDeclared fs file ↔ (∃ p roots, ofEntries fs file entries = .ok p ∧ Declares entries roots ∧
      p.HasRoots (fs.resolve file).parent roots) ∨ ∃ fault, ofEntries fs file entries = .error (.configuration fault) := by
  rw [LoadsDeclared, load_of_holds holds]
  refine or_congr_left ⟨?_, ?_⟩
  · rintro ⟨p, others, roots, loaded, same, declares, has⟩
    obtain rfl : entries = others := Except.ok.inj ((fileEntries_eq_ok.2 holds).symm.trans (fileEntries_eq_ok.2 same))
    exact ⟨p, roots, loaded, declares, has⟩
  · rintro ⟨p, roots, loaded, declares, has⟩
    exact ⟨p, entries, roots, loaded, holds, declares, has⟩

theorem fileEntries_of_undecodable {bytes : Bytes} {u : Undecodable} (read : fs.read file = .ok bytes)
    (decoded : decodeUtf8 bytes = .error u) : fileEntries fs file = .error (.breakdown .undecodable) := by
  rw [fileEntries, bind_mapError_ok read, bind_mapError_error decoded]

/-- The failure to load a file that cannot be read as a document. -/
def documentFailure (file : Path) (e : Yaml.Fault) : Failure :=
  match e.breakdown? with
  | some b => .breakdown b
  | none => .configuration (.malformedProject file)

theorem fileEntries_of_fault {bytes : Bytes} {chars : List Char} {e : Yaml.Fault} (read : fs.read file = .ok bytes)
    (decoded : decodeUtf8 bytes = .ok chars) (document : Yaml.read (unifyLineBreaks chars) = .error e) :
    fileEntries fs file = .error (documentFailure file e) := by
  rw [fileEntries, bind_mapError_ok read, bind_mapError_ok decoded, document]
  rfl

theorem breakdown?_eq_none {e : Yaml.Fault} : e.breakdown? = none ↔ e = .malformed := by
  cases e <;> simp [Yaml.Fault.breakdown?]

theorem holds_or_fails (fs : FileSystem) (file : Path) :
    (∃ entries, Holds fs file entries) ∨ (∃ fault, fileEntries fs file = .error (.configuration fault)) ∨
      Departs fs file := by
  cases read : fs.read file with
  | error e =>
    refine .inr (.inl ⟨.unreadableProject file e, ?_⟩)
    rw [fileEntries, bind_mapError_error read]
  | ok bytes =>
    cases decoded : decodeUtf8 bytes with
    | error u => exact .inr (.inr (.undecodable read decoded))
    | ok chars =>
      cases document : Yaml.read (unifyLineBreaks chars) with
      | error e =>
        by_cases malformed : e = .malformed
        · refine .inr (.inl ⟨.malformedProject file, ?_⟩)
          rw [fileEntries_of_fault read decoded document, documentFailure, breakdown?_eq_none.2 malformed]
        · exact .inr (.inr (.unmade read decoded document malformed))
      | ok v =>
        cases found : fileEntries fs file with
        | ok entries => exact .inl ⟨entries, fileEntries_eq_ok.1 found⟩
        | error failure =>
          rw [fileEntries, bind_mapError_ok read, bind_mapError_ok decoded, document] at found
          split at found
          · cases found
          · split at found
            · cases found
            · exact .inr (.inl ⟨.unmappedProject file, found.symm⟩)
          · next impossible => cases impossible

theorem not_loadsDeclared (departs : Departs fs file) : ¬ LoadsDeclared fs file := by
  have broken {b : Breakdown} (h : fileEntries fs file = .error (.breakdown b)) : ¬ LoadsDeclared fs file := by
    rw [LoadsDeclared, load_eq, h]
    rintro (⟨_, _, _, loaded, -⟩ | ⟨_, refused⟩)
    · cases loaded
    · cases refused
  cases departs with
  | undecodable read decoded => exact broken (fileEntries_of_undecodable read decoded)
  | @unmade bytes chars e read decoded document fault =>
    cases cause : e.breakdown? with
    | none => exact absurd (breakdown?_eq_none.1 cause) fault
    | some b => exact broken (by rw [fileEntries_of_fault read decoded document, documentFailure, cause])
  | textless holds stated truthy textless =>
    obtain ⟨b, error⟩ := rootsOf_of_textless stated truthy textless
    rw [loadsDeclared_of_holds holds, ofEntries_of_error error]
    rintro (⟨_, _, loaded, -⟩ | ⟨_, refused⟩)
    · cases loaded
    · cases refused
  | @reinterpreted entries v holds stated undeclared project =>
    rw [loadsDeclared_of_holds holds]
    rintro (⟨_, roots, -, declares, -⟩ | ⟨fault, refused⟩)
    · exact undeclared roots declares
    · cases roots : rootsOf (withBase (fs.resolve file).parent entries) with
      | error b =>
        rw [ofEntries_of_error roots] at refused
        cases refused
      | ok roots =>
        rcases ofEntries_of_ok roots with ⟨-, p, made, -⟩ | ⟨none, -⟩
        · rw [made] at refused
          cases refused
        · exact none project

/-- A project file is loaded with the source roots that it declares, or refused as a configuration, exactly if it is
none of those told apart. -/
theorem loadsDeclared_iff (fs : FileSystem) (file : Path) : LoadsDeclared fs file ↔ ¬ Departs fs file := by
  refine ⟨fun loads departs => not_loadsDeclared departs loads, fun regular => ?_⟩
  rcases holds_or_fails fs file with ⟨entries, holds⟩ | ⟨fault, failed⟩ | departs
  · rw [loadsDeclared_of_holds holds]
    cases roots : rootsOf (withBase (fs.resolve file).parent entries) with
    | error b =>
      obtain ⟨v, stated, truthy, textless⟩ := rootsOf_of_error roots
      exact absurd (.textless holds stated truthy textless) regular
    | ok roots' =>
      rcases ofEntries_of_ok roots with ⟨project, p, made, has⟩ | ⟨-, refused⟩
      · refine .inl ⟨p, roots', made, ?_, has⟩
        by_contra undeclared
        have never (others : List Text) : ¬ Declares entries others := fun declares => by
          have same := (rootsOf_of_declares (fs.resolve file).parent declares).symm.trans roots
          exact undeclared (Except.ok.inj same ▸ declares)
        cases stated : Value.lookup? entries sourceRootsKey with
        | none => exact never _ (.absent stated)
        | some v => exact regular (.reinterpreted holds stated never project)
      · exact .inr refused
  · exact .inr ⟨fault, by rw [load_eq, failed]; rfl⟩
  · exact absurd departs regular

/-- A project file that states its only source root without a list. -/
def unlistedRoot : FileSystem := ⟨.directory [("plugin-project.yaml", .file "source_roots: src\n".toUTF8.toList)], []⟩

theorem unlistedRoot_departs :
    (load unlistedRoot ⟨false, ["plugin-project.yaml"]⟩).result.toOption.map (·.sourceRoots) =
        some [⟨true, ["s"]⟩, ⟨true, ["r"]⟩, ⟨true, ["c"]⟩] ∧
      ¬ LoadsDeclared unlistedRoot ⟨false, ["plugin-project.yaml"]⟩ := by
  refine ⟨by decide +kernel, not_loadsDeclared ?_⟩
  have holds : Holds unlistedRoot ⟨false, ["plugin-project.yaml"]⟩ [(.text "source_roots", .text "src")] :=
    fileEntries_eq_ok.1 (toOption_eq_some.1 (by decide +kernel))
  have stated : Value.lookup? [(.text "source_roots", .text "src")] sourceRootsKey = some (.text "src") := by
    decide +kernel
  have project : IsProject (unlistedRoot.resolve ⟨false, ["plugin-project.yaml"]⟩).parent
      [(.text "source_roots", .text "src")] := ⟨_, rfl⟩
  refine .reinterpreted holds stated (fun roots declares => ?_) project
  cases declares with
  | absent other => cases other.symm.trans stated
  | null other => cases other.symm.trans stated
  | empty other => cases other.symm.trans stated
  | list _ other => cases other.symm.trans stated

end Project

end TaskCatalog
