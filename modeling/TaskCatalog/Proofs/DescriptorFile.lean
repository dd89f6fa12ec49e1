import TaskCatalog.Proofs.DocumentFields
import TaskCatalog.Proofs.EncodedTexts
import TaskCatalog.Proofs.RunFiles
import TaskCatalog.Proofs.WrittenValues
import TaskCatalog.Sources.Conventions

/-!
The file that is written of a descriptor: its bytes are those of the document's text, and what is read of it is the
document.
-/

namespace TaskCatalog

open Text

namespace Plain

variable {fs : List (Text × Plain)}

theorem settled_optional (t : Option Text) : (optionalText t).Settled := by
  cases t with
  | none => exact .null
  | some t => exact .text t

theorem settled_compact (distinct : (fs.map (·.1)).Nodup) (settled : ∀ f ∈ fs, f.2.Settled) :
    (Plain.map (compact fs)).Settled :=
  .map (distinct.sublist keys_compact) fun f member => settled f (List.mem_of_mem_filter member)

end Plain

open Plain

theorem Parameter.document_settled (p : Parameter) : p.document.Settled := by
  refine settled_compact (by simp [ofString_inj]) ?_
  simp only [List.forall_mem_cons, List.not_mem_nil, false_imp_iff, implies_true, and_true]
  exact ⟨.text _, .text _, .truth _, .truth _, settled_optional _, settled_optional _, settled_optional _,
    settled_optional _, settled_optional _⟩

theorem Dependency.document_settled (d : Dependency) : d.document.Settled := by
  refine .map (by simp [ofString_inj]) ?_
  simp only [List.forall_mem_cons, List.not_mem_nil, false_imp_iff, implies_true, and_true]
  exact ⟨.text _, .text _, .text _, .text _⟩

theorem Task.document_settled {t : Task} {p : Plain} (document : t.document = .ok p) : p.Settled := by
  obtain ⟨c, told, rfl⟩ := Outcome.map_eq_ok.1 document
  have parameters : (Plain.list (t.parameters.map Parameter.document)).Settled :=
    .list (List.forall_mem_map.2 fun p _ => p.document_settled)
  refine settled_compact (by simp [ofString_inj]) ?_
  simp only [List.forall_mem_cons, List.not_mem_nil, false_imp_iff, implies_true, and_true]
  exact ⟨.text _, settled_optional _, .text _, settled_optional _, settled_optional _, .truth _, .truth _, .truth _,
    .truth _, settled_optional _, settled_optional _, settled_optional _, parameters, Value.plain_settled _ c told⟩

theorem Descriptor.document_settled {d : Descriptor} {es : List (Text × Plain)} (document : d.document = .ok es) :
    (Plain.map es).Settled := by
  obtain ⟨tasks, told, rfl⟩ := Outcome.map_eq_ok.1 document
  have listed : (Plain.list tasks).Settled := .list fun p member => by
    obtain ⟨t, -, document⟩ := Outcome.mem_of_mapM told member
    exact Task.document_settled document
  have dependencies : (Plain.list (d.dependencies.map Dependency.document)).Settled :=
    .list (List.forall_mem_map.2 fun d _ => d.document_settled)
  refine settled_compact (by simp [ofString_inj]) ?_
  simp only [List.forall_mem_cons, List.not_mem_nil, false_imp_iff, implies_true, and_true]
  exact ⟨.text _, settled_optional _, .text _, .text _, .text _, .text _, listed, dependencies⟩

namespace Sources

variable {fs : FileSystem} {file : Path} {t : Text} {content : Bytes}

theorem readText_of_encoded (read : fs.read file = .ok content) (encoded : encodeUtf8 t = .ok content)
    (unreturned : '\r' ∉ chars t) : readText fs "utf-8" file = .ok (chars t) := by
  have known : Encoding.ofName? "utf-8" = some .utf8 := by decide
  have decoded : decode .utf8 content = .ok (chars t) := congrArg (Except.mapError _) (decodeUtf8_of_encoded encoded)
  rw [readText, read]
  dsimp only
  rw [known]
  dsimp only
  rw [decoded]
  exact congrArg Except.ok (unifyLineBreaks_of_not_mem unreturned)

end Sources

namespace Descriptor

/-- All texts and keys of the document are read as they are where they stand in its text. -/
def IsLegible (d : Descriptor) : Prop := ∀ es, d.document = .ok es → Yaml.Writing.entriesReadable 0 es = true

variable {fs : FileSystem} {directory : Path} {d : Descriptor} {paths : List Path} {es : List (Text × Plain)}

theorem unreturned_write (settled : (Plain.map es).Settled) : '\r' ∉ chars (Yaml.write es) := by
  intro member
  cases settled with
  | map distinct entries => cases (Yaml.Writing.isCommon_write entries).mem_chars member

/-- The file of a descriptor that was written holds the document of that descriptor. -/
theorem written_reads_back (legible : d.IsLegible)
    (written : (Generator.descriptor.execute fs directory d).outcome.result = .ok paths) :
    ∃ es chars, d.document = .ok es ∧ Sources.readText (Generator.descriptor.execute fs directory d).fs "utf-8"
      (FileSystem.fileIn directory Generator.descriptorFile) = .ok chars ∧ Yaml.read chars = .ok (Plain.map es).toValue := by
  obtain ⟨files, made⟩ | ⟨fault, made⟩ := Outcome.ok_or_error (Generator.descriptor.artifacts d)
  · obtain ⟨es, document, spelled, rfl⟩ := Generator.descriptor_artifacts.1 made
    have settled := document_settled document
    obtain ⟨filed, outcome⟩ := Generator.execute_of_texts fs directory made
    have finished : fs.writeTexts directory [(Generator.descriptorFile, Yaml.write es)] =
        ((Generator.descriptor.execute fs directory d).fs, .ok paths) :=
      Prod.ext filed.symm (Outcome.mapError_eq_ok.1 (outcome.symm.trans written))
    obtain ⟨content, encoded, read⟩ := FileSystem.holds_of_written finished List.mem_cons_self
      fun other only _ => List.mem_singleton.1 only
    exact ⟨es, _, document, Sources.readText_of_encoded read encoded (unreturned_write settled),
      Yaml.Writing.read_write settled spelled (legible es document)⟩
  · obtain ⟨-, f, failed⟩ := Generator.execute_of_fault fs directory made
    cases failed.symm.trans written

end Descriptor

namespace SamplePlugin

def descriptor (description : Text) : Descriptor where
  groupId := "org"
  artifactId := "sample"
  version := "1.0.0"
  name := "Sample"
  description := some description
  goalPrefix := "sample"
  dependencies := []
  tasks := []
  distinct := by simp

def emptyOutput : FileSystem := ⟨.directory [("out", .directory [])], []⟩

def output : Path := ⟨false, ["out"]⟩

def quotedLines : Descriptor := descriptor "- one\n'two'"

def nextLine : Descriptor := descriptor "a\u0085b"

theorem quotedLines_read_back : ∃ es chars, quotedLines.document = .ok es ∧
    Sources.readText (Generator.descriptor.execute emptyOutput output quotedLines).fs "utf-8"
      (FileSystem.fileIn output Generator.descriptorFile) = .ok chars ∧ Yaml.read chars = .ok (Plain.map es).toValue := by
  have legible : quotedLines.IsLegible := by
    intro es document
    cases document
    decide +kernel
  have written : (Generator.descriptor.execute emptyOutput output quotedLines).outcome.result.toOption.isSome = true := by
    decide +kernel
  obtain ⟨paths, written⟩ := Option.isSome_iff_exists.1 written
  exact Descriptor.written_reads_back legible (Outcome.toOption_eq_some.1 written)

def describedIn? : Value → Option Text
  | .map entries => (Value.lookup? entries "description").bind fun
    | .text t => some t
    | _ => none
  | _ => none

/-- A next-line control between quotes is read as a blank. -/
theorem nextLine_departs :
    (Generator.descriptor.execute emptyOutput output nextLine).outcome.result.toOption.isSome = true ∧
    ∃ es chars v, nextLine.document = .ok es ∧
      Sources.readText (Generator.descriptor.execute emptyOutput output nextLine).fs "utf-8"
        (FileSystem.fileIn output Generator.descriptorFile) = .ok chars ∧
      Yaml.read chars = .ok v ∧ v ≠ (Plain.map es).toValue := by
  -- Values cannot be compared in one step, as there are floats among them: their descriptions are.
  have apart : (nextLine.document.toOption.any fun es =>
      (Sources.readText (Generator.descriptor.execute emptyOutput output nextLine).fs "utf-8"
        (FileSystem.fileIn output Generator.descriptorFile)).toOption.any fun chars =>
      (Yaml.read chars).toOption.any fun v => decide (describedIn? v ≠ describedIn? (Plain.map es).toValue)) = true := by
    decide +kernel
  obtain ⟨es, document, apart⟩ := (Option.any_eq_true _ _).1 apart
  obtain ⟨chars, text, apart⟩ := (Option.any_eq_true _ _).1 apart
  obtain ⟨v, value, apart⟩ := (Option.any_eq_true _ _).1 apart
  exact ⟨by decide +kernel, es, chars, v, Outcome.toOption_eq_some.1 document, Outcome.toOption_eq_some.1 text,
    Outcome.toOption_eq_some.1 value, fun same => of_decide_eq_true apart (congrArg describedIn? same)⟩

end SamplePlugin

end TaskCatalog
