import TaskCatalog.Artifact.Generator
import TaskCatalog.Proofs.Association
import TaskCatalog.Proofs.Walks
import Mathlib.Data.List.Forall2

/-!
Writing texts one after the other: which contents are put at which locations, up to the first text
that cannot be written. What was written once can be written again, with the same files after it.
-/

namespace TaskCatalog

open Text

namespace FileSystem

def put (fs : FileSystem) (l : Location) (content : Bytes) : FileSystem :=
  { fs with root := fs.root.put (.file content) l }

def fileIn (directory : Path) (name : Text) : Path := directory ++ (⟨false, [name]⟩ : Path)

/-- The contents that writing texts below a directory puts at locations, and what comes of it. -/
inductive Trace (directory : Path) : FileSystem → List (Text × Text) → List (Location × Bytes) →
    FileSystem × Except WriteFault (List Path) → Prop
  | finished {fs} : Trace directory fs [] [] (fs, .ok [])
  | refused {fs : FileSystem} {name t rest e} : fs.write (fileIn directory name) [] = .error e →
      Trace directory fs ((name, t) :: rest) [] (fs, .error (.file e))
  | emptied {fs : FileSystem} {name t rest l u} : fs.destination? (fileIn directory name) = some l →
      fs.root.Takes l → encodeUtf8 t = .error u →
      Trace directory fs ((name, t) :: rest) [(l, [])] (fs.put l [], .error (.unencodable u))
  | written {fs : FileSystem} {name t rest l content ws later result} :
      fs.destination? (fileIn directory name) = some l → fs.root.Takes l → encodeUtf8 t = .ok content →
      Trace directory (fs.put l content) rest ws (later, result) →
      Trace directory fs ((name, t) :: rest) ((l, content) :: ws)
        (later, result.map (fileIn directory name :: ·))

/-- A text whose content is to be written at a location. -/
structure Lands (directory : Path) (fs : FileSystem) (file : Text × Text) (w : Location × Bytes) : Prop where
  led : fs.destination? (fileIn directory file.1) = some w.1
  encoded : encodeUtf8 file.2 = .ok w.2

variable {fs later : FileSystem} {p directory : Path} {l : Location} {content old : Bytes} {t : Text}
  {files : List (Text × Text)} {ws : List (Location × Bytes)}
  {result : FileSystem × Except WriteFault (List Path)}

theorem put_grows (takes : fs.root.Takes l) (content : Bytes) : fs.Grows (fs.put l content) :=
  ⟨rfl, takes.grows content⟩

theorem Grows.lands_iff {file : Text × Text} {w : Location × Bytes} (h : fs.Grows later) :
    Lands directory later file w ↔ Lands directory fs file w := by
  have same := h.destination?_eq (fileIn directory file.1)
  exact ⟨fun x => ⟨same ▸ x.led, x.encoded⟩, fun x => ⟨same ▸ x.led, x.encoded⟩⟩

theorem write_cases (fs : FileSystem) (p : Path) (content : Bytes) :
    (∃ e, fs.write p content = .error e) ∨
      ∃ l, fs.destination? p = some l ∧ fs.root.Takes l ∧ fs.write p content = .ok (fs.put l content) := by
  rw [write, destination?]
  cases hp : fs.reach p with
  | refused fault => exact .inl ⟨_, rfl⟩
  | met l target rest => exact .inl ⟨_, rfl⟩
  | arrived l =>
    dsimp only
    split
    · rename_i there
      exact .inr ⟨l, rfl, .of_file there, rfl⟩
    · exact .inl ⟨_, rfl⟩
  | missing parent name =>
    rw [reach] at hp
    split at hp
    · cases hp
    obtain ⟨directory, vacant⟩ := walk_missing hp
    obtain ⟨entries, there⟩ := Node.kind?_eq_directory.1 directory
    rw [Node.kind?_eq_none, Node.at?_snoc there] at vacant
    exact .inr ⟨parent ++ [name], rfl, .of_vacant there vacant, rfl⟩

theorem write_of_file (led : fs.destination? p = some l) (there : fs.root.kind? l = some (.file old))
    (content : Bytes) : fs.write p content = .ok (fs.put l content) := by
  have located := locate?_of_destination led (by rw [there]; exact Option.some_ne_none _)
  rw [write, locate?_eq_some.1 located]
  dsimp only
  rw [Node.kind?_eq_file.1 there]
  rfl

theorem put_put (takes : fs.root.Takes l) (content new : Bytes) :
    (fs.put l content).put l new = fs.put l new := by
  simp only [put, Node.put_put takes]

theorem write_put (led : fs.destination? p = some l) (takes : fs.root.Takes l) (content new : Bytes) :
    (fs.put l content).write p new = .ok (fs.put l new) := by
  have there : (fs.put l content).root.kind? l = some (.file content) := by
    rw [put, Node.kind?_put takes, if_pos rfl]
  rw [write_of_file (((put_grows takes content).destination?_eq p).trans led) there, put_put takes]

theorem writeText_refused {e : FileError} (h : fs.write p [] = .error e) (t : Text) :
    fs.writeText p t = (fs, .error (.file e)) := by
  rw [writeText, h]

theorem writeText_emptied {u : Unencodable} (h : fs.write p [] = .ok later) (bad : encodeUtf8 t = .error u) :
    fs.writeText p t = (later, .error (.unencodable u)) := by
  rw [writeText, h]
  simp only [bad]

theorem writeText_written (led : fs.destination? p = some l) (takes : fs.root.Takes l)
    (h : fs.write p [] = .ok (fs.put l [])) (encoded : encodeUtf8 t = .ok content) :
    fs.writeText p t = (fs.put l content, .ok ()) := by
  rw [writeText, h]
  simp only [encoded, write_put led takes]

theorem writeTexts_cons_error {fault : WriteFault} {name : Text} {rest : List (Text × Text)}
    (h : fs.writeText (fileIn directory name) t = (later, .error fault)) :
    fs.writeTexts directory ((name, t) :: rest) = (later, .error fault) := by
  rw [fileIn] at h
  simp only [writeTexts, h]

theorem writeTexts_cons_ok {name : Text} {rest : List (Text × Text)}
    (h : fs.writeText (fileIn directory name) t = (later, .ok ())) :
    fs.writeTexts directory ((name, t) :: rest) =
      ((later.writeTexts directory rest).1,
        (later.writeTexts directory rest).2.map (fileIn directory name :: ·)) := by
  rw [fileIn] at h
  simp only [writeTexts, h, fileIn]

theorem trace_writeTexts (fs : FileSystem) (directory : Path) (files : List (Text × Text)) :
    ∃ ws, Trace directory fs files ws (fs.writeTexts directory files) := by
  induction files generalizing fs with
  | nil => exact ⟨[], .finished⟩
  | cons file rest ih =>
    obtain ⟨name, t⟩ := file
    rcases write_cases fs (fileIn directory name) [] with ⟨e, refused⟩ | ⟨l, led, takes, opened⟩
    · rw [writeTexts_cons_error (writeText_refused refused t)]
      exact ⟨[], .refused refused⟩
    cases encoded : encodeUtf8 t with
    | error u =>
      rw [writeTexts_cons_error (writeText_emptied opened encoded)]
      exact ⟨[(l, [])], .emptied led takes encoded⟩
    | ok content =>
      rw [writeTexts_cons_ok (writeText_written led takes opened encoded)]
      obtain ⟨ws, trace⟩ := ih (fs.put l content)
      exact ⟨(l, content) :: ws, .written led takes encoded trace⟩

namespace Trace

theorem updates (h : Trace directory fs files ws result) : fs.root.Updates ws result.1.root := by
  induction h with
  | finished => exact .nil
  | refused _ => exact .nil
  | emptied _ takes _ => exact .cons takes .nil
  | written _ takes _ _ ih => exact .cons takes ih

theorem current (h : Trace directory fs files ws result) : result.1.current = fs.current := by
  induction h with
  | finished => rfl
  | refused _ => rfl
  | emptied _ _ _ => rfl
  | written _ _ _ _ ih => exact ih

theorem grows (h : Trace directory fs files ws result) : fs.Grows result.1 := ⟨h.current, h.updates.grows⟩

/-- What is written is written where the path of a text leads to. -/
theorem located (h : Trace directory fs files ws result) :
    ∀ w ∈ ws, ∃ file ∈ files, fs.destination? (fileIn directory file.1) = some w.1 := by
  induction h with
  | finished => exact nofun
  | refused _ => exact nofun
  | emptied led _ _ =>
    intro w hw
    cases List.mem_singleton.1 hw
    exact ⟨_, List.mem_cons_self, led⟩
  | @written fs name t rest l content ws later result led takes _ _ ih =>
    intro w hw
    rcases List.mem_cons.1 hw with rfl | hw
    · exact ⟨_, List.mem_cons_self, led⟩
    · obtain ⟨file, hf, led⟩ := ih w hw
      rw [(put_grows takes content).destination?_eq] at led
      exact ⟨file, List.mem_cons_of_mem _ hf, led⟩

/-- Where nothing fails, every text is written, each at its own place. -/
theorem all {paths : List Path} (h : Trace directory fs files ws (later, .ok paths)) :
    paths = files.map (fun file => fileIn directory file.1) ∧
      List.Forall₂ (Lands directory fs) files ws := by
  generalize hr : (later, Except.ok paths) = result at h
  induction h generalizing paths with
  | finished =>
    cases hr
    exact ⟨rfl, .nil⟩
  | refused _ => cases hr
  | emptied _ _ _ => cases hr
  | @written fs name t rest l content ws later result led takes encoded _ ih =>
    cases result with
    | error fault => cases hr
    | ok found =>
      cases hr
      obtain ⟨rfl, placed⟩ := ih rfl
      exact ⟨rfl, .cons ⟨led, encoded⟩ (placed.imp fun file w => (put_grows takes content).lands_iff.1)⟩

end Trace

/-- Texts whose files are all there are written, whatever the files hold. -/
theorem writeTexts_of_files (placed : List.Forall₂ (Lands directory fs) files ws)
    (there : ∀ w ∈ ws, ∃ old, fs.root.kind? w.1 = some (.file old)) :
    ∃ later, fs.writeTexts directory files = (later, .ok (files.map fun file => fileIn directory file.1)) ∧
      fs.root.Updates ws later.root := by
  induction files generalizing fs ws with
  | nil =>
    cases placed
    exact ⟨fs, rfl, .nil⟩
  | cons file rest ih =>
    obtain ⟨name, t⟩ := file
    cases placed with
    | @cons _ w _ ws here more =>
      obtain ⟨l, content⟩ := w
      obtain ⟨old, file⟩ := there (l, content) List.mem_cons_self
      have takes : fs.root.Takes l := .of_file (Node.kind?_eq_file.1 file)
      have written := writeText_written here.led takes (write_of_file here.led file []) here.encoded
      have stays : ∀ w ∈ ws, ∃ old, (fs.put l content).root.kind? w.1 = some (.file old) := by
        intro w hw
        obtain ⟨old, file⟩ := there w (List.mem_cons_of_mem _ hw)
        rw [put, Node.kind?_put takes]
        split
        · exact ⟨_, rfl⟩
        · exact ⟨_, file⟩
      have next := more.imp fun file w => (put_grows takes content).lands_iff.2
      obtain ⟨later, done, updates⟩ := ih next stays
      refine ⟨later, ?_, .cons takes updates⟩
      rw [writeTexts_cons_ok written, done]
      rfl

/-- Texts that were all written are written again, at the same places. -/
theorem Trace.again {paths : List Path} (h : Trace directory fs files ws (later, .ok paths)) :
    ∃ final, later.writeTexts directory files = (final, .ok paths) ∧ later.root.Updates ws final.root := by
  obtain ⟨rfl, placed⟩ := h.all
  exact writeTexts_of_files (placed.imp fun file w => h.grows.lands_iff.2)
    fun w hw => h.updates.file_of_mem hw

/-- The file of a text below a directory holds it. -/
def Holds (fs : FileSystem) (directory : Path) (file : Text × Text) : Prop :=
  ∃ content, encodeUtf8 file.2 = .ok content ∧ fs.read (fileIn directory file.1) = .ok content

/-- No other one of the texts goes to the same place. -/
def Alone (fs : FileSystem) (directory : Path) (files : List (Text × Text)) (file : Text × Text) : Prop :=
  ∀ other ∈ files, fs.destination? (fileIn directory other.1) = fs.destination? (fileIn directory file.1) → other = file

theorem lands_of_mem (placed : List.Forall₂ (Lands directory fs) files ws) :
    (∀ file ∈ files, ∃ w ∈ ws, Lands directory fs file w) ∧ ∀ w ∈ ws, ∃ file ∈ files, Lands directory fs file w := by
  induction placed with
  | nil => exact ⟨nofun, nofun⟩
  | cons here _ ih =>
    simp only [List.forall_mem_cons, List.exists_mem_cons_iff]
    exact ⟨⟨.inl here, fun file hf => .inr (ih.1 file hf)⟩, .inl here, fun w hw => .inr (ih.2 w hw)⟩

/-- Where all is written, the texts are there to be read, but for those that another one overwrites. -/
theorem holds_of_written {paths : List Path} {file : Text × Text}
    (h : fs.writeTexts directory files = (later, .ok paths)) (member : file ∈ files)
    (alone : fs.Alone directory files file) : later.Holds directory file := by
  obtain ⟨ws, trace⟩ := trace_writeTexts fs directory files
  rw [h] at trace
  obtain ⟨-, placed⟩ := trace.all
  obtain ⟨forward, backward⟩ := lands_of_mem placed
  obtain ⟨w, hw, lands⟩ := forward file member
  obtain ⟨content, last⟩ := Node.latest?_of_mem hw
  -- what was put there last came of this text
  obtain ⟨other, ho, landed⟩ := backward (w.1, content) (List.mem_reverse.1 (Association.mem_of_lookup last))
  cases alone other ho (landed.led.trans lands.led.symm)
  refine ⟨content, landed.encoded, read_eq_ok.2 ?_⟩
  rw [content?, trace.grows.destination?_eq, lands.led]
  refine Node.content?_eq_some.2 ?_
  rw [trace.updates.kind?_eq, last]
  rfl

end FileSystem

end TaskCatalog
