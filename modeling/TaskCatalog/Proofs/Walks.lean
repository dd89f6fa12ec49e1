import TaskCatalog.FileSystem.Listing
import TaskCatalog.Proofs.Locations

/-!
Walks over a tree that gets more files: a walk goes where it went before, and one that ended at a
missing name arrives there once a file has that name.
-/

namespace TaskCatalog

open Text

/-- A name of an entry of a directory, not of the directory itself or of the one around it. -/
def Path.NamesEntry (name : Text) : Prop := name ≠ dot ∧ name ≠ dotDot

instance (name : Text) : Decidable (Path.NamesEntry name) := inferInstanceAs (Decidable (_ ∧ _))

namespace Walked

/-- The location that a walk leads a file to. -/
def destination? : Walked → Option Location
  | .arrived l => some l
  | .missing parent name => some (parent ++ [name])
  | _ => none

inductive Becomes (later : Node) : Walked → Walked → Prop
  | same {w} : Becomes later w w
  | made {parent name content} : later.kind? (parent ++ [name]) = some (.file content) →
      Becomes later (.missing parent name) (.arrived (parent ++ [name]))
  | blocked : Becomes later (.refused .notFound) (.refused .notDirectory)

end Walked

namespace FileSystem

def destination? (fs : FileSystem) (p : Path) : Option Location := (fs.reach p).destination?

/-- The content of the file that a path leads to. -/
def content? (fs : FileSystem) (p : Path) : Option Bytes := (fs.destination? p).bind fs.root.content?

structure Grows (fs later : FileSystem) : Prop where
  current : later.current = fs.current
  root : fs.root.Grows later.root

variable {root later : Node} {l parent start : Location} {name : Text} {names more : List Text}
  {target : Text} {content : Bytes} {links : Nat}

theorem step_cons (root : Node) (l : Location) (name : Text) (rest : List Text) :
    step root l (name :: rest) =
      match root.kind? l with
      | some .directory =>
        if name = Path.dotDot then step root l.dropLast rest
        else if name = Path.dot then step root l rest
        else if 255 < utf8Size name then .refused .nameTooLong
        else match root.kind? (l ++ [name]) with
          | none => if rest.isEmpty then .missing l name else .refused .notFound
          | some (.link target) => .met l target rest
          | some (.file _) => if rest.isEmpty then .arrived (l ++ [name]) else .refused .notDirectory
          | some .directory => step root (l ++ [name]) rest
      | some _ => .refused .notDirectory
      | none => .refused .notFound := by
  rw [step, Node.kind?]
  cases h : root.at? l with
  | none => rfl
  | some node =>
    cases node with
    | file content => rfl
    | link target => rfl
    | directory entries =>
      rw [Node.kind?, Node.at?_snoc h]
      simp only [Option.map_some, Node.kind]
      cases Node.entry? name entries with
      | none => rfl
      | some node => cases node <;> rfl

theorem step_grows (h : root.Grows later) (l : Location) (names : List Text) :
    (step root l names).Becomes later (step later l names) := by
  -- along the names: a place that was made or rewritten ends the walk there, any other is passed in both trees alike
  induction names generalizing l with
  | nil => exact .same
  | cons name rest ih =>
    have here := h l
    have there := h (l ++ [name])
    rw [step_cons, step_cons]
    generalize root.kind? l = k, later.kind? l = k' at here
    cases here with
    | rewritten => exact .same
    | made => exact .blocked
    | same =>
      match k with
      | none => exact .same
      | some (.file _) => exact .same
      | some (.link _) => exact .same
      | some .directory =>
        dsimp only
        split
        · exact ih _
        split
        · exact ih _
        split
        · exact .same
        generalize hk' : later.kind? (l ++ [name]) = k' at there
        generalize root.kind? (l ++ [name]) = k at there
        cases there with
        | rewritten => exact .same
        | made =>
          cases rest with
          | nil => exact .made hk'
          | cons _ _ => exact .blocked
        | same =>
          match k' with
          | none => exact .same
          | some (.file _) => exact .same
          | some (.link _) => exact .same
          | some .directory => exact ih _

theorem walk_succ (root : Node) (links : Nat) (l : Location) (names : List Text) :
    walk root (links + 1) l names =
      match step root l names with
      | .met l target rest =>
        walk root links (if (Path.ofText target).absolute then [] else l)
          (Path.linkNames target ++ rest)
      | walked => walked := by
  cases stepped : step root l names <;> simp only [walk, stepped]

theorem walk_grows (h : root.Grows later) (links : Nat) (l : Location) (names : List Text) :
    (walk root links l names).Becomes later (walk later links l names) := by
  induction links generalizing l names with
  | zero => exact .same
  | succ links ih =>
    have stepped := step_grows h l names
    rw [walk_succ, walk_succ]
    generalize step root l names = w, step later l names = w' at stepped
    cases stepped with
    | made there => exact .made there
    | blocked => exact .blocked
    | same =>
      cases w with
      | met l target rest => exact ih _ _
      | arrived l => exact .same
      | refused fault => exact .same
      | missing parent name => exact .same

theorem Grows.reach {fs later : FileSystem} (h : fs.Grows later) (p : Path) :
    (fs.reach p).Becomes later.root (later.reach p) := by
  rw [FileSystem.reach, FileSystem.reach, h.current]
  split
  · exact .same
  · exact walk_grows h.root _ _ _

/-- A walk that misses a name stopped in a directory without it. -/
theorem step_missing (h : step root l names = .missing parent name) :
    root.kind? parent = some .directory ∧ root.kind? (parent ++ [name]) = none := by
  induction names generalizing l with
  | nil => cases h
  | cons next rest ih =>
    rw [step_cons] at h
    split at h
    · rename_i directory
      split at h
      · exact ih h
      split at h
      · exact ih h
      split at h
      · cases h
      split at h
      · rename_i vacant
        split at h
        · cases h
          exact ⟨directory, vacant⟩
        · cases h
      · cases h
      · split at h <;> cases h
      · exact ih h
    · cases h
    · cases h

theorem walk_missing (h : walk root links l names = .missing parent name) :
    root.kind? parent = some .directory ∧ root.kind? (parent ++ [name]) = none := by
  induction links generalizing l names with
  | zero => cases h
  | succ links ih =>
    rw [walk_succ] at h
    split at h
    · exact ih h
    · exact step_missing h

theorem step_snoc (root : Node) (l : Location) (names : List Text) (name : Text) :
    step root l (names ++ [name]) =
      match step root l names with
      | .arrived m => step root m [name]
      | .met m target rest => .met m target (rest ++ [name])
      | .missing _ _ => .refused .notFound
      | .refused fault => .refused fault := by
  induction names generalizing l with
  | nil => rfl
  | cons next rest ih =>
    have more : (rest ++ [name]).isEmpty = false := by simp
    rw [List.cons_append, step_cons, step_cons]
    cases root.kind? l with
    | none => rfl
    | some kind =>
      cases kind with
      | file content => rfl
      | link target => rfl
      | directory =>
        dsimp only
        split
        · exact ih _
        split
        · exact ih _
        split
        · rfl
        cases hk : root.kind? (l ++ [next]) with
        | none => cases rest <;> rfl
        | some kind =>
          cases kind with
          | directory => exact ih _
          | link target => rfl
          | file content =>
            cases rest with
            | nil => simp [step_cons, hk]
            | cons _ _ => rfl

/-- Before a walk gets to a last name, it arrives at where the names before it lead. -/
theorem walk_snoc {d : Location} (h : (walk root links l (names ++ [name])).destination? = some d) :
    ∃ m, walk root links l names = .arrived m ∧
      ∃ links, (walk root (links + 1) m [name]).destination? = some d := by
  induction links generalizing l names with
  | zero => cases h
  | succ links ih =>
    rw [walk_succ, step_snoc] at h
    rw [walk_succ]
    cases hw : step root l names with
    | arrived m =>
      rw [hw] at h
      exact ⟨m, rfl, links, by rw [walk_succ]; exact h⟩
    | refused fault =>
      rw [hw] at h
      cases h
    | missing parent next =>
      rw [hw] at h
      cases h
    | met m target rest =>
      rw [hw] at h
      dsimp only at h ⊢
      rw [← List.append_assoc] at h
      exact ih h

theorem step_name (directory : root.kind? l = some .directory) (named : Path.NamesEntry name) :
    step root l [name] =
      if 255 < utf8Size name then .refused .nameTooLong
      else match root.kind? (l ++ [name]) with
        | none => .missing l name
        | some (.link target) => .met l target []
        | some _ => .arrived (l ++ [name]) := by
  rw [step_cons, directory]
  simp only [if_neg named.1, if_neg named.2]
  cases root.kind? (l ++ [name]) with
  | none => rfl
  | some kind => cases kind <;> rfl

theorem walk_name {d : Location} (h : (walk root (links + 1) l [name]).destination? = some d)
    (named : Path.NamesEntry name) (linkless : ∀ target, root.kind? (l ++ [name]) ≠ some (.link target)) :
    root.kind? l = some .directory ∧ d = l ++ [name] := by
  have directory : root.kind? l = some .directory := by
    rw [walk_succ, step_cons] at h
    match hl : root.kind? l with
    | none => simp [hl, Walked.destination?] at h
    | some (.file _) => simp [hl, Walked.destination?] at h
    | some (.link _) => simp [hl, Walked.destination?] at h
    | some .directory => rfl
  refine ⟨directory, ?_⟩
  rw [walk_succ, step_name directory named] at h
  by_cases long : 255 < utf8Size name
  · simp [long, Walked.destination?] at h
  rw [if_neg long] at h
  match hk : root.kind? (l ++ [name]) with
  | some (.link target) => exact absurd hk (linkless target)
  | none => simpa [hk, Walked.destination?, eq_comm] using h
  | some (.file _) => simpa [hk, Walked.destination?, eq_comm] using h
  | some .directory => simpa [hk, Walked.destination?, eq_comm] using h

section Sizes

theorem utf8Size_append (t u : Text) : utf8Size (t ++ u) = utf8Size t + utf8Size u := by
  induction t with
  | nil => simp [utf8Size]
  | cons l t ih => simp [utf8Size, ih, Nat.add_assoc]

theorem utf8Size_join_snoc (parts : List Text) (name : Text) :
    utf8Size (join "/" parts) ≤ utf8Size (join "/" (parts ++ [name])) := by
  induction parts with
  | nil => exact Nat.zero_le _
  | cons part parts ih =>
    cases parts with
    | nil => simp [join, utf8Size_append]
    | cons next rest =>
      rw [List.cons_append, List.cons_append]
      simp only [join, utf8Size_append]
      exact Nat.add_le_add_left ih _

/-- Where a path is short enough, so is the directory that it names a file of. -/
theorem utf8Size_text_below {dir : Path} (h : utf8Size (dir ++ (⟨false, [name]⟩ : Path)).text < pathLimit) :
    utf8Size dir.text < pathLimit := by
  have parts := utf8Size_join_snoc dir.parts name
  have below : dir ++ (⟨false, [name]⟩ : Path) = ⟨dir.absolute, dir.parts ++ [name]⟩ := rfl
  rw [below, Path.text] at h
  rw [Path.text]
  cases hp : dir.absolute with
  | true =>
    simp only [hp, if_true, utf8Size] at h ⊢
    omega
  | false =>
    simp only [hp, Bool.false_eq_true, if_false] at h ⊢
    split
    · decide
    · simp at h
      omega

end Sizes

variable {fs later : FileSystem} {p dir : Path} {d : Location}

theorem locate?_eq_some : fs.locate? p = some l ↔ fs.reach p = .arrived l := by
  rw [locate?]
  cases fs.reach p <;> simp

/-- A file below a directory without a link of its name is led to in that very directory. -/
theorem destination?_below (h : fs.destination? (dir ++ (⟨false, [name]⟩ : Path)) = some d)
    (named : Path.NamesEntry name)
    (linkless : ∀ o, fs.locate? dir = some o → ∀ target, fs.root.kind? (o ++ [name]) ≠ some (.link target)) :
    ∃ o, fs.locate? dir = some o ∧ d = o ++ [name] := by
  rw [destination?, reach] at h
  split at h
  · cases h
  rename_i short
  obtain ⟨o, arrived, links, last⟩ := walk_snoc h
  have located : fs.locate? dir = some o := by
    rw [locate?_eq_some, reach, if_neg (Nat.not_le.2 (utf8Size_text_below (Nat.not_le.1 short)))]
    exact arrived
  exact ⟨o, located, (walk_name last named (linkless o located)).2⟩

theorem Grows.destination?_eq (h : fs.Grows later) (p : Path) : later.destination? p = fs.destination? p := by
  have reached := h.reach p
  rw [destination?, destination?]
  generalize fs.reach p = w, later.reach p = w' at reached
  cases reached with
  | same => rfl
  | made _ => rfl
  | blocked => rfl

theorem Grows.locate?_of_some (h : fs.Grows later) (located : fs.locate? p = some l) :
    later.locate? p = some l := by
  rw [locate?_eq_some] at located ⊢
  have reached := h.reach p
  rw [located] at reached
  generalize later.reach p = w at reached ⊢
  cases reached
  rfl

theorem Grows.locate?_of_none (h : fs.Grows later) (unlocated : fs.locate? p = none) :
    later.locate? p = none ∨ ∃ l content, later.locate? p = some l ∧ later.root.kind? l = some (.file content) := by
  have reached := h.reach p
  rw [locate?] at unlocated ⊢
  generalize fs.reach p = w, later.reach p = w' at reached unlocated
  cases reached with
  | same => exact .inl unlocated
  | blocked => exact .inl rfl
  | made there => exact .inr ⟨_, _, rfl, there⟩

/-- A path that leads to what is there arrives at it. -/
theorem locate?_of_destination (led : fs.destination? p = some l) (there : fs.root.kind? l ≠ none) :
    fs.locate? p = some l := by
  rw [destination?] at led
  rw [locate?]
  cases h : fs.reach p with
  | arrived m =>
    rw [h] at led
    exact led
  | missing parent name =>
    rw [h] at led
    cases led
    rw [reach] at h
    split at h
    · cases h
    exact absurd (walk_missing h).2 there
  | refused fault =>
    rw [h] at led
    cases led
  | met m target rest =>
    rw [h] at led
    cases led

theorem content?_eq_locate (fs : FileSystem) (p : Path) :
    fs.content? p = (fs.locate? p).bind fs.root.content? := by
  rw [content?, destination?, locate?]
  cases h : fs.reach p with
  | missing parent name =>
    rw [reach] at h
    split at h
    · cases h
    have vacant := Node.kind?_eq_none.1 (walk_missing h).2
    simp [Walked.destination?, Node.content?, vacant]
  | arrived l => rfl
  | refused fault => rfl
  | met l target rest => rfl

theorem read_eq_ok : fs.read p = .ok content ↔ fs.content? p = some content := by
  rw [content?_eq_locate, read, locate?]
  cases fs.reach p with
  | arrived l =>
    simp only [Option.bind_some, Node.content?]
    match fs.root.at? l with
    | none => simp
    | some (.file _) => simp
    | some (.directory _) => simp
    | some (.link _) => simp
  | refused fault => simp
  | missing parent name => simp
  | met l target rest => simp

theorem isFile_eq (fs : FileSystem) (p : Path) :
    fs.isFile p = (p.parts.all isName && (fs.content? p).isSome) := by
  rw [content?_eq_locate, isFile, node?]
  congr 1
  cases fs.locate? p with
  | none => rfl
  | some l =>
    simp only [Option.bind_some, Node.content?]
    match fs.root.at? l with
    | none => rfl
    | some (.file _) => rfl
    | some (.directory _) => rfl
    | some (.link _) => rfl

theorem hasFile_eq_true : fs.hasFile p = .ok true ↔ fs.isFile p = true := by
  rw [hasFile]
  split
  · rename_i long
    have unlocated : fs.locate? p = none := by rw [locate?, long]
    have no : fs.isFile p = false := by simp [isFile, node?, unlocated]
    rw [no]
    split <;> simp
  · simp

end FileSystem

end TaskCatalog
