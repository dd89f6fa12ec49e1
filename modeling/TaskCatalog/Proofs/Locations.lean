import TaskCatalog.FileSystem.Tree

/-!
Putting a file into a tree: what stands at the other locations stays, and of two puts at one location
only the later counts.
-/

namespace TaskCatalog

open Text

namespace Node

/-- What a node is, without what lies below it. -/
inductive Kind where
  | file (content : Bytes)
  | directory
  | link (target : Text)

def kind : Node → Kind
  | file content => .file content
  | directory _ => .directory
  | link target => .link target

def kind? (root : Node) (l : Location) : Option Kind := (root.at? l).map kind

def content? (root : Node) (l : Location) : Option Bytes :=
  match root.at? l with
  | some (.file content) => some content
  | _ => none

/-- A location that a file can be put at: a file is there, or nothing in a directory that is there. -/
inductive Takes : Node → Location → Prop
  | file {content} : Takes (.file content) []
  | vacant {entries name} : entry? name entries = none → Takes (.directory entries) [name]
  | inside {entries name child rest} : entry? name entries = some child → Takes child rest →
      Takes (.directory entries) (name :: rest)

/-- What may come of a location when files are written: a file may appear, and one that is there may change. -/
inductive Becomes : Option Kind → Option Kind → Prop
  | same {k} : Becomes k k
  | rewritten {old new} : Becomes (some (.file old)) (some (.file new))
  | made {content} : Becomes none (some (.file content))

def Grows (root later : Node) : Prop := ∀ l, Becomes (root.kind? l) (later.kind? l)

/-- Contents put at locations one after the other. -/
inductive Updates : Node → List (Location × Bytes) → Node → Prop
  | nil {root} : Updates root [] root
  | cons {root later : Node} {l content ws} : root.Takes l →
      Updates (root.put (.file content) l) ws later → Updates root ((l, content) :: ws) later

def latest? (ws : List (Location × Bytes)) (l : Location) : Option Bytes := ws.reverse.lookup l

variable {root child new later : Node} {entries : List (Text × Node)} {name other : Text}
  {l m rest : Location} {content old : Bytes}

theorem at?_directory (entries : List (Text × Node)) (name : Text) (rest : Location) :
    (directory entries).at? (name :: rest) = ( entry? name entries).bind (·.at? rest) := by
  rw [at?]
  cases entry? name entries <;> rfl

theorem at?_append (root : Node) (l m : Location) : root.at? (l ++ m) = (root.at? l).bind (·.at? m) := by
  induction l generalizing root with
  | nil => simp [at?]
  | cons name l ih =>
    cases root with
    | directory entries =>
      rw [List.cons_append, at?_directory, at?_directory]
      cases entry? name entries with
      | none => rfl
      | some child => exact ih child
    | file content => rfl
    | link target => rfl

theorem at?_snoc (h : root.at? l = some (.directory entries)) (name : Text) :
    root.at? (l ++ [name]) = entry? name entries := by
  rw [at?_append, h, Option.bind_some, at?_directory]
  cases entry? name entries <;> simp [at?]

theorem kind?_eq_file : root.kind? l = some (.file content) ↔ root.at? l = some (.file content) := by
  rw [kind?, Option.map_eq_some_iff]
  constructor
  · rintro ⟨node, hnode, hkind⟩
    cases node <;> cases hkind
    exact hnode
  · exact fun h => ⟨_, h, rfl⟩

theorem kind?_eq_link {target : Text} :
    root.kind? l = some (.link target) ↔ root.at? l = some (.link target) := by
  rw [kind?, Option.map_eq_some_iff]
  constructor
  · rintro ⟨node, hnode, hkind⟩
    cases node <;> cases hkind
    exact hnode
  · exact fun h => ⟨_, h, rfl⟩

theorem kind?_eq_directory :
    root.kind? l = some .directory ↔ ∃ entries, root.at? l = some (.directory entries) := by
  rw [kind?, Option.map_eq_some_iff]
  constructor
  · rintro ⟨node, hnode, hkind⟩
    cases node <;> cases hkind
    exact ⟨_, hnode⟩
  · rintro ⟨entries, h⟩
    exact ⟨_, h, rfl⟩

theorem content?_eq_some : root.content? l = some content ↔ root.kind? l = some (.file content) := by
  rw [kind?_eq_file, content?]
  constructor
  · intro h
    split at h
    · cases h
      assumption
    · cases h
  · intro h
    rw [h]

theorem content?_congr {root later : Node} (h : later.kind? l = root.kind? l) :
    later.content? l = root.content? l := by
  apply Option.ext
  intro content
  rw [content?_eq_some, content?_eq_some, h]

theorem kind?_eq_none : root.kind? l = none ↔ root.at? l = none := Option.map_eq_none_iff

theorem entry?_setEntry (name other : Text) (new : Node) (entries : List (Text × Node)) :
    entry? other (setEntry name new entries) =
      if other = name then some new else entry? other entries := by
  induction entries with
  | nil => simp [setEntry, entry?, eq_comm]
  | cons entry entries ih =>
    obtain ⟨n, node⟩ := entry
    by_cases hn : n = name
    · subst hn
      by_cases ho : other = n
      · simp [setEntry, entry?, ho]
      · simp [setEntry, entry?, ho, Ne.symm ho]
    · by_cases ho : n = other
      · subst ho
        simp [setEntry, entry?, hn]
      · simp [setEntry, entry?, hn, ho, ih]

theorem setEntry_setEntry (name : Text) (new later : Node) (entries : List (Text × Node)) :
    setEntry name later (setEntry name new entries) = setEntry name later entries := by
  induction entries with
  | nil => simp [setEntry]
  | cons entry entries ih =>
    obtain ⟨n, node⟩ := entry
    by_cases hn : n = name <;> simp [setEntry, hn, ih]

theorem takes_append {node : Node} {deeper : Location} (h : root.at? l = some node) (takes : node.Takes deeper) :
    root.Takes (l ++ deeper) := by
  induction l generalizing root with
  | nil =>
    cases Option.some.inj h
    exact takes
  | cons name rest ih =>
    cases root with
    | directory entries =>
      rw [at?_directory] at h
      obtain ⟨child, hchild, h⟩ := Option.bind_eq_some_iff.1 h
      exact .inside hchild (ih h)
    | file content => cases h
    | link target => cases h

theorem Takes.of_file (h : root.at? l = some (.file content)) : root.Takes l := by
  simpa using takes_append h .file

theorem Takes.of_vacant (h : root.at? l = some (.directory entries)) (vacant : entry? name entries = none) :
    root.Takes (l ++ [name]) :=
  takes_append h (.vacant vacant)

theorem Takes.file_or_none (h : root.Takes l) :
    root.kind? l = none ∨ ∃ content, root.kind? l = some (.file content) := by
  simp only [kind?_eq_none, kind?_eq_file]
  induction h with
  | file => exact .inr ⟨_, rfl⟩
  | vacant vacant =>
    rw [at?_directory, vacant]
    exact .inl rfl
  | inside hchild _ ih =>
    rw [at?_directory, hchild]
    exact ih

theorem put_directory (h : entry? name entries = some child) (new : Node) (rest : Location) :
    put (directory entries) new (name :: rest) = directory (setEntry name (put child new rest) entries) := by
  rw [put, h]

theorem put_vacant (h : entry? name entries = none) (new : Node) :
    put (directory entries) new [name] = directory (setEntry name new entries) := by
  rw [put, h]
  rfl

theorem at?_setEntry (name other : Text) (new : Node) (entries : List (Text × Node)) (rest : Location) :
    (directory (setEntry name new entries)).at? (other :: rest) =
      if other = name then new.at? rest else (directory entries).at? (other :: rest) := by
  rw [at?_directory, at?_directory, entry?_setEntry]
  split <;> rfl

theorem at?_put (h : root.Takes l) (new : Node) : (root.put new l).at? l = some new := by
  induction h with
  | file => simp [put, at?]
  | vacant vacant => rw [put_vacant vacant, at?_setEntry, if_pos rfl, at?]
  | inside hchild _ ih => rw [put_directory hchild, at?_setEntry, if_pos rfl, ih]

theorem at?_put_of_apart (h : root.Takes l) (new : Node) (above : ¬ m <+: l) (below : ¬ l <+: m) :
    (root.put new l).at? m = root.at? m := by
  induction h generalizing m with
  | file => exact absurd List.nil_prefix below
  | @vacant entries name vacant =>
    cases m with
    | nil => exact absurd List.nil_prefix above
    | cons other rest =>
      have apart : other ≠ name := fun same => below (same ▸ List.cons_prefix_cons.2 ⟨rfl, List.nil_prefix⟩)
      rw [put_vacant vacant, at?_setEntry, if_neg apart]
  | @inside entries name child rest hchild _ ih =>
    cases m with
    | nil => exact absurd List.nil_prefix above
    | cons other more =>
      rw [put_directory hchild, at?_setEntry]
      split
      · rename_i same
        subst same
        rw [List.cons_prefix_cons, not_and] at above below
        rw [at?_directory, hchild]
        exact ih (above rfl) (below rfl)
      · rfl

theorem kind?_put_of_ne (h : root.Takes l) (childless : ∀ name rest, new.at? (name :: rest) = none) (apart : m ≠ l) :
    (root.put new l).kind? m = root.kind? m := by
  induction h generalizing m with
  | file =>
    cases m with
    | nil => exact absurd rfl apart
    | cons name rest => rw [put, kind?, childless]; rfl
  | @vacant entries name vacant =>
    cases m with
    | nil => rw [put_vacant vacant]; rfl
    | cons other rest =>
      rw [put_vacant vacant, kind?, kind?, at?_setEntry]
      split
      · rename_i same
        subst same
        rw [at?_directory, vacant]
        cases rest with
        | nil => exact absurd rfl apart
        | cons _ _ => rw [childless]; rfl
      · rfl
  | @inside entries name child rest hchild _ ih =>
    cases m with
    | nil => rw [put_directory hchild]; rfl
    | cons other more =>
      rw [put_directory hchild, kind?, kind?, at?_setEntry]
      split
      · rename_i same
        subst same
        rw [at?_directory, hchild]
        exact ih fun same => apart (congrArg (other :: ·) same)
      · rfl

theorem put_put (h : root.Takes l) (new later : Node) : (root.put new l).put later l = root.put later l := by
  induction h with
  | file => simp [put]
  | @vacant entries name vacant =>
    have there : entry? name (setEntry name new entries) = some new := by
      rw [ entry?_setEntry, if_pos rfl]
    rw [put_vacant vacant, put_vacant vacant, put_directory there, put, setEntry_setEntry]
  | @inside entries name child rest hchild _ ih =>
    have there : entry? name (setEntry name (child.put new rest) entries) = some (child.put new rest) := by
      rw [ entry?_setEntry, if_pos rfl]
    rw [put_directory hchild, put_directory hchild, put_directory there, setEntry_setEntry, ih]

theorem Becomes.trans {k k' k'' : Option Kind} (h : Becomes k k') (h' : Becomes k' k'') : Becomes k k'' := by
  cases h with
  | same => exact h'
  | rewritten =>
    cases h' with
    | same => exact .rewritten
    | rewritten => exact .rewritten
  | made =>
    cases h' with
    | same => exact .made
    | rewritten => exact .made

theorem Grows.refl (root : Node) : root.Grows root := fun _ => .same

theorem Grows.trans {root mid later : Node} (h : root.Grows mid) (h' : mid.Grows later) : root.Grows later :=
  fun l => (h l).trans (h' l)

theorem kind?_put (h : root.Takes l) (content : Bytes) (m : Location) :
    (root.put (.file content) l).kind? m = if m = l then some (.file content) else root.kind? m := by
  split
  · rename_i same
    rw [same, kind?_eq_file, at?_put h]
  · rename_i apart
    exact kind?_put_of_ne h (fun _ _ => rfl) apart

theorem Takes.grows (h : root.Takes l) (content : Bytes) : root.Grows (root.put (.file content) l) := by
  intro m
  rw [kind?_put h]
  split
  · rename_i same
    subst same
    rcases h.file_or_none with vacant | ⟨old, there⟩
    · rw [vacant]
      exact .made
    · rw [there]
      exact .rewritten
  · exact .same

theorem latest?_cons (l : Location) (content : Bytes) (ws : List (Location × Bytes)) (m : Location) :
    latest? ((l, content) :: ws) m = (latest? ws m).or (if m = l then some content else none) := by
  rw [latest?, List.reverse_cons, List.lookup_append]
  congr 1
  by_cases h : m = l
  · simp [h]
  · simp [List.lookup_cons, beq_eq_false_iff_ne.2 h, h]

theorem latest?_eq_none {ws : List (Location × Bytes)} (h : ∀ w ∈ ws, w.1 ≠ l) : latest? ws l = none := by
  rw [latest?, List.lookup_eq_none_iff]
  intro w hw
  exact bne_iff_ne.2 (h w (List.mem_reverse.1 hw)).symm

theorem latest?_of_mem {ws : List (Location × Bytes)} {w : Location × Bytes} (h : w ∈ ws) :
    ∃ content, latest? ws w.1 = some content := by
  refine Option.ne_none_iff_exists'.1 fun absent => ?_
  rw [latest?, List.lookup_eq_none_iff] at absent
  exact absurd rfl (bne_iff_ne.1 (absent w (List.mem_reverse.2 h)))

theorem Updates.kind?_eq {ws : List (Location × Bytes)} (h : Updates root ws later) (m : Location) :
    later.kind? m = ((latest? ws m).map Kind.file).or (root.kind? m) := by
  induction h with
  | nil => rfl
  | @cons root later l content ws takes _ ih =>
    rw [ih, kind?_put takes, latest?_cons]
    cases latest? ws m with
    | some content => rfl
    | none => by_cases same : m = l <;> simp [same]

theorem Updates.file_of_mem {ws : List (Location × Bytes)} (h : Updates root ws later)
    {w : Location × Bytes} (hw : w ∈ ws) : ∃ content, later.kind? w.1 = some (.file content) := by
  obtain ⟨content, last⟩ := latest?_of_mem hw
  refine ⟨content, ?_⟩
  rw [h.kind?_eq, last]
  rfl

/-- The same contents put once more: what was there before does not matter. -/
theorem Updates.again {ws : List (Location × Bytes)} {final : Node} (h : Updates root ws later)
    (h' : Updates later ws final) (l : Location) : final.kind? l = later.kind? l := by
  rw [h'.kind?_eq, h.kind?_eq]
  cases latest? ws l <;> rfl

theorem Updates.grows {ws : List (Location × Bytes)} (h : Updates root ws later) : root.Grows later := by
  induction h with
  | nil => exact .refl _
  | cons takes _ ih => exact (takes.grows _).trans ih

theorem Updates.at?_eq {ws : List (Location × Bytes)} (h : Updates root ws later)
    (apart : ∀ w ∈ ws, ¬ m <+: w.1 ∧ ¬ w.1 <+: m) : later.at? m = root.at? m := by
  induction h with
  | nil => rfl
  | @cons root later l content ws takes _ ih =>
    have here := apart (l, content) List.mem_cons_self
    rw [ih fun w hw => apart w (List.mem_cons_of_mem _ hw), at?_put_of_apart takes _ here.1 here.2]

end Node

end TaskCatalog
