import TaskCatalog.Proofs.ExtractedTasks
import TaskCatalog.Proofs.FileNames
import TaskCatalog.Proofs.Forms
import TaskCatalog.Proofs.ScriptFailures

/-!
Where the scripts of tasks lie. The implementation of a script's task leads downwards from the resolved source root to
the file that the call comes to, whatever links either goes through; a call that comes to anything else is a failure
that the extractor states.
-/

namespace TaskCatalog

open Text Outcome

/-- A name that a system can give to an entry of a directory. -/
structure FileSystem.EntryName (t : Text) : Prop where
  named : Names t
  undivided : Letter.scalar '/' ∉ t
  proper : Path.NamesEntry t
  short : utf8Size t ≤ 255

instance (t : Text) : Decidable (FileSystem.EntryName t) :=
  decidable_of_iff (FileSystem.Names t ∧ Letter.scalar '/' ∉ t ∧ Path.NamesEntry t ∧ utf8Size t ≤ 255)
    ⟨fun ⟨named, undivided, proper, short⟩ => ⟨named, undivided, proper, short⟩,
      fun ⟨named, undivided, proper, short⟩ => ⟨named, undivided, proper, short⟩⟩

/-- A tree that a system can hold. -/
def Node.IsEntered (root : Node) : Prop := (root.allNames fun t => decide (FileSystem.EntryName t)) = true

instance (root : Node) : Decidable root.IsEntered := inferInstanceAs (Decidable (_ = true))

namespace Path

variable {part : Text} {parts : List Text}

theorem partsOf_join (each : ∀ part ∈ parts, FileSystem.EntryName part) : partsOf (join "/" parts) = parts := by
  cases parts with
  | nil => rfl
  | cons part parts =>
    have cut : splitOn (.scalar '/') (join "/" (part :: parts)) = part :: parts :=
      splitOn_join (List.cons_ne_nil part parts) fun part member => (each part member).undivided
    rw [partsOf, cut]
    refine List.filter_eq_self.2 fun part member => ?_
    obtain ⟨⟨filled, -⟩, -, ⟨apart, -⟩, -⟩ := each part member
    simp [filled, apart]

theorem ofText_join (each : ∀ part ∈ parts, FileSystem.EntryName part) : ofText (join "/" parts) = ⟨false, parts⟩ := by
  have relative : (join "/" parts).head? ≠ some (.scalar '/') := by
    cases parts with
    | nil => exact nofun
    | cons part parts =>
      obtain ⟨⟨filled, -⟩, undivided, -, -⟩ := each part List.mem_cons_self
      obtain ⟨l, letters, rfl⟩ := List.exists_cons_of_ne_nil filled
      cases parts <;> exact fun first => undivided (Option.some.inj first ▸ List.mem_cons_self)
  rw [ofText, partsOf_join each, decide_eq_false relative]

end Path

theorem Node.directory_above {root : Node} {l rest : Location} {name : Text} {k : Kind}
    (there : root.kind? (l ++ name :: rest) = some k) : root.kind? l = some .directory := by
  obtain ⟨node, there, -⟩ := Option.map_eq_some_iff.1 there
  rw [at?_append] at there
  obtain ⟨above, found, below⟩ := Option.bind_eq_some_iff.1 there
  cases above with
  | directory entries => exact kind?_eq_directory.2 ⟨entries, found⟩
  | file content => cases below
  | link target => cases below

namespace FileSystem

variable {fs : FileSystem} {root : Node} {p : Path} {l : Location} {names : List Text} {content : Bytes}

theorem step_of_file (there : root.kind? (l ++ names) = some (.file content)) (below : names ≠ [])
    (entered : ∀ name ∈ names, EntryName name) : step root l names = .arrived (l ++ names) := by
  induction names generalizing l with
  | nil => exact absurd rfl below
  | cons name rest ih =>
    obtain ⟨here, later⟩ := List.forall_mem_cons.1 entered
    rw [step_cons, Node.directory_above there]
    dsimp only
    rw [if_neg here.proper.2, if_neg here.proper.1, if_neg (Nat.not_lt.2 here.short)]
    cases rest with
    | nil =>
      rw [there]
      rfl
    | cons next rest =>
      rw [List.append_cons] at there
      rw [Node.directory_above there]
      exact (ih there (List.cons_ne_nil next rest) later).trans (congrArg _ (List.append_cons l name _).symm)

/-- The limits of the system let a path be looked for, and so the path that it is resolved to. -/
structure InLimits (fs : FileSystem) (p : Path) : Prop where
  sought : fs.reach p ≠ .refused .nameTooLong
  resolved : utf8Size (fs.resolve p).text < pathLimit

theorem entryName_of_at? {node : Node} (entered : fs.root.IsEntered) (there : fs.root.at? l = some node) :
    ∀ name ∈ l, EntryName name :=
  fun name member => of_decide_eq_true (Node.passes_of_at? entered there name member)

/-- The location of a file, as a path without links, leads to the file. -/
theorem locate?_of_file (entered : fs.root.IsEntered) (there : fs.root.at? l = some (.file content)) (below : l ≠ [])
    (short : utf8Size (⟨true, l⟩ : Path).text < pathLimit) : fs.locate? ⟨true, l⟩ = some l := by
  have stepped : step fs.root [] l = .arrived l :=
    step_of_file (Node.kind?_eq_file.2 there) below (entryName_of_at? entered there)
  rw [locate?_eq_some, reach, if_neg (Nat.not_le.2 short), linkLimit, walk_succ]
  dsimp only
  rw [if_pos rfl, stepped]

end FileSystem

theorem Path.eq_of_relativeTo? {p base : Path} {parts : List Text} (inside : p.relativeTo? base = some parts) :
    p = base ++ (⟨false, parts⟩ : Path) := by
  unfold relativeTo? at inside
  split at inside
  · next alike =>
    split at inside
    · next above =>
      cases inside
      obtain ⟨absolute, names⟩ := p
      obtain ⟨rest, rfl⟩ := List.isPrefixOf_iff_prefix.1 above
      obtain rfl : absolute = base.absolute := alike
      rw [List.drop_left]
      rfl
    · cases inside
  · cases inside

theorem Sources.directory_of_mem_files {s : Sources} {suffixes : List Text} {root file : Path}
    (listed : (root, file) ∈ s.files suffixes) :
    ∃ base entries, s.fs.locate? root = some base ∧ s.fs.root.at? base = some (.directory entries) := by
  obtain ⟨-, node, found, names, below, -⟩ := FileSystem.mem_filesBelow (mem_files listed).2
  obtain ⟨base, located, there⟩ := Option.bind_eq_some_iff.1 found
  cases node with
  | directory entries => exact ⟨base, entries, located, there⟩
  | file content => cases below
  | link target => cases below

namespace Scripts

variable {s : Sources} {root file : Path} {e : ScriptTask} {t : Task} {suffixes : List Text}

/-- A task whose implementation is the path from the root down to where a script lies. -/
structure Inside (s : Sources) (root script : Path) (t : Task) : Prop where
  relative : (Path.ofText t.implementation.val).absolute = false
  downward : Path.dotDot ∉ (Path.ofText t.implementation.val).parts
  slashed : t.implementation.val = join "/" (Path.ofText t.implementation.val).parts
  resolved : s.fs.resolve root ++ Path.ofText t.implementation.val = s.fs.resolve script
  there : s.fs.isFile (s.fs.resolve root ++ Path.ofText t.implementation.val) = true

/-- A script that no task is made for: it leads to nothing, to a directory or out of the root. -/
inductive Strays (s : Sources) (root script : Path) : Prop
  | nothing (missing : s.fs.node? script = none)
  | directory {entries : List (Text × Node)} (there : s.fs.node? script = some (.directory entries))
  | outside (apart : ∀ parts, s.fs.resolve script ≠ s.fs.resolve root ++ (⟨false, parts⟩ : Path))

theorem inside_of_task (listed : (root, file) ∈ s.files suffixes) (entered : s.fs.root.IsEntered)
    (limits : s.fs.InLimits (script file e)) (h : task s root file e = .ok t) : Inside s root (script file e) t := by
  obtain ⟨present, -, ps, parts, -, within, made⟩ := made_of_task h
  have placed := (Site.parts_of_task rfl made).1
  have there := FileSystem.hasFile_eq_true.1 present
  obtain ⟨l, located⟩ := FileSystem.locate?_of_isFile there
  obtain ⟨content, found⟩ := FileSystem.exists_of_isFile there located
  obtain ⟨base, entries, origin, above⟩ := Sources.directory_of_mem_files listed
  have same := Path.eq_of_relativeTo? within
  have resolved : s.fs.resolve (script file e) = ⟨true, l⟩ := by rw [FileSystem.resolve, located]
  have rooted : s.fs.resolve root = ⟨true, base⟩ := by rw [FileSystem.resolve, origin]
  obtain rfl : l = base ++ parts := by
    rw [resolved, rooted] at same
    exact congrArg Path.parts same
  -- the root is a directory, so that the file lies below it
  have below : parts ≠ [] := by
    rintro rfl
    rw [List.append_nil, above] at found
    cases found
  have names := fun part member => FileSystem.entryName_of_at? entered found part (List.mem_append_right base member)
  have written : Path.text ⟨false, parts⟩ = join "/" parts := by
    rw [Path.text, if_neg Bool.false_ne_true, if_neg (by simpa using below)]
  have read : Path.ofText t.implementation.val = ⟨false, parts⟩ := by
    rw [placed, written, Path.ofText_join names]
  have arrived : s.fs.locate? ⟨true, base ++ parts⟩ = some (base ++ parts) :=
    FileSystem.locate?_of_file entered found (by simp [below]) (resolved ▸ limits.resolved)
  refine ⟨?_, ?_, ?_, ?_, ?_⟩
  · rw [read]
  · rw [read]
    exact fun member => (names _ member).proper.2 rfl
  · rw [read, placed, written]
  · rw [read, same]
  · rw [read, ← same, resolved, FileSystem.isFile_eq, FileSystem.content?_eq_locate, arrived, Bool.and_eq_true]
    refine ⟨List.all_eq_true.2 fun name member => ?_, ?_⟩
    · exact (FileSystem.entryName_of_at? entered found name member).named.2
    · rw [Option.bind_some, Node.content?, found]
      rfl

theorem isFile_of_node? {script : Path} (missing : ∀ content, s.fs.node? script ≠ some (.file content)) :
    s.fs.isFile script = false := by
  rw [FileSystem.isFile]
  cases found : s.fs.node? script with
  | none => exact Bool.and_false _
  | some node =>
    cases node with
    | file content => exact absurd found (missing content)
    | directory entries => exact Bool.and_false _
    | link target => exact Bool.and_false _

theorem placed_of_strays {ps : List Parameter} (strays : Strays s root (script file e))
    (there : s.fs.isFile (script file e) = true) : placed s root file e ps = (site file e).fail (.outsideScript e.call) := by
  have outside : ∀ parts, s.fs.resolve (script file e) ≠ s.fs.resolve root ++ (⟨false, parts⟩ : Path) := by
    cases strays with
    | nothing missing =>
      rw [isFile_of_node? (by simp [missing])] at there
      cases there
    | directory found =>
      rw [isFile_of_node? (by simp [found])] at there
      cases there
    | outside apart => exact apart
  unfold placed
  split
  · rfl
  · next parts inside => exact absurd (Path.eq_of_relativeTo? inside) (outside parts)

/-- A call that strays fails at the entry that states it. -/
theorem states_of_strays (sought : s.fs.reach (script file e) ≠ .refused .nameTooLong)
    (strays : Strays s root (script file e)) : ∃ f, task s root file e = .error f ∧ (site file e).States f := by
  have looked : s.fs.hasFile (script file e) = .ok (s.fs.isFile (script file e)) := by
    unfold FileSystem.hasFile
    split
    · next long => exact absurd long sought
    · rfl
  have ends : Ends (site file e).States (fun _ => False) (task s root file e) := by
    rw [task_eq, bind_mapError_ok looked]
    split
    · next there =>
      refine checkPhase_states.bind fun _ _ => ?_
      refine (Ends.mapM_fails fun p _ => Site.parameter_states).bind fun ps _ => ?_
      rw [placed_of_strays strays there]
      exact ⟨_, rfl⟩
    · exact ⟨_, rfl⟩
  cases made : task s root file e with
  | ok t => exact (ends.of_ok made).elim
  | error f => exact ⟨f, rfl, ends.of_error made⟩

/-- The tasks of a metadata file: one for each entry in their order, each with its script inside the root. -/
def FileYields (s : Sources) (pair : Path × Path) (ts : List Task) : Prop :=
  ∃ es, entries s pair.2 = .ok es ∧ List.Forall₂ (fun e t => task s pair.1 pair.2 e = .ok t ∧
    (s.fs.InLimits (script pair.2 e) → Inside s pair.1 (script pair.2 e) t)) es ts

theorem fileYields_of_fileTasks (entered : s.fs.root.IsEntered) (listed : (root, file) ∈ s.files suffixes)
    {ts : List Task} (h : (fileTasks s root file).result = .ok ts) : FileYields s (root, file) ts := by
  obtain ⟨es, read, each⟩ := made_of_fileTasks h
  refine ⟨es, read, each.imp fun e t made => ⟨made, fun limits => ?_⟩⟩
  exact inside_of_task listed entered limits made

theorem yields_of_extract (entered : s.fs.root.IsEntered) {ts : List Task} (h : (extract s).result = .ok ts) :
    ∃ parts, List.Forall₂ (FileYields s) (s.files s.conventions.scriptSuffixes) parts ∧ ts = parts.flatten :=
  Sources.forall₂_of_files h fun _ _ _ listed => fileYields_of_fileTasks entered listed

/-- No extraction gets past a call that strays. -/
theorem not_yields_of_strays (sought : s.fs.reach (script file e) ≠ .refused .nameTooLong)
    (strays : Strays s root (script file e)) {es : List ScriptTask} (read : entries s file = .ok es) (member : e ∈ es)
    (ts : List Task) : ¬ FileYields s (root, file) ts := by
  rintro ⟨es', read', each⟩
  cases read.symm.trans read'
  obtain ⟨t, -, made, -⟩ := exists_of_forall₂ each.flip member
  obtain ⟨f, failed, -⟩ := states_of_strays sought strays
  cases failed.symm.trans made

/-- A failure of the extraction that is stated of a metadata file, or one that escapes it there. -/
def Stops (s : Sources) (f : Failure) : Prop :=
  ∃ root file, (root, file) ∈ s.files s.conventions.scriptSuffixes ∧ (f.IsReported strategy file ∨ Escapes s file f)

theorem extract_stops (s : Sources) : Fails (Stops s) (extract s).result :=
  Sources.fails_of_files fun root file _ => fileTasks_fails s root file

theorem extract_confined (s : Sources) (entered : s.fs.root.IsEntered) :
    (∀ ts, (extract s).result = .ok ts →
      ∃ parts, List.Forall₂ (FileYields s) (s.files s.conventions.scriptSuffixes) parts ∧ ts = parts.flatten) ∧
    ∀ root file es e, (root, file) ∈ s.files s.conventions.scriptSuffixes → entries s file = .ok es → e ∈ es →
      s.fs.reach (script file e) ≠ .refused .nameTooLong → Strays s root (script file e) →
      (∃ f, task s root file e = .error f ∧ (site file e).States f) ∧ ∃ f, (extract s).result = .error f ∧ Stops s f := by
  refine ⟨fun ts => yields_of_extract entered, fun root file es e listed read member sought strays => ?_⟩
  refine ⟨states_of_strays sought strays, ?_⟩
  cases result : (extract s).result with
  | error f => exact ⟨f, rfl, (extract_stops s).of_error result⟩
  | ok ts =>
    obtain ⟨parts, each, -⟩ := yields_of_extract entered result
    obtain ⟨part, -, yields⟩ := exists_of_forall₂ each.flip listed
    exact absurd yields (not_yields_of_strays sought strays read member part)

end Scripts

namespace LinkedScripts

open Scripts

def metadata (call : String) : Bytes := ("tasks:\n- goal: a\n  call: " ++ call ++ "\n").toUTF8.toList

/-- Sources whose root is a link, beside a script that is none of them. -/
def sources (call : String) : Sources where
  fs := ⟨.directory [("src", .link "tree"), ("tool.sh", .file []), ("tree", .directory [
    ("bin", .directory [("a.sh", .file [])]),
    ("m", .directory [("a.tasks.yaml", .file (metadata call)), ("run", .link "../bin/a.sh")])])], []⟩
  roots := [⟨true, ["src"]⟩]
  conventions := .default

def root : Path := ⟨true, ["src"]⟩

def file : Path := ⟨true, ["src", "m", "a.tasks.yaml"]⟩

def linked : Path := ⟨true, ["src", "m", "..", "m", "run"]⟩

def outside : Path := ⟨true, ["src", "m", "..", "..", "tool.sh"]⟩

theorem inLimits_linked : (sources "../m/run").fs.InLimits linked where
  sought := by
    have arrived : (sources "../m/run").fs.locate? linked = some (["tree", "bin", "a.sh"] : List Text) := by
      decide +kernel
    rw [FileSystem.locate?_eq_some.1 arrived]
    exact nofun
  resolved := by decide +kernel

theorem strays_outside : Strays (sources "../../tool.sh") root outside := by
  have resolved : (sources "../../tool.sh").fs.resolve outside = ⟨true, ["tool.sh"]⟩ := by decide +kernel
  have rooted : (sources "../../tool.sh").fs.resolve root = ⟨true, ["tree"]⟩ := by decide +kernel
  refine .outside fun parts same => ?_
  rw [resolved, rooted] at same
  exact absurd (List.head_eq_of_cons_eq (congrArg Path.parts same)) (by decide)

theorem exists_entry (call : String)
    (calls : (entries (sources call) file).toOption.map (·.map (·.call)) = some [(call : Text)]) :
    ∃ e, entries (sources call) file = .ok [e] ∧ script file e = file.parent ++ Path.ofText call := by
  obtain ⟨es, read, listed⟩ := Option.map_eq_some_iff.1 calls
  obtain ⟨e, rfl, same⟩ := List.map_eq_singleton_iff.1 listed
  exact ⟨e, toOption_eq_some.1 read, by rw [script, same]⟩

theorem confined :
    (∃ t, (extract (sources "../m/run")).result = .ok [t] ∧ t.implementation.val = "bin/a.sh" ∧
      Inside (sources "../m/run") root linked t) ∧
    Strays (sources "../../tool.sh") root outside ∧
      ∃ f, (extract (sources "../../tool.sh")).result = .error f ∧ Stops (sources "../../tool.sh") f := by
  refine ⟨?_, strays_outside, ?_⟩
  · have shown : (extract (sources "../m/run")).result.toOption.map (·.map (·.implementation.val)) =
        some [("bin/a.sh" : Text)] := by
      decide +kernel
    obtain ⟨ts, result, listed⟩ := Option.map_eq_some_iff.1 shown
    obtain ⟨t, rfl, placed⟩ := List.map_eq_singleton_iff.1 listed
    rw [toOption_eq_some] at result
    have files : (sources "../m/run").files (sources "../m/run").conventions.scriptSuffixes = [(root, file)] := by
      decide +kernel
    obtain ⟨parts, each, whole⟩ := (extract_confined (sources "../m/run") (by decide +kernel)).1 [t] result
    rw [files] at each
    cases each with
    | cons here rest =>
      cases rest
      obtain ⟨es, read, each⟩ := here
      obtain ⟨e, stated, same⟩ := exists_entry "../m/run" (by decide +kernel)
      cases read.symm.trans stated
      cases each with
      | cons made rest =>
        cases rest
        obtain rfl := List.singleton_inj.1 whole
        have found : file.parent ++ Path.ofText "../m/run" = linked := by decide +kernel
        exact ⟨_, result, placed, found ▸ same ▸ made.2 (same ▸ found ▸ inLimits_linked)⟩
  · obtain ⟨e, read, same⟩ := exists_entry "../../tool.sh" (by decide +kernel)
    have listed : (root, file) ∈ (sources "../../tool.sh").files (sources "../../tool.sh").conventions.scriptSuffixes := by
      decide +kernel
    have found : file.parent ++ Path.ofText "../../tool.sh" = outside := by decide +kernel
    have arrived : (sources "../../tool.sh").fs.locate? outside = some (["tool.sh"] : List Text) := by decide +kernel
    refine ((extract_confined (sources "../../tool.sh") (by decide +kernel)).2 root file [e] e listed read
      List.mem_cons_self ?_ ?_).2
    · rw [same, found, FileSystem.locate?_eq_some.1 arrived]
      exact nofun
    · rw [same, found]
      exact strays_outside

end LinkedScripts

end TaskCatalog
