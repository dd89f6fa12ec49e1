import TaskCatalog.Proofs.CatalogShape
import TaskCatalog.Proofs.Walks

/-!
A scan reads nothing but what lies below the source roots. Where that is kept, a scan that returned
returns the same tasks again.
-/

namespace TaskCatalog

open Text

namespace Outcome

variable {ε ι α : Type}

theorem mapM_ok_of_each {f g : ι → Except ε α} {items : List ι} {as : List α} (h : items.mapM f = .ok as)
    (each : ∀ x ∈ items, ∀ a, f x = .ok a → g x = .ok a) : items.mapM g = .ok as := by
  induction items generalizing as with
  | nil => exact h
  | cons x items ih =>
    rw [List.mapM_cons] at h ⊢
    obtain ⟨a, ha, h⟩ := bind_eq_ok.1 h
    obtain ⟨more, hmore, h⟩ := bind_eq_ok.1 h
    rw [each x List.mem_cons_self a ha, bind_eq_ok]
    refine ⟨a, rfl, bind_eq_ok.2 ⟨more, ?_, h⟩⟩
    exact ih hmore fun y hy => each y (List.mem_cons_of_mem _ hy)

end Outcome

namespace Logged

variable {ι α : Type}

theorem gather_ok_of_each {f g : ι → Logged (List α)} {items : List ι} {as : List α}
    (h : (gather (items.map f)).result = .ok as)
    (each : ∀ x ∈ items, ∀ found, (f x).result = .ok found → (g x).result = .ok found) :
    (gather (items.map g)).result = .ok as := by
  induction items generalizing as with
  | nil => exact h
  | cons x items ih =>
    obtain ⟨found, hx, h⟩ := Outcome.bind_eq_ok.1 ((result_bind (f x) _).symm.trans h)
    obtain ⟨more, hmore, h⟩ := Outcome.bind_eq_ok.1 ((result_bind (gather (items.map f)) _).symm.trans h)
    refine (result_bind (g x) _).trans (Outcome.bind_eq_ok.2 ⟨found, each x List.mem_cons_self found hx, ?_⟩)
    refine (result_bind (gather (items.map g)) _).trans (Outcome.bind_eq_ok.2 ⟨more, ?_, h⟩)
    exact ih hmore fun y hy => each y (List.mem_cons_of_mem _ hy)

end Logged

/-- A path below a node leads into one of the entries of a directory. -/
theorem Node.ne_nil_of_mem_paths {node : Node} {names : List Text} (h : names ∈ node.paths) : names ≠ [] := by
  cases node with
  | file | link => cases h
  | directory entries =>
    rw [paths, List.mem_append, List.mem_map] at h
    rcases h with ⟨entry, -, rfl⟩ | h
    · exact List.cons_ne_nil _ _
    · induction entries with
      | nil =>
        rw [innerPaths] at h
        cases h
      | cons entry entries ih =>
        obtain ⟨name, node⟩ := entry
        rw [innerPaths, List.mem_append, List.mem_map] at h
        rcases h with ⟨below, -, rfl⟩ | h
        · exact List.cons_ne_nil _ _
        · exact ih h

namespace FileSystem

variable {fs later : FileSystem} {directory p : Path} {suffixes : List Text}

theorem mem_pathsBelow : p ∈ fs.pathsBelow directory ↔
    ∃ node, fs.node? directory = some node ∧ ∃ names ∈ node.paths, p = directory ++ (⟨false, names⟩ : Path) := by
  rw [pathsBelow]
  cases fs.node? directory with
  | none => simp
  | some node => simp [eq_comm]

theorem mem_filesBelow (h : p ∈ fs.filesBelow directory suffixes) :
    fs.isFile p = true ∧ ∃ node, fs.node? directory = some node ∧
      ∃ names ∈ node.paths, p = directory ++ (⟨false, names⟩ : Path) := by
  rw [filesBelow, List.mem_mergeSort, List.mem_filter, isMatch, Bool.and_eq_true] at h
  exact ⟨h.2.1, mem_pathsBelow.1 h.1⟩

theorem Grows.pathsBelow_eq (h : fs.Grows later)
    (stays : ∀ l, fs.locate? directory = some l → later.root.at? l = fs.root.at? l) :
    later.pathsBelow directory = fs.pathsBelow directory := by
  cases located : fs.locate? directory with
  | none =>
    have nothing : fs.pathsBelow directory = [] := by
      rw [pathsBelow, node?, located]
      rfl
    rw [nothing, pathsBelow, node?]
    rcases h.locate?_of_none located with unlocated | ⟨l, content, located, there⟩
    · rw [unlocated]
      rfl
    · rw [located, Option.bind_some, Node.kind?_eq_file.1 there]
      simp [Node.paths]
  | some l =>
    have node : later.node? directory = fs.node? directory := by
      rw [node?, node?, located, h.locate?_of_some located]
      exact stays l located
    rw [pathsBelow, pathsBelow, node]

theorem Grows.filesBelow_eq (h : fs.Grows later)
    (stays : ∀ l, fs.locate? directory = some l → later.root.at? l = fs.root.at? l)
    (same : ∀ node, fs.node? directory = some node → ∀ names ∈ node.paths,
      later.content? (directory ++ (⟨false, names⟩ : Path)) =
        fs.content? (directory ++ (⟨false, names⟩ : Path)))
    (suffixes : List Text) : later.filesBelow directory suffixes = fs.filesBelow directory suffixes := by
  rw [filesBelow, filesBelow, h.pathsBelow_eq stays]
  refine congrArg (List.mergeSort · Path.le) (List.filter_congr fun p hp => ?_)
  obtain ⟨node, there, names, hnames, rfl⟩ := mem_pathsBelow.1 hp
  rw [isMatch, isMatch, isFile_eq, isFile_eq, same node there names hnames]

theorem Grows.isOverlong_eq (h : fs.Grows later) (p : Path) : later.isOverlong p = fs.isOverlong p := by
  have reached := h.reach p
  rw [isOverlong, isOverlong]
  generalize fs.reach p = w, later.reach p = w' at reached
  cases reached <;> rfl

theorem Grows.searchFault?_eq (h : fs.Grows later)
    (stays : ∀ l, fs.locate? directory = some l → later.root.at? l = fs.root.at? l) :
    later.searchFault? directory = fs.searchFault? directory := by
  rw [searchFault?, searchFault?, h.pathsBelow_eq stays, funext h.isOverlong_eq]

theorem Grows.isFile (h : fs.Grows later) (there : fs.isFile p = true) : later.isFile p = true := by
  rw [isFile_eq, Bool.and_eq_true] at there ⊢
  refine ⟨there.1, ?_⟩
  obtain ⟨content, hc⟩ := Option.isSome_iff_exists.1 there.2
  obtain ⟨l, led, hl⟩ := Option.bind_eq_some_iff.1 hc
  have kept := h.root l
  rw [Node.content?_eq_some.1 hl] at kept
  rw [content?, h.destination?_eq, led, Option.bind_some]
  generalize hk : later.root.kind? l = k at kept
  cases kept with
  | same => rw [Node.content?_eq_some.2 hk]; rfl
  | rewritten => rw [Node.content?_eq_some.2 hk]; rfl

theorem Grows.resolve_eq (h : fs.Grows later) {l : Location} (located : fs.locate? p = some l) :
    later.resolve p = fs.resolve p := by
  rw [resolve, resolve, located, h.locate?_of_some located]

theorem locate?_of_isFile (h : fs.isFile p = true) : ∃ l, fs.locate? p = some l := by
  rw [isFile_eq, Bool.and_eq_true, Option.isSome_iff_exists] at h
  obtain ⟨-, content, hc⟩ := h
  rw [content?_eq_locate] at hc
  obtain ⟨l, located, -⟩ := Option.bind_eq_some_iff.1 hc
  exact ⟨l, located⟩

end FileSystem

/-- A later file system that has what lies below the source roots as it was. -/
structure Sources.Kept (s : Sources) (later : FileSystem) : Prop where
  grows : s.fs.Grows later
  roots : ∀ root ∈ s.roots, ∀ l, s.fs.locate? root = some l → later.root.at? l = s.fs.root.at? l
  files : ∀ root ∈ s.roots, ∀ node, s.fs.node? root = some node → ∀ names ∈ node.paths,
    later.content? (root ++ (⟨false, names⟩ : Path)) = s.fs.content? (root ++ (⟨false, names⟩ : Path))

def Sources.on (s : Sources) (later : FileSystem) : Sources := { s with fs := later }

variable {s : Sources} {later : FileSystem} {suffixes : List Text} {root file : Path}

namespace Sources

theorem mem_files (h : (root, file) ∈ s.files suffixes) :
    root ∈ s.roots ∧ file ∈ s.fs.filesBelow root suffixes := by
  obtain ⟨base, hbase, h⟩ := List.mem_flatMap.1 h
  obtain ⟨p, hp, h⟩ := List.mem_map.1 h
  cases h
  exact ⟨hbase, hp⟩

/-- A file that is found below a root has a module name. -/
theorem named_of_mem_files (h : (root, file) ∈ s.files suffixes) : ∃ name, moduleName? root file = some name := by
  obtain ⟨-, node, -, names, hnames, rfl⟩ := FileSystem.mem_filesBelow (mem_files h).2
  obtain ⟨last, hlast⟩ := Option.isSome_iff_exists.1 (List.getLast?_isSome.2 (Node.ne_nil_of_mem_paths hnames))
  have relative : (root ++ (⟨false, names⟩ : Path)).relativeTo? root = some names := Path.relativeTo?_append root names
  rw [moduleName?, relative]
  simp [hlast]

theorem Kept.files_eq (h : s.Kept later) (suffixes : List Text) :
    (s.on later).files suffixes = s.files suffixes := by
  refine List.flatMap_congr fun root hr => ?_
  exact congrArg (List.map (root, ·)) (h.grows.filesBelow_eq (h.roots root hr) (h.files root hr) suffixes)

theorem Kept.faultless (h : s.Kept later) (faultless : s.fault? = none) : (s.on later).fault? = none := by
  refine fault?_eq_none_iff.2 fun root hr => ?_
  exact (h.grows.searchFault?_eq (h.roots root hr)).trans (fault?_eq_none_iff.1 faultless root hr)

theorem Kept.read_eq (h : s.Kept later) (hf : (root, file) ∈ s.files suffixes) :
    later.read file = s.fs.read file := by
  obtain ⟨hr, hf⟩ := mem_files hf
  obtain ⟨there, node, hnode, names, hnames, rfl⟩ := FileSystem.mem_filesBelow hf
  rw [FileSystem.isFile_eq, Bool.and_eq_true, Option.isSome_iff_exists] at there
  obtain ⟨-, content, hc⟩ := there
  rw [FileSystem.read_eq_ok.2 hc, FileSystem.read_eq_ok, h.files root hr node hnode names hnames, hc]

theorem locate?_of_mem_files (h : (root, file) ∈ s.files suffixes) : ∃ l, s.fs.locate? root = some l := by
  obtain ⟨-, node, hnode, -⟩ := FileSystem.mem_filesBelow (mem_files h).2
  obtain ⟨l, located, -⟩ := Option.bind_eq_some_iff.1 hnode
  exact ⟨l, located⟩

theorem readText_eq {fs : FileSystem} (h : later.read file = fs.read file) (encoding : Text) :
    readText later encoding file = readText fs encoding file := by
  rw [readText, readText, h]

end Sources

theorem Module.read?_eq (h : later.read file = s.fs.read file) (strategy mark : Text) (root : Path) :
    Module.read? (s.on later) strategy mark root file = Module.read? s strategy mark root file := by
  rw [read?, read?]
  simp only [Sources.on, Sources.readText_eq h]

theorem Decorated.fileTasks_eq (h : later.read file = s.fs.read file) (root : Path) :
    fileTasks (s.on later) root file = fileTasks s root file := by
  rw [fileTasks, fileTasks]
  simp only [Module.read?_eq h]
  rfl

theorem Documented.fileTasks_eq (h : later.read file = s.fs.read file) (root : Path) :
    fileTasks (s.on later) root file = fileTasks s root file := by
  rw [fileTasks, fileTasks]
  simp only [Module.read?_eq h]
  rfl

namespace Scripts

theorem task_ok_on (grows : s.fs.Grows later) {l : Location} (located : s.fs.locate? root = some l)
    {e : ScriptTask} {t : Task} (h : task s root file e = .ok t) : task (s.on later) root file e = .ok t := by
  have there := (made_of_task h).1
  have isFile := FileSystem.hasFile_eq_true.1 there
  obtain ⟨m, found⟩ := FileSystem.locate?_of_isFile isFile
  have there' : (s.on later).fs.hasFile (script file e) = .ok true :=
    FileSystem.hasFile_eq_true.2 (grows.isFile isFile)
  have same : placed (s.on later) root file e = placed s root file e := by
    funext ps
    simp only [placed, Sources.on, grows.resolve_eq found, grows.resolve_eq located]
  rw [task_eq, Outcome.bind_mapError_ok there] at h
  rw [task_eq, same, Outcome.bind_mapError_ok there']
  exact h

theorem fileTasks_ok_on (grows : s.fs.Grows later) {l : Location} (located : s.fs.locate? root = some l)
    (read : later.read file = s.fs.read file) {ts : List Task} (h : (fileTasks s root file).result = .ok ts) :
    (fileTasks (s.on later) root file).result = .ok ts := by
  have entries_eq : entries (s.on later) file = entries s file := by
    rw [entries, entries]
    simp only [Sources.on, Sources.readText_eq read]
  simp only [fileTasks, entries_eq, Logged.result_bind, Logged.result_ofExcept, Logged.result_write,
    Outcome.bind_eq_ok] at h ⊢
  obtain ⟨es, hes, u, hu, h⟩ := h
  exact ⟨es, hes, u, hu, Outcome.mapM_ok_of_each h fun e _ t ht => task_ok_on grows located ht⟩

end Scripts

namespace Sources.Kept

theorem extract_ok (h : s.Kept later) {e : Extractor} (he : e ∈ Registry.standard) {ts : List Task}
    (returned : (e.extract s).result = .ok ts) : (e.extract (s.on later)).result = .ok ts := by
  simp only [Registry.standard, List.mem_cons, List.not_mem_nil, or_false] at he
  rcases he with rfl | rfl | rfl
  all_goals
    obtain ⟨faultless, returned⟩ := searched_eq_ok.1 returned
    refine searched_eq_ok.2 ⟨h.faultless faultless, ?_⟩
  · simp only [Decorated.extract, h.files_eq] at returned ⊢
    refine Logged.gather_ok_of_each returned fun pair hf found hfound => ?_
    obtain ⟨root, file⟩ := pair
    rw [Decorated.fileTasks_eq (h.read_eq hf)]
    exact hfound
  · simp only [Documented.extract, h.files_eq] at returned ⊢
    refine Logged.gather_ok_of_each returned fun pair hf found hfound => ?_
    obtain ⟨root, file⟩ := pair
    rw [Documented.fileTasks_eq (h.read_eq hf)]
    exact hfound
  · change (Logged.gather ((s.files s.conventions.scriptSuffixes).map _)).result = _ at returned
    change (Logged.gather (((s.on later).files s.conventions.scriptSuffixes).map _)).result = _
    rw [h.files_eq]
    refine Logged.gather_ok_of_each returned fun pair hf found hfound => ?_
    obtain ⟨root, file⟩ := pair
    obtain ⟨l, located⟩ := locate?_of_mem_files hf
    exact Scripts.fileTasks_ok_on h.grows located (h.read_eq hf) hfound

theorem returned (h : s.Kept later) {es : List Extractor} (standard : ∀ e ∈ es, e ∈ Registry.standard)
    {found : List Found} (returned : Scan.Returned s es found) : Scan.Returned (s.on later) es found := by
  induction returned with
  | nil => exact .nil
  | cons he _ ih =>
    exact .cons (h.extract_ok (standard _ List.mem_cons_self) he)
      (ih fun e he => standard e (List.mem_cons_of_mem _ he))

/-- A scan that returned returns the same tasks when the sources are kept. -/
theorem scan_ok (h : s.Kept later) {selection : Selection} {ts : List Task}
    (scanned : (Scanner.scan ⟨.standard, selection⟩ s).result = .ok ts) :
    (Scanner.scan ⟨.standard, selection⟩ (s.on later)).result = .ok ts := by
  have ends := Scan.ends_scan s (Registry.standard.active selection)
  change (scan (Registry.standard.active selection) s).result = _ at scanned
  rw [scanned] at ends
  generalize called s [] (Registry.standard.active selection) = names at ends
  cases ends with
  | returned returned distinct pass =>
    refine (Scan.Ends.returned (h.returned ?_ returned) distinct pass).result_eq
    exact fun e he => Registry.mem_of_mem_active he

end Sources.Kept

end TaskCatalog
