import Mathlib.Data.List.Induction
import TaskCatalog.Proofs.ScriptPlaces
import TaskCatalog.Proofs.TextOrder

/-!
What a search of sources finds below each root: every file with a suffix and nothing else, once, in the order of the
paths' parts, however directories list their entries. A path that is too long to be looked for ends the search.
-/

namespace TaskCatalog

open Text

namespace Node

mutual

/-- Whether no directory of a tree has two entries of one name. -/
def isDistinct : Node → Bool
  | .file _ | .link _ => true
  | .directory entries => decide (entries.map (·.1)).Nodup && areDistinct entries

def areDistinct : List (Text × Node) → Bool
  | [] => true
  | (_, node) :: rest => isDistinct node && areDistinct rest

end

variable {root node : Node} {name : Text} {entries : List (Text × Node)} {names rest : List Text}

theorem isDistinct_directory : (directory entries).isDistinct = true ↔
    (entries.map (·.1)).Nodup ∧ areDistinct entries = true := by
  rw [isDistinct, Bool.and_eq_true, decide_eq_true_iff]

theorem isDistinct_of_mem (distinct : areDistinct entries = true) (member : (name, node) ∈ entries) :
    node.isDistinct = true := by
  induction entries with
  | nil => cases member
  | cons entry entries ih =>
    rw [areDistinct, Bool.and_eq_true] at distinct
    rcases List.mem_cons.1 member with rfl | member
    · exact distinct.1
    · exact ih distinct.2 member

theorem listed_iff_mem (distinct : (entries.map (·.1)).Nodup) :
    entry? name entries = some node ↔ (name, node) ∈ entries := by
  induction entries with
  | nil => exact ⟨nofun, nofun⟩
  | cons entry entries ih =>
    obtain ⟨other, child⟩ := entry
    rw [List.map_cons, List.nodup_cons] at distinct
    rw [Node.entry?, List.mem_cons]
    split
    · next same =>
      cases same
      constructor
      · rintro ⟨⟩
        exact .inl rfl
      · rintro (same | member)
        · cases same
          rfl
        · exact absurd (List.mem_map_of_mem (f := (·.1)) member) distinct.1
    · next apart =>
      rw [ih distinct.2, or_iff_right]
      rintro ⟨⟩
      exact apart rfl

theorem isDistinct_of_at? {l : Location} (distinct : root.isDistinct = true) (there : root.at? l = some node) :
    node.isDistinct = true := by
  induction l generalizing root with
  | nil =>
    cases (show root.at? [] = some root by cases root <;> rfl).symm.trans there
    exact distinct
  | cons name rest ih =>
    cases root with
    | file content | link target => cases there
    | directory entries =>
      rw [at?_directory] at there
      obtain ⟨child, found, there⟩ := Option.bind_eq_some_iff.1 there
      obtain ⟨apart, below⟩ := isDistinct_directory.1 distinct
      exact ih (isDistinct_of_mem below ((listed_iff_mem apart).1 found)) there

theorem mem_innerPaths : names ∈ innerPaths entries ↔
    ∃ name node rest, (name, node) ∈ entries ∧ rest ∈ node.paths ∧ names = name :: rest := by
  induction entries with
  | nil =>
    rw [innerPaths]
    constructor
    · rintro ⟨⟩
    · rintro ⟨_, _, _, ⟨⟩, _⟩
  | cons entry entries ih =>
    obtain ⟨name, node⟩ := entry
    rw [innerPaths, List.mem_append, List.mem_map, ih]
    constructor
    · rintro (⟨rest, below, rfl⟩ | ⟨other, child, rest, member, below, rfl⟩)
      · exact ⟨name, node, rest, List.mem_cons_self, below, rfl⟩
      · exact ⟨other, child, rest, List.mem_cons_of_mem _ member, below, rfl⟩
    · rintro ⟨other, child, rest, member, below, rfl⟩
      rcases List.mem_cons.1 member with same | member
      · cases same
        exact .inl ⟨rest, below, rfl⟩
      · exact .inr ⟨other, child, rest, member, below, rfl⟩

/-- What is where in a tree does not depend on the order in which its entries are listed. -/
theorem kind?_of_perm {entries entries' : List (Text × Node)} (permuted : entries'.Perm entries)
    (distinct : (entries.map (·.1)).Nodup) (l : Location) :
    (directory entries').kind? l = (directory entries).kind? l := by
  cases l with
  | nil => rfl
  | cons name rest =>
    have distinct' : (entries'.map (·.1)).Nodup := (permuted.map _).nodup_iff.2 distinct
    have same : entry? name entries' = entry? name entries := by
      refine Option.ext fun node => ?_
      rw [listed_iff_mem distinct, listed_iff_mem distinct', permuted.mem_iff]
    rw [kind?, kind?, at?_directory, at?_directory, same]

/-- The paths below a node are the ways along its directories to all that is there, without the way to itself. -/
theorem mem_paths_iff (distinct : node.isDistinct = true) :
    names ∈ node.paths ↔ names ≠ [] ∧ (node.at? names).isSome = true := by
  induction names generalizing node with
  | nil => exact iff_of_false (fun member => ne_nil_of_mem_paths member rfl) fun nothing => nothing.1 rfl
  | cons name rest ih =>
    cases node with
    | file | link => exact iff_of_false nofun nofun
    | directory entries =>
      obtain ⟨apart, below⟩ := isDistinct_directory.1 distinct
      have inside {child : Node} : (name, child) ∈ entries → child.isDistinct = true := isDistinct_of_mem below
      rw [at?_directory, paths, List.mem_append, mem_innerPaths, and_iff_right (List.cons_ne_nil name rest)]
      constructor
      · rintro (direct | ⟨_, child, _, member, deeper, same⟩)
        · obtain ⟨⟨_, child⟩, member, same⟩ := List.mem_map.1 direct
          cases same
          rw [(listed_iff_mem apart).2 member]
          rfl
        · cases same
          rw [(listed_iff_mem apart).2 member]
          exact ((ih (inside member)).1 deeper).2
      · intro there
        obtain ⟨_, there⟩ := Option.isSome_iff_exists.1 there
        obtain ⟨child, found, there⟩ := Option.bind_eq_some_iff.1 there
        have member := (listed_iff_mem apart).1 found
        cases rest with
        | nil => exact .inl (List.mem_map.2 ⟨_, member, rfl⟩)
        | cons next rest =>
          have deeper := (ih (inside member)).2 ⟨List.cons_ne_nil next rest, there ▸ rfl⟩
          exact .inr ⟨name, child, _, member, deeper, rfl⟩

mutual

theorem nodup_paths : ∀ node : Node, node.isDistinct = true → node.paths.Nodup
  | .file _, _ | .link _, _ => .nil
  | .directory entries, distinct => by
    obtain ⟨apart, below⟩ := isDistinct_directory.1 distinct
    have direct : (entries.map fun entry => [entry.1]).Nodup := by
      have single := apart.map (f := fun name => [name]) fun _ _ same => List.singleton_inj.1 same
      rwa [List.map_map] at single
    rw [paths, List.nodup_append]
    refine ⟨direct, nodup_innerPaths entries apart below, ?_⟩
    -- what is below an entry has more than one name on its way
    rintro _ first _ deeper rfl
    obtain ⟨_, _, same⟩ := List.mem_map.1 first
    obtain ⟨_, _, _, _, below, rfl⟩ := mem_innerPaths.1 deeper
    cases same
    exact ne_nil_of_mem_paths below rfl

theorem nodup_innerPaths : ∀ entries : List (Text × Node), (entries.map (·.1)).Nodup → areDistinct entries = true →
    (innerPaths entries).Nodup
  | [], _, _ => .nil
  | (name, node) :: entries, apart, distinct => by
    rw [List.map_cons, List.nodup_cons] at apart
    rw [areDistinct, Bool.and_eq_true] at distinct
    rw [innerPaths, List.nodup_append]
    refine ⟨(nodup_paths node distinct.1).map fun _ _ same => (List.cons.inj same).2,
      nodup_innerPaths entries apart.2 distinct.2, ?_⟩
    rintro _ here _ later rfl
    obtain ⟨_, _, rfl⟩ := List.mem_map.1 here
    obtain ⟨_, child, _, member, _, same⟩ := mem_innerPaths.1 later
    cases same
    exact apart.1 (List.mem_map_of_mem (f := (·.1)) member)

end

end Node

namespace Path

variable {p q r : Path}

/-- An absolute path comes before one that is none. -/
theorem le_iff : p.le q = true ↔
    p.absolute = true ∧ q.absolute = false ∨ p.absolute = q.absolute ∧ p.parts ≤ q.parts := by
  rw [le]
  cases p.absolute <;> cases q.absolute <;> simp

theorem parts_le_trans {xs ys zs : List Text} (first : xs ≤ ys) (second : ys ≤ zs) : xs ≤ zs := by
  rcases List.le_iff_lt_or_eq.1 first with first | rfl
  · rcases List.le_iff_lt_or_eq.1 second with second | rfl
    · exact List.le_of_lt (List.lt_trans first second)
    · exact List.le_of_lt first
  · exact second

theorem le_trans (first : p.le q = true) (second : q.le r = true) : p.le r = true := by
  rw [le_iff] at first second ⊢
  rcases first with ⟨absolute, relative⟩ | ⟨alike, less⟩
  · rcases second with ⟨absolute', -⟩ | ⟨alike', -⟩
    · cases relative.symm.trans absolute'
    · exact .inl ⟨absolute, alike'.symm.trans relative⟩
  · rcases second with ⟨absolute, relative⟩ | ⟨alike', less'⟩
    · exact .inl ⟨alike.trans absolute, relative⟩
    · exact .inr ⟨alike.trans alike', parts_le_trans less less'⟩

theorem eq_of_parts (alike : p.absolute = q.absolute) (same : p.parts = q.parts) : p = q := by
  cases p
  cases q
  cases alike
  cases same
  rfl

theorem le_total (p q : Path) : (p.le q || q.le p) = true := by
  rw [le, le]
  cases p.absolute <;> cases q.absolute <;> simp [List.le_total]

end Path

namespace FileSystem

section Walks

variable {root : Node} {l m : Location} {target : Text} {xs ys rest names : List Text} {links : Nat}

/-- A walk that arrived goes on from there. -/
theorem step_append_of_arrived (arrived : step root l xs = .arrived m) : step root l (xs ++ ys) = step root m ys := by
  induction ys using List.reverseRecOn with
  | nil =>
    rw [List.append_nil, arrived]
    rfl
  | append_singleton ys y ih => rw [← List.append_assoc, step_snoc, step_snoc, ih]

theorem step_append_of_met (met : step root l xs = .met m target rest) :
    step root l (xs ++ ys) = .met m target (rest ++ ys) := by
  induction ys using List.reverseRecOn with
  | nil => rw [List.append_nil, List.append_nil, met]
  | append_singleton ys y ih => rw [← List.append_assoc, step_snoc, ih, ← List.append_assoc]

theorem walk_append_of_arrived (arrived : walk root links l xs = .arrived m) (ys : List Text) :
    ∃ left, walk root links l (xs ++ ys) = walk root (left + 1) m ys := by
  induction links generalizing l xs with
  | zero => cases arrived
  | succ links ih =>
    rw [walk_succ] at arrived
    cases stepped : step root l xs with
    | arrived n =>
      rw [stepped] at arrived
      cases arrived
      exact ⟨links, by rw [walk_succ, walk_succ, step_append_of_arrived stepped]⟩
    | met n target rest =>
      rw [stepped] at arrived
      obtain ⟨left, same⟩ := ih arrived
      refine ⟨left, ?_⟩
      rw [walk_succ, step_append_of_met stepped, ← same, List.append_assoc]
    | refused fault | missing parent name =>
      rw [stepped] at arrived
      cases arrived

/-- Along names of directories a walk gets to what they lead to, if that is no link. -/
theorem step_of_kind? {k : Node.Kind} (there : root.kind? (l ++ names) = some k) (linkless : ∀ target, k ≠ .link target)
    (entered : ∀ name ∈ names, EntryName name) : step root l names = .arrived (l ++ names) := by
  induction names generalizing l with
  | nil => rw [List.append_nil]; rfl
  | cons name rest ih =>
    obtain ⟨here, later⟩ := List.forall_mem_cons.1 entered
    rw [List.append_cons] at there ⊢
    have onward := ih there later
    rw [step_cons, Node.directory_above (List.append_cons l name rest ▸ there)]
    dsimp only
    rw [if_neg here.proper.2, if_neg here.proper.1, if_neg (Nat.not_lt.2 here.short)]
    cases rest with
    | nil =>
      rw [List.append_nil] at there ⊢
      rw [there]
      cases k with
      | file content => rfl
      | directory => rfl
      | link target => exact absurd rfl (linkless target)
    | cons next rest =>
      rw [Node.directory_above there]
      exact onward

end Walks

/-- A regular file below a directory, or a link to one; no link is on the way from the directory to it. -/
inductive Lies (fs : FileSystem) (directory : Path) : Path → Prop
  | file {base : Location} {names : List Text} {content : Bytes} (located : fs.locate? directory = some base)
    (there : fs.root.kind? (base ++ names) = some (.file content)) :
    Lies fs directory (directory ++ (⟨false, names⟩ : Path))
  | link {base : Location} {names : List Text} {target : Text} (located : fs.locate? directory = some base)
    (there : fs.root.kind? (base ++ names) = some (.link target))
    (leads : fs.isFile (directory ++ (⟨false, names⟩ : Path)) = true) :
    Lies fs directory (directory ++ (⟨false, names⟩ : Path))

/-- What a search is to find below a directory, if it is one. -/
structure Lists (fs : FileSystem) (directory : Path) (suffixes : List Text) (p : Path) : Prop where
  rooted : fs.isDirectory directory = true
  below : fs.Lies directory p
  suffixed : ∃ name ∈ p.name?, ∃ suffix ∈ suffixes, suffix <:+ name

/-- What a search finds below one directory. -/
structure Finds (fs : FileSystem) (directory : Path) (suffixes : List Text) (found : List Path) : Prop where
  exact (p : Path) : p ∈ found ↔ fs.Lists directory suffixes p
  ascending : found.Pairwise fun p q => p.parts < q.parts

/-- What a search looks for: the directory itself and all that is below it, links and what has no suffix included. -/
inductive Seeks (fs : FileSystem) (directory : Path) : Path → Prop
  | directory : Seeks fs directory directory
  | below {base : Location} {names : List Text} (located : fs.locate? directory = some base) (filled : names ≠ [])
      (there : (fs.root.kind? (base ++ names)).isSome = true) :
      Seeks fs directory (directory ++ (⟨false, names⟩ : Path))

/-- How a search goes through the roots, one after the other, and where it ends. -/
inductive Searches (fs : FileSystem) (suffixes : List Text) : List Path → Search → Prop
  | done : Searches fs suffixes [] ⟨[], none⟩
  | onward {root : Path} {roots found : List Path} {rest : Search}
      (sought : ∀ p, fs.Seeks root p → fs.isOverlong p = false) (finds : fs.Finds root suffixes found)
      (later : Searches fs suffixes roots rest) :
      Searches fs suffixes (root :: roots) ⟨found.map (root, ·) ++ rest.files, rest.fault?⟩
  | halted {root p : Path} {roots : List Path} (sought : fs.Seeks root p) (overlong : fs.isOverlong p = true) :
      Searches fs suffixes (root :: roots) ⟨[], some ⟨.nameTooLong, p⟩⟩

variable {fs : FileSystem} {directory p : Path} {base : Location} {names : List Text} {suffixes : List Text}

theorem isDirectory_eq_true : fs.isDirectory p = true ↔
    p.parts.all isName = true ∧ ∃ l, fs.locate? p = some l ∧ fs.root.kind? l = some .directory := by
  rw [isDirectory, Bool.and_eq_true, node?]
  refine and_congr_right fun _ => ?_
  cases located : fs.locate? p with
  | none => exact iff_of_false Bool.false_ne_true (by rintro ⟨_, ⟨⟩, _⟩)
  | some l =>
    rw [Option.bind_some]
    simp only [Option.some.injEq, exists_eq_left', Node.kind?]
    cases fs.root.at? l with
    | none => exact iff_of_false Bool.false_ne_true (by rintro ⟨⟩)
    | some node =>
      cases node with
      | file | link => exact iff_of_false Bool.false_ne_true (by rintro ⟨⟩)
      | directory => exact iff_of_true rfl rfl

/-- The walk to a path below a directory goes on from the directory. -/
theorem reach_below (located : fs.locate? directory = some base)
    (short : utf8Size (directory ++ (⟨false, names⟩ : Path)).text < pathLimit) :
    ∃ left, fs.reach (directory ++ (⟨false, names⟩ : Path)) = walk fs.root (left + 1) base names := by
  rw [locate?_eq_some, reach] at located
  split at located
  · cases located
  · rw [reach, if_neg (Nat.not_le.2 short)]
    exact walk_append_of_arrived located names

/-- What lies below a directory without being a link is a file just if it is one where it lies. -/
theorem isFile_below {k : Node.Kind} (entered : fs.root.IsEntered) (named : directory.parts.all isName = true)
    (located : fs.locate? directory = some base) (there : fs.root.kind? (base ++ names) = some k)
    (linkless : ∀ target, k ≠ .link target) (sought : fs.isOverlong (directory ++ (⟨false, names⟩ : Path)) = false) :
    fs.isFile (directory ++ (⟨false, names⟩ : Path)) = true ↔ ∃ content, k = .file content := by
  obtain ⟨node, found, kind⟩ := Option.map_eq_some_iff.1 there
  have names_entered : ∀ name ∈ names, EntryName name := fun name member =>
    entryName_of_at? entered found name (List.mem_append_right base member)
  have parts : (directory ++ (⟨false, names⟩ : Path)).parts.all isName = true := by
    refine (List.all_append ..).trans (Bool.and_eq_true_iff.2 ⟨named, List.all_eq_true.2 fun name member => ?_⟩)
    exact (names_entered name member).named.2
  have short : utf8Size (directory ++ (⟨false, names⟩ : Path)).text < pathLimit := by
    refine Nat.not_le.1 fun long => ?_
    rw [isOverlong, parts, reach, if_pos long] at sought
    cases sought
  obtain ⟨left, reached⟩ := reach_below located short
  rw [walk_succ, step_of_kind? there linkless names_entered] at reached
  rw [isFile_eq, parts, Bool.true_and, content?_eq_locate, locate?_eq_some.2 reached, Option.bind_some,
    Option.isSome_iff_exists]
  simp only [Node.content?_eq_some, there, Option.some.injEq]

/-- A tree of names that a system can hold, each at most once in a directory. -/
structure IsSound (fs : FileSystem) : Prop where
  entered : fs.root.IsEntered
  distinct : fs.root.isDistinct = true

theorem mem_pathsBelow_iff (sound : fs.IsSound) : p ∈ fs.pathsBelow directory ↔
    ∃ base names, fs.locate? directory = some base ∧ names ≠ [] ∧ (fs.root.kind? (base ++ names)).isSome = true ∧
      p = directory ++ (⟨false, names⟩ : Path) := by
  rw [mem_pathsBelow, node?]
  constructor
  · rintro ⟨node, found, names, member, rfl⟩
    obtain ⟨base, located, there⟩ := Option.bind_eq_some_iff.1 found
    obtain ⟨filled, below⟩ := (Node.mem_paths_iff (Node.isDistinct_of_at? sound.distinct there)).1 member
    refine ⟨base, names, located, filled, ?_, rfl⟩
    rw [Node.kind?, Node.at?_append, there, Option.isSome_map]
    exact below
  · rintro ⟨base, names, located, filled, there, rfl⟩
    rw [Node.kind?, Node.at?_append, Option.isSome_map] at there
    cases found : fs.root.at? base with
    | none =>
      rw [found] at there
      cases there
    | some node =>
      rw [found] at there
      have below := (Node.mem_paths_iff (Node.isDistinct_of_at? sound.distinct found)).2 ⟨filled, there⟩
      exact ⟨node, by rw [located, Option.bind_some, found], names, below, rfl⟩

theorem mem_sought_iff (sound : fs.IsSound) : p ∈ directory :: fs.pathsBelow directory ↔ fs.Seeks directory p := by
  rw [List.mem_cons, mem_pathsBelow_iff sound]
  constructor
  · rintro (rfl | ⟨base, names, located, filled, there, rfl⟩)
    · exact .directory
    · exact .below located filled there
  · rintro (_ | ⟨located, filled, there⟩)
    · exact .inl rfl
    · exact .inr ⟨_, _, located, filled, there, rfl⟩

theorem searchFault?_eq_none_iff (sound : fs.IsSound) :
    fs.searchFault? directory = none ↔ ∀ p, fs.Seeks directory p → fs.isOverlong p = false := by
  rw [searchFault?, Option.map_eq_none_iff, List.find?_eq_none]
  simp only [mem_sought_iff sound, Bool.not_eq_true]

theorem exists_overlong {e : FileError} (sound : fs.IsSound) (fault : fs.searchFault? directory = some e) :
    ∃ p, fs.Seeks directory p ∧ fs.isOverlong p = true ∧ e = ⟨.nameTooLong, p⟩ := by
  obtain ⟨p, first, rfl⟩ := Option.map_eq_some_iff.1 fault
  exact ⟨p, (mem_sought_iff sound).1 (List.mem_of_find?_eq_some first), List.find?_some first, rfl⟩

theorem Lies.parts (lies : fs.Lies directory p) : ∃ base names k, fs.locate? directory = some base ∧
    fs.root.kind? (base ++ names) = some k ∧ k ≠ .directory ∧ p = directory ++ (⟨false, names⟩ : Path) := by
  cases lies with
  | file located there => exact ⟨_, _, _, located, there, nofun, rfl⟩
  | link located there leads => exact ⟨_, _, _, located, there, nofun, rfl⟩

theorem Lies.isFile (lies : fs.Lies directory p) (entered : fs.root.IsEntered)
    (named : directory.parts.all isName = true) (sought : fs.isOverlong p = false) : fs.isFile p = true := by
  cases lies with
  | file located there => exact (isFile_below entered named located there nofun sought).2 ⟨_, rfl⟩
  | link located there leads => exact leads

theorem isMatch_eq_true (stated : p.name? ≠ none) : fs.isMatch suffixes p = true ↔
    fs.isFile p = true ∧ ∃ name ∈ p.name?, ∃ suffix ∈ suffixes, suffix <:+ name := by
  obtain ⟨name, last⟩ := Option.ne_none_iff_exists'.1 stated
  rw [isMatch, Bool.and_eq_true, last, Option.getD_some, List.any_eq_true]
  simp only [endsWith, List.isSuffixOf_iff_suffix, Option.mem_def, Option.some.injEq, exists_eq_left']

/-- A search that meets no path that is too long gives what it is to find. -/
theorem mem_filesBelow_iff (sound : fs.IsSound) (sought : ∀ p, fs.Seeks directory p → fs.isOverlong p = false) :
    p ∈ fs.filesBelow directory suffixes ↔ fs.Lists directory suffixes p := by
  have named_of_filled {names : List Text} (filled : names ≠ []) :
      (directory ++ (⟨false, names⟩ : Path)).name? ≠ none := by
    refine mt List.getLast?_eq_none_iff.1 fun nothing => filled (List.append_eq_nil_iff.1 nothing).2
  rw [filesBelow, List.mem_mergeSort, List.mem_filter]
  constructor
  · rintro ⟨listed, fits⟩
    have overlong := sought p ((mem_sought_iff sound).1 (List.mem_cons_of_mem _ listed))
    obtain ⟨base, names, located, filled, there, rfl⟩ := (mem_pathsBelow_iff sound).1 listed
    obtain ⟨file, suffixed⟩ := (isMatch_eq_true (named_of_filled filled)).1 fits
    obtain ⟨k, there⟩ := Option.isSome_iff_exists.1 there
    have named : directory.parts.all isName = true := by
      have parts := file
      rw [isFile_eq, Bool.and_eq_true] at parts
      exact (Bool.and_eq_true_iff.1 ((List.all_append ..).symm.trans parts.1)).1
    refine ⟨isDirectory_eq_true.2 ⟨named, base, located, ?_⟩, ?_, suffixed⟩
    · obtain ⟨name, rest, rfl⟩ := List.exists_cons_of_ne_nil filled
      exact Node.directory_above there
    · cases k with
      | file content => exact .file located there
      | link target => exact .link located there file
      | directory =>
        have linkless : ∀ target, Node.Kind.directory ≠ .link target := by rintro target ⟨⟩
        obtain ⟨content, same⟩ := (isFile_below sound.entered named located there linkless overlong).1 file
        cases same
  · rintro ⟨rooted, lies, suffixed⟩
    obtain ⟨named, above, origin, directory⟩ := isDirectory_eq_true.1 rooted
    obtain ⟨base, names, k, located, there, other, rfl⟩ := lies.parts
    obtain rfl : base = above := Option.some.inj (located.symm.trans origin)
    have filled : names ≠ [] := by
      rintro rfl
      rw [List.append_nil, directory] at there
      exact other (Option.some.inj there).symm
    have listed := (mem_pathsBelow_iff sound).2 ⟨base, names, located, filled, there ▸ rfl, rfl⟩
    have file := lies.isFile sound.entered named (sought _ (.below located filled (there ▸ rfl)))
    exact ⟨listed, (isMatch_eq_true (named_of_filled filled)).2 ⟨file, suffixed⟩⟩

theorem alike_of_mem_pathsBelow (listed : p ∈ fs.pathsBelow directory) : p.absolute = directory.absolute := by
  obtain ⟨-, -, names, -, rfl⟩ := mem_pathsBelow.1 listed
  rfl

theorem nodup_pathsBelow (sound : fs.IsSound) (directory : Path) : (fs.pathsBelow directory).Nodup := by
  rw [pathsBelow]
  cases found : fs.node? directory with
  | none => exact .nil
  | some node =>
    obtain ⟨base, -, there⟩ := Option.bind_eq_some_iff.1 found
    refine (Node.nodup_paths node (Node.isDistinct_of_at? sound.distinct there)).map fun _ _ same => ?_
    exact List.append_cancel_left (congrArg Path.parts same)

/-- The files below a directory ascend by the parts of their paths, and each is there once. -/
theorem ascending_filesBelow (sound : fs.IsSound) (directory : Path) (suffixes : List Text) :
    (fs.filesBelow directory suffixes).Pairwise fun p q => p.parts < q.parts := by
  have once : (fs.filesBelow directory suffixes).Nodup :=
    (List.mergeSort_perm _ _).nodup_iff.2 ((nodup_pathsBelow sound directory).filter _)
  have sorted := @List.pairwise_mergeSort Path Path.le (fun _ _ _ => Path.le_trans) Path.le_total
    ((fs.pathsBelow directory).filter (fs.isMatch suffixes))
  refine (sorted.and once).imp_of_mem fun {p q} here there ⟨ordered, apart⟩ => ?_
  have alike {r : Path} (listed : r ∈ fs.filesBelow directory suffixes) : r.absolute = directory.absolute :=
    alike_of_mem_pathsBelow (List.mem_filter.1 (List.mem_mergeSort.1 listed)).1
  have same : p.absolute = q.absolute := (alike here).trans (alike there).symm
  rcases Path.le_iff.1 ordered with ⟨absolute, relative⟩ | ⟨-, ordered⟩
  · cases absolute.symm.trans (same.trans relative)
  · refine (List.le_iff_lt_or_eq.1 ordered).resolve_right fun equal => apart ?_
    exact Path.eq_of_parts same equal

theorem finds_filesBelow (sound : fs.IsSound) (sought : ∀ p, fs.Seeks directory p → fs.isOverlong p = false)
    (suffixes : List Text) : fs.Finds directory suffixes (fs.filesBelow directory suffixes) where
  exact _ := mem_filesBelow_iff sound sought
  ascending := ascending_filesBelow sound directory suffixes

theorem filesBelow_eq_of_perm {found : List Path} (sound : fs.IsSound)
    (permuted : found.Perm ((fs.pathsBelow directory).filter (fs.isMatch suffixes)))
    (ascending : found.Pairwise fun p q => p.parts < q.parts) : fs.filesBelow directory suffixes = found :=
  ((List.mergeSort_perm _ _).trans permuted.symm).eq_of_pairwise
    (fun _ _ _ _ less more => absurd more (List.lt_asymm less)) (ascending_filesBelow sound directory suffixes) ascending

/-- Two file systems with the same things at the same places, however their directories list them. -/
structure Alike (fs later : FileSystem) : Prop where
  current : later.current = fs.current
  kind : ∀ l, later.root.kind? l = fs.root.kind? l

section Alike

variable {root later : Node} {l : Location} {links : Nat}

theorem step_congr (same : ∀ l, later.kind? l = root.kind? l) (l : Location) (names : List Text) :
    step later l names = step root l names := by
  induction names generalizing l with
  | nil => rfl
  | cons name rest ih => simp only [step_cons, same, ih]

theorem walk_congr (same : ∀ l, later.kind? l = root.kind? l) (links : Nat) (l : Location) (names : List Text) :
    walk later links l names = walk root links l names := by
  induction links generalizing l names with
  | zero => rfl
  | succ links ih => simp only [walk_succ, step_congr same, ih]

end Alike

namespace Alike

variable {later : FileSystem}

theorem reach_eq (alike : fs.Alike later) (p : Path) : later.reach p = fs.reach p := by
  rw [reach, reach, alike.current, walk_congr alike.kind]

theorem locate?_eq (alike : fs.Alike later) (p : Path) : later.locate? p = fs.locate? p := by
  rw [locate?, locate?, alike.reach_eq]

theorem isOverlong_eq (alike : fs.Alike later) (p : Path) : later.isOverlong p = fs.isOverlong p := by
  rw [isOverlong, isOverlong, alike.reach_eq]

theorem isFile_eq (alike : fs.Alike later) (p : Path) : later.isFile p = fs.isFile p := by
  have content : later.root.content? = fs.root.content? := funext fun l => Node.content?_congr (alike.kind l)
  rw [FileSystem.isFile_eq, FileSystem.isFile_eq, content?_eq_locate, content?_eq_locate, alike.locate?_eq, content]

theorem isDirectory_iff (alike : fs.Alike later) : later.isDirectory p = true ↔ fs.isDirectory p = true := by
  simp only [isDirectory_eq_true, alike.locate?_eq, alike.kind]

theorem symm (alike : fs.Alike later) : later.Alike fs where
  current := alike.current.symm
  kind l := (alike.kind l).symm

theorem lists (alike : fs.Alike later) (listed : fs.Lists directory suffixes p) : later.Lists directory suffixes p := by
  refine ⟨alike.isDirectory_iff.2 listed.rooted, ?_, listed.suffixed⟩
  cases listed.below with
  | file located there => exact .file ((alike.locate?_eq _).trans located) ((alike.kind _).trans there)
  | link located there leads =>
    exact .link ((alike.locate?_eq _).trans located) ((alike.kind _).trans there) ((alike.isFile_eq _).trans leads)

theorem seeks (alike : fs.Alike later) (sought : fs.Seeks directory p) : later.Seeks directory p := by
  cases sought with
  | directory => exact .directory
  | below located filled there =>
    exact .below ((alike.locate?_eq _).trans located) filled ((congrArg _ (alike.kind _)).trans there)

theorem finds_eq {found found' : List Path} (alike : fs.Alike later) (finds : fs.Finds directory suffixes found)
    (finds' : later.Finds directory suffixes found') : found' = found := by
  have once {found : List Path} (ascending : found.Pairwise fun p q => p.parts < q.parts) : found.Nodup := by
    refine ascending.imp ?_
    rintro p _ less rfl
    exact List.lt_irrefl _ less
  have same (p : Path) : p ∈ found' ↔ p ∈ found := by
    rw [finds.exact, finds'.exact]
    exact ⟨alike.symm.lists, alike.lists⟩
  have permuted := (List.perm_ext_iff_of_nodup (once finds'.ascending) (once finds.ascending)).2 same
  exact permuted.eq_of_pairwise (fun _ _ _ _ less more => absurd more (List.lt_asymm less)) finds'.ascending
    finds.ascending

/-- Where there are the same things, searches find the same files and end at the same roots. -/
theorem searches_eq {roots : List Path} {search search' : Search} (alike : fs.Alike later)
    (searches : fs.Searches suffixes roots search) (searches' : later.Searches suffixes roots search') :
    search'.files = search.files ∧ (search'.fault? = none ↔ search.fault? = none) := by
  induction searches generalizing search' with
  | done =>
    cases searches'
    exact ⟨rfl, Iff.rfl⟩
  | onward sought finds _ ih =>
    cases searches' with
    | onward _ finds' onward =>
      obtain ⟨files, ends⟩ := ih onward
      exact ⟨by rw [alike.finds_eq finds finds', files], ends⟩
    | halted seeks overlong =>
      exact absurd ((alike.isOverlong_eq _).symm.trans overlong) (by rw [sought _ (alike.symm.seeks seeks)]; nofun)
  | halted seeks overlong =>
    cases searches' with
    | onward sought' =>
      exact absurd ((alike.isOverlong_eq _).trans overlong) (by rw [sought' _ (alike.seeks seeks)]; nofun)
    | halted => exact ⟨rfl, iff_of_false nofun nofun⟩

end Alike

end FileSystem

namespace Sources

variable {s : Sources} {root : Path} {roots : List Path}

theorem search_of_cons (listed : s.roots = root :: roots) (suffixes : List Text) : s.search suffixes =
    match s.fs.searchFault? root with
    | some e => ⟨[], some e⟩
    | none =>
      let rest := ({ s with roots := roots } : Sources).search suffixes
      ⟨(s.fs.filesBelow root suffixes).map (root, ·) ++ rest.files, rest.fault?⟩ := by
  rw [search, searchable, fault?, listed, List.takeWhile_cons, List.findSome?_cons]
  cases s.fs.searchFault? root with
  | some e => rfl
  | none => rfl

theorem searches (s : Sources) (suffixes : List Text) (sound : s.fs.IsSound) :
    s.fs.Searches suffixes s.roots (s.search suffixes) := by
  obtain ⟨fs, roots, conventions⟩ := s
  induction roots with
  | nil => exact .done
  | cons root roots ih =>
    rw [search_of_cons rfl]
    cases searched : fs.searchFault? root with
    | some e =>
      obtain ⟨p, sought, overlong, rfl⟩ := FileSystem.exists_overlong sound searched
      exact .halted sought overlong
    | none =>
      have sought := (FileSystem.searchFault?_eq_none_iff sound).1 searched
      exact .onward sought (FileSystem.finds_filesBelow sound sought suffixes) (ih sound)

/-- A search goes through the roots in their order and finds the same wherever there is the same. -/
theorem search_finds (s : Sources) (suffixes : List Text) (sound : s.fs.IsSound) :
    s.fs.Searches suffixes s.roots (s.search suffixes) ∧
    ∀ later : FileSystem, later.IsSound → s.fs.Alike later →
      ((s.on later).search suffixes).files = (s.search suffixes).files ∧
      (((s.on later).search suffixes).fault? = none ↔ (s.search suffixes).fault? = none) :=
  ⟨searches s suffixes sound, fun later sound' alike =>
    alike.searches_eq (searches s suffixes sound) (searches (s.on later) suffixes sound')⟩

end Sources

namespace ShuffledTree

def tree : List (Text × Node) := [("src", .directory [
    ("b.py", .link "../late.py"), ("notes.txt", .file []), ("a.py", .file []), ("again", .link "a"),
    ("a", .directory [("z.py", .file []), ("a.py", .directory [])])]), ("late.py", .file [])]

/-- Sources with a missing root between two that share files. -/
def sources (entries : List (Text × Node)) : Sources where
  fs := ⟨.directory entries, []⟩
  roots := [⟨false, ["src", "again"]⟩, ⟨false, ["none"]⟩, ⟨false, []⟩]
  conventions := .default

theorem alike : (sources tree).fs.Alike (sources tree.reverse).fs where
  current := rfl
  kind l := Node.kind?_of_perm (List.reverse_perm tree) (by decide +kernel) l

theorem isSound : (sources tree).fs.IsSound := ⟨by decide +kernel, by decide +kernel⟩

/-- All the files come in the order of parts, which is not that of letters: `src/a.py` is the lesser text. -/
theorem search_eq : (sources tree).search [".py"] = ⟨[
    (⟨false, ["src", "again"]⟩, ⟨false, ["src", "again", "z.py"]⟩),
    (⟨false, []⟩, ⟨false, ["late.py"]⟩), (⟨false, []⟩, ⟨false, ["src", "a", "z.py"]⟩),
    (⟨false, []⟩, ⟨false, ["src", "a.py"]⟩), (⟨false, []⟩, ⟨false, ["src", "b.py"]⟩)], none⟩ := by
  have linked : (sources tree).fs.filesBelow ⟨false, ["src", "again"]⟩ [".py"] =
      [⟨false, ["src", "again", "z.py"]⟩] := by
    decide +kernel
  have missing : (sources tree).fs.filesBelow ⟨false, ["none"]⟩ [".py"] = [] := by decide +kernel
  have all : (sources tree).fs.filesBelow ⟨false, []⟩ [".py"] = [⟨false, ["late.py"]⟩,
      ⟨false, ["src", "a", "z.py"]⟩, ⟨false, ["src", "a.py"]⟩, ⟨false, ["src", "b.py"]⟩] :=
    FileSystem.filesBelow_eq_of_perm isSound (by decide +kernel) (by decide +kernel)
  rw [Sources.search_of_faultless (by decide +kernel), Sources.files]
  change Search.mk (List.flatMap _ [_, _, _]) none = _
  rw [List.flatMap_cons, List.flatMap_cons, List.flatMap_cons, linked, missing, all]
  rfl

theorem found_in_order : (sources tree).fs.IsSound ∧ (sources tree).fs.Searches [".py"] (sources tree).roots ⟨[
      (⟨false, ["src", "again"]⟩, ⟨false, ["src", "again", "z.py"]⟩),
      (⟨false, []⟩, ⟨false, ["late.py"]⟩), (⟨false, []⟩, ⟨false, ["src", "a", "z.py"]⟩),
      (⟨false, []⟩, ⟨false, ["src", "a.py"]⟩), (⟨false, []⟩, ⟨false, ["src", "b.py"]⟩)], none⟩ ∧
    (sources tree.reverse).fs.IsSound ∧ (sources tree).fs.Alike (sources tree.reverse).fs ∧
    ((sources tree.reverse).search [".py"]).files = ((sources tree).search [".py"]).files := by
  obtain ⟨searches, elsewhere⟩ := Sources.search_finds (sources tree) [".py"] isSound
  have reversed : (sources tree.reverse).fs.IsSound := ⟨by decide +kernel, by decide +kernel⟩
  exact ⟨isSound, search_eq ▸ searches, reversed, alike, (elsewhere _ reversed alike).1⟩

end ShuffledTree

namespace OverlongName

def name (count : Nat) : Text := List.replicate count (.scalar 'a')

/-- Sources with one root; a file and a link are there. -/
def sources (root : Path) : Sources where
  fs := ⟨.directory [("src", .directory [("a.py", .file []), ("l", .link (name 300))])], []⟩
  roots := [root]
  conventions := .default

def source : Path := ⟨false, ["src"]⟩

/-- A name that is too long ends the search with an error, be it that of a root that is no directory or the target of a
link beside a file that is to be found. -/
theorem ends_search :
    (∀ p suffixes, ¬ (sources ⟨false, [name 256]⟩).fs.Lists ⟨false, [name 256]⟩ suffixes p) ∧
      (sources ⟨false, [name 256]⟩).search [".py"] = ⟨[], some ⟨.nameTooLong, ⟨false, [name 256]⟩⟩⟩ ∧
    (sources source).fs.Lists source [".py"] ⟨false, ["src", "a.py"]⟩ ∧
      (sources source).search [".py"] = ⟨[], some ⟨.nameTooLong, ⟨false, ["src", "l"]⟩⟩⟩ := by
  have missing : (sources ⟨false, [name 256]⟩).fs.isDirectory ⟨false, [name 256]⟩ = false := by decide +kernel
  refine ⟨fun p suffixes lists => ?_, by decide +kernel, ⟨by decide +kernel, ?_, ?_⟩, by decide +kernel⟩
  · cases missing.symm.trans lists.rooted
  · have located : (sources source).fs.locate? source = some (["src"] : List Text) := by decide +kernel
    have there : (sources source).fs.root.kind? ((["src"] : Location) ++ (["a.py"] : Location)) = some (.file []) :=
      rfl
    exact .file located there
  · exact ⟨"a.py", rfl, ".py", List.mem_singleton_self _, by decide +kernel⟩

end OverlongName

end TaskCatalog
