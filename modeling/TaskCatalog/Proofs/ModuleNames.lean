import TaskCatalog.Proofs.ClassReferences

/-!
Modules are told apart by their names. Below one root, where no name on the way to a file holds a dot beside the one of
the file's suffix, two files are modules of one name only if one of them is the package of the other's name. So what
stands in two other files is referred to differently.
-/

namespace TaskCatalog

open Text Outcome

def Path.below (root : Path) (parts : List Text) : Path := ⟨root.absolute, root.parts ++ parts⟩

/-- A file below a root with the suffix of modules, whose dot is the only one in the names on the way to it. -/
inductive IsModuleFile (root : Path) : Path → Prop
  | intro {directories : List Text} {stem : Text} (stated : ∀ d ∈ directories, d ≠ [])
    (undivided : ∀ d ∈ directories, .scalar '.' ∉ d) (whole : .scalar '.' ∉ stem) :
    IsModuleFile root (root.below (directories ++ [stem ++ Module.suffix]))

/-- A module's file beside the package of the module's name. -/
inductive IsBesidePackage (root : Path) : Path → Path → Prop
  | intro {directories : List Text} {stem : Text} (stated : stem ≠ []) (plain : stem ≠ packageMarker) :
    IsBesidePackage root (root.below (directories ++ [stem ++ Module.suffix]))
      (root.below (directories ++ [stem, packageMarker ++ Module.suffix]))

/-- What the name of a file adds to the name of its module, as texts between dots. A name that is nothing but the suffix
stays as it is, with a dot at its front. -/
inductive ModulePieces : Text → List Text → Prop
  | nameless : ModulePieces [] [[], "py"]
  | package : ModulePieces packageMarker []
  | module {stem : Text} (stated : stem ≠ []) (plain : stem ≠ packageMarker) : ModulePieces stem [stem]

section Names

variable {root f g file : Path} {directories others ds es pieces parts : List Text} {stem other name place t u : Text}
  {l : Letter}

theorem exists_pieces (stem : Text) : ∃ pieces, ModulePieces stem pieces := by
  by_cases stated : stem = []
  · rw [stated]
    exact ⟨_, .nameless⟩
  · by_cases plain : stem = packageMarker
    · rw [plain]
      exact ⟨_, .package⟩
    · exact ⟨_, .module stated plain⟩

theorem Path.dropSuffix_suffix (stem : Text) :
    dropSuffix (stem ++ Module.suffix) = if stem = [] then Module.suffix else stem := by
  have last : (stem ++ Module.suffix).reverse.takeWhile (· ≠ .scalar '.') = [.scalar 'y', .scalar 'p'] := by
    rw [List.reverse_append]
    rfl
  have length : (stem ++ Module.suffix).length = stem.length + 3 := List.length_append
  have front : (stem ++ Module.suffix).take stem.length = stem := List.take_left
  rw [dropSuffix, last]
  simp only [length, List.length_cons, List.length_nil, Nat.add_sub_cancel, Nat.reduceAdd, Nat.reduceSubDiff, front]
  cases stem with
  | nil => rfl
  | cons l stem => simp

theorem join_concat_suffix (directories : List Text) :
    join "." (directories ++ [Module.suffix]) = join "." (directories ++ [[], "py"]) := by
  by_cases none : directories = []
  · rw [none]
    rfl
  · rw [join_append _ none (List.cons_ne_nil _ _), join_append _ none (List.cons_ne_nil _ _)]
    rfl

theorem moduleName?_below (told : ModulePieces stem pieces) (root : Path) (directories : List Text) :
    moduleName? root (root.below (directories ++ [stem ++ Module.suffix])) =
      some (join "." (directories ++ pieces)) := by
  rw [moduleName?, Path.below, Path.relativeTo?_append]
  simp only [Option.bind_eq_bind, Option.bind_some, List.getLast?_concat, List.dropLast_concat, Path.dropSuffix_suffix,
    Option.some.injEq, pure]
  cases told with
  | nameless =>
    have apart : Module.suffix ≠ packageMarker := by decide
    rw [if_pos rfl, if_neg apart, join_concat_suffix]
  | package =>
    have stated : packageMarker ≠ [] := by decide
    rw [if_neg stated, if_pos rfl, List.append_nil]
  | module stated plain => rw [if_neg stated, if_neg plain]

/-- Texts that hold no dots are found again where they are joined by dots. -/
theorem join_dots_injective (hd : ∀ d ∈ ds, .scalar '.' ∉ d) (he : ∀ e ∈ es, .scalar '.' ∉ e) (stated : ds ≠ [[]])
    (stated' : es ≠ [[]]) (same : join "." ds = join "." es) : ds = es := by
  have back {ts : List Text} (filled : ts ≠ []) (undivided : ∀ t ∈ ts, .scalar '.' ∉ t) :
      splitOn (.scalar '.') (join "." ts) = ts := splitOn_join filled undivided
  have none {ts : List Text} (undivided : ∀ t ∈ ts, .scalar '.' ∉ t) (other : ts ≠ [[]]) (empty : join "." ts = []) :
      ts = [] := by
    by_contra filled
    have parts := back filled undivided
    rw [empty] at parts
    exact other parts.symm
  by_cases filled : ds = []
  · subst filled
    exact (none he stated' same.symm).symm
  · by_cases filled' : es = []
    · subst filled'
      exact none hd stated same
    · rw [← back filled hd, same, back filled' he]

namespace ModulePieces

theorem dots_apart (told : ModulePieces stem pieces) (undivided : ∀ d ∈ directories, .scalar '.' ∉ d)
    (whole : .scalar '.' ∉ stem) : ∀ d ∈ directories ++ pieces, .scalar '.' ∉ d := by
  refine List.forall_mem_append.2 ⟨undivided, ?_⟩
  cases told with
  | nameless => decide
  | package => exact nofun
  | module _ _ => exact List.forall_mem_singleton.2 whole

theorem append_ne (told : ModulePieces stem pieces) (stated : ∀ d ∈ directories, d ≠ []) :
    directories ++ pieces ≠ [[]] := by
  intro alone
  have empty {t : Text} (member : t ∈ directories ++ pieces) : t = [] := by
    rw [alone] at member
    exact List.mem_singleton.1 member
  cases told with
  | nameless =>
    have py : ("py" : Text) = [] := empty (by simp)
    cases py
  | package =>
    rw [List.append_nil] at alone
    exact stated [] (alone ▸ List.mem_cons_self) rfl
  | module filled _ => exact filled (empty List.mem_concat_self)

/-- No directory is nameless, so what a nameless file adds is not among directories and files of modules. -/
theorem append_ne_nameless (told : ModulePieces stem pieces) (filled : stem ≠ []) (stated : ∀ d ∈ directories, d ≠ []) :
    directories ++ pieces ≠ others ++ [[], "py"] := by
  intro same
  have inside : [] ∈ directories := by
    cases told with
    | nameless => exact absurd rfl filled
    | package =>
      rw [List.append_nil] at same
      rw [same]
      exact List.mem_append_right _ List.mem_cons_self
    | module _ _ =>
      have cut : others ++ [[], ofString "py"] = (others ++ [[]]) ++ [ofString "py"] := by
        rw [List.append_assoc]
        rfl
      rw [(List.append_inj' (same.trans cut) rfl).1]
      exact List.mem_concat_self
  exact stated [] inside rfl

/-- The texts between the dots of a module's name tell where its file is, but for a package. -/
theorem eq_or_package (told : ModulePieces stem pieces) (told' : ModulePieces other parts)
    (stated : ∀ d ∈ directories, d ≠ []) (stated' : ∀ d ∈ others, d ≠ []) (same : directories ++ pieces = others ++ parts) :
    directories = others ∧ stem = other ∨
      (stem = packageMarker ∧ other ≠ [] ∧ other ≠ packageMarker ∧ directories = others ++ [other]) ∨
      other = packageMarker ∧ stem ≠ [] ∧ stem ≠ packageMarker ∧ others = directories ++ [stem] := by
  have marked : packageMarker ≠ [] := by decide
  cases told with
  | nameless =>
    cases told' with
    | nameless => exact .inl ⟨List.append_cancel_right same, rfl⟩
    | package => exact absurd same.symm (append_ne_nameless .package marked stated')
    | module filled plain => exact absurd same.symm (append_ne_nameless (.module filled plain) filled stated')
  | package =>
    cases told' with
    | nameless => exact absurd same (append_ne_nameless .package marked stated)
    | package => exact .inl ⟨List.append_cancel_right same, rfl⟩
    | module filled plain =>
      rw [List.append_nil] at same
      exact .inr (.inl ⟨rfl, filled, plain, same⟩)
  | module filled plain =>
    cases told' with
    | nameless => exact absurd same (append_ne_nameless (.module filled plain) filled stated)
    | package =>
      rw [List.append_nil] at same
      exact .inr (.inr ⟨rfl, filled, plain, same.symm⟩)
    | module filled' plain' =>
      obtain ⟨front, last⟩ := List.append_inj' same rfl
      exact .inl ⟨front, List.singleton_inj.1 last⟩

end ModulePieces

theorem IsModuleFile.exists_name (h : IsModuleFile root f) : ∃ name, moduleName? root f = some name := by
  cases h with
  | @intro _ stem _ _ _ =>
    obtain ⟨pieces, told⟩ := exists_pieces stem
    exact ⟨_, moduleName?_below told _ _⟩

theorem IsBesidePackage.moduleName?_eq (h : IsBesidePackage root f g) : moduleName? root f = moduleName? root g := by
  cases h with
  | @intro directories stem stated plain =>
    have inner : directories ++ [stem, packageMarker ++ Module.suffix] =
        (directories ++ [stem]) ++ [packageMarker ++ Module.suffix] := by
      rw [List.append_assoc]
      rfl
    rw [inner, moduleName?_below .package, moduleName?_below (.module stated plain), List.append_nil]

/-- Files of modules have one name only if one of them is the package of the other's name. -/
theorem IsModuleFile.moduleName?_eq_iff (hf : IsModuleFile root f) (hg : IsModuleFile root g) :
    moduleName? root f = moduleName? root g ↔ f = g ∨ IsBesidePackage root f g ∨ IsBesidePackage root g f := by
  constructor
  · intro same
    cases hf with
    | @intro directories stem stated undivided whole =>
      cases hg with
      | @intro others other stated' undivided' whole' =>
        obtain ⟨pieces, told⟩ := exists_pieces stem
        obtain ⟨parts, told'⟩ := exists_pieces other
        rw [moduleName?_below told, moduleName?_below told', Option.some.injEq] at same
        have texts := join_dots_injective (told.dots_apart undivided whole) (told'.dots_apart undivided' whole')
          (told.append_ne stated) (told'.append_ne stated') same
        obtain ⟨rfl, rfl⟩ | ⟨rfl, filled, plain, rfl⟩ | ⟨rfl, filled, plain, rfl⟩ :=
          told.eq_or_package told' stated stated' texts
        · exact .inl rfl
        · rw [List.append_assoc]
          exact .inr (.inr (.intro filled plain))
        · rw [List.append_assoc]
          exact .inr (.inl (.intro filled plain))
  · rintro (rfl | beside | beside)
    · rfl
    · exact beside.moduleName?_eq
    · exact beside.moduleName?_eq.symm

/-! References to what stands in modules. -/

/-- Texts are the same up to the last letter of a kind. -/
theorem eq_of_append_cons (absent : l ∉ place) (absent' : l ∉ u) (same : name ++ l :: place = t ++ l :: u) :
    name = t := by
  have cut {a v w : Text} (absent : l ∉ v) (back : l :: v = a ++ l :: w) : a = [] := by
    cases a with
    | nil => rfl
    | cons m a =>
      rw [List.cons_append, List.cons.injEq] at back
      exact absurd (back.2 ▸ List.mem_append_right a List.mem_cons_self) absent
  obtain ⟨a, front, back⟩ | ⟨a, front, back⟩ := List.append_eq_append_iff.1 same
  · rw [front, cut absent back, List.append_nil]
  · rw [front, cut absent' back, List.append_nil]

/-- A task that refers to something in a module by the module's name and, behind a colon, a place in it. -/
def RefersInto (root file : Path) (t : Task) : Prop :=
  ∃ name place, moduleName? root file = some name ∧ t.implementation.val = name ++ .scalar ':' :: place ∧
    .scalar ':' ∉ place

theorem colon_not_mem (named : Code.HasNameLetters name) : .scalar ':' ∉ name := fun member =>
  absurd (named _ member) (by decide)

theorem RefersInto.moduleName?_eq {t u : Task} (ht : RefersInto root f t) (hu : RefersInto root g u)
    (same : t.implementation = u.implementation) : moduleName? root f = moduleName? root g := by
  obtain ⟨name, place, named, refers, apart⟩ := ht
  obtain ⟨name', place', named', refers', apart'⟩ := hu
  rw [Subtype.ext_iff, refers, refers'] at same
  rw [named, named', eq_of_append_cons apart apart' same]

theorem Decorated.FileYields.refersInto {s : Sources} {ts : List Task} {t : Task}
    (yields : Decorated.FileYields s (root, file) ts) (member : t ∈ ts) : RefersInto root file t := by
  cases yields with
  | passed _ _ => cases member
  | @parsed _ _ chars name statements _ text marked parsed named tasks =>
    obtain ⟨listed, -, complete, each⟩ := tasks
    obtain ⟨⟨address, d⟩, there, declares⟩ := exists_of_forall₂ each member
    have reached := ((complete address d).1 there).1
    have spelled := reached.named (Code.named_of_parse parsed) (List.forall_mem_nil _)
    refine ⟨name, join "." (d.scope ++ [d.definition.name]), named, ?_, ?_⟩
    · rw [declares.implementation, List.append_assoc]
      rfl
    · have apart : ∀ l ∈ join "." (d.scope ++ [d.definition.name]), l ≠ .scalar ':' :=
        forall_mem_join (by decide) fun n hn l hl colon => colon_not_mem (spelled n hn) (colon ▸ hl)
      exact fun colon => apart _ colon rfl

theorem Code.Stands.named {statements : List Code.Statement} {address : List Nat} {s : Code.Statement}
    (stands : Code.Stands statements address s) (named : Code.AllNamed statements) : s.Named := by
  induction stands with
  | here there => exact named _ (List.mem_of_getElem? there)
  | inside around _ ih =>
    refine ih fun s member => ?_
    cases named _ (List.mem_of_getElem? around) with
    | classDefinition _ inside => exact inside s member
    | functionDefinition _ inside => exact inside s member
    | compound inside => exact inside s member
    | assignment => cases member
    | annotated => cases member
    | expression => cases member

theorem Documented.FileYields.refersInto {s : Sources} {ts : List Task} {t : Task}
    (yields : Documented.FileYields s (root, file) ts) (member : t ∈ ts) : RefersInto root file t := by
  cases yields with
  | passed _ _ => cases member
  | @parsed _ _ chars name statements _ text tagged parsed named tasks =>
    obtain ⟨listed, -, complete, each⟩ := tasks
    obtain ⟨⟨address, d⟩, there, declares⟩ := exists_of_forall₂ each member
    obtain ⟨⟨decorators, stands⟩, -⟩ := (complete address d).1 there
    refine ⟨name, d.name, named, ?_, ?_⟩
    · rw [declares.implementation, List.append_assoc]
      rfl
    · cases stands.named (Code.named_of_parse parsed) with
      | classDefinition spelled _ => exact colon_not_mem spelled

/-- A task that decorators or documentation in a file declare. -/
inductive Sources.Extracts (s : Sources) (root file : Path) (t : Task) : Prop
  | decorated {ts : List Task} (result : (Decorated.fileTasks s root file).result = .ok ts) (member : t ∈ ts)
  | documented {ts : List Task} (result : (Documented.fileTasks s root file).result = .ok ts) (member : t ∈ ts)

theorem Sources.Extracts.refersInto {s : Sources} {t : Task} (extracted : s.Extracts root file t)
    (below : IsModuleFile root file) : RefersInto root file t := by
  obtain ⟨name, named⟩ := below.exists_name
  cases extracted with
  | decorated result member => exact (Decorated.fileYields_of_named named result).refersInto member
  | documented result member => exact (Documented.fileYields_of_named named result).refersInto member

/-- Files of modules below a root have names, and two of them have the same only if one is the package of the other's
name. Tasks of any other two files refer to different things. -/
theorem module_names_distinct (root f g : Path) (hf : IsModuleFile root f) (hg : IsModuleFile root g) :
    (∃ name, moduleName? root f = some name) ∧
    (moduleName? root f = moduleName? root g ↔ f = g ∨ IsBesidePackage root f g ∨ IsBesidePackage root g f) ∧
    (f ≠ g → ¬IsBesidePackage root f g → ¬IsBesidePackage root g f → ∀ s t u, Sources.Extracts s root f t →
      Sources.Extracts s root g u → t.implementation ≠ u.implementation) := by
  refine ⟨hf.exists_name, hf.moduleName?_eq_iff hg, fun distinct apart apart' s t u extracted extracted' same => ?_⟩
  have named := (extracted.refersInto hf).moduleName?_eq (extracted'.refersInto hg) same
  rcases (hf.moduleName?_eq_iff hg).1 named with rfl | beside | beside
  · exact distinct rfl
  · exact apart beside
  · exact apart' beside

end Names

namespace SiblingModules

def root : Path := ⟨true, ["src"]⟩

def outer : Path := ⟨true, ["src", "a.py"]⟩

def inner : Path := ⟨true, ["src", "b", "a.py"]⟩

/-- A module and one of the same file name in a directory beside it, each with a documented class of one name. -/
def sources : Sources where
  fs := ⟨.directory [("src", .directory [
    ("a.py", .file "class A:\n '@goal a'\n".toUTF8.toList),
    ("b", .directory [("a.py", .file "class A:\n '@goal b'\n".toUTF8.toList)])])], []⟩
  roots := [root]
  conventions := .default

theorem isModuleFile_outer : IsModuleFile root outer := by
  have place : outer = root.below ([] ++ ["a" ++ Module.suffix]) := by decide
  rw [place]
  exact .intro nofun nofun (by decide)

theorem isModuleFile_inner : IsModuleFile root inner := by
  have place : inner = root.below ([ofString "b"] ++ ["a" ++ Module.suffix]) := by decide
  rw [place]
  exact .intro (by decide) (by decide) (by decide)

theorem siblings_apart : moduleName? root outer ≠ moduleName? root inner ∧ ∃ t u, Sources.Extracts sources root outer t ∧
    Sources.Extracts sources root inner u ∧ t.implementation ≠ u.implementation := by
  have other : outer ≠ inner := by decide
  have names : moduleName? root outer ≠ moduleName? root inner := by decide +kernel
  have apart : ¬IsBesidePackage root outer inner := fun beside => names beside.moduleName?_eq
  have apart' : ¬IsBesidePackage root inner outer := fun beside => names beside.moduleName?_eq.symm
  have task (file : Path)
      (one : ((Documented.fileTasks sources root file).result.toOption.bind List.head?).isSome = true) :
      ∃ t, Sources.Extracts sources root file t := by
    obtain ⟨t, read⟩ := Option.isSome_iff_exists.1 one
    obtain ⟨ts, result, first⟩ := Option.bind_eq_some_iff.1 read
    exact ⟨t, .documented (toOption_eq_some.1 result) (List.mem_of_mem_head? first)⟩
  obtain ⟨t, extracted⟩ := task outer (by decide +kernel)
  obtain ⟨u, extracted'⟩ := task inner (by decide +kernel)
  have both := module_names_distinct root outer inner isModuleFile_outer isModuleFile_inner
  refine ⟨fun same => ?_, t, u, extracted, extracted', both.2.2 other apart apart' sources t u extracted extracted'⟩
  rcases both.2.1.1 same with equal | beside | beside
  · exact other equal
  · exact apart beside
  · exact apart' beside

end SiblingModules

end TaskCatalog
