import Mathlib.Data.List.Induction
import TaskCatalog.Sources.Marker

/-!
What is seen on classes with decorators, however they derive from each other. A decorator writes on its class only, and
what is looked up on a class is written on it or on a class before it, so a new class changes nothing that was there.
-/

namespace TaskCatalog

namespace Classes

variable {α : Type} {marker : Markers → Option α} {cs ds : Classes} {c : ClassObject} {i j : Nat} {d : Decoration}

theorem look_eq (marker : Markers → Option α) (cs : Classes) (i : Nat) :
    look marker cs i = cs[i]?.bind fun c =>
      (marker c.own).or (c.base.bind fun b => if b < i then look marker cs b else none) := by
  rw [look]
  simp only [dite_eq_ite]

/-- Only a class and those before it count for what is looked up on it. -/
theorem look_congr (same : ∀ j ≤ i, cs[j]? = ds[j]?) : look marker cs i = look marker ds i := by
  induction i using Nat.strongRecOn with
  | ind i ih =>
    rw [look_eq, look_eq, same i (Nat.le_refl i)]
    refine congrArg _ (funext fun c => congrArg _ (congrArg _ (funext fun b => ?_)))
    split
    · next before => exact ih b before fun j within => same j (Nat.le_trans within (Nat.le_of_lt before))
    · rfl

theorem seen_congr (same : ∀ j ≤ i, cs[j]? = ds[j]?) : seen cs i = seen ds i := by
  rw [seen, seen, look_congr same, look_congr same]

/-- A class is not affected by those behind it. -/
theorem seen_append (there : i < cs.length) (ds : Classes) : seen (cs ++ ds) i = seen cs i :=
  seen_congr fun _ within => List.getElem?_append_left (Nat.lt_of_le_of_lt within there)

/-- What is seen on the base of a class that is defined behind the others. -/
def inherited (cs : Classes) (base : Option Nat) : Markers :=
  (base.bind fun b => if b < cs.length then some (cs.seen b) else none).getD .none

theorem look_last : look marker (cs ++ [c]) cs.length =
    (marker c.own).or (c.base.bind fun b => if b < cs.length then look marker cs b else none) := by
  rw [look_eq, List.getElem?_concat_length, Option.bind_some]
  refine congrArg _ (congrArg _ (funext fun b => ?_))
  split
  · next before =>
    exact look_congr fun j within => List.getElem?_append_left (Nat.lt_of_le_of_lt within before)
  · rfl

theorem seen_last : seen (cs ++ [c]) cs.length =
    ⟨c.own.task.or (inherited cs c.base).task, c.own.parameters.or (inherited cs c.base).parameters⟩ := by
  rw [seen, look_last, look_last, inherited]
  cases c.base with
  | none => rfl
  | some b =>
    simp only [Option.bind_some]
    split <;> rfl

theorem modify_last (f : ClassObject → ClassObject) : (cs ++ [c]).modify cs.length f = cs ++ [f c] := by
  rw [List.modify_eq_take_cons_drop (by simp)]
  simp

end Classes

namespace Decoration

def task? : Decoration → Option Marker
  | bareTask => some ⟨.null, []⟩
  | task m => some m
  | parameter _ => none

def parameter? : Decoration → Option Marker
  | parameter m => some m
  | _ => none

end Decoration

namespace Classes

variable {cs : Classes} {base : Option Nat} {own : Markers} {decorations : List Decoration}

/-- The parameters of a class: those that its own decorators declare, in front of those it has from its base. -/
def declared (decorations : List Decoration) (base : Markers) : Option (List Marker) :=
  match decorations.filterMap Decoration.parameter? with
  | [] => base.parameters
  | ps => some (ps ++ base.parameters.getD [])

theorem getD_declared (decorations : List Decoration) (base : Markers) :
    (declared decorations base).getD [] = decorations.filterMap Decoration.parameter? ++ base.parameters.getD [] := by
  unfold declared
  split
  · next none => rw [none, List.nil_append]
  · rfl

/-- The decorators of a class behind the others write on that class and on no other. -/
theorem foldr_mark (cs : Classes) (base : Option Nat) (decorations : List Decoration) :
    ∃ own, decorations.foldr (mark cs.length) (cs ++ [⟨base, .none⟩]) = cs ++ [⟨base, own⟩] ∧
      own.task = decorations.findSome? Decoration.task? ∧
      own.parameters.or (inherited cs base).parameters = declared decorations (inherited cs base) := by
  induction decorations with
  | nil => exact ⟨.none, rfl, rfl, rfl⟩
  | cons d decorations ih =>
    obtain ⟨own, written, task, parameters⟩ := ih
    rw [List.foldr_cons, written]
    cases d with
    | bareTask => exact ⟨_, modify_last _, rfl, parameters⟩
    | task m => exact ⟨_, modify_last _, rfl, parameters⟩
    | parameter m =>
      refine ⟨_, modify_last _, task, ?_⟩
      -- the marker goes in front of all that is seen, whether it is written on the class or on its base
      have seen : look Markers.parameters (cs ++ [⟨base, own⟩]) cs.length = _ :=
        congrArg Markers.parameters (seen_last (c := ⟨base, own⟩))
      rw [seen, parameters, getD_declared]
      rfl

end Classes

namespace ClassDefinition

open Classes

variable {cs : Classes} {d : ClassDefinition} {ds : List ClassDefinition} {i : Nat}

/-- A class statement adds one class and leaves what is seen on the others. -/
theorem define_eq (cs : Classes) (d : ClassDefinition) :
    ∃ c, define cs d = cs ++ [c] ∧ (define cs d).seen cs.length =
      ⟨(d.decorations.findSome? Decoration.task?).or (inherited cs d.base).task,
        declared d.decorations (inherited cs d.base)⟩ := by
  obtain ⟨own, written, task, parameters⟩ := foldr_mark cs d.base d.decorations
  refine ⟨⟨d.base, own⟩, written, ?_⟩
  rw [define, written, seen_last, task, parameters]

/-- The classes that are there after the statements. -/
def classes (ds : List ClassDefinition) : Classes := ds.foldl define []

theorem classes_concat (ds : List ClassDefinition) (d : ClassDefinition) :
    classes (ds ++ [d]) = define (classes ds) d := by rw [classes, List.foldl_append]; rfl

theorem length_classes (ds : List ClassDefinition) : (classes ds).length = ds.length := by
  induction ds using List.reverseRecOn with
  | nil => rfl
  | append_singleton ds d ih =>
    obtain ⟨c, defined, -⟩ := define_eq (classes ds) d
    rw [classes_concat, defined, List.length_append, List.length_append, ih]
    rfl

theorem markers_eq (ds : List ClassDefinition) : markers ds = (List.range ds.length).map (classes ds).seen := by
  rw [← length_classes]
  rfl

/-- What is seen on the base of a class, which is one of those before it. -/
def inherited (earlier : List Markers) (d : ClassDefinition) : Markers := (d.base.bind (earlier[·]?)).getD .none

theorem inherited_markers (ds : List ClassDefinition) (d : ClassDefinition) :
    d.inherited (markers ds) = Classes.inherited (classes ds) d.base := by
  rw [inherited, Classes.inherited, length_classes]
  refine congrArg (Option.getD · _) (congrArg _ (funext fun b => ?_))
  rw [markers_eq, List.getElem?_map]
  split
  · next before => rw [List.getElem?_range before]; rfl
  · next beyond => rw [List.getElem?_eq_none (by simpa using beyond)]; rfl

/-- One more class statement adds what is seen on its class and changes nothing else. -/
theorem markers_concat (ds : List ClassDefinition) (d : ClassDefinition) :
    markers (ds ++ [d]) = markers ds ++ [⟨(d.decorations.findSome? Decoration.task?).or (d.inherited (markers ds)).task,
      declared d.decorations (d.inherited (markers ds))⟩] := by
  obtain ⟨c, defined, seen⟩ := define_eq (classes ds) d
  rw [inherited_markers, ← seen, markers_eq, markers_eq, classes_concat, length_classes, List.length_append,
    List.length_singleton, List.range_succ, List.map_append, List.map_singleton, defined]
  refine congrArg (· ++ _) (List.map_congr_left fun i listed => ?_)
  exact seen_append (by rw [length_classes]; exact List.mem_range.1 listed) [c]

theorem length_markers (ds : List ClassDefinition) : (markers ds).length = ds.length := by
  rw [markers_eq, List.length_map, List.length_range]

theorem markers_stay (ds more : List ClassDefinition) : markers ds <+: markers (ds ++ more) := by
  induction more using List.reverseRecOn with
  | nil => simp only [List.append_nil, List.prefix_rfl]
  | append_singleton more d ih =>
    rw [← List.append_assoc, markers_concat]
    exact ih.trans (List.prefix_append _ _)

/-- What is seen on a class: the task of its topmost task decorator, or else that of its base, and the parameters of its
own decorators from top to bottom, in front of those of its base. -/
structure Shows (d : ClassDefinition) (base m : Markers) : Prop where
  task : m.task = (d.decorations.findSome? Decoration.task?).or base.task
  parameters : m.parameters.getD [] = d.decorations.filterMap Decoration.parameter? ++ base.parameters.getD []
  unmarked : m.parameters = none ↔ d.decorations.filterMap Decoration.parameter? = [] ∧ base.parameters = none

theorem shows_declared (d : ClassDefinition) (base : Markers) :
    d.Shows base ⟨(d.decorations.findSome? Decoration.task?).or base.task, declared d.decorations base⟩ := by
  refine ⟨rfl, getD_declared d.decorations base, ?_⟩
  dsimp only
  rw [declared]
  split
  · next none => rw [none, eq_self, true_and]
  · next stated => exact iff_of_false nofun fun nothing => stated nothing.1

theorem shows_at (earlier more : List ClassDefinition) (d : ClassDefinition) :
    ∃ m, (markers (earlier ++ d :: more))[earlier.length]? = some m ∧ d.Shows (d.inherited (markers earlier)) m := by
  obtain ⟨rest, all⟩ := markers_stay (earlier ++ [d]) more
  rw [List.append_assoc, List.singleton_append, markers_concat] at all
  refine ⟨_, ?_, shows_declared d (d.inherited (markers earlier))⟩
  rw [← all, ← length_markers, List.append_assoc, List.getElem?_append_right (Nat.le_refl _), Nat.sub_self]
  rfl

/-- On each class one sees its own markers and those of its base, and no later class changes them. -/
theorem markers_exactly (ds : List ClassDefinition) :
    (markers ds).length = ds.length ∧
      (∀ (i : Nat) (d : ClassDefinition), ds[i]? = some d →
        ∃ m, (markers ds)[i]? = some m ∧ d.Shows (d.inherited ((markers ds).take i)) m) ∧
      ∀ more, markers ds <+: markers (ds ++ more) := by
  refine ⟨length_markers ds, fun i d there => ?_, markers_stay ds⟩
  obtain ⟨within, rfl⟩ := List.getElem?_eq_some_iff.1 there
  have parted : ds.take i ++ ds[i] :: ds.drop (i + 1) = ds := by
    rw [← List.drop_eq_getElem_cons within, List.take_append_drop]
  have first : (ds.take i).length = i := List.length_take_of_le (Nat.le_of_lt within)
  have shown := shows_at (ds.take i) (ds.drop (i + 1)) ds[i]
  have before := List.prefix_iff_eq_take.1 (markers_stay (ds.take i) (ds[i] :: ds.drop (i + 1)))
  rw [parted, length_markers, first] at before
  rw [parted, first, before] at shown
  exact shown

/-- A class, one below it with a parameter only, and one below that with two task decorators. -/
def derivedClasses : List ClassDefinition :=
  [⟨none, [.task ⟨.text "build", []⟩, .parameter ⟨.text "a", []⟩, .parameter ⟨.text "b", []⟩]⟩,
    ⟨some 0, [.parameter ⟨.text "c", []⟩]⟩,
    ⟨some 1, [.bareTask, .parameter ⟨.text "d", []⟩, .task ⟨.text "old", []⟩]⟩]

theorem markers_exactly_derived : ∃ middle last,
    (markers derivedClasses)[1]? = some middle ∧ middle.task = some ⟨.text "build", []⟩ ∧
      (markers derivedClasses)[2]? = some last ∧ last.task = some ⟨.null, []⟩ ∧
      (last.parameters.getD []).map Marker.name = [.text "d", .text "c", .text "a", .text "b"] := by
  obtain ⟨-, each, -⟩ := markers_exactly derivedClasses
  obtain ⟨first, top, shown⟩ := each 0 _ rfl
  obtain ⟨middle, below, shownBelow⟩ := each 1 _ rfl
  obtain ⟨last, bottom, shownLast⟩ := each 2 _ rfl
  have base (i : Nat) (m : Markers) (d : ClassDefinition) (there : (markers derivedClasses)[i]? = some m)
      (derives : d.base = some i) : d.inherited ((markers derivedClasses).take (i + 1)) = m := by
    rw [inherited, derives, Option.bind_some, List.getElem?_take_of_lt (Nat.lt_succ_self i), there]
    rfl
  rw [base 0 first _ top rfl] at shownBelow
  rw [base 1 middle _ below rfl] at shownLast
  refine ⟨middle, last, below, shownBelow.task.trans ?_, bottom, shownLast.task, ?_⟩
  · rw [shown.task]
    rfl
  · rw [shownLast.parameters, shownBelow.parameters, shown.parameters]
    rfl

end ClassDefinition

end TaskCatalog
