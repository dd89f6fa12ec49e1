import TaskCatalog.Proofs.DefinitionOrder
import TaskCatalog.Sources.Documented

/-!
The classes of a module in the order in which they are looked at for tags: each class statement once, wherever it
stands, those of lesser depth first and those of one depth in the order of the source.
-/

namespace TaskCatalog

namespace Code

/-- The statements in the blocks of a statement. -/
def Statement.inner : Statement → List Statement
  | classDefinition _ _ _ body | functionDefinition _ _ _ _ body | compound body => body
  | assignment .. | annotated .. | expression _ => []

/-- The statement at an address, among statements and those in their blocks, at any depth. -/
inductive Stands : List Statement → List Nat → Statement → Prop
  | here {statements i s} (there : statements[i]? = some s) : Stands statements [i] s
  | inside {statements i outer address s} (around : statements[i]? = some outer)
    (stands : Stands outer.inner address s) : Stands statements (i :: address) s

variable {statements : List Statement} {address : List Nat} {s t : Statement} {i : Nat}

theorem Stands.address_ne_nil (stands : Stands statements address s) : address ≠ [] := by
  cases stands <;> exact List.cons_ne_nil _ _

theorem stands_singleton_iff : Stands statements [i] s ↔ statements[i]? = some s := by
  constructor
  · rintro (there | ⟨_, stands⟩)
    · exact there
    · exact absurd rfl stands.address_ne_nil
  · exact .here

theorem stands_cons_iff (deep : address ≠ []) :
    Stands statements (i :: address) s ↔ ∃ outer, statements[i]? = some outer ∧ Stands outer.inner address s := by
  constructor
  · rintro (there | ⟨around, stands⟩)
    · exact absurd rfl deep
    · exact ⟨_, around, stands⟩
  · rintro ⟨outer, around, stands⟩
    exact .inside around stands

theorem Stands.unique (here : Stands statements address s) (there : Stands statements address t) : s = t := by
  induction here with
  | here found => exact Option.some.inj (found.symm.trans (stands_singleton_iff.1 there))
  | inside around stands ih =>
    obtain ⟨outer, around', stands'⟩ := (stands_cons_iff stands.address_ne_nil).1 there
    cases around.symm.trans around'
    exact ih stands'

/-- The statements at a depth with their addresses, in the order of the source. -/
def standing : Nat → List Statement → List (List Nat × Statement)
  | 0, statements => statements.zipIdx.map fun (s, i) => ([i], s)
  | depth + 1, statements =>
    statements.zipIdx.flatMap fun (s, i) => (standing depth s.inner).map fun r => (i :: r.1, r.2)

theorem mem_standing {depth : Nat} {r : List Nat × Statement} :
    r ∈ standing depth statements ↔ r.1.length = depth + 1 ∧ Stands statements r.1 r.2 := by
  induction depth generalizing statements r with
  | zero =>
    simp only [standing, List.mem_map, Prod.exists, List.mem_zipIdx_iff_getElem?]
    constructor
    · rintro ⟨s, i, there, rfl⟩
      exact ⟨rfl, .here there⟩
    · rintro ⟨single, stands⟩
      obtain ⟨i, same⟩ := List.length_eq_one_iff.1 single
      rw [same] at stands
      exact ⟨r.2, i, stands_singleton_iff.1 stands, Prod.ext same.symm rfl⟩
  | succ depth ih =>
    simp only [standing, List.mem_flatMap, List.mem_map, Prod.exists, List.mem_zipIdx_iff_getElem?]
    constructor
    · rintro ⟨outer, i, around, address, s, inside, rfl⟩
      obtain ⟨deep, stands⟩ := ih.1 inside
      exact ⟨congrArg (· + 1) deep, .inside around stands⟩
    · obtain ⟨address, s⟩ := r
      rintro ⟨deep, stands⟩
      cases stands with
      | here => cases deep
      | @inside _ i outer address _ around stands =>
        exact ⟨outer, i, around, address, s, ih.2 ⟨Nat.succ.inj deep, stands⟩, rfl⟩

theorem pairwise_zipIdx {α : Type} (as : List α) : as.zipIdx.Pairwise fun a b => a.2 < b.2 := by
  rw [← List.pairwise_map, List.zipIdx_map_snd]
  exact List.pairwise_lt_range'

theorem ascending_standing (depth : Nat) (statements : List Statement) :
    (standing depth statements).Pairwise fun a b => a.1 < b.1 := by
  induction depth generalizing statements with
  | zero =>
    rw [standing, List.pairwise_map]
    exact (pairwise_zipIdx statements).imp fun before => List.cons_lt_cons_iff.2 (.inl before)
  | succ depth ih =>
    rw [standing, List.pairwise_flatMap]
    constructor
    · intro outer _
      exact List.pairwise_map.2 ((ih outer.1.inner).imp fun before => List.cons_lt_cons_iff.2 (.inr ⟨rfl, before⟩))
    · refine (pairwise_zipIdx statements).imp fun before => ?_
      simp only [List.mem_map]
      rintro _ ⟨_, _, rfl⟩ _ ⟨_, _, rfl⟩
      exact List.cons_lt_cons_iff.2 (.inl before)

/-- An address comes before another if it is less deep, or as deep and before it in the source. -/
def Shallower (a b : List Nat) : Prop := a.length < b.length ∨ a.length = b.length ∧ a < b

/-- The statements of less than a depth with their addresses, one depth after the other. -/
def standingBelow (depth : Nat) (statements : List Statement) : List (List Nat × Statement) :=
  (List.range depth).flatMap fun n => standing n statements

theorem mem_standingBelow {depth : Nat} {r : List Nat × Statement} :
    r ∈ standingBelow depth statements ↔ r.1.length ≤ depth ∧ Stands statements r.1 r.2 := by
  simp only [standingBelow, List.mem_flatMap, List.mem_range, mem_standing]
  constructor
  · rintro ⟨n, within, deep, stands⟩
    exact ⟨by omega, stands⟩
  · rintro ⟨within, stands⟩
    have := List.length_pos_of_ne_nil stands.address_ne_nil
    exact ⟨r.1.length - 1, by omega, by omega, stands⟩

theorem ordered_standingBelow (depth : Nat) (statements : List Statement) :
    (standingBelow depth statements).Pairwise fun a b => Shallower a.1 b.1 := by
  rw [standingBelow, List.pairwise_flatMap]
  refine ⟨fun n _ => ?_, List.pairwise_lt_range.imp fun before a ha b hb => .inl ?_⟩
  · refine (ascending_standing n statements).imp_of_mem fun ha hb before => .inr ⟨?_, before⟩
    rw [(mem_standing.1 ha).1, (mem_standing.1 hb).1]
  · have := (mem_standing.1 ha).1
    have := (mem_standing.1 hb).1
    omega

end Code

namespace Documented

open Code

def definition? : Statement → Option Definition
  | .classDefinition line name _ body => some ⟨line, name, body⟩
  | _ => none

variable {statements : List Statement}

theorem getD_beside (left right : Layers) (n : Nat) :
    (left.beside right).getD n [] = left.getD n [] ++ right.getD n [] := by
  fun_induction Layers.beside left right generalizing n with
  | case1 right => simp
  | case2 left => simp
  | case3 l left r right ih =>
    cases n with
    | zero => rfl
    | succ n => exact ih n

theorem getD_layersIn (n : Nat) : (layersIn statements).getD n [] = statements.flatMap fun s => (layersOf s).getD n [] := by
  induction statements with
  | nil => rw [layersIn]; rfl
  | cons s rest ih => rw [layersIn, getD_beside, ih, List.flatMap_cons]

theorem getD_layersOf_zero (s : Statement) : (layersOf s).getD 0 [] = (definition? s).toList := by
  cases s <;> rw [layersOf] <;> rfl

theorem getD_layersOf_succ (s : Statement) (n : Nat) : (layersOf s).getD (n + 1) [] = (layersIn s.inner).getD n [] := by
  cases s <;> rw [layersOf] <;> rfl

theorem flatMap_zipIdx {α β : Type} (as : List α) (f : α → List β) : (as.zipIdx.flatMap fun r => f r.1) = as.flatMap f := by
  rw [← List.flatMap_map, List.zipIdx_map_fst]

theorem layer_eq (n : Nat) (statements : List Statement) :
    (layersIn statements).getD n [] = (standing n statements).filterMap fun r => definition? r.2 := by
  induction n generalizing statements with
  | zero =>
    rw [getD_layersIn, standing, List.filterMap_map, ← flatMap_zipIdx, List.filterMap_eq_flatMap_toList]
    exact List.flatMap_congr fun r _ => getD_layersOf_zero r.1
  | succ n ih =>
    rw [getD_layersIn, standing, List.filterMap_flatMap, ← flatMap_zipIdx]
    refine List.flatMap_congr fun r _ => ?_
    rw [getD_layersOf_succ, ih, List.filterMap_map]
    rfl

/-- The classes with their addresses, one depth after the other. -/
def placedClasses (statements : List Statement) : List (List Nat × Definition) :=
  (standingBelow (layersIn statements).length statements).filterMap fun r => (definition? r.2).map (r.1, ·)

theorem flatten_eq_flatMap {α : Type} (as : List (List α)) :
    as.flatten = (List.range as.length).flatMap fun n => as.getD n [] := by
  rw [List.flatMap_def]
  congr 1
  refine List.ext_getElem (by simp) fun n within _ => ?_
  simp [within]

theorem map_placedClasses (statements : List Statement) : (placedClasses statements).map Prod.snd = classes statements := by
  rw [classes, flatten_eq_flatMap, placedClasses, standingBelow, List.map_filterMap, List.filterMap_flatMap]
  refine List.flatMap_congr fun n _ => ?_
  rw [layer_eq]
  refine List.filterMap_congr fun r _ => ?_
  rw [Option.map_map]
  exact Option.map_id'

theorem definition?_eq_some {s : Statement} {d : Definition} :
    definition? s = some d ↔ ∃ decorators, s = .classDefinition d.line d.name decorators d.body := by
  constructor
  · intro found
    cases s with
    | classDefinition line name decorators body =>
      cases found
      exact ⟨decorators, rfl⟩
    | _ => cases found
  · rintro ⟨decorators, rfl⟩
    rfl

theorem mem_placedClasses {r : List Nat × Definition} : r ∈ placedClasses statements ↔
    ∃ decorators, Stands statements r.1 (.classDefinition r.2.line r.2.name decorators r.2.body) := by
  simp only [placedClasses, List.mem_filterMap, Option.map_eq_some_iff, definition?_eq_some]
  constructor
  · rintro ⟨⟨address, _⟩, listed, d, ⟨decorators, rfl⟩, rfl⟩
    exact ⟨decorators, (mem_standingBelow.1 listed).2⟩
  · rintro ⟨decorators, stands⟩
    refine ⟨(r.1, _), mem_standingBelow.2 ⟨?_, stands⟩, r.2, ⟨decorators, rfl⟩, rfl⟩
    -- a depth at which a class stands is one of the layers
    obtain ⟨depth, deep⟩ := Nat.exists_eq_succ_of_ne_zero (List.length_pos_of_ne_nil stands.address_ne_nil).ne'
    have listed : r.2 ∈ (layersIn statements).getD depth [] := by
      rw [layer_eq, List.mem_filterMap]
      exact ⟨(r.1, _), mem_standing.2 ⟨deep, stands⟩, rfl⟩
    by_contra beyond
    have none : (layersIn statements)[depth]? = none := List.getElem?_eq_none (by rw [deep] at beyond; omega)
    rw [List.getD_eq_getElem?_getD, none] at listed
    cases listed

theorem ordered_placedClasses (statements : List Statement) :
    (placedClasses statements).Pairwise fun a b => Shallower a.1 b.1 := by
  refine List.Pairwise.filterMap _ ?_ (ordered_standingBelow _ statements)
  intro a b before
  simp only [Option.map_eq_some_iff]
  rintro _ ⟨_, _, rfl⟩ _ ⟨_, _, rfl⟩
  exact before

end Documented

end TaskCatalog
