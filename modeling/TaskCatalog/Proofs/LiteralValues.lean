import TaskCatalog.Code.Evaluation
import TaskCatalog.Proofs.Outcome
import TaskCatalog.Value.Plain

/-!
The values of literals are made from the inside out, so none contains itself.
-/

namespace TaskCatalog

open Outcome

namespace Value

variable {v w key : Value} {vs : List Value} {es : List (Value × Value)}

theorem areCyclic_eq_false : areCyclic vs = false ↔ ∀ v ∈ vs, v.isCyclic = false := by
  induction vs with
  | nil => simp [areCyclic]
  | cons v vs ih => rw [areCyclic, Bool.or_eq_false_iff, ih, List.forall_mem_cons]

theorem entriesCyclic_eq_false : entriesCyclic es = false ↔ ∀ e ∈ es, e.2.isCyclic = false := by
  induction es with
  | nil => simp [entriesCyclic]
  | cons e es ih => rw [entriesCyclic, Bool.or_eq_false_iff, ih, List.forall_mem_cons]

theorem addMember_acyclic (here : v.isCyclic = false) (there : ∀ v ∈ vs, v.isCyclic = false) :
    ∀ w ∈ addMember v vs, w.isCyclic = false := by
  unfold addMember
  split
  · exact there
  · exact List.forall_mem_append.2 ⟨there, List.forall_mem_singleton.2 here⟩

theorem setEntry_acyclic (here : w.isCyclic = false) (there : ∀ e ∈ es, e.2.isCyclic = false) :
    ∀ e ∈ setEntry key w es, e.2.isCyclic = false := by
  induction es with
  | nil => exact List.forall_mem_singleton.2 here
  | cons entry rest ih =>
    rw [List.forall_mem_cons] at there
    rw [setEntry]
    split
    · exact List.forall_mem_cons.2 ⟨here, there.2⟩
    · exact List.forall_mem_cons.2 ⟨there.1, ih there.2⟩

theorem setOfItems_acyclic (each : ∀ v ∈ vs, v.isCyclic = false) : (Value.set (setOfItems vs)).isCyclic = false := by
  refine areCyclic_eq_false.2 (List.foldlRecOn (motive := fun done => ∀ v ∈ done, isCyclic v = false) vs _
    (List.forall_mem_nil _) fun done whole v member => ?_)
  exact addMember_acyclic (each v member) whole

theorem mapOfEntries_acyclic (each : ∀ e ∈ es, e.2.isCyclic = false) : (Value.map (mapOfEntries es)).isCyclic = false := by
  refine entriesCyclic_eq_false.2 (List.foldlRecOn (motive := fun done => ∀ e ∈ done, isCyclic (Prod.snd e) = false) es _
    (List.forall_mem_nil _) fun done whole e member => ?_)
  exact setEntry_acyclic (each e member) whole

end Value

namespace Code.Expression

variable {e left right : Expression}

/-- A value that is found does not contain itself. -/
abbrev Acyclic (x : Except EvaluationFault Value) : Prop := Ends (fun _ => True) (fun v => v.isCyclic = false) x

theorem realOf_ends (s : Scalar) : Ends (fun _ => True) (fun _ => True) (realOf s) := .of_all (fun _ _ => trivial) fun _ _ => trivial

theorem complexOf_acyclic (isSum : Bool) : Acyclic (complexOf isSum left right) := by
  unfold complexOf
  split
  · refine (realOf_ends _).bind fun x _ => ?_
    cases isSum <;> rfl
  · trivial

theorem value_acyclic (e : Expression) : Acyclic e.value := by
  -- Along the recursion of `value`: over an expression, the entries of a mapping and the items of a collection.
  refine value.induct (fun e => Acyclic e.value)
    (fun entries => Ends (fun _ => True) (fun es => ∀ e ∈ es, e.2.isCyclic = false) (entryValues entries))
    (fun es => Ends (fun _ => True) (fun vs => ∀ v ∈ vs, v.isCyclic = false) (values es))
    ?constant ?tuple ?list ?set ?dictionary ?emptySet ?call ?sum ?difference ?signed ?other
    ?nil ?cons ?noEntry ?spread ?pair e
  case constant => exact fun s _ => rfl
  case tuple => exact fun es each => each.map fun _ each => Value.areCyclic_eq_false.2 each
  case list => exact fun es each => each.map fun _ each => Value.areCyclic_eq_false.2 each
  case set =>
    intro es each
    rw [value]
    refine each.bind fun vs each => ?_
    split
    · exact Value.setOfItems_acyclic each
    · trivial
  case dictionary => exact fun entries each => each.map fun _ each => Value.mapOfEntries_acyclic each
  case emptySet => intro f known; rw [value, if_pos known]; rfl
  case call => intro f unknown; rw [value, if_neg unknown]; trivial
  case sum => exact fun left right => complexOf_acyclic true
  case difference => exact fun left right => complexOf_acyclic false
  case signed =>
    intro e h₁ h₂ h₃ h₄ h₅ h₆ h₇ h₈ s found
    rw [value.eq_9 _ h₁ h₂ h₃ h₄ h₅ h₆ h₇ h₈, found]
    rfl
  case other =>
    intro e h₁ h₂ h₃ h₄ h₅ h₆ h₇ h₈ missing
    rw [value.eq_9 _ h₁ h₂ h₃ h₄ h₅ h₆ h₇ h₈, missing]
    trivial
  case nil => exact List.forall_mem_nil _
  case cons =>
    intro e rest here there
    rw [values]
    refine here.bind fun v here => there.bind fun vs there => ?_
    exact List.forall_mem_cons.2 ⟨here, there⟩
  case noEntry => exact List.forall_mem_nil _
  case spread => exact fun _ _ => trivial
  case pair =>
    intro key e rest _ here there
    rw [entryValues]
    refine (Ends.of_all (fun _ _ => trivial) fun _ _ => trivial : Ends _ (fun _ => True) key.value).bind fun k _ =>
      here.bind fun v here => ?_
    split
    · refine there.bind fun es there => ?_
      exact List.forall_mem_cons.2 ⟨here, there⟩
    · trivial

end Code.Expression

end TaskCatalog
