import TaskCatalog.Proofs.Candidates
import Mathlib.Data.List.Lex

/-!
Where the classes and functions of a module stand. The ones that are looked at for decorators are those that are
reached through classes alone, each of them once and in the order of the source.
-/

namespace TaskCatalog.Decorated

/-- Where a statement stands: its own position, behind those of the classes around it, the outermost first. -/
abbrev Address := List Nat

/-- A class or function to which statements lead, where only classes are entered. -/
inductive Reached : List Text → List Code.Statement → Address → Candidate → Prop
  | ofClass {scope statements i line name decorators body}
      (there : statements[i]? = some (.classDefinition line name decorators body)) :
      Reached scope statements [i] (classCandidate scope line name decorators body)
  | ofFunction {scope statements i line name decorators signature body}
      (there : statements[i]? = some (.functionDefinition line name decorators signature body)) :
      Reached scope statements [i] (functionCandidate scope line name decorators signature body)
  | ofMember {scope statements i line name decorators body address d}
      (around : statements[i]? = some (.classDefinition line name decorators body))
      (inside : Reached (scope ++ [name]) body address d) : Reached scope statements (i :: address) d

/-- The classes and functions with their addresses, where the first statement has a position already. -/
def reachedFrom (scope : List Text) (i : Nat) : List Code.Statement → List (Address × Candidate)
  | [] => []
  | .classDefinition line name decorators body :: rest =>
    ([i], classCandidate scope line name decorators body) ::
      ((reachedFrom (scope ++ [name]) 0 body).map (fun r => (i :: r.1, r.2)) ++ reachedFrom scope (i + 1) rest)
  | .functionDefinition line name decorators signature body :: rest =>
    ([i], functionCandidate scope line name decorators signature body) :: reachedFrom scope (i + 1) rest
  | _ :: rest => reachedFrom scope (i + 1) rest

variable {scope : List Text} {statements rest body : List Code.Statement} {statement : Code.Statement} {i j line : Nat}
  {name : Text} {decorators : List Code.Expression} {signature : Code.Signature} {address : Address} {d : Candidate}

theorem map_reachedFrom (scope : List Text) (i : Nat) (statements : List Code.Statement) :
    (reachedFrom scope i statements).map Prod.snd = candidates scope statements := by
  fun_induction reachedFrom scope i statements with
  | case1 => rw [candidates]; rfl
  | case2 scope i line name decorators body rest inner more =>
    rw [candidates, List.map_cons, List.map_append, List.map_map, more, ← inner]
    rfl
  | case3 scope i line name decorators signature body rest more =>
    rw [candidates, List.map_cons, more]
  | case4 scope i statement rest noClass noFunction more =>
    rw [more, candidates]
    · exact noClass
    · exact noFunction

theorem Reached.address_ne_nil (reached : Reached scope statements address d) : address ≠ [] := by
  cases reached <;> exact List.cons_ne_nil _ _

theorem not_reached_nil : ¬ Reached scope [] address d := by
  intro reached
  cases reached with
  | ofClass there | ofFunction there => cases there
  | ofMember around inside => cases around

theorem reached_succ_iff :
    Reached scope (statement :: rest) ((j + 1) :: address) d ↔ Reached scope rest (j :: address) d := by
  constructor <;> intro reached <;>
    cases reached with
    | ofClass there => exact .ofClass there
    | ofFunction there => exact .ofFunction there
    | ofMember around inside => exact .ofMember around inside

theorem reached_class_iff : Reached scope (.classDefinition line name decorators body :: rest) (0 :: address) d ↔
    address = [] ∧ d = classCandidate scope line name decorators body ∨ Reached (scope ++ [name]) body address d := by
  constructor
  · intro reached
    cases reached with
    | ofClass there =>
      cases there
      exact .inl ⟨rfl, rfl⟩
    | ofFunction there => cases there
    | ofMember around inside =>
      cases around
      exact .inr inside
  · rintro (⟨rfl, rfl⟩ | inside)
    · exact .ofClass rfl
    · exact .ofMember rfl inside

theorem reached_function_iff :
    Reached scope (.functionDefinition line name decorators signature body :: rest) (0 :: address) d ↔
      address = [] ∧ d = functionCandidate scope line name decorators signature body := by
  constructor
  · intro reached
    cases reached with
    | ofClass there => cases there
    | ofFunction there =>
      cases there
      exact ⟨rfl, rfl⟩
    | ofMember around inside => cases around
  · rintro ⟨rfl, rfl⟩
    exact .ofFunction rfl

theorem not_reached_other
    (noClass : ∀ line name decorators body, statement ≠ .classDefinition line name decorators body)
    (noFunction : ∀ line name decorators signature body,
      statement ≠ .functionDefinition line name decorators signature body) :
    ¬ Reached scope (statement :: rest) (0 :: address) d := by
  intro reached
  cases reached with
  | ofClass there => exact noClass _ _ _ _ (Option.some.inj there)
  | ofFunction there => exact noFunction _ _ _ _ _ (Option.some.inj there)
  | ofMember around inside => exact noClass _ _ _ _ (Option.some.inj around)

/-- The address of something reached from statements whose first has a position already. -/
def ReachedFrom (scope : List Text) (i : Nat) (statements : List Code.Statement) (a : Address) (d : Candidate) : Prop :=
  ∃ j address, a = (i + j) :: address ∧ Reached scope statements (j :: address) d

theorem reachedFrom_cons_iff {a : Address} : ReachedFrom scope i (statement :: rest) a d ↔
    (∃ address, a = i :: address ∧ Reached scope (statement :: rest) (0 :: address) d) ∨
      ReachedFrom scope (i + 1) rest a d := by
  constructor
  · rintro ⟨j, address, rfl, reached⟩
    cases j with
    | zero => exact .inl ⟨address, rfl, reached⟩
    | succ j => exact .inr ⟨j, address, by rw [Nat.add_right_comm]; rfl, reached_succ_iff.1 reached⟩
  · rintro (⟨address, rfl, reached⟩ | ⟨j, address, rfl, reached⟩)
    · exact ⟨0, address, rfl, reached⟩
    · exact ⟨j + 1, address, by rw [Nat.add_right_comm]; rfl, reached_succ_iff.2 reached⟩

theorem reachedFrom_zero_iff : ReachedFrom scope 0 statements address d ↔ Reached scope statements address d := by
  constructor
  · rintro ⟨j, address, rfl, reached⟩
    rwa [Nat.zero_add]
  · intro reached
    obtain ⟨j, address, rfl⟩ := List.exists_cons_of_ne_nil reached.address_ne_nil
    exact ⟨j, address, by rw [Nat.zero_add], reached⟩

theorem mem_reachedFrom {r : Address × Candidate} :
    r ∈ reachedFrom scope i statements ↔ ReachedFrom scope i statements r.1 r.2 := by
  fun_induction reachedFrom scope i statements generalizing r with
  | case1 scope i =>
    exact iff_of_false List.not_mem_nil fun ⟨_, _, _, reached⟩ => not_reached_nil reached
  | case2 scope i line name decorators body rest inner more =>
    rw [reachedFrom_cons_iff, List.mem_cons, List.mem_append, List.mem_map, more, ← or_assoc]
    refine or_congr_left ?_
    simp only [inner, reachedFrom_zero_iff, reached_class_iff]
    constructor
    · rintro (rfl | ⟨r, inside, rfl⟩)
      · exact ⟨[], rfl, .inl ⟨rfl, rfl⟩⟩
      · exact ⟨r.1, rfl, .inr inside⟩
    · rintro ⟨address, same, ⟨rfl, same'⟩ | inside⟩
      · exact .inl (Prod.ext same same')
      · exact .inr ⟨(address, r.2), inside, Prod.ext same.symm rfl⟩
  | case3 scope i line name decorators signature body rest more =>
    rw [reachedFrom_cons_iff, List.mem_cons, more]
    refine or_congr_left ?_
    simp only [reached_function_iff]
    constructor
    · rintro rfl
      exact ⟨[], rfl, rfl, rfl⟩
    · rintro ⟨address, same, rfl, same'⟩
      exact Prod.ext same same'
  | case4 scope i statement rest noClass noFunction more =>
    rw [reachedFrom_cons_iff, more]
    refine (or_iff_right ?_).symm
    rintro ⟨address, -, reached⟩
    exact not_reached_other noClass noFunction reached

theorem ascending_reachedFrom (scope : List Text) (i : Nat) (statements : List Code.Statement) :
    (reachedFrom scope i statements).Pairwise fun a b => a.1 < b.1 := by
  have behind {scope : List Text} {i : Nat} {rest : List Code.Statement} {address : Address} :
      ∀ r ∈ reachedFrom scope (i + 1) rest, i :: address < r.1 := by
    intro r hr
    obtain ⟨j, later, same, -⟩ := mem_reachedFrom.1 hr
    rw [same]
    exact List.cons_lt_cons_iff.2 (.inl (by omega))
  fun_induction reachedFrom scope i statements with
  | case1 => exact .nil
  | case2 scope i line name decorators body rest inner more =>
    -- the class stands before what is in it, and that before what follows the class
    refine .cons (fun r hr => ?_) (List.pairwise_append.2 ⟨?_, more, fun r hr => ?_⟩)
    · rcases List.mem_append.1 hr with hr | hr
      · obtain ⟨member, hm, rfl⟩ := List.mem_map.1 hr
        obtain ⟨j, later, same, -⟩ := mem_reachedFrom.1 hm
        rw [same]
        exact List.cons_lt_cons_iff.2 (.inr ⟨rfl, List.nil_lt_cons _ _⟩)
      · exact behind r hr
    · exact List.pairwise_map.2 (inner.imp fun before => List.cons_lt_cons_iff.2 (.inr ⟨rfl, before⟩))
    · obtain ⟨member, -, rfl⟩ := List.mem_map.1 hr
      exact behind
  | case3 scope i line name decorators signature body rest more => exact .cons behind more
  | case4 scope i statement rest noClass noFunction more => exact more

end TaskCatalog.Decorated
