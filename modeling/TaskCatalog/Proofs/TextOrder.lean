import TaskCatalog.Text.Basic
import Mathlib.Data.List.Nodup

/-!
The order of texts, letter by letter, and what sorting without repetition gives.
-/

namespace TaskCatalog

namespace Letter

variable {a b c : Letter}

theorem code_injective (h : a.code = b.code) : a = b := by
  -- no character has the code of a half
  have apart (x : Char) (n : Fin 2048) : x.toNat ≠ 0xD800 + n.val := by
    intro he
    have hv : x.toNat < 0xD800 ∨ 0xDFFF < x.toNat ∧ x.toNat < 0x110000 := x.valid
    omega
  cases a with
  | scalar x =>
    cases b with
    | scalar y => exact congrArg scalar (Char.toNat_inj.1 h)
    | half n => exact absurd h (apart x n)
  | half m =>
    cases b with
    | scalar y => exact absurd h.symm (apart y m)
    | half n => exact congrArg half (Fin.ext (Nat.add_left_cancel h))

instance : Std.Irrefl (fun a b : Letter => a < b) := ⟨fun a => Nat.lt_irrefl a.code⟩

instance : Std.Asymm (fun a b : Letter => a < b) := ⟨fun _ _ h => Nat.lt_asymm h⟩

instance : Std.Trichotomous (fun a b : Letter => a < b) :=
  ⟨fun _ _ hab hba => code_injective (Nat.le_antisymm (Nat.le_of_not_lt hba) (Nat.le_of_not_lt hab))⟩

instance : Trans (fun a b : Letter => a < b) (fun a b => a < b) (fun a b => a < b) := ⟨Nat.lt_trans⟩

end Letter

namespace Text

variable {s t u : Text} {ts us : List Text}

theorem le_trans (hst : s ≤ t) (htu : t ≤ u) : s ≤ u := by
  rcases List.le_iff_lt_or_eq.1 hst with hst | rfl
  · rcases List.le_iff_lt_or_eq.1 htu with htu | rfl
    · exact List.le_of_lt (List.lt_trans hst htu)
    · exact List.le_of_lt hst
  · exact htu

theorem pairwise_mergeSort {α : Type} (key : α → Text) (as : List α) :
    (as.mergeSort fun a b => decide (key a ≤ key b)).Pairwise fun a b => key a ≤ key b := by
  have sorted := @List.pairwise_mergeSort α (fun a b => decide (key a ≤ key b))
    (fun a b c hab hbc => decide_eq_true (le_trans (of_decide_eq_true hab) (of_decide_eq_true hbc)))
    (fun a b => by simpa using List.le_total (key a) (key b)) as
  exact sorted.imp of_decide_eq_true

theorem pairwise_sort (ts : List Text) : (sort ts).Pairwise (· ≤ ·) := pairwise_mergeSort id ts

theorem mem_sort : t ∈ sort ts ↔ t ∈ ts := List.mem_mergeSort

theorem mem_distinct : t ∈ distinct ts ↔ t ∈ ts := List.mem_eraseDups

theorem nodup_distinct (ts : List Text) : (distinct ts).Nodup := by
  match ts with
  | [] => exact .nil
  | t :: ts =>
    rw [distinct, List.eraseDups_cons, List.nodup_cons]
    refine ⟨by simp, ?_⟩
    have shorter := List.length_filter_le (fun u => !u == t) ts
    exact nodup_distinct (ts.filter fun u => !u == t)
termination_by ts.length

theorem ascending_sort_distinct (ts : List Text) : (sort (distinct ts)).Pairwise (· < ·) := by
  have apart : (sort (distinct ts)).Nodup :=
    (List.mergeSort_perm _ _).nodup_iff.2 (nodup_distinct ts)
  refine ((pairwise_sort _).and apart).imp ?_
  intro a b h
  exact (List.le_iff_lt_or_eq.1 h.1).resolve_right h.2

theorem eq_of_ascending (hs : ts.Pairwise (· < ·)) (hu : us.Pairwise (· < ·))
    (same : ∀ t, t ∈ ts ↔ t ∈ us) : ts = us := by
  have nodup {vs : List Text} (h : vs.Pairwise (· < ·)) : vs.Nodup := by
    refine h.imp ?_
    rintro a _ hab rfl
    exact List.lt_irrefl a hab
  have permuted : ts.Perm us := (List.perm_ext_iff_of_nodup (nodup hs) (nodup hu)).2 same
  exact permuted.eq_of_pairwise (fun a b _ _ hab hba => absurd hba (List.lt_asymm hab)) hs hu

end Text

end TaskCatalog
