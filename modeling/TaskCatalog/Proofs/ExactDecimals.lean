import TaskCatalog.Proofs.DecimalReading
import Mathlib.Data.Int.Log
import Mathlib.Data.Rat.Floor

/-!
Decimals that a float gives back. The numbers that are rounded to a float lie closer together than decimals of
fifteen digits do: at most one of these is among them, and the search for the fewest digits ends at it.
-/

namespace TaskCatalog.Number

namespace Binary

variable {b : Binary} {u v w : ℚ}

theorem Rounded.between (first : b.Rounded u) (last : b.Rounded v) (low : u ≤ w) (high : w ≤ v) : b.Rounded w where
  low := first.low.trans low
  high := high.trans last.high
  even ends := ends.elim
    (fun eq => first.even (.inl (le_antisymm (low.trans eq.le) first.low)))
    fun eq => last.even (.inr (le_antisymm last.high (eq.ge.trans high)))

theorem Rounded.near (first : b.Rounded u) (last : b.Rounded v) : v - u ≤ 2 ^ b.exponent := by
  have low := (half_le_lowerEnd b).trans first.low
  have high := last.high.trans (upperEnd_eq b).le
  linarith

theorem Rounded.lt_top (rounded : b.Rounded v) : v < 2 ^ ((b.significand.log2 : Int) + b.exponent + 1) := by
  have positive : (0 : ℚ) < 2 ^ b.exponent := zpow_pos (by norm_num) _
  have next : (b.significand : ℚ) + 1 ≤ 2 ^ (b.significand.log2 + 1) := by exact_mod_cast Nat.lt_log2_self
  have split : (2 : ℚ) ^ ((b.significand.log2 : Int) + b.exponent + 1) = 2 ^ (b.significand.log2 + 1) * 2 ^ b.exponent := by
    rw [add_right_comm, zpow_add₀ (by norm_num)]
    norm_cast
  refine (rounded.high.trans (upperEnd_eq b).le).trans_lt ?_
  rw [split, mul_lt_mul_iff_left₀ positive]
  linarith

theorem Rounded.bottom_le (canonical : b.Canonical) (rounded : b.Rounded v) :
    2 ^ ((b.significand.log2 : Int) + b.exponent - 1) ≤ v := by
  have positive : (0 : ℚ) < 2 ^ b.exponent := zpow_pos (by norm_num) _
  have here : (2 : ℚ) ^ b.significand.log2 ≤ b.significand := by
    exact_mod_cast Nat.log2_self_le canonical.positive.ne'
  have one : (1 : ℚ) ≤ b.significand := by exact_mod_cast canonical.positive
  have split : (2 : ℚ) ^ ((b.significand.log2 : Int) + b.exponent - 1) = 2 ^ b.significand.log2 / 2 * 2 ^ b.exponent := by
    rw [add_sub_right_comm, zpow_add₀ (by norm_num), zpow_sub_one₀ (by norm_num), zpow_natCast]
    ring
  refine le_trans ?_ ((half_le_lowerEnd b).trans rounded.low)
  rw [split, mul_le_mul_iff_left₀ positive]
  linarith

/-- A number between two powers of two is rounded to a float with all its places. -/
theorem exists_rounded {x : ℚ} {e : Int} (bottom : 2 ^ 52 ≤ x) (top : x < 2 ^ 53) (least : -1074 ≤ e) (most : e < 971) :
    ∃ b : Binary, b.Fits ∧ 2 ^ 52 ≤ b.significand ∧ b.negative = false ∧ b.Rounded (x * 2 ^ e) := by
  have positive : (0 : ℚ) < 2 ^ e := zpow_pos (by norm_num) e
  obtain ⟨q, floor⟩ : ∃ q, q = ⌊x⌋₊ := ⟨_, rfl⟩
  have below : (q : ℚ) ≤ x := floor ▸ Nat.floor_le (le_trans (by norm_num) bottom)
  have above : x < q + 1 := floor ▸ Nat.lt_floor_add_one x
  have full : 2 ^ 52 ≤ q := floor ▸ Nat.le_floor (by exact_mod_cast bottom)
  have small : q < 2 ^ 53 := by exact_mod_cast below.trans_lt top
  -- down, or up to the next significand, which is the first with a higher exponent if `q` is the last with this one
  by_cases down : x < q + 1 / 2 ∨ x = q + 1 / 2 ∧ q % 2 = 0
  · refine ⟨⟨false, q, e⟩, ⟨small, least, most.le, .inl full⟩, full, rfl, rounded_above ?_ ?_ fun eq => ?_⟩
    · exact mul_le_mul_of_nonneg_right below positive.le
    · exact mul_le_mul_of_nonneg_right (down.elim le_of_lt fun tie => tie.1.le) positive.le
    · exact (down.resolve_left (mul_right_cancel₀ positive.ne' eq).not_lt).2
  rw [not_or, not_lt, not_and] at down
  obtain ⟨half, odd⟩ := down
  rcases (Nat.succ_le_of_lt small).eq_or_lt with last | inside
  · have next : (2 : ℚ) ^ (e + 1) = 2 * 2 ^ e := by rw [zpow_add_one₀ (by norm_num), mul_comm]
    have number : (q : ℚ) + 1 = 2 ^ 53 := by exact_mod_cast last
    have quarter : lowerQuarters ⟨false, 2 ^ 52, e + 1⟩ = 1 := if_pos ⟨rfl, by simp only; omega⟩
    refine ⟨⟨false, 2 ^ 52, e + 1⟩, ⟨by norm_num, by simp only; omega, by simp only; omega, .inl le_rfl⟩, le_rfl, rfl,
      rounded_below ?_ ?_ fun _ => by norm_num⟩
    · rw [lowerEnd_of_quarter quarter, next, mul_left_comm, ← mul_assoc, mul_le_mul_iff_left₀ positive]
      push_cast
      linarith
    · rw [next, mul_left_comm, ← mul_assoc, mul_le_mul_iff_left₀ positive]
      push_cast
      linarith
  · have bottom : (⟨false, q + 1, e⟩ : Binary).lowerEnd = (q + 1 / 2) * 2 ^ e := by
      rw [lowerEnd_of_half (if_neg fun least => by simp only [Nat.pow_eq] at least; omega)]
      push_cast
      ring
    refine ⟨⟨false, q + 1, e⟩, ⟨inside, least, most.le, .inl (full.trans q.le_succ)⟩, full.trans q.le_succ, rfl,
      rounded_below ?_ ?_ fun eq => ?_⟩
    · rw [bottom, mul_le_mul_iff_left₀ positive]
      exact half
    · push_cast
      exact mul_le_mul_of_nonneg_right above.le positive.le
    · rw [bottom] at eq
      have := odd (mul_right_cancel₀ positive.ne' eq)
      simp only
      omega

theorem Rounded.log2_le (canonical : b.Canonical) (rounded : b.Rounded v) (high : v < 10 ^ 16) :
    (b.significand.log2 : Int) + b.exponent ≤ 400 := by
  by_contra far
  have bound := (rounded.bottom_le canonical).trans_lt high
  have more : (2 : ℚ) ^ (54 : Int) ≤ 2 ^ ((b.significand.log2 : Int) + b.exponent - 1) :=
    zpow_le_zpow_right₀ (by norm_num) (by omega)
  have less : (10 : ℚ) ^ 16 < 2 ^ (54 : Int) := by norm_num
  linarith

theorem exists_rounded_of_range (low : 1 / 10 ^ 4 ≤ v) (high : v < 10 ^ 16) :
    ∃ b : Binary, b.Fits ∧ 2 ^ 52 ≤ b.significand ∧ b.negative = false ∧ b.Rounded v := by
  have filled : 0 < v := (by norm_num : (0 : ℚ) < 1 / 10 ^ 4).trans_le low
  obtain ⟨e, place⟩ : ∃ e, e = Int.log 2 v - 52 := ⟨_, rfl⟩
  have positive : (0 : ℚ) < 2 ^ e := zpow_pos (by norm_num) e
  obtain ⟨x, rfl⟩ : ∃ x, v = x * 2 ^ e := ⟨v / 2 ^ e, (div_mul_cancel₀ v positive.ne').symm⟩
  have bottom : (2 : ℚ) ^ 52 ≤ x := by
    have below := Int.zpow_log_le_self (b := 2) (by norm_num) filled
    rw [show Int.log 2 (x * 2 ^ e) = 52 + e by omega, Nat.cast_ofNat, zpow_add₀ (by norm_num),
      mul_le_mul_iff_left₀ positive] at below
    exact_mod_cast below
  have top : x < (2 : ℚ) ^ 53 := by
    have above := Int.lt_zpow_succ_log_self (b := 2) (by norm_num) (x * 2 ^ e)
    rw [show Int.log 2 (x * 2 ^ e) + 1 = 53 + e by omega, Nat.cast_ofNat, zpow_add₀ (by norm_num),
      mul_lt_mul_iff_left₀ positive] at above
    exact_mod_cast above
  have least : -14 ≤ Int.log 2 (x * 2 ^ e) := by
    rw [← Int.zpow_le_iff_le_log (by norm_num) filled]
    refine le_trans ?_ low
    norm_num
  have most : Int.log 2 (x * 2 ^ e) < 54 := by
    rw [← Int.lt_zpow_iff_log_lt (by norm_num) filled]
    refine high.trans ?_
    norm_num
  exact exists_rounded bottom top (by omega) (by omega)

/-- At most one point of a grid is rounded to a float with all its places, if fifteen digits lead up to it. -/
theorem eq_of_rounded (full : 2 ^ 52 ≤ b.significand) {c d : Nat} {p : Int} (small : c < 10 ^ 15)
    (first : b.Rounded (c * 10 ^ p)) (last : b.Rounded (d * 10 ^ p)) : c = d := by
  have grid : (0 : ℚ) < 10 ^ p := zpow_pos (by norm_num) p
  have place : (0 : ℚ) < 2 ^ b.exponent := zpow_pos (by norm_num) _
  have wide : (2 : ℚ) ^ b.exponent < 10 ^ p := by
    have bottom := (half_le_lowerEnd b).trans first.low
    have full : (2 : ℚ) ^ 52 ≤ b.significand := by exact_mod_cast full
    have small : (c : ℚ) < 10 ^ 15 := by exact_mod_cast small
    have above := mul_le_mul_of_nonneg_right full place.le
    have below := mul_lt_mul_of_pos_right small grid
    linarith
  have up := first.near last
  have down := last.near first
  have less : (d : ℚ) < c + 1 := by
    refine lt_of_mul_lt_mul_right ?_ grid.le
    linarith
  have more : (c : ℚ) < d + 1 := by
    refine lt_of_mul_lt_mul_right ?_ grid.le
    linarith
  have less : d < c + 1 := by exact_mod_cast less
  have more : c < d + 1 := by exact_mod_cast more
  omega

theorem gridPoint?_of_rounded (canonical : b.Canonical) {c : Nat} {place : Int} (rounded : b.Rounded (c * 10 ^ place)) :
    ∃ d, gridPoint? b place = some d := by
  obtain ⟨low, high⟩ := gridFloor_bounds b place
  have grid : (0 : ℚ) < 10 ^ place := zpow_pos (by norm_num) _
  refine gridPoint?_of_roundsTo ?_
  rcases Nat.lt_or_ge (b.gridFloor place) c with above | below
  · refine .inr ((roundsTo_iff canonical).2 ((rounded_self b).between rounded ?_ ?_))
    · push_cast
      exact high.le
    · rw [mul_le_mul_iff_left₀ grid]
      exact_mod_cast above
  · refine .inl ((roundsTo_iff canonical).2 (rounded.between (rounded_self b) ?_ low))
    rw [mul_le_mul_iff_left₀ grid]
    exact_mod_cast below

theorem two_pow_le {e p : Int} (above : -1074 ≤ e) (below : e ≤ 400) (h : e * 30103 / 100000 + 3 ≤ p) :
    (2 : ℚ) ^ (e + 1) ≤ 10 ^ p := by
  have inverse : (10 : ℚ) ^ (-p) ≤ 2 ^ (-(e + 1)) := by
    rcases le_total 0 (-p) with nonneg | nonpos
    · exact pow_le_of_nonneg nonneg (by omega)
    · exact pow_le_of_nonpos nonpos (by omega)
  rw [zpow_neg, zpow_neg, inv_le_inv₀ (zpow_pos (by norm_num) _) (zpow_pos (by norm_num) _)] at inverse
  exact inverse

variable (canonical : b.Canonical) (below : (b.significand.log2 : Int) + b.exponent ≤ 400)

include canonical below

theorem le_firstPlace {c : Nat} {place : Int} (rounded : b.Rounded (c * 10 ^ place)) : place ≤ b.firstPlace := by
  by_contra coarse
  have grid : (0 : ℚ) < 10 ^ place := zpow_pos (by norm_num) _
  have filled : 0 < c := by
    have positive := (zpow_pos (by norm_num) _).trans_le (rounded.bottom_le canonical)
    exact_mod_cast pos_of_mul_pos_left positive grid.le
  have one : (1 : ℚ) ≤ c := by exact_mod_cast filled
  have least := canonical.least
  have wide : (2 : ℚ) ^ ((b.significand.log2 : Int) + b.exponent + 1) ≤ 10 ^ place := by
    rw [firstPlace] at coarse
    exact two_pow_le (by omega) below (by omega)
  have top := rounded.lt_top.trans_le wide
  have bottom := mul_le_mul_of_nonneg_right one grid.le
  linarith

theorem not_rounded_of_coarser {c : Nat} : ¬ b.Rounded (c * 10 ^ ((shortest b).exponent + 1)) := by
  intro rounded
  obtain ⟨d, there⟩ := gridPoint?_of_rounded canonical rounded
  have none := (gridPoint?_shortest canonical (by omega)).2 _ (lt_add_one _) (le_firstPlace canonical below rounded)
  rw [none] at there
  cases there

theorem shortest_mod_ten : (shortest b).digits % 10 ≠ 0 := by
  intro padded
  obtain ⟨c, ten⟩ := Nat.dvd_of_mod_eq_zero padded
  have value : (shortest b).value = c * 10 ^ ((shortest b).exponent + 1) := by
    rw [Decimal.value, ten, zpow_add_one₀ (by norm_num)]
    push_cast
    ring
  exact not_rounded_of_coarser canonical below (value ▸ shortest_rounded canonical (by omega))

/-- A grid with more than seventeen digits before a point would be finer than it has to be. -/
theorem shortest_digits_lt : (shortest b).digits < 10 ^ 17 := by
  by_contra many
  have place : (0 : ℚ) < 2 ^ b.exponent := zpow_pos (by norm_num) _
  have grid : (0 : ℚ) < 10 ^ (shortest b).exponent := zpow_pos (by norm_num) _
  have many : (10 : ℚ) ^ 17 ≤ (shortest b).digits := by exact_mod_cast not_lt.1 many
  have low := mul_le_mul_of_nonneg_right many grid.le
  have high := (shortest_rounded canonical (by omega)).high
  rw [Decimal.value, upperEnd_eq] at high
  have fine : (10 : ℚ) ^ ((shortest b).exponent + 1) < b.upperEnd - b.lowerEnd := by
    rw [zpow_add_one₀ (by norm_num), upperEnd_eq]
    rcases lowerQuarters_cases b with half | ⟨quarter, least, -⟩
    · have small : (b.significand : ℚ) + 1 ≤ 2 ^ 53 := by exact_mod_cast canonical.small
      have top := mul_le_mul_of_nonneg_right small place.le
      rw [lowerEnd_of_half half]
      linarith
    · rw [lowerEnd_of_quarter quarter]
      rw [least] at high ⊢
      push_cast at high ⊢
      linarith
  obtain ⟨c, there⟩ := exists_gridPoint canonical fine
  exact not_rounded_of_coarser canonical below ((roundsTo_iff canonical).1 (roundsTo_of_gridPoint? there))

/-- A decimal of at most fifteen digits, the last of them not zero, is the shortest of the float it is rounded to. -/
theorem shortest_eq (full : 2 ^ 52 ≤ b.significand) {c : Nat} {p : Int} (small : c < 10 ^ 15) (reduced : c % 10 ≠ 0)
    (rounded : b.Rounded (c * 10 ^ p)) : shortest b = ⟨c, p⟩ := by
  have grid : (0 : ℚ) < 10 ^ p := zpow_pos (by norm_num) p
  have fine : b.firstPlace - 24 < p := by
    by_contra deep
    have bottom := rounded.bottom_le canonical
    have small : (c : ℚ) < 10 ^ (15 : Int) := by exact_mod_cast small
    have top := mul_lt_mul_of_pos_right small grid
    rw [← zpow_add₀ (by norm_num)] at top
    have least := canonical.least
    have beyond : (10 : ℚ) ^ (15 + p) ≤ 2 ^ ((b.significand.log2 : Int) + b.exponent - 1) := by
      rw [firstPlace] at deep
      rcases le_total 0 (15 + p) with nonneg | nonpos
      · exact pow_le_of_nonneg nonneg (by omega)
      · exact pow_le_of_nonpos nonpos (by omega)
    linarith
  obtain ⟨found, coarser, -⟩ := @gridPoint?_shortestFrom b 24 p (gridPoint?_of_rounded canonical rounded) b.firstPlace
    (le_firstPlace canonical below rounded) fine
  rw [← shortest_eq_shortestFrom] at found coarser
  obtain ⟨k, place⟩ : ∃ k : Nat, (shortest b).exponent = p + k := ⟨((shortest b).exponent - p).toNat, by omega⟩
  have point := (roundsTo_iff canonical).1 (roundsTo_of_gridPoint? found)
  have value : ((shortest b).digits * 10 ^ (shortest b).exponent : ℚ) = ((shortest b).digits * 10 ^ k : Nat) * 10 ^ p := by
    rw [place, zpow_add₀ (by norm_num), zpow_natCast]
    push_cast
    ring
  rw [value] at point
  have same := eq_of_rounded full small rounded point
  cases k with
  | zero =>
    rw [pow_zero, mul_one] at same
    rw [Nat.cast_zero, add_zero] at place
    rw [same, ← place]
  | succ k =>
    rw [same, pow_succ, ← mul_assoc, Nat.mul_mod_left] at reduced
    exact absurd rfl reduced

end Binary

end TaskCatalog.Number
