import TaskCatalog.Proofs.FloatBits
import TaskCatalog.Proofs.NumberTexts

/-!
The decimal of fewest digits that a float is written as. There is one on a grid that is fine enough, it lies
among the numbers that are rounded to the float, and so do its digits read back with any place of the point.
-/

namespace TaskCatalog.Number

open Float.Model Float.Model.UnpackedFloat

namespace Binary

variable {b : Binary} {c : Nat} {place : Int}

theorem pow_toNat {a : ℚ} (filled : a ≠ 0) (n : Int) : a ^ n.toNat = a ^ n * a ^ (-n).toNat := by
  rw [← zpow_natCast, ← zpow_natCast, ← zpow_add₀ filled]
  congr 1
  omega

/-- The factors make a grid and a quarter of the last place whole. -/
theorem gridFactors_eq (b : Binary) (place : Int) : ∃ k : ℚ, 0 < k ∧
    ((gridFactors b place).1 : ℚ) = 10 ^ place * k ∧ ((gridFactors b place).2 : ℚ) = 2 ^ (b.exponent - 2) * k := by
  refine ⟨10 ^ (-place).toNat * 2 ^ (2 - b.exponent).toNat, by positivity, ?_, ?_⟩
  · rw [gridFactors]
    simp only [Nat.pow_eq]
    push_cast
    rw [pow_toNat (by norm_num) place]
    ring
  · rw [gridFactors]
    simp only [Nat.pow_eq]
    push_cast
    rw [pow_toNat (by norm_num) (b.exponent - 2), neg_sub]
    ring

theorem roundsTo_iff (canonical : b.Canonical) : roundsTo b c place = true ↔ b.Rounded (c * 10 ^ place) := by
  -- The point and both ends are compared on a grid on which all three are whole.
  obtain ⟨k, positive, grid, quarter⟩ := gridFactors_eq b place
  have enough : lowerQuarters b ≤ 4 * b.significand := by
    have filled := canonical.positive
    rcases lowerQuarters_cases b with h | h
    · omega
    · omega
  have point : ((c * (gridFactors b place).1 : Nat) : ℚ) = c * 10 ^ place * k := by
    push_cast
    rw [grid]
    ring
  have low : (((4 * b.significand - lowerQuarters b) * (gridFactors b place).2 : Nat) : ℚ) = b.lowerEnd * k := by
    push_cast [Nat.cast_sub enough]
    rw [quarter, lowerEnd]
    ring
  have high : (((4 * b.significand + 2) * (gridFactors b place).2 : Nat) : ℚ) = b.upperEnd * k := by
    push_cast
    rw [quarter, upperEnd]
    ring
  have lowLe : (4 * b.significand - lowerQuarters b) * (gridFactors b place).2 ≤ c * (gridFactors b place).1 ↔
      b.lowerEnd ≤ c * 10 ^ place := by
    rw [← Nat.cast_le (α := ℚ), low, point, mul_le_mul_iff_left₀ positive]
  have leHigh : c * (gridFactors b place).1 ≤ (4 * b.significand + 2) * (gridFactors b place).2 ↔
      c * 10 ^ place ≤ b.upperEnd := by
    rw [← Nat.cast_le (α := ℚ), high, point, mul_le_mul_iff_left₀ positive]
  have lowLt : (4 * b.significand - lowerQuarters b) * (gridFactors b place).2 < c * (gridFactors b place).1 ↔
      b.lowerEnd < c * 10 ^ place := by
    rw [← Nat.cast_lt (α := ℚ), low, point, mul_lt_mul_iff_left₀ positive]
  have ltHigh : c * (gridFactors b place).1 < (4 * b.significand + 2) * (gridFactors b place).2 ↔
      c * 10 ^ place < b.upperEnd := by
    rw [← Nat.cast_lt (α := ℚ), high, point, mul_lt_mul_iff_left₀ positive]
  rw [roundsTo]
  simp only
  split
  · next even =>
    rw [Bool.and_eq_true, decide_eq_true_eq, decide_eq_true_eq, lowLe, leHigh]
    exact ⟨fun both => ⟨both.1, both.2, fun _ => even⟩, fun rounded => ⟨rounded.low, rounded.high⟩⟩
  · next odd =>
    rw [Bool.and_eq_true, decide_eq_true_eq, decide_eq_true_eq, lowLt, ltHigh]
    refine ⟨fun both => ⟨both.1.le, both.2.le, fun ends => ends.elim (fun eq => absurd eq both.1.ne')
      fun eq => absurd eq both.2.ne⟩, fun rounded => ⟨?_, ?_⟩⟩
    · exact rounded.low.lt_of_ne fun eq => odd (rounded.even (.inl eq.symm))
    · exact rounded.high.lt_of_ne fun eq => odd (rounded.even (.inr eq))

theorem roundsTo_of_gridPoint? (h : gridPoint? b place = some c) : roundsTo b c place = true := by
  rw [gridPoint?] at h
  simp only at h
  split at h
  · next below above =>
    split at h
    · rwa [← Option.some.inj h]
    · rwa [← Option.some.inj h]
  · next below _ => rwa [← Option.some.inj h]
  · next _ above => rwa [← Option.some.inj h]
  · cases h

/-- The last point of a decimal grid that does not exceed the number. -/
def gridFloor (b : Binary) (place : Int) : Nat :=
  4 * b.significand * (gridFactors b place).2 / (gridFactors b place).1

theorem gridPoint?_of_roundsTo (h : roundsTo b (b.gridFloor place) place = true ∨
    roundsTo b (b.gridFloor place + 1) place = true) : ∃ c, gridPoint? b place = some c := by
  rw [gridFloor] at h
  rw [gridPoint?]
  simp only
  split
  · split
    · exact ⟨_, rfl⟩
    · exact ⟨_, rfl⟩
  · exact ⟨_, rfl⟩
  · exact ⟨_, rfl⟩
  · next below above => simp [below, above] at h

theorem gridFloor_bounds (b : Binary) (place : Int) : b.gridFloor place * 10 ^ place ≤ b.significand * (2 : ℚ) ^ b.exponent ∧
    b.significand * (2 : ℚ) ^ b.exponent < (b.gridFloor place + 1) * 10 ^ place := by
  obtain ⟨k, positive, grid, fourth⟩ := gridFactors_eq b place
  have gridFilled : 0 < (gridFactors b place).1 := by
    have : (0 : ℚ) < (gridFactors b place).1 := by rw [grid]; positivity
    exact_mod_cast this
  have value : ((4 * b.significand * (gridFactors b place).2 : Nat) : ℚ) = b.significand * 2 ^ b.exponent * k := by
    push_cast
    rw [fourth, quarter]
    ring
  constructor
  · have := Nat.div_mul_le_self (4 * b.significand * (gridFactors b place).2) (gridFactors b place).1
    rw [← gridFloor, ← Nat.cast_le (α := ℚ), value, Nat.cast_mul, grid, ← mul_assoc,
      mul_le_mul_iff_left₀ positive] at this
    exact this
  · have := Nat.lt_mul_div_succ (4 * b.significand * (gridFactors b place).2) gridFilled
    rw [← gridFloor, Nat.mul_comm (gridFactors b place).1, ← Nat.cast_lt (α := ℚ), value, Nat.cast_mul, grid,
      ← mul_assoc, mul_lt_mul_iff_left₀ positive] at this
    exact_mod_cast this

/-- A grid that is narrower than the interval of a number has a point in it. -/
theorem exists_gridPoint (canonical : b.Canonical) (fine : (10 : ℚ) ^ place < b.upperEnd - b.lowerEnd) :
    ∃ c, gridPoint? b place = some c := by
  obtain ⟨low, high⟩ := gridFloor_bounds b place
  have inside {v : ℚ} (low : b.lowerEnd < v) (high : v < b.upperEnd) : b.Rounded v :=
    ⟨low.le, high.le, fun ends => ends.elim (fun eq => absurd eq low.ne') fun eq => absurd eq high.ne⟩
  refine gridPoint?_of_roundsTo ?_
  rcases lt_or_ge b.lowerEnd (b.gridFloor place * 10 ^ place) with above | below
  · exact .inl ((roundsTo_iff canonical).2 (inside above (low.trans_lt (lt_upperEnd b))))
  · refine .inr ((roundsTo_iff canonical).2 ?_)
    push_cast
    refine inside ((lowerEnd_lt b).trans high) ?_
    linarith

theorem quarter_lt (b : Binary) : (2 : ℚ) ^ (b.exponent - 2) < b.upperEnd - b.lowerEnd := by
  have positive : (0 : ℚ) < 2 ^ (b.exponent - 2) := zpow_pos (by norm_num) _
  have width : b.upperEnd - b.lowerEnd = (2 + lowerQuarters b) * 2 ^ (b.exponent - 2) := by
    rw [upperEnd, lowerEnd]
    ring
  have more : (0 : ℚ) ≤ lowerQuarters b := Nat.cast_nonneg _
  rw [width, lt_mul_iff_one_lt_left positive]
  linarith

/-- The search finds a point on the coarsest grid that has one. -/
theorem gridPoint?_shortestFrom {count : Nat} {p : Int} (h : ∃ c, gridPoint? b p = some c) :
    ∀ {place : Int}, p ≤ place → place - count < p →
      gridPoint? b (shortestFrom b count place).exponent = some (shortestFrom b count place).digits ∧
        p ≤ (shortestFrom b count place).exponent ∧
        ∀ q, (shortestFrom b count place).exponent < q → q ≤ place → gridPoint? b q = none := by
  induction count with
  | zero =>
    intro place low high
    omega
  | succ count ih =>
    intro place low high
    rw [shortestFrom]
    cases here : gridPoint? b place with
    | some c => exact ⟨here, low, fun q more less => absurd more (not_lt.2 less)⟩
    | none =>
      obtain ⟨c, there⟩ := h
      have other : p ≠ place := by
        rintro rfl
        rw [here] at there
        cases there
      obtain ⟨found, least, before⟩ := @ih (place - 1) (by omega) (by push_cast at high; omega)
      refine ⟨found, least, fun q more less => ?_⟩
      rcases less.eq_or_lt with rfl | less
      · exact here
      · exact before q more (by omega)

theorem pow_le_of_nonneg {p e : Int} (nonneg : 0 ≤ p) (h : 10 * p ≤ 3 * e) : (10 : ℚ) ^ p ≤ 2 ^ e := by
  have cubes : ((10 : ℚ) ^ p) ^ 3 ≤ (2 ^ e) ^ 3 := calc
    ((10 : ℚ) ^ p) ^ 3 = (10 ^ 3) ^ p := by rw [← zpow_natCast, ← zpow_mul, mul_comm, zpow_mul]; rfl
    _ ≤ (2 ^ 10) ^ p := zpow_le_zpow_left₀ nonneg (by norm_num) (by norm_num)
    _ = 2 ^ (10 * p) := by rw [zpow_mul]; rfl
    _ ≤ 2 ^ (3 * e) := zpow_le_zpow_right₀ (by norm_num) h
    _ = (2 ^ e) ^ 3 := by rw [mul_comm, zpow_mul]; rfl
  exact (pow_le_pow_iff_left₀ (by positivity) (by positivity) (by norm_num)).1 cubes

theorem pow_le_of_nonpos {p e : Int} (nonpos : p ≤ 0) (h : 33 * p ≤ 10 * e) : (10 : ℚ) ^ p ≤ 2 ^ e := by
  have powers : ((10 : ℚ) ^ p) ^ 10 ≤ (2 ^ e) ^ 10 := calc
    ((10 : ℚ) ^ p) ^ 10 = (10 ^ 10) ^ p := by rw [← zpow_natCast, ← zpow_mul, mul_comm, zpow_mul]; rfl
    _ = ((10 ^ 10) ^ (-p))⁻¹ := by rw [zpow_neg, inv_inv]
    _ ≤ ((2 ^ 33) ^ (-p))⁻¹ :=
      inv_anti₀ (by positivity) (zpow_le_zpow_left₀ (by omega) (by norm_num) (by norm_num))
    _ = (2 ^ 33) ^ p := by rw [zpow_neg, inv_inv]
    _ = 2 ^ (33 * p) := by rw [zpow_mul]; rfl
    _ ≤ 2 ^ (10 * e) := zpow_le_zpow_right₀ (by norm_num) h
    _ = (2 ^ e) ^ 10 := by rw [mul_comm, zpow_mul]; rfl
  exact (pow_le_pow_iff_left₀ (by positivity) (by positivity) (by norm_num)).1 powers

/-- The place of the coarsest grid that is searched. -/
def firstPlace (b : Binary) : Int := ((b.significand.log2 : Int) + b.exponent) * 30103 / 100000 + 2

theorem shortest_eq_shortestFrom (b : Binary) : shortest b = shortestFrom b 24 b.firstPlace := rfl

/-- The shortest decimal is a point of the coarsest grid that has one. -/
theorem gridPoint?_shortest (canonical : b.Canonical) (most : b.exponent ≤ 971) :
    gridPoint? b (shortest b).exponent = some (shortest b).digits ∧
      ∀ q, (shortest b).exponent < q → q ≤ b.firstPlace → gridPoint? b q = none := by
  have log : b.significand.log2 < 53 := (Nat.log2_lt canonical.positive.ne').2 canonical.small
  have least := canonical.least
  have fine : (10 : ℚ) ^ (b.firstPlace - 23) ≤ 2 ^ (b.exponent - 2) := by
    rw [firstPlace]
    rcases le_total 0 (((b.significand.log2 : Int) + b.exponent) * 30103 / 100000 + 2 - 23) with nonneg | nonpos
    · exact pow_le_of_nonneg nonneg (by omega)
    · exact pow_le_of_nonpos nonpos (by omega)
  obtain ⟨found, -, before⟩ := @gridPoint?_shortestFrom b 24 _
    (exists_gridPoint canonical (fine.trans_lt (quarter_lt b))) b.firstPlace
    (by omega) (by push_cast; omega)
  exact ⟨found, before⟩

theorem shortest_rounded (canonical : b.Canonical) (most : b.exponent ≤ 971) : b.Rounded (shortest b).value :=
  (roundsTo_iff canonical).1 (roundsTo_of_gridPoint? (gridPoint?_shortest canonical most).1)

theorem Rounded.bounds {v : ℚ} (rounded : b.Rounded v) (canonical : b.Canonical) (most : b.exponent ≤ 971) :
    2 ^ (-1075 : Int) ≤ v ∧ v < 2 ^ (1024 : Int) := by
  have positive : (0 : ℚ) < 2 ^ b.exponent := zpow_pos (by norm_num) _
  have one : (1 : ℚ) ≤ b.significand := by exact_mod_cast canonical.positive
  have next : (b.significand : ℚ) + 1 ≤ 2 ^ 53 := by exact_mod_cast canonical.small
  constructor
  · refine le_trans ?_ ((half_le_lowerEnd b).trans rounded.low)
    calc (2 : ℚ) ^ (-1075 : Int) = 1 / 2 * 2 ^ (-1074 : Int) := by
          rw [show (-1075 : Int) = -1074 - 1 from rfl, zpow_sub_one₀ (by norm_num)]
          ring
      _ ≤ 1 / 2 * 2 ^ b.exponent := by
          rw [mul_le_mul_iff_right₀ (by norm_num)]
          exact zpow_le_zpow_right₀ (by norm_num) canonical.least
      _ ≤ (b.significand - 1 / 2) * 2 ^ b.exponent := by
          rw [mul_le_mul_iff_left₀ positive]
          linarith
  · refine (rounded.high.trans (upperEnd_eq b).le).trans_lt ?_
    calc (b.significand + 1 / 2) * (2 : ℚ) ^ b.exponent < 2 ^ 53 * 2 ^ b.exponent := by
          rw [mul_lt_mul_iff_left₀ positive]
          linarith
      _ ≤ 2 ^ 53 * 2 ^ (971 : Int) := by
          rw [mul_le_mul_iff_right₀ (by norm_num)]
          exact zpow_le_zpow_right₀ (by norm_num) most
      _ = 2 ^ (1024 : Int) := by
          rw [← zpow_natCast, ← zpow_add₀ (by norm_num)]
          rfl

end Binary

theorem magnitude_bounds {b : Binary} {digits : Nat} {e : Int} (canonical : b.Canonical) (most : b.exponent ≤ 971)
    (rounded : b.Rounded (digits * 10 ^ e)) :
    digits ≠ 0 ∧ -324 < (Nat.repr digits).length + e ∧ (Nat.repr digits).length + e ≤ 310 := by
  obtain ⟨low, high⟩ := rounded.bounds canonical most
  have filled : digits ≠ 0 := by
    rintro rfl
    rw [Nat.cast_zero, zero_mul] at low
    exact absurd low (not_le.2 (zpow_pos (by norm_num) _))
  obtain ⟨bottom, top⟩ := @Decimal.first_bounds ⟨digits, e⟩ filled
  rw [Decimal.value, Decimal.first] at bottom top
  refine ⟨filled, ?_, ?_⟩
  · have natural : 2 ^ 1075 < 10 ^ 324 := by decide +kernel
    have least : (10 : ℚ) ^ (-324 : Int) < 2 ^ (-1075 : Int) := by
      rw [zpow_neg, zpow_neg]
      exact inv_strictAnti₀ (by positivity) (by exact_mod_cast natural)
    have more := (zpow_lt_zpow_iff_right₀ (by norm_num)).1 (least.trans_le (low.trans top.le))
    simp only at more
    omega
  · have natural : 2 ^ 1024 < 10 ^ 310 := by decide +kernel
    have greatest : (2 : ℚ) ^ (1024 : Int) < 10 ^ (310 : Int) := by exact_mod_cast natural
    have less := (zpow_lt_zpow_iff_right₀ (by norm_num)).1 (bottom.trans_lt (high.trans greatest))
    simp only at less
    omega

end TaskCatalog.Number
