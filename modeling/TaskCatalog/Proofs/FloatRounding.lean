import TaskCatalog.Number.Shortest
import Mathlib.Algebra.Order.Field.Basic
import Mathlib.Algebra.Order.Field.Power
import Mathlib.Data.Nat.Log
import Mathlib.Data.Rat.Cast.Order
import Mathlib.Tactic.FieldSimp
import Mathlib.Tactic.Linarith
import Mathlib.Tactic.NormNum
import Mathlib.Tactic.Ring

/-!
To which float a number is rounded. The numbers that are rounded to a given float form an interval, and a
quotient or a product of two floats is the float in whose interval the exact result lies.
-/

namespace TaskCatalog.Number

open Float.Model Float.Model.UnpackedFloat

/-- A number between a mantissa and the one after it, with the residual bits that tell where. -/
def Extends (em : ExtendedMantissa) (e : Int) (v : ℚ) : Prop :=
  ∃ f : ℚ, v = (em.mantissa + f) * 2 ^ e ∧ 0 ≤ f ∧ f < 1 ∧ (em.roundBit = true ↔ 1 / 2 ≤ f) ∧
    (em.stickyBit = true ↔ f ≠ 0 ∧ f ≠ 1 / 2)

theorem Extends.shiftRightOne {em : ExtendedMantissa} {e : Int} {v : ℚ} (h : Extends em e v) :
    Extends em.shiftRightOne (e + 1) v := by
  obtain ⟨f, eq, low, high, round, sticky⟩ := h
  have split : (em.mantissa : ℚ) = 2 * (em.mantissa / 2 : Nat) + (em.mantissa % 2 : Nat) := by
    exact_mod_cast (Nat.div_add_mod _ 2).symm
  have inexact : (em.roundBit || em.stickyBit) = true ↔ f ≠ 0 := by
    rw [Bool.or_eq_true, round, sticky]
    constructor
    · rintro (half | both) zero
      · rw [zero] at half
        norm_num at half
      · exact both.1 zero
    · intro positive
      rcases eq_or_ne f (1 / 2) with half | other
      · exact .inl half.ge
      · exact .inr ⟨positive, other⟩
  refine ⟨((em.mantissa % 2 : Nat) + f) / 2, ?_, ?_⟩
  · rw [eq, split, zpow_add_one₀ (by norm_num)]
    simp only [ExtendedMantissa.shiftRightOne]
    ring
  · simp only [ExtendedMantissa.shiftRightOne, inexact, bne_iff_ne]
    rcases Nat.mod_two_eq_zero_or_one em.mantissa with even | odd
    · simp only [even, Nat.cast_zero, zero_add, ne_eq, not_true, false_iff, not_le]
      refine ⟨by linarith, by linarith, by linarith, fun positive => ⟨by simpa using positive, by linarith⟩,
        fun both zero => both.1 (by rw [zero]; norm_num)⟩
    · simp only [odd, Nat.cast_one, ne_eq, one_ne_zero, not_false_iff, true_iff]
      refine ⟨by linarith, by linarith, by linarith, fun positive => ⟨by linarith, fun half => positive (by linarith)⟩,
        fun both zero => both.2 (by rw [zero]; norm_num)⟩

theorem Extends.shiftRight {em : ExtendedMantissa} {e : Int} {v : ℚ} (h : Extends em e v) (n : Nat) :
    Extends (em >>> n) (e + n) v := by
  induction n with
  | zero =>
    rw [Nat.cast_zero, add_zero]
    exact h
  | succ n ih =>
    have next := ih.shiftRightOne
    rw [add_assoc] at next
    exact next

/-- A number within half a place of a mantissa is rounded to it, at the very half if the mantissa is even. -/
theorem Extends.roundedMantissa {em : ExtendedMantissa} {e : Int} {v : ℚ} (h : Extends em e v) {n : Nat}
    (low : (n - 1 / 2) * 2 ^ e ≤ v) (high : v ≤ (n + 1 / 2) * 2 ^ e)
    (even : v = (n - 1 / 2) * 2 ^ e ∨ v = (n + 1 / 2) * 2 ^ e → n % 2 = 0) : em.roundedMantissa = n := by
  obtain ⟨f, rfl, lowFraction, highFraction, round, sticky⟩ := h
  have positive : (0 : ℚ) < 2 ^ e := zpow_pos (by norm_num) e
  rw [mul_le_mul_iff_left₀ positive] at low high
  simp only [mul_left_inj' positive.ne'] at even
  have cases : em.mantissa = n ∨ em.mantissa + 1 = n := by
    have below : (n : ℚ) < em.mantissa + 2 := by linarith
    have above : (em.mantissa : ℚ) < n + 1 := by linarith
    have below' : n < em.mantissa + 2 := by exact_mod_cast below
    have above' : em.mantissa < n + 1 := by exact_mod_cast above
    omega
  obtain ⟨m, r, s⟩ := em
  simp only at low high even cases round sticky
  rcases cases with rfl | rfl
  · have half : f ≤ 1 / 2 := by linarith
    cases r with
    | false => cases s <;> rfl
    | true =>
      have exactly : f = 1 / 2 := le_antisymm half (round.1 rfl)
      have noSticky : s = false := by
        rw [Bool.eq_false_iff]
        exact fun h => (sticky.1 h).2 exactly
      have isEven : m % 2 = 0 := even (.inr (by rw [exactly]))
      subst noSticky
      simp [ExtendedMantissa.roundedMantissa, ExtendedMantissa.accuracy, Accuracy.roundToNearestEven, isEven]
  · push_cast at low even
    have half : 1 / 2 ≤ f := by linarith
    have isRound : r = true := round.2 half
    subst isRound
    cases s with
    | true => rfl
    | false =>
      have exactly : f = 1 / 2 := by
        by_contra other
        have positive : f ≠ 0 := by rintro rfl; norm_num at half
        cases sticky.2 ⟨positive, other⟩
      have isEven : (m + 1) % 2 = 0 := even (.inl (by rw [exactly]; ring))
      have isOdd : m % 2 = 1 := by omega
      simp [ExtendedMantissa.roundedMantissa, ExtendedMantissa.accuracy, Accuracy.roundToNearestEven, isOdd]

/-- A positive number as a float has it: with all its binary places, or with the least exponent. -/
structure Binary.Canonical (b : Binary) : Prop where
  positive : 0 < b.significand
  small : b.significand < 2 ^ 53
  least : -1074 ≤ b.exponent
  full : 2 ^ 52 ≤ b.significand ∨ b.exponent = -1074

namespace Binary

variable {b : Binary} {m : Nat} {e : Int} {v : ℚ}

def lowerEnd (b : Binary) : ℚ := (4 * b.significand - lowerQuarters b) * 2 ^ (b.exponent - 2)

def upperEnd (b : Binary) : ℚ := (4 * b.significand + 2) * 2 ^ (b.exponent - 2)

/-- A number lies among those that are rounded to a float. -/
structure Rounded (b : Binary) (v : ℚ) : Prop where
  low : b.lowerEnd ≤ v
  high : v ≤ b.upperEnd
  even : v = b.lowerEnd ∨ v = b.upperEnd → b.significand % 2 = 0

theorem quarter (e : Int) : (2 : ℚ) ^ (e - 2) = 2 ^ e / 4 := by
  rw [zpow_sub₀ (by norm_num)]
  norm_num

theorem upperEnd_eq (b : Binary) : b.upperEnd = (b.significand + 1 / 2) * 2 ^ b.exponent := by
  rw [upperEnd, quarter]
  ring

theorem lowerEnd_of_half (h : lowerQuarters b = 2) : b.lowerEnd = (b.significand - 1 / 2) * 2 ^ b.exponent := by
  rw [lowerEnd, quarter, h]
  push_cast
  ring

theorem lowerEnd_of_quarter (h : lowerQuarters b = 1) : b.lowerEnd = (b.significand - 1 / 4) * 2 ^ b.exponent := by
  rw [lowerEnd, quarter, h]
  push_cast
  ring

theorem lowerQuarters_cases (b : Binary) :
    lowerQuarters b = 2 ∨ (lowerQuarters b = 1 ∧ b.significand = 2 ^ 52 ∧ -1074 < b.exponent) := by
  rw [lowerQuarters]
  split
  · next least => exact .inr ⟨rfl, least⟩
  · exact .inl rfl

theorem lowerEnd_lt (b : Binary) : b.lowerEnd < b.significand * 2 ^ b.exponent := by
  have positive : (0 : ℚ) < 2 ^ b.exponent := zpow_pos (by norm_num) _
  rcases lowerQuarters_cases b with half | ⟨quarter, -⟩
  · rw [lowerEnd_of_half half, mul_lt_mul_iff_left₀ positive]
    linarith
  · rw [lowerEnd_of_quarter quarter, mul_lt_mul_iff_left₀ positive]
    linarith

theorem lt_upperEnd (b : Binary) : b.significand * 2 ^ b.exponent < b.upperEnd := by
  have positive : (0 : ℚ) < 2 ^ b.exponent := zpow_pos (by norm_num) _
  rw [upperEnd_eq, mul_lt_mul_iff_left₀ positive]
  linarith

/-- From a float on to the end of its interval, which belongs to it if its significand is even. -/
theorem rounded_above (low : b.significand * 2 ^ b.exponent ≤ v) (high : v ≤ (b.significand + 1 / 2) * 2 ^ b.exponent)
    (even : v = (b.significand + 1 / 2) * 2 ^ b.exponent → b.significand % 2 = 0) : b.Rounded v where
  low := (lowerEnd_lt b).le.trans low
  high := high.trans (upperEnd_eq b).ge
  even ends := ends.elim (fun eq => absurd (eq ▸ low) (not_le.2 (lowerEnd_lt b))) fun eq => even (eq.trans (upperEnd_eq b))

theorem rounded_below (low : b.lowerEnd ≤ v) (high : v ≤ b.significand * 2 ^ b.exponent)
    (even : v = b.lowerEnd → b.significand % 2 = 0) : b.Rounded v where
  low := low
  high := high.trans (lt_upperEnd b).le
  even ends := ends.elim even fun eq => absurd (eq ▸ high) (not_le.2 (lt_upperEnd b))

theorem rounded_self (b : Binary) : b.Rounded (b.significand * 2 ^ b.exponent) :=
  rounded_below (lowerEnd_lt b).le le_rfl fun eq => absurd eq (lowerEnd_lt b).ne'

theorem half_le_lowerEnd (b : Binary) : (b.significand - 1 / 2) * 2 ^ b.exponent ≤ b.lowerEnd := by
  have positive : (0 : ℚ) < 2 ^ b.exponent := zpow_pos (by norm_num) _
  rcases lowerQuarters_cases b with half | ⟨quarter, -⟩
  · exact (lowerEnd_of_half half).ge
  · rw [lowerEnd_of_quarter quarter, mul_le_mul_iff_left₀ positive]
    linarith

theorem targetExponent_eq (t : Int) : Format.binary64.targetExponent t = max (t - 53) (-1074) := rfl

theorem lt_totalExponent {em : ExtendedMantissa} (h : Extends em e v) : v < 2 ^ totalExponent em.mantissa e := by
  obtain ⟨f, rfl, -, high, -⟩ := h
  have positive : (0 : ℚ) < 2 ^ e := zpow_pos (by norm_num) e
  have next : (em.mantissa : ℚ) + 1 ≤ 2 ^ (em.mantissa.log2 + 1) := by exact_mod_cast Nat.lt_log2_self
  have split : (2 : ℚ) ^ totalExponent em.mantissa e = 2 ^ (em.mantissa.log2 + 1) * 2 ^ e := by
    rw [totalExponent, zpow_add₀ (by norm_num)]
    norm_cast
  rw [split, mul_lt_mul_iff_left₀ positive]
  linarith

theorem le_totalExponent {em : ExtendedMantissa} (h : Extends em e v) (filled : em.mantissa ≠ 0) :
    2 ^ (totalExponent em.mantissa e - 1) ≤ v := by
  obtain ⟨f, rfl, low, -⟩ := h
  have positive : (0 : ℚ) < 2 ^ e := zpow_pos (by norm_num) e
  have here : (2 : ℚ) ^ em.mantissa.log2 ≤ em.mantissa := by exact_mod_cast Nat.log2_self_le filled
  have split : (2 : ℚ) ^ (totalExponent em.mantissa e - 1) = 2 ^ em.mantissa.log2 * 2 ^ e := by
    rw [totalExponent, add_sub_right_comm, add_sub_cancel_right, zpow_add₀ (by norm_num)]
    norm_cast
  rw [split, mul_le_mul_iff_left₀ positive]
  linarith

theorem target_le (canonical : b.Canonical) {em : ExtendedMantissa} (h : Extends em e v) (rounded : b.Rounded v)
    (room : e ≤ Format.binary64.targetExponent (totalExponent em.mantissa e)) :
    Format.binary64.targetExponent (totalExponent em.mantissa e) ≤ b.exponent := by
  have least := canonical.least
  rw [targetExponent_eq] at room ⊢
  by_cases filled : em.mantissa = 0
  · have total : totalExponent em.mantissa e = 1 + e := by rw [filled]; rfl
    omega
  · have above := le_totalExponent h filled
    have positive : (0 : ℚ) < 2 ^ b.exponent := zpow_pos (by norm_num) _
    have high := rounded.high
    rw [upperEnd_eq] at high
    have top : v < 2 ^ (53 + b.exponent) := by
      have next : (b.significand : ℚ) + 1 ≤ 2 ^ 53 := by exact_mod_cast canonical.small
      rw [zpow_add₀ (by norm_num)]
      refine high.trans_lt ?_
      norm_num at next ⊢
      exact mul_lt_mul_of_pos_right (by linarith) positive
    have less := (zpow_lt_zpow_iff_right₀ (by norm_num)).1 (above.trans_lt top)
    omega

/-- The places of a number that is rounded to a float are those of the float, or lie one below if the float is
the first with its exponent. -/
theorem target_cases (canonical : b.Canonical) {em : ExtendedMantissa} (h : Extends em e v) (rounded : b.Rounded v)
    (room : e ≤ Format.binary64.targetExponent (totalExponent em.mantissa e)) :
    Format.binary64.targetExponent (totalExponent em.mantissa e) = b.exponent ∨
      (Format.binary64.targetExponent (totalExponent em.mantissa e) = b.exponent - 1 ∧ b.significand = 2 ^ 52 ∧
        -1074 < b.exponent ∧ v ≤ b.significand * 2 ^ b.exponent) := by
  have atMost := target_le canonical h rounded room
  have below := lt_totalExponent h
  have positive : (0 : ℚ) < 2 ^ b.exponent := zpow_pos (by norm_num) _
  have low := (half_le_lowerEnd b).trans rounded.low
  rw [targetExponent_eq] at room atMost ⊢
  -- Below a power of two the places are twice as dense, so what is rounded up to one may aim at the exponent below.
  rcases atMost.eq_or_lt with same | less
  · exact .inl same
  · have full : 2 ^ 52 ≤ b.significand := canonical.full.resolve_right (by omega)
    have top : v < 2 ^ 52 * 2 ^ b.exponent := by
      refine below.trans_le ?_
      rw [← zpow_natCast, ← zpow_add₀ (by norm_num)]
      exact zpow_le_zpow_right₀ (by norm_num) (by push_cast; omega)
    have first : b.significand = 2 ^ 52 := by
      have less := (mul_lt_mul_iff_left₀ positive).1 (low.trans_lt top)
      have less : (b.significand : ℚ) < 2 ^ 52 + 1 := by linarith
      have less : b.significand < 2 ^ 52 + 1 := by exact_mod_cast less
      omega
    have bottom : (2 : ℚ) ^ (51 + b.exponent) ≤ v := by
      rw [zpow_add₀ (by norm_num)]
      refine le_trans ((mul_le_mul_iff_left₀ positive).2 ?_) low
      rw [first]
      norm_num
    have more := (zpow_lt_zpow_iff_right₀ (by norm_num)).1 (bottom.trans_lt below)
    refine .inr ⟨by omega, first, by omega, ?_⟩
    rw [first]
    exact_mod_cast top.le

theorem shiftToTargetExponent_exact (canonical : b.Canonical) :
    shiftToTargetExponent Format.binary64 b.significand b.exponent .exact =
      (⟨b.significand, false, false⟩, b.exponent) := by
  have target : Format.binary64.targetExponent (totalExponent b.significand b.exponent) ≤ b.exponent := by
    have log : b.significand.log2 < 53 := (Nat.log2_lt canonical.positive.ne').2 canonical.small
    have least := canonical.least
    rw [targetExponent_eq, totalExponent]
    omega
  have none : (Format.binary64.targetExponent (totalExponent b.significand b.exponent) - b.exponent).toNat = 0 := by
    omega
  rw [shiftToTargetExponent, shiftToExponent, none]
  simp only [Nat.cast_zero, add_zero]
  rfl

theorem shiftToTargetExponent_first (least : -1074 < b.exponent) (first : b.significand = 2 ^ 52) :
    shiftToTargetExponent Format.binary64 (2 * b.significand) (b.exponent - 1) .exact =
      (⟨b.significand, false, false⟩, b.exponent) := by
  have twice : 2 * b.significand = 2 ^ 53 := by rw [first]; rfl
  have target : Format.binary64.targetExponent (totalExponent (2 ^ 53) (b.exponent - 1)) = b.exponent := by
    rw [targetExponent_eq, totalExponent, Nat.log2_two_pow]
    push_cast
    omega
  have one : (b.exponent - (b.exponent - 1)).toNat = 1 := by omega
  rw [twice, shiftToTargetExponent, shiftToExponent, target, one, first]
  simp only [Nat.cast_one, sub_add_cancel]
  rfl

theorem roundWithAccuracy_of_shifts {sign : Sign} {accuracy : Accuracy} {r : ExtendedMantissa × Int} {n : Nat} {t : Int}
    (shifted : shiftToTargetExponent Format.binary64 m e accuracy = r)
    (settled : shiftToTargetExponent Format.binary64 r.1.roundedMantissa r.2 .exact = (⟨n, false, false⟩, t))
    (filled : 0 < n) :
    roundWithAccuracy Format.binary64 sign m e accuracy = .finite sign n t filled := by
  have dropped : ∀ s : ExtendedMantissa × Int, s = (⟨n, false, false⟩, t) →
      (if h : s.1.mantissa = 0 then UnpackedFloat.zero sign
        else .finite sign s.1.mantissa s.2 (Nat.pos_of_ne_zero h)) = .finite sign n t filled := by
    rintro s rfl
    exact dif_neg filled.ne'
  subst shifted
  exact dropped _ settled

theorem mantissa_ofMantissaAndAccuracy (m : Nat) (accuracy : Accuracy) :
    (ExtendedMantissa.ofMantissaAndAccuracy m accuracy).mantissa = m := by
  cases accuracy with
  | exact => rfl
  | inexact o => cases o <;> rfl

/-- What approximates a number with enough places is rounded to the float in whose interval the number lies. -/
theorem roundWithAccuracy_eq (canonical : b.Canonical) {accuracy : Accuracy} (sign : Sign)
    (h : Extends (ExtendedMantissa.ofMantissaAndAccuracy m accuracy) e v) (rounded : b.Rounded v)
    (room : e ≤ Format.binary64.targetExponent (totalExponent m e)) :
    roundWithAccuracy Format.binary64 sign m e accuracy =
      .finite sign b.significand b.exponent canonical.positive := by
  have mantissa := mantissa_ofMantissaAndAccuracy m accuracy
  have targets := target_cases canonical h rounded (by rwa [mantissa])
  have positive : (0 : ℚ) < 2 ^ b.exponent := zpow_pos (by norm_num) _
  rw [mantissa] at targets
  generalize target : Format.binary64.targetExponent (totalExponent m e) = t at targets room
  have shifted := h.shiftRight (t - e).toNat
  have there : e + (t - e).toNat = t := by omega
  rw [there] at shifted
  have moved : shiftToTargetExponent Format.binary64 m e accuracy =
      (ExtendedMantissa.ofMantissaAndAccuracy m accuracy >>> (t - e).toNat, t) := by
    rw [shiftToTargetExponent, shiftToExponent, target, there]
  rcases targets with rfl | ⟨rfl, first, least, low⟩
  · have rounds := shifted.roundedMantissa ((half_le_lowerEnd b).trans rounded.low)
      (rounded.high.trans (upperEnd_eq b).le) fun ends => rounded.even <| ends.imp
        (fun eq => le_antisymm (eq.le.trans (half_le_lowerEnd b)) rounded.low) fun eq => eq.trans (upperEnd_eq b).symm
    exact roundWithAccuracy_of_shifts moved (by rw [rounds, shiftToTargetExponent_exact canonical]) canonical.positive
  · have half : (2 : ℚ) ^ (b.exponent - 1) = 2 ^ b.exponent / 2 := by rw [zpow_sub_one₀ (by norm_num)]; rfl
    have quarter : b.lowerEnd = (b.significand - 1 / 4) * 2 ^ b.exponent := by
      refine lowerEnd_of_quarter ((lowerQuarters_cases b).resolve_left ?_ |>.1)
      rw [lowerQuarters, if_pos ⟨first, least⟩]
      decide
    have bottom := rounded.low
    rw [quarter] at bottom
    have rounds := @Extends.roundedMantissa _ _ _ shifted (2 * b.significand)
      (by rw [half]; push_cast; linarith) (by rw [half]; push_cast; linarith) fun _ => Nat.mul_mod_right 2 _
    exact roundWithAccuracy_of_shifts moved (by rw [rounds, shiftToTargetExponent_first least first]) canonical.positive

theorem extends_exact (m : Nat) (e : Int) : Extends (ExtendedMantissa.ofMantissaAndAccuracy m .exact) e (m * 2 ^ e) :=
  ⟨0, by rw [add_zero]; rfl, le_refl 0, by norm_num, by simp [ExtendedMantissa.ofMantissaAndAccuracy],
    by simp [ExtendedMantissa.ofMantissaAndAccuracy]⟩

theorem extends_fraction (q : Nat) (e : Int) {r d : Nat} (less : r < d) :
    Extends (ExtendedMantissa.ofMantissaAndAccuracy q (accuracyOfFraction r d)) e ((q + r / d) * 2 ^ e) := by
  have positive : (0 : ℚ) < d := by exact_mod_cast Nat.zero_lt_of_lt less
  rw [accuracyOfFraction]
  split
  · next zero =>
    rw [zero, Nat.cast_zero, zero_div, add_zero]
    exact extends_exact q e
  · next other =>
    have filled : (r / d : ℚ) ≠ 0 := div_ne_zero (by exact_mod_cast other) positive.ne'
    have high : (r / d : ℚ) < 1 := (div_lt_one positive).2 (by exact_mod_cast less)
    have half : (1 / 2 : ℚ) ≤ r / d ↔ d ≤ 2 * r := by
      rw [le_div_iff₀ positive, div_mul_eq_mul_div, one_mul, div_le_iff₀ (by norm_num), mul_comm]
      exact_mod_cast Iff.rfl
    have exactly : (r / d : ℚ) = 1 / 2 ↔ 2 * r = d := by
      rw [div_eq_div_iff positive.ne' (by norm_num), one_mul, mul_comm]
      exact_mod_cast Iff.rfl
    have bits (o : Ordering) :
        (ExtendedMantissa.ofMantissaAndAccuracy q (.inexact o)).mantissa = q ∧
        ((ExtendedMantissa.ofMantissaAndAccuracy q (.inexact o)).roundBit = true ↔ o ≠ .lt) ∧
        ((ExtendedMantissa.ofMantissaAndAccuracy q (.inexact o)).stickyBit = true ↔ o ≠ .eq) := by
      cases o <;> simp [ExtendedMantissa.ofMantissaAndAccuracy]
    obtain ⟨mantissa, round, sticky⟩ := bits (compare (2 * r) d)
    refine ⟨r / d, by rw [mantissa], div_nonneg (Nat.cast_nonneg r) positive.le, high, ?_, ?_⟩
    · rw [round, half, Ne, Nat.compare_eq_lt, not_lt]
    · rw [sticky, Ne, Nat.compare_eq_eq, ← exactly]
      exact ⟨fun apart => ⟨filled, apart⟩, fun both => both.2⟩

variable {m₁ m₂ : Nat} {e₁ e₂ : Int} {h₁ : 0 < m₁} {h₂ : 0 < m₂}

theorem mul_eq (canonical : b.Canonical) (rounded : b.Rounded ((m₁ * 2 ^ e₁) * (m₂ * 2 ^ e₂)))
    (places : 52 ≤ (m₁ * m₂).log2) : UnpackedFloat.mul Format.binary64 (.finite .positive m₁ e₁ h₁) (.finite .positive m₂ e₂ h₂) =
      .finite .positive b.significand b.exponent canonical.positive := by
  have value : ((m₁ * 2 ^ e₁) * (m₂ * 2 ^ e₂) : ℚ) = (m₁ * m₂ : Nat) * 2 ^ (e₁ + e₂) := by
    rw [zpow_add₀ (by norm_num)]
    push_cast
    ring
  rw [value] at rounded
  refine roundWithAccuracy_eq canonical .positive (extends_exact _ _) rounded ?_
  rw [targetExponent_eq, totalExponent]
  omega

/-- A quotient by its whole part and its remainder, where the dividend has been shifted. -/
theorem quotient_eq {k : Nat} {t : Int} (filled : 0 < m₂) (shift : e₁ = k + t + e₂) :
    ((m₁ * 2 ^ e₁) / (m₂ * 2 ^ e₂) : ℚ) =
      ((m₁ <<< k / m₂ : Nat) + ((m₁ <<< k % m₂ : Nat) : ℚ) / m₂) * 2 ^ t := by
  have positive : (0 : ℚ) < m₂ := by exact_mod_cast filled
  have whole : ((m₁ <<< k / m₂ : Nat) : ℚ) * m₂ + (m₁ <<< k % m₂ : Nat) = m₁ * 2 ^ k := by
    have split := Nat.div_add_mod' (m₁ <<< k) m₂
    rw [Nat.shiftLeft_eq] at split ⊢
    exact_mod_cast split
  have powers : (2 : ℚ) ^ e₁ = 2 ^ k * 2 ^ t * 2 ^ e₂ := by
    rw [shift, ← zpow_natCast, ← zpow_add₀ (by norm_num), ← zpow_add₀ (by norm_num)]
  have power : (2 : ℚ) ^ e₂ ≠ 0 := zpow_ne_zero _ (by norm_num)
  rw [powers, add_div' _ _ _ positive.ne', whole]
  field_simp

theorem lt_quotient (filled₁ : 0 < m₁) (filled₂ : 0 < m₂) :
    (2 : ℚ) ^ (totalExponent m₁ e₁ - 1 - totalExponent m₂ e₂) < (m₁ * 2 ^ e₁) / (m₂ * 2 ^ e₂) := by
  have positive : (0 : ℚ) < m₂ := by exact_mod_cast filled₂
  have above := le_totalExponent (extends_exact m₁ e₁) filled₁.ne'
  have below := lt_totalExponent (extends_exact m₂ e₂)
  rw [zpow_sub₀ (by norm_num)]
  exact div_lt_div₀' above below (zpow_pos (by norm_num) _ |>.trans_le above)
    (mul_pos positive (zpow_pos (by norm_num) _))

theorem div_eq (canonical : b.Canonical) (rounded : b.Rounded ((m₁ * 2 ^ e₁) / (m₂ * 2 ^ e₂))) :
    UnpackedFloat.div Format.binary64 (.finite .positive m₁ e₁ h₁) (.finite .positive m₂ e₂ h₂) =
      .finite .positive b.significand b.exponent canonical.positive := by
  obtain ⟨t, target⟩ : ∃ t, t = min (e₁ - e₂)
    (Format.binary64.targetExponent (totalExponent m₁ e₁ - totalExponent m₂ e₂)) := ⟨_, rfl⟩
  obtain ⟨k, shift⟩ : ∃ k, k = (e₁ - e₂ - t).toNat := ⟨_, rfl⟩
  have value : ((m₁ * 2 ^ e₁) / (m₂ * 2 ^ e₂) : ℚ) =
      ((m₁ <<< k / m₂ : Nat) + ((m₁ <<< k % m₂ : Nat) : ℚ) / m₂) * 2 ^ t := quotient_eq h₂ (by omega)
  have extended := extends_fraction (m₁ <<< k / m₂) t (Nat.mod_lt (m₁ <<< k) h₂)
  have core : divCore Format.binary64 m₁ e₁ m₂ e₂ = (m₁ <<< k / m₂, t, accuracyOfFraction (m₁ <<< k % m₂) m₂) := by
    rw [divCore, ← target, ← shift]
  have result := roundWithAccuracy_eq canonical .positive extended (by rwa [← value]) ?_
  · calc UnpackedFloat.div Format.binary64 (.finite .positive m₁ e₁ h₁) (.finite .positive m₂ e₂ h₂)
      _ = roundWithAccuracy Format.binary64 .positive (divCore Format.binary64 m₁ e₁ m₂ e₂).1
            (divCore Format.binary64 m₁ e₁ m₂ e₂).2.1 (divCore Format.binary64 m₁ e₁ m₂ e₂).2.2 := rfl
      _ = .finite .positive b.significand b.exponent canonical.positive := by rw [core, result]
  -- the quotient keeps as many places as its estimated size calls for, which its true size bounds from above
  have top := lt_totalExponent extended
  rw [mantissa_ofMantissaAndAccuracy, ← value] at top
  have less := (zpow_lt_zpow_iff_right₀ (by norm_num)).1 ((lt_quotient h₁ h₂).trans top)
  rw [targetExponent_eq] at target ⊢
  omega

end Binary

end TaskCatalog.Number
