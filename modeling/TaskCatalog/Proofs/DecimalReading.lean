import TaskCatalog.Proofs.ShortestDecimals

/-!
A decimal among the numbers that are rounded to a float is read as that float, whichever of the ways to compute
it is taken: by one product or quotient of floats that are exact, or by rounding once.
-/

namespace TaskCatalog.Number

open Float.Model Float.Model.UnpackedFloat Text

/-- A whole number with all its binary places. -/
def wholeBinary (n : Nat) : Binary := ⟨false, n <<< (52 - n.log2), (n.log2 : Int) - 52⟩

section

variable {n : Nat} (filled : n ≠ 0) (small : n < 2 ^ 53)

include filled small

theorem log2_lt : n.log2 < 53 := (Nat.log2_lt filled).2 small

theorem wholeBinary_log2 : (n <<< (52 - n.log2)).log2 = 52 := by
  have less := log2_lt filled small
  have power : 2 ^ n.log2 * 2 ^ (52 - n.log2) = 2 ^ 52 := by rw [← Nat.pow_add]; congr 1; omega
  have next : 2 ^ (n.log2 + 1) * 2 ^ (52 - n.log2) = 2 ^ 53 := by rw [← Nat.pow_add]; congr 1; omega
  have positive : 0 < 2 ^ (52 - n.log2) := Nat.two_pow_pos _
  rw [Nat.shiftLeft_eq, Nat.log2_eq_iff (by positivity)]
  exact ⟨power ▸ Nat.mul_le_mul_right _ (Nat.log2_self_le filled),
    next ▸ Nat.mul_lt_mul_of_pos_right Nat.lt_log2_self positive⟩

theorem wholeBinary_fits : (wholeBinary n).Fits := by
  have less := log2_lt filled small
  have log := wholeBinary_log2 filled small
  have shifted : n <<< (52 - n.log2) ≠ 0 := by
    intro zero
    rw [zero] at log
    cases log
  refine ⟨(Nat.log2_lt shifted).1 (by rw [log]; decide), ?_, ?_, .inl ((Nat.le_log2 shifted).1 log.ge)⟩
  · simp only [wholeBinary]
    omega
  · simp only [wholeBinary]
    omega

theorem wholeBinary_value : ((wholeBinary n).significand * 2 ^ (wholeBinary n).exponent : ℚ) = n := by
  have less := log2_lt filled small
  have place : (n.log2 : Int) - 52 = -((52 - n.log2 : Nat) : Int) := by omega
  simp only [wholeBinary, Nat.shiftLeft_eq, place, zpow_neg, zpow_natCast]
  push_cast
  field_simp

end

theorem round_whole {n : Nat} (filled : n ≠ 0) (small : n < 2 ^ 53) :
    round Format.binary64 .positive n 0 = (wholeBinary n).unpacked .positive := by
  have less := log2_lt filled small
  have fits := wholeBinary_fits filled small
  have nonzero : (wholeBinary n).significand ≠ 0 := by
    have := fits.full
    rw [wholeBinary] at this ⊢
    simp only at this ⊢
    omega
  have target : Format.binary64.targetExponent (totalExponent n 0) = (n.log2 : Int) - 52 := by
    rw [Binary.targetExponent_eq, totalExponent]
    omega
  have shift : ((0 : Int) - ((n.log2 : Int) - 52)).toNat = 52 - n.log2 := by omega
  have place : (0 : Int) - ((52 - n.log2 : Nat) : Int) = (n.log2 : Int) - 52 := by omega
  have moved : decreaseExponent n 0 (Format.binary64.targetExponent (totalExponent n 0)) =
      (n <<< (52 - n.log2), (n.log2 : Int) - 52) := by
    rw [target]
    simp only [decreaseExponent, shift, place]
  rw [Binary.unpacked_of_ne nonzero, UnpackedFloat.round, moved]
  refine Binary.roundWithAccuracy_eq (fits.canonical nonzero) .positive (Binary.extends_exact _ _)
    (Binary.rounded_self _) ?_
  rw [Binary.targetExponent_eq, totalExponent, wholeBinary_log2 filled small]
  omega

theorem unpack_whole {n : Nat} (filled : n ≠ 0) (small : n < 2 ^ 53) :
    n.toUInt64.toFloat.toModel.unpack = (wholeBinary n).unpacked .positive := by
  have number : n.toUInt64.toNat = n := UInt64.toNat_ofNat_of_lt' (lt_trans small (by decide))
  have order : compare (n : Int) 0 = .gt := Int.compare_eq_gt.2 (by omega)
  have rounded : UnpackedFloat.ofUInt64 Format.binary64 n.toUInt64 = (wholeBinary n).unpacked .positive := by
    rw [UnpackedFloat.ofUInt64, UnpackedFloat.ofNat, UnpackedFloat.ofInt, UnpackedFloat.normalize, number, order]
    exact round_whole filled small
  change (Float.Model.pack (UnpackedFloat.ofUInt64 Format.binary64 n.toUInt64)).unpack = _
  rw [rounded]
  exact Binary.unpack_pack (wholeBinary_fits filled small)

/-- A power of ten that a float can be. -/
def powerBinary (e : Nat) : Binary :=
  let log := (10 ^ e).log2
  ⟨false, if log ≤ 52 then 10 ^ e <<< (52 - log) else 10 ^ e >>> (log - 52), (log : Int) - 52⟩

theorem powers_exact : ∀ e, ∀ h : e < Float.exactlyRepresentablePowersOfTen.size,
    (Float.exactlyRepresentablePowersOfTen[e]).toModel.toBits.toNat = (powerBinary e).bits .positive ∧
      2 ^ 52 ≤ (powerBinary e).significand ∧ (powerBinary e).significand < 2 ^ 53 ∧
      -1074 ≤ (powerBinary e).exponent ∧ (powerBinary e).exponent ≤ 971 ∧
      (powerBinary e).significand * 2 ^ (powerBinary e).exponent.toNat =
        10 ^ e * 2 ^ (-(powerBinary e).exponent).toNat := by
  decide +kernel

theorem powerBinary_fits {e : Nat} (h : e < Float.exactlyRepresentablePowersOfTen.size) : (powerBinary e).Fits := by
  obtain ⟨-, full, small, least, most, -⟩ := powers_exact e h
  exact ⟨small, least, most, .inl full⟩

theorem powerBinary_value {e : Nat} (h : e < Float.exactlyRepresentablePowersOfTen.size) :
    ((powerBinary e).significand * 2 ^ (powerBinary e).exponent : ℚ) = 10 ^ e := by
  obtain ⟨-, -, -, -, -, exact'⟩ := powers_exact e h
  have scale : (2 : ℚ) ^ (-(powerBinary e).exponent).toNat ≠ 0 := by positivity
  have whole : ((powerBinary e).significand * 2 ^ (powerBinary e).exponent.toNat : ℚ) =
      10 ^ e * 2 ^ (-(powerBinary e).exponent).toNat := by exact_mod_cast exact'
  rw [Binary.pow_toNat (by norm_num), ← mul_assoc] at whole
  exact mul_right_cancel₀ scale whole

theorem unpack_power {e : Nat} (h : e < Float.exactlyRepresentablePowersOfTen.size) :
    (Float.exactlyRepresentablePowersOfTen[e]).toModel.unpack = (powerBinary e).unpacked .positive :=
  Binary.unpack_eq (powerBinary_fits h) (powers_exact e h).1

theorem Binary.Fits.filled {b : Binary} (fits : b.Fits) (least : -1074 < b.exponent) : b.significand ≠ 0 := by
  have full := fits.full.resolve_right least.ne'
  omega

theorem wholeBinary_filled {n : Nat} (filled : n ≠ 0) (small : n < 2 ^ 53) : (wholeBinary n).significand ≠ 0 :=
  (wholeBinary_fits filled small).filled (by rw [wholeBinary]; simp only; omega)

theorem powerBinary_filled {e : Nat} (h : e < Float.exactlyRepresentablePowersOfTen.size) :
    (powerBinary e).significand ≠ 0 :=
  (powerBinary_fits h).filled (by rw [powerBinary]; simp only; omega)

/-- The float with a sign in whose interval a number lies. -/
def floatOf (s : Sign) (b : Binary) : Float := .ofModel (.pack (b.unpacked s))

section

variable {b : Binary} (canonical : b.Canonical) {n e : Nat} (filled : n ≠ 0)

include canonical filled

theorem div_power (small : n < 2 ^ 53) (h : e < Float.exactlyRepresentablePowersOfTen.size)
    (rounded : b.Rounded (n / 10 ^ e)) :
    n.toUInt64.toFloat / Float.exactlyRepresentablePowersOfTen[e] = floatOf .positive b := by
  change Float.ofModel (.pack (UnpackedFloat.div Format.binary64 n.toUInt64.toFloat.toModel.unpack
    Float.exactlyRepresentablePowersOfTen[e].toModel.unpack)) = _
  rw [unpack_whole filled small, unpack_power h, Binary.unpacked_of_ne (wholeBinary_filled filled small),
    Binary.unpacked_of_ne (powerBinary_filled h), floatOf, Binary.unpacked_of_ne canonical.positive.ne',
    Binary.div_eq canonical (by rwa [wholeBinary_value filled small, powerBinary_value h])]

theorem mul_unit (small : n < 2 ^ 53) (rounded : b.Rounded n) :
    n.toUInt64.toFloat * Float.exactlyRepresentablePowersOfTen[0] = floatOf .positive b := by
  have h : 0 < Float.exactlyRepresentablePowersOfTen.size := by decide
  have full := (wholeBinary_fits filled small).full.resolve_right (by rw [wholeBinary]; simp only; omega)
  have unit := (powers_exact 0 h).2.1
  have places : 52 ≤ ((wholeBinary n).significand * (powerBinary 0).significand).log2 := by
    rw [Nat.le_log2 (Nat.mul_ne_zero (wholeBinary_filled filled small) (powerBinary_filled h))]
    exact full.trans (Nat.le_mul_of_pos_right _ (by omega))
  change Float.ofModel (.pack (UnpackedFloat.mul Format.binary64 n.toUInt64.toFloat.toModel.unpack
    Float.exactlyRepresentablePowersOfTen[0].toModel.unpack)) = _
  rw [unpack_whole filled small, unpack_power h, Binary.unpacked_of_ne (wholeBinary_filled filled small),
    Binary.unpacked_of_ne (powerBinary_filled h), floatOf, Binary.unpacked_of_ne canonical.positive.ne',
    Binary.mul_eq canonical _ places]
  rwa [wholeBinary_value filled small, powerBinary_value h, pow_zero, mul_one]

theorem ofScientific_whole (rounded : b.Rounded n) :
    UnpackedFloat.ofScientific Format.binary64 n 0 = b.unpacked .positive := by
  have bits : Format.binary64.mantissaBits = 53 := rfl
  have shifted : n <<< 53 * 10 ^ (0 : Int).toNat = n * 2 ^ 53 := by
    rw [Nat.shiftLeft_eq]
    exact Nat.mul_one _
  have places : 52 ≤ (n <<< 53 * 10 ^ (0 : Int).toNat).log2 := by
    rw [shifted, Nat.le_log2 (by positivity)]
    omega
  rw [UnpackedFloat.ofScientific, dif_neg filled, if_neg (by norm_num), if_neg (by norm_num), if_pos le_rfl,
    Binary.unpacked_of_ne canonical.positive.ne']
  refine Binary.mul_eq canonical ?_ places
  have value : (((n <<< 53 : Nat) : ℚ) * 2 ^ (-(53 : Nat) : Int)) * ((10 ^ (0 : Int).toNat : Nat) * 2 ^ (0 : Int)) = n := by
    rw [Nat.shiftLeft_eq, zpow_neg, zpow_natCast, zpow_zero, Int.toNat_zero]
    push_cast
    field_simp
    norm_num
  rwa [bits, value]

theorem ofScientific_fraction (rounded : b.Rounded (n / 10 ^ e)) (shallow : e ≤ 2 ^ 11 + n.log2) (some : e ≠ 0) :
    UnpackedFloat.ofScientific Format.binary64 n (Int.negOfNat e) = b.unpacked .positive := by
  have negative : Int.negOfNat e = -(e : Int) := Int.negOfNat_eq
  rw [UnpackedFloat.ofScientific, dif_neg filled, negative, if_neg (by norm_num), if_neg (by norm_num; omega),
    if_neg (by omega), Binary.unpacked_of_ne canonical.positive.ne']
  refine Binary.div_eq canonical ?_
  simpa using rounded

theorem ofScientific_nat (rounded : b.Rounded n) : Float.ofScientific n false 0 = floatOf .positive b := by
  rw [Float.ofScientific]
  split
  · next exactly => exact mul_unit canonical filled exactly.1 rounded
  · exact congrArg (fun u => Float.ofModel (.pack u)) (ofScientific_whole canonical filled rounded)

theorem ofScientific_quotient (rounded : b.Rounded (n / 10 ^ e)) (shallow : e ≤ 2 ^ 11 + n.log2) (some : e ≠ 0) :
    Float.ofScientific n true e = floatOf .positive b := by
  rw [Float.ofScientific]
  split
  · next exactly =>
    exact div_power canonical filled exactly.1 (Nat.lt_succ_of_le exactly.2) rounded
  · exact congrArg (fun u => Float.ofModel (.pack u)) (ofScientific_fraction canonical filled rounded shallow some)

end

theorem length_repr_le (n : Nat) : (Nat.repr n).length ≤ n.log2 + 1 := by
  rw [length_repr, Nat.length_toDigits_le_iff (by decide) (Nat.succ_pos _)]
  exact lt_of_lt_of_le Nat.lt_log2_self (Nat.pow_le_pow_left (by decide) _)

/-- A decimal that is rounded to a positive float is read as it. -/
theorem ofDecimal_eq {b : Binary} {digits : Nat} {e : Int} (canonical : b.Canonical) (most : b.exponent ≤ 971)
    (rounded : b.Rounded (digits * 10 ^ e)) : ofDecimal digits e = floatOf .positive b := by
  obtain ⟨filled, low, high⟩ := magnitude_bounds canonical most rounded
  rw [ofDecimal, if_neg (by omega), if_neg (by omega)]
  split
  · next whole =>
    have value : ((digits * Nat.pow 10 e.toNat : Nat) : ℚ) = digits * 10 ^ e := by
      rw [Nat.pow_eq, Nat.cast_mul, Nat.cast_pow, ← zpow_natCast, Int.toNat_of_nonneg whole]
      rfl
    refine ofScientific_nat canonical (Nat.mul_ne_zero filled ?_) (by rwa [value])
    exact (Nat.pow_pos (by decide)).ne'
  · next fraction =>
    have value : (digits : ℚ) / 10 ^ (-e).toNat = digits * 10 ^ e := by
      rw [← zpow_natCast, Int.toNat_of_nonneg (by omega), zpow_neg, div_inv_eq_mul]
    have size := length_repr_le digits
    exact ofScientific_quotient canonical filled (by rwa [value]) (by omega) (by omega)

theorem floatOf_sign {x : Float} {b : Binary} (h : binary? x = some b) : floatOf b.sign b = x := by
  obtain ⟨fits, bits⟩ := Binary.of_binary? h
  rw [floatOf, Binary.pack_eq fits bits]

theorem binary?_floatOf {b : Binary} (fits : b.Fits) (unsigned : b.negative = false) :
    binary? (floatOf .positive b) = some b := by
  have unpack : (floatOf .positive b).toModel.unpack = b.unpacked .positive := Binary.unpack_pack fits
  have finite : (floatOf .positive b).isFinite = true := by
    rw [Float.isFinite, Float.Model.isFinite, unpack]
    by_cases zero : b.significand = 0
    · rw [Binary.unpacked_of_zero zero]
      rfl
    · rw [Binary.unpacked_of_ne zero]
      rfl
  obtain ⟨c, there⟩ := exists_binary? finite
  obtain ⟨fits', bits⟩ := Binary.of_binary? there
  obtain ⟨sign, significand, exponent⟩ := Binary.unpacked_inj fits' fits ((Binary.unpack_eq fits' bits).symm.trans unpack)
  have unsigned' : c.negative = false := by
    rw [Binary.sign] at sign
    cases negative : c.negative with
    | false => rfl
    | true =>
      rw [negative] at sign
      cases sign
  rw [there, Option.some.injEq]
  obtain ⟨negative, m, e⟩ := b
  obtain ⟨negative', m', e'⟩ := c
  subst unsigned unsigned' significand exponent
  rfl

theorem neg_floatOf {b : Binary} (fits : b.Fits) : -floatOf .positive b = floatOf .negative b := by
  change Float.ofModel (.pack (Float.Model.unpack (.pack (b.unpacked .positive))).neg) = _
  rw [Binary.unpack_pack fits, floatOf]
  by_cases zero : b.significand = 0
  · rw [Binary.unpacked_of_zero zero, Binary.unpacked_of_zero zero]
    rfl
  · rw [Binary.unpacked_of_ne zero, Binary.unpacked_of_ne zero]
    rfl

theorem ofDecimal_zero (e : Int) : ofDecimal 0 e = .ofModel (.pack (.zero .positive)) := by
  have zero : (0.0 : Float) = .ofModel (.pack (.zero .positive)) := by decide +kernel
  rw [ofDecimal, if_pos (.inl rfl), zero]

/-- A finite float is written as a numeral, after a dash if it is negative, that is read as it. -/
theorem exists_spelling {style : FloatStyle} (wholePoint : style.wholePoint = true)
    (exponentPoint : style.exponentPoint = true) {x : Float} (finite : x.isFinite = true) :
    ∃ negative : Bool, ∃ n : Numeral, floatText style x = ofChars ((if negative then ['-'] else []) ++ n.chars) ∧
      (if negative then -ofDecimal n.decimal.digits n.decimal.exponent
        else ofDecimal n.decimal.digits n.decimal.exponent) = x := by
  obtain ⟨b, h⟩ := exists_binary? finite
  have fits := (Binary.of_binary? h).1
  have sign (t : Text) : (if b.negative then "-" ++ t else t) = ofChars (if b.negative then ['-'] else []) ++ t := by
    cases b.negative <;> rfl
  have number {y : Float} (read : y = floatOf .positive b) : (if b.negative then -y else y) = x := by
    rw [read, neg_floatOf fits]
    have whole := floatOf_sign h
    rw [Binary.sign] at whole
    cases negative : b.negative with
    | true =>
      rw [negative] at whole
      exact whole
    | false =>
      rw [negative] at whole
      exact whole
  have text (n : Numeral) (written : (if b.significand = 0 then ("0.0" : Text) else decimalText style (shortest b)) =
      ofChars n.chars) : floatText style x = ofChars ((if b.negative then ['-'] else []) ++ n.chars) := by
    rw [floatText, h]
    simp only [wholePoint, if_true, written]
    rw [sign]
    exact List.map_append.symm
  by_cases zero : b.significand = 0
  · refine ⟨b.negative, ⟨['0'], ['0'], none, areDigits_zeros 0, areDigits_zeros 0⟩, text _ (if_pos zero), number ?_⟩
    have none : Numeral.decimal ⟨['0'], ['0'], none, areDigits_zeros 0, areDigits_zeros 0⟩ = ⟨0, -1⟩ := by rfl
    rw [none, ofDecimal_zero, floatOf, Binary.unpacked_of_zero zero]
  · obtain ⟨n, written, value⟩ := exists_numeral wholePoint exponentPoint (shortest b)
    refine ⟨b.negative, n, text n ((if_neg zero).trans written), number ?_⟩
    have rounded := Binary.shortest_rounded (fits.canonical zero) fits.most
    rw [← value] at rounded
    exact ofDecimal_eq (fits.canonical zero) fits.most rounded

end TaskCatalog.Number
