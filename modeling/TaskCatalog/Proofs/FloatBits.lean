import TaskCatalog.Proofs.FloatRounding

/-!
The bits of a float: its sign, its exponent and its binary places. A float with given ones is got by packing
them, and unpacking gives them back.
-/

namespace TaskCatalog.Number

open Float.Model Float.Model.UnpackedFloat

section

variable (w : BitVec 64)

theorem toNat_packComponents (s : Sign) (e : BitVec 11) (m : BitVec 52) :
    (packComponents Format.binary64 s e m).toNat = s.toBitVec.toNat * 2 ^ 63 + e.toNat * 2 ^ 52 + m.toNat := by
  simp only [packComponents, BitVec.toNat_append]
  rw [← Nat.shiftLeft_add_eq_or_of_lt m.isLt, ← Nat.shiftLeft_add_eq_or_of_lt e.isLt, Nat.shiftLeft_eq,
    Nat.shiftLeft_eq]
  ring

theorem toNat_unpackExponent : (@unpackExponent Format.binary64 w).toNat = w.toNat / 2 ^ 52 % 2 ^ 11 := by
  simp [unpackExponent, BitVec.extractLsb_toNat, Nat.shiftRight_eq_div_pow]

theorem toNat_unpackMantissa : (@unpackMantissa Format.binary64 w).toNat = w.toNat % 2 ^ 52 := by
  simp [unpackMantissa, BitVec.extractLsb_toNat]

theorem toNat_unpackSign : (@unpackSign Format.binary64 w).toNat = w.toNat / 2 ^ 63 := by
  have := w.isLt
  unfold unpackSign
  simp [BitVec.extractLsb_toNat, Nat.shiftRight_eq_div_pow]
  omega

end

namespace Binary

/-- A number that a float can be. -/
structure Fits (b : Binary) : Prop where
  small : b.significand < 2 ^ 53
  least : -1074 ≤ b.exponent
  most : b.exponent ≤ 971
  full : 2 ^ 52 ≤ b.significand ∨ b.exponent = -1074

def sign (b : Binary) : Sign := if b.negative then .negative else .positive

/-- The number with a given sign, as the operations on floats take it. -/
def unpacked (s : Sign) (b : Binary) : UnpackedFloat :=
  if h : b.significand = 0 then .zero s else .finite s b.significand b.exponent (Nat.pos_of_ne_zero h)

/-- The exponent as the bits have it; zero where the first binary place is missing. -/
def field (b : Binary) : Nat := if b.significand < 2 ^ 52 then 0 else (b.exponent + 1075).toNat

def bits (s : Sign) (b : Binary) : Nat :=
  s.toBitVec.toNat * 2 ^ 63 + b.field * 2 ^ 52 + b.significand % 2 ^ 52

variable {b : Binary} {s : Sign} {w : BitVec 64}

theorem Fits.canonical (fits : b.Fits) (filled : b.significand ≠ 0) : b.Canonical :=
  ⟨Nat.pos_of_ne_zero filled, fits.small, fits.least, fits.full⟩

theorem field_lt (fits : b.Fits) : b.field < 2047 := by
  have most := fits.most
  rw [field]
  split <;> omega

theorem unpacked_of_zero (zero : b.significand = 0) : b.unpacked s = .zero s := dif_pos zero

theorem unpacked_of_ne (filled : b.significand ≠ 0) :
    b.unpacked s = .finite s b.significand b.exponent (Nat.pos_of_ne_zero filled) := dif_neg filled

theorem unpacked_inj {c : Binary} {t : Sign} (hb : b.Fits) (hc : c.Fits)
    (same : b.unpacked s = c.unpacked t) : s = t ∧ b.significand = c.significand ∧ b.exponent = c.exponent := by
  have least {d : Binary} (h : d.Fits) (zero : d.significand = 0) : d.exponent = -1074 :=
    h.full.resolve_left (by omega)
  by_cases zero : b.significand = 0
  · by_cases zero' : c.significand = 0
    · rw [unpacked_of_zero zero, unpacked_of_zero zero', UnpackedFloat.zero.injEq] at same
      exact ⟨same, zero.trans zero'.symm, (least hb zero).trans (least hc zero').symm⟩
    · rw [unpacked_of_zero zero, unpacked_of_ne zero'] at same
      cases same
  · by_cases zero' : c.significand = 0
    · rw [unpacked_of_ne zero, unpacked_of_zero zero'] at same
      cases same
    · rw [unpacked_of_ne zero, unpacked_of_ne zero', UnpackedFloat.finite.injEq] at same
      exact same

theorem toNat_pack (fits : b.Fits) : (pack Format.binary64 (b.unpacked s)).toNat = b.bits s := by
  have least := fits.least
  have most := fits.most
  have small := fits.small
  have components (e m : Nat) (he : e < 2 ^ 11) :
      (packComponents Format.binary64 s (BitVec.ofNat _ e) (BitVec.ofNat _ m)).toNat =
        s.toBitVec.toNat * 2 ^ 63 + e * 2 ^ 52 + m % 2 ^ 52 := by
    rw [toNat_packComponents, BitVec.toNat_ofNat, BitVec.toNat_ofNat, Nat.mod_eq_of_lt he]
  -- zero, then the floats with the least exponent, then those whose first place is not stored
  by_cases zero : b.significand = 0
  · rw [unpacked_of_zero zero, bits, field, zero]
    exact components 0 0 (by decide)
  · have biased : (b.exponent + Format.binary64.exponentBias + Format.binary64.mantissaBitsWithoutImplicit).toNat =
        (b.exponent + 1075).toNat := by
      congr 1
      rw [add_assoc]
      rfl
    rw [unpacked_of_ne zero, bits, field]
    unfold UnpackedFloat.pack
    simp only [biased]
    have inside : ¬2 ^ Format.binary64.exponentBits ≤ (b.exponent + 1075).toNat + 1 := by
      norm_num
      omega
    rw [if_neg inside]
    by_cases full : b.significand < 2 ^ 52
    · have log : ¬b.significand.log2 + 1 = Format.binary64.mantissaBits := by
        have less := (Nat.log2_lt zero).2 full
        exact fun eq => by rw [show Format.binary64.mantissaBits = 53 from rfl] at eq; omega
      rw [if_neg log, if_pos full]
      exact components 0 _ (by decide)
    · have log : b.significand.log2 + 1 = Format.binary64.mantissaBits := by
        have less := (Nat.log2_lt zero).2 small
        have more := (Nat.le_log2 zero).2 (not_lt.1 full)
        rw [show Format.binary64.mantissaBits = 53 from rfl]
        omega
      rw [if_pos log, if_neg full]
      exact components _ _ (by omega)

theorem finite_congr {s' : Sign} {m m' : Nat} {e e' : Int} (hs : s = s') (hm : m = m') (he : e = e')
    (h : 0 < m) (h' : 0 < m') : UnpackedFloat.finite s m e h = .finite s' m' e' h' := by
  subst hs hm he
  rfl

theorem unpackExponent_of_bits (fits : b.Fits) (h : w.toNat = b.bits s) :
    (@unpackExponent Format.binary64 w).toNat = b.field := by
  have fieldSmall := field_lt fits
  have signSmall := s.toBitVec.isLt
  have placesSmall := Nat.mod_lt b.significand (by decide : 0 < 2 ^ 52)
  rw [toNat_unpackExponent, h, bits]
  omega

theorem unpackMantissa_of_bits (fits : b.Fits) (h : w.toNat = b.bits s) :
    (@unpackMantissa Format.binary64 w).toNat = b.significand % 2 ^ 52 := by
  have fieldSmall := field_lt fits
  have signSmall := s.toBitVec.isLt
  rw [toNat_unpackMantissa, h, bits]
  omega

theorem unpackSign_of_bits (fits : b.Fits) (h : w.toNat = b.bits s) :
    Sign.ofBitVec (@unpackSign Format.binary64 w) = s := by
  have fieldSmall := field_lt fits
  have placesSmall := Nat.mod_lt b.significand (by decide : 0 < 2 ^ 52)
  have same : @unpackSign Format.binary64 w = s.toBitVec := by
    apply BitVec.eq_of_toNat_eq
    rw [toNat_unpackSign, h, bits]
    omega
  rw [same]
  cases s <;> rfl

theorem unpack_of_places (fits : b.Fits) (h : w.toNat = b.bits s) (full : b.significand < 2 ^ 52) :
    unpack Format.binary64 w = b.unpacked s := by
  have least := fits.least
  have exponent := unpackExponent_of_bits fits h
  have mantissa := unpackMantissa_of_bits fits h
  have noField : b.field = 0 := if_pos full
  have noExponent : @unpackExponent Format.binary64 w = 0#_ :=
    BitVec.eq_of_toNat_eq (by rw [exponent, noField]; rfl)
  have finite : @unpackExponent Format.binary64 w ≠ -1#_ := fun eq => by
    rw [noExponent] at eq
    cases eq
  rw [Nat.mod_eq_of_lt full] at mantissa
  by_cases zero : b.significand = 0
  · have noMantissa : @unpackMantissa Format.binary64 w = 0#_ :=
      BitVec.eq_of_toNat_eq (by rw [mantissa, zero]; rfl)
    calc unpack Format.binary64 w
      _ = .zero (Sign.ofBitVec (@unpackSign Format.binary64 w)) :=
        (if_neg finite).trans <| (if_pos noExponent).trans <| dif_pos noMantissa
      _ = b.unpacked s := by rw [unpackSign_of_bits fits h, unpacked_of_zero zero]
  · have places : @unpackMantissa Format.binary64 w ≠ 0#_ := fun eq => by
      rw [eq] at mantissa
      exact zero mantissa.symm
    rw [unpacked_of_ne zero]
    refine (if_neg finite).trans <| (if_pos noExponent).trans <| (dif_neg places).trans <|
      finite_congr (unpackSign_of_bits fits h) mantissa ?_ _ _
    rw [exponent, noField, fits.full.resolve_left (by omega)]
    rfl

theorem unpack_of_field (fits : b.Fits) (h : w.toNat = b.bits s) (full : ¬ b.significand < 2 ^ 52) :
    unpack Format.binary64 w = b.unpacked s := by
  have least := fits.least
  have small := fits.small
  have fieldSmall := field_lt fits
  have exponent := unpackExponent_of_bits fits h
  have someField : b.field = (b.exponent + 1075).toNat := if_neg full
  have finite : @unpackExponent Format.binary64 w ≠ -1#_ := fun eq => by
    rw [eq] at exponent
    exact absurd exponent (by rw [show (-1#11 : BitVec 11).toNat = 2047 from rfl]; omega)
  have someExponent : @unpackExponent Format.binary64 w ≠ 0#_ := fun eq => by
    rw [eq] at exponent
    exact absurd exponent (by rw [someField]; simp; omega)
  rw [unpacked_of_ne (by omega)]
  refine (if_neg finite).trans <| (if_neg someExponent).trans <|
    finite_congr (unpackSign_of_bits fits h) ?_ ?_ _ _
  · rw [BitVec.toNat_append, ← Nat.shiftLeft_add_eq_or_of_lt (BitVec.isLt _), unpackMantissa_of_bits fits h,
      Nat.shiftLeft_eq]
    simp
    omega
  · rw [exponent, someField, Int.toNat_of_nonneg (by omega)]
    rw [show (Format.binary64.exponentBias : Int) + Format.binary64.mantissaBitsWithoutImplicit = 1075 from rfl]
    omega

theorem unpack_of_bits (fits : b.Fits) (h : w.toNat = b.bits s) : unpack Format.binary64 w = b.unpacked s := by
  by_cases full : b.significand < 2 ^ 52
  · exact unpack_of_places fits h full
  · exact unpack_of_field fits h full

theorem pack_eq {x : Float.Model} (fits : b.Fits) (h : x.toBits.toNat = b.bits s) :
    Float.Model.pack (b.unpacked s) = x := by
  obtain ⟨w, valid⟩ := x
  have same : UInt64.ofBitVec (pack Format.binary64 (b.unpacked s)) = w := by
    apply UInt64.toNat.inj
    exact (toNat_pack fits).trans h.symm
  subst same
  rfl

theorem unpack_eq {x : Float.Model} (fits : b.Fits) (h : x.toBits.toNat = b.bits s) : x.unpack = b.unpacked s :=
  unpack_of_bits fits h

theorem unpack_pack (fits : b.Fits) : (Float.Model.pack (b.unpacked s)).unpack = b.unpacked s :=
  unpack_of_bits fits (toNat_pack fits)

theorem toNat_sign {n : Nat} (small : n < 2 ^ 64) (m : Nat) (e : Int) :
    (sign ⟨decide (2 ^ 63 ≤ n), m, e⟩).toBitVec.toNat = n / 2 ^ 63 := by
  by_cases high : 2 ^ 63 ≤ n
  · have negative : sign ⟨decide (2 ^ 63 ≤ n), m, e⟩ = .negative := by rw [sign, decide_eq_true high]; rfl
    have one : n / 2 ^ 63 = 1 := by omega
    rw [negative, one]
    rfl
  · have positive : sign ⟨decide (2 ^ 63 ≤ n), m, e⟩ = .positive := by rw [sign, decide_eq_false high]; rfl
    have zero : n / 2 ^ 63 = 0 := by omega
    rw [positive, zero]
    rfl

/-- A float that is finite is got from its sign, its exponent and its binary places. -/
theorem of_binary? {x : Float} (h : binary? x = some b) : b.Fits ∧ x.toModel.toBits.toNat = b.bits b.sign := by
  have bound : x.toBits.toNat < 2 ^ 64 := x.toBits.toBitVec.isLt
  have same : x.toModel.toBits.toNat = x.toBits.toNat := rfl
  rw [same]
  rw [binary?] at h
  generalize x.toBits.toNat = n at h bound
  simp only [Nat.pow_eq] at h
  split at h
  · cases h
  · next finite =>
    split at h
    · next none =>
      cases h
      have less := Nat.mod_lt n (by decide : 0 < 2 ^ 52)
      refine ⟨⟨by simp only; omega, le_refl _, by norm_num, .inr rfl⟩, ?_⟩
      rw [bits, field, if_pos less, toNat_sign bound]
      simp only
      omega
    · next some =>
      cases h
      have less := Nat.mod_lt n (by decide : 0 < 2 ^ 52)
      refine ⟨⟨by simp only; omega, by simp only; omega, by simp only; omega, .inl (by simp only; omega)⟩, ?_⟩
      rw [bits, field, if_neg (by simp only; omega), toNat_sign bound]
      simp only
      omega

end Binary

theorem exists_binary? {x : Float} (finite : x.isFinite = true) : ∃ b, binary? x = some b := by
  cases h : binary? x with
  | some b => exact ⟨b, rfl⟩
  | none =>
    have field : x.toBits.toNat / 2 ^ 52 % 2 ^ 11 = 2 ^ 11 - 1 := by
      rw [binary?] at h
      simp only [Nat.pow_eq] at h
      by_contra other
      rw [if_neg other] at h
      split at h <;> cases h
    have exponent : @unpackExponent Format.binary64 x.toModel.toBits.toBitVec = -1#_ :=
      BitVec.eq_of_toNat_eq ((toNat_unpackExponent _).trans field)
    have unpacked : x.toModel.unpack.isFinite = false := by
      have opened : x.toModel.unpack = if _ then _ else .notANumber := if_pos exponent
      rw [opened]
      split <;> rfl
    rw [Float.isFinite, Float.Model.isFinite, unpacked] at finite
    cases finite

end TaskCatalog.Number
