import TaskCatalog.Proofs.ExactDecimals

/-!
Numerals that a float is written as again. A numeral without an exponent is told by its number, if no digit of it
could be left out; so a float is written as the numeral that it was read from where the numeral is of this form, has
few digits and needs no exponent, and it is written as no other.
-/

namespace TaskCatalog.Number

open Text

/-- A number of at most so many digits, but for zeros that only give its place. -/
def HasDigits (count : Nat) (v : ℚ) : Prop := ∃ c : Nat, ∃ p : Int, c < 10 ^ count ∧ v = c * 10 ^ p

/-- The numbers that are written without an exponent. -/
def IsNear (v : ℚ) : Prop := v = 0 ∨ (1 / 10 ^ 4 ≤ v ∧ v < 10 ^ 16)

theorem HasDigits.exists_reduced {count : Nat} {v : ℚ} (few : HasDigits count v) (filled : v ≠ 0) :
    ∃ c : Nat, ∃ p : Int, c < 10 ^ count ∧ c % 10 ≠ 0 ∧ v = c * 10 ^ p := by
  obtain ⟨c, p, small, rfl⟩ := few
  induction c using Nat.strong_induction_on generalizing p with
  | h c ih =>
    by_cases padded : c % 10 = 0
    · obtain ⟨d, rfl⟩ := Nat.dvd_of_mod_eq_zero padded
      have value : ((10 * d : Nat) : ℚ) * 10 ^ p = d * 10 ^ (p + 1) := by
        rw [zpow_add_one₀ (by norm_num)]
        push_cast
        ring
      have positive : d ≠ 0 := by
        rintro rfl
        simp at filled
      rw [value] at filled ⊢
      exact ih d (by omega) (p + 1) (by omega) filled
    · exact ⟨c, p, small, padded, rfl⟩

theorem ofChars_injective : Function.Injective ofChars := List.map_injective_iff.2 fun _ _ => Letter.scalar.inj

namespace Numeral

variable {n m : Numeral}

/-- Without an exponent, and without a zero in front. -/
structure IsPlain (n : Numeral) : Prop where
  positional : n.exponent = none
  unpadded : Unpadded n.whole

def zero : Numeral := ⟨['0'], ['0'], none, areDigits_zeros 0, areDigits_zeros 0⟩

theorem zero_isPlain : zero.IsPlain := ⟨rfl, fun _ => rfl⟩

theorem zero_value : zero.decimal.value = 0 := by
  rw [Decimal.value, show zero.decimal.digits = 0 from rfl, Nat.cast_zero, zero_mul]

theorem value_of_positional (positional : n.exponent = none) :
    n.decimal.value = digitsValue n.whole + digitsValue n.fraction / 10 ^ n.fraction.length := by
  have place : (10 : ℚ) ^ (0 - (n.fraction.length : Int)) = (10 ^ n.fraction.length)⁻¹ := by
    rw [zero_sub, zpow_neg, zpow_natCast]
  rw [Decimal.value, decimal, positional, digitsValue_append]
  simp only [Option.getD_none, place]
  push_cast
  field_simp

theorem takeWhile_whole (n : Numeral) : (n.whole ++ '.' :: n.fraction).takeWhile Char.isDigit = n.whole :=
  takeWhile_digits n.wholeDigits rfl

theorem parts_eq_of_chars (positional : n.exponent = none) (positional' : m.exponent = none)
    (same : n.chars = m.chars) : n.whole = m.whole ∧ n.fraction = m.fraction := by
  rw [chars_of_positional positional, chars_of_positional positional'] at same
  have whole : n.whole = m.whole := by rw [← takeWhile_whole, same, takeWhile_whole]
  rw [whole, List.append_cancel_left_eq, List.cons.injEq] at same
  exact ⟨whole, same.2⟩

theorem value_eq_of_chars (positional : n.exponent = none) (positional' : m.exponent = none)
    (same : n.chars = m.chars) : n.decimal.value = m.decimal.value := by
  obtain ⟨whole, fraction⟩ := parts_eq_of_chars positional positional' same
  rw [value_of_positional positional, value_of_positional positional', whole, fraction]

theorem fraction_lt (n : Numeral) : (digitsValue n.fraction / 10 ^ n.fraction.length : ℚ) < 1 := by
  rw [div_lt_one (by positivity)]
  exact_mod_cast digitsValue_lt n.fractionDigits.all

/-- A fraction that is filled up with zeros to another one has no zeros to fill up. -/
theorem fraction_eq (count : n.fraction.length ≤ m.fraction.length) (untrailed : Untrailed m.fraction)
    (same : (digitsValue n.fraction / 10 ^ n.fraction.length : ℚ) = digitsValue m.fraction / 10 ^ m.fraction.length) :
    n.fraction = m.fraction := by
  obtain ⟨k, more⟩ := Nat.exists_eq_add_of_le count
  have zeros : digitsValue (List.replicate k '0') = 0 := by
    rw [digitsValue, Nat.ofDigitChars_replicate_zero, Nat.mul_zero]
  have value : digitsValue n.fraction * 10 ^ k = digitsValue m.fraction := by
    rw [more, pow_add, div_eq_div_iff (by positivity) (by positivity)] at same
    have scaled : (digitsValue n.fraction * 10 ^ k : ℚ) * 10 ^ n.fraction.length =
        digitsValue m.fraction * 10 ^ n.fraction.length := by
      rw [← same]
      ring
    exact_mod_cast mul_right_cancel₀ (by positivity) scaled
  have filled : n.fraction ++ List.replicate k '0' = m.fraction := by
    refine eq_of_digitsValue (n.fractionDigits.append fun c hc => ?_).all m.fractionDigits.all ?_ ?_
    · rw [List.eq_of_mem_replicate hc]
      rfl
    · rw [List.length_append, List.length_replicate, more]
    · rw [digitsValue_append, List.length_replicate, zeros, value, Nat.add_zero]
  cases k with
  | zero => rwa [List.replicate_zero, List.append_nil] at filled
  | succ k =>
    have last : m.fraction.getLast? = some '0' := by
      rw [← filled, List.replicate_succ', ← List.append_assoc, List.getLast?_concat]
    rw [untrailed last] at more
    have some := List.length_pos_of_ne_nil n.fractionDigits.filled
    rw [List.length_singleton] at more
    omega

/-- Numerals that leave out what can be left out are the same where their numbers are. -/
theorem chars_eq_of_value (plain : n.IsPlain) (plain' : m.IsPlain) (untrailed : Untrailed n.fraction)
    (untrailed' : Untrailed m.fraction) (same : n.decimal.value = m.decimal.value) : n.chars = m.chars := by
  rw [value_of_positional plain.positional, value_of_positional plain'.positional] at same
  have less := n.fraction_lt
  have less' := m.fraction_lt
  have least : (0 : ℚ) ≤ digitsValue n.fraction / 10 ^ n.fraction.length := by positivity
  have least' : (0 : ℚ) ≤ digitsValue m.fraction / 10 ^ m.fraction.length := by positivity
  have number : digitsValue n.whole = digitsValue m.whole := by
    have up : (digitsValue n.whole : ℚ) < digitsValue m.whole + 1 := by linarith
    have down : (digitsValue m.whole : ℚ) < digitsValue n.whole + 1 := by linarith
    have up : digitsValue n.whole < digitsValue m.whole + 1 := by exact_mod_cast up
    have down : digitsValue m.whole < digitsValue n.whole + 1 := by exact_mod_cast down
    omega
  have whole : n.whole = m.whole := by
    rw [← decimalDigits_digitsValue n.wholeDigits plain.unpadded, number,
      decimalDigits_digitsValue m.wholeDigits plain'.unpadded]
  rw [number, add_right_inj] at same
  have fraction : n.fraction = m.fraction := by
    rcases Nat.le_total n.fraction.length m.fraction.length with count | count
    · exact fraction_eq count untrailed' same
    · exact (fraction_eq count untrailed same.symm).symm
  rw [chars_of_positional plain.positional, chars_of_positional plain'.positional, whole, fraction]

theorem lead_of_chars {c : Char} {rest : Text} (text : ofChars n.chars = .scalar c :: rest) : c.isDigit = true := by
  obtain ⟨d, ds, split⟩ := List.exists_cons_of_ne_nil n.wholeDigits.filled
  rw [chars, split, List.cons_append, ofChars, List.map_cons, List.cons.injEq, Letter.scalar.injEq] at text
  exact text.1 ▸ n.wholeDigits.all d (split ▸ List.mem_cons_self)

theorem not_e_of_positional (positional : n.exponent = none) : Letter.scalar 'e' ∉ ofChars n.chars := by
  rw [chars_of_positional positional, ofChars, List.mem_map]
  rintro ⟨c, member, same⟩
  obtain rfl := Letter.scalar.inj same
  rcases List.mem_append.1 member with whole | rest
  · cases n.wholeDigits.all _ whole
  · cases n.fractionDigits.all _ ((List.mem_cons.1 rest).resolve_left (by decide))

end Numeral

theorem Decimal.isNear_iff {d : Decimal} (filled : d.digits ≠ 0) : IsNear d.value ↔ -4 ≤ d.first ∧ d.first < 16 := by
  obtain ⟨bottom, top⟩ := first_bounds filled
  have positive : d.value ≠ 0 := ((zpow_pos (by norm_num) _).trans_le bottom).ne'
  have least : (1 / 10 ^ 4 : ℚ) = 10 ^ (-4 : Int) := by norm_num
  have most : (10 ^ 16 : ℚ) = 10 ^ (16 : Int) := by norm_num
  rw [IsNear, or_iff_right positive, least, most]
  constructor
  · rintro ⟨low, high⟩
    have more := (zpow_lt_zpow_iff_right₀ (by norm_num)).1 (low.trans_lt top)
    have less := (zpow_lt_zpow_iff_right₀ (by norm_num)).1 (bottom.trans_lt high)
    omega
  · rintro ⟨low, high⟩
    exact ⟨(zpow_le_zpow_right₀ (by norm_num) low).trans bottom,
      top.trans_le (zpow_le_zpow_right₀ (by norm_num) (by omega))⟩

/-- A decimal that needs no exponent is written as a numeral from which nothing could be left out. -/
theorem Decimal.exists_tidy {d : Decimal} (reduced : d.digits % 10 ≠ 0) (near : IsNear d.value) :
    ∃ n : Numeral, decimalText .literal d = ofChars n.chars ∧ n.IsPlain ∧ Untrailed n.fraction ∧
      n.decimal.value = d.value := by
  have filled : d.digits ≠ 0 := fun zero => reduced (by rw [zero])
  obtain ⟨n, text, value, positional, unpadded, untrailed⟩ :=
    @exists_positional .literal rfl d ((isNear_iff filled).1 near)
  exact ⟨n, text, ⟨positional, unpadded filled⟩, untrailed (.inr reduced), value⟩

theorem floatText_of_positive {style : FloatStyle} {x : Float} {b : Binary} (there : binary? x = some b)
    (unsigned : b.negative = false) (filled : b.significand ≠ 0) : floatText style x = decimalText style (shortest b) := by
  rw [floatText, there]
  simp only [unsigned, if_neg filled, Bool.false_eq_true, if_false]

theorem floatText_zero (e : Int) : floatText .literal (ofDecimal 0 e) = ofChars Numeral.zero.chars := by
  have read : ofDecimal 0 e = floatOf .positive ⟨false, 0, -1074⟩ := by
    rw [ofDecimal_zero, floatOf, Binary.unpacked_of_zero rfl]
  rw [read, floatText, binary?_floatOf ⟨by norm_num, le_rfl, by norm_num, .inr rfl⟩ rfl]
  rfl

/-- A numeral of at most fifteen digits that needs no exponent and no zero at its end is what its float is written as. -/
theorem floatText_numeral {n : Numeral} (plain : n.IsPlain) (untrailed : Untrailed n.fraction)
    (near : IsNear n.decimal.value) (few : HasDigits 15 n.decimal.value) :
    floatText .literal (ofDecimal n.decimal.digits n.decimal.exponent) = ofChars n.chars := by
  by_cases zero : n.decimal.value = 0
  · have digits : n.decimal.digits = 0 := by
      have grid : (10 : ℚ) ^ n.decimal.exponent ≠ 0 := zpow_ne_zero _ (by norm_num)
      exact_mod_cast (mul_eq_zero.1 zero).resolve_right grid
    rw [digits, floatText_zero, Numeral.chars_eq_of_value plain Numeral.zero_isPlain untrailed (fun _ => rfl)
      (zero.trans Numeral.zero_value.symm)]
  · obtain ⟨c, p, small, reduced, value⟩ := few.exists_reduced zero
    obtain ⟨low, high⟩ := near.resolve_left zero
    obtain ⟨b, fits, full, unsigned, rounded⟩ := Binary.exists_rounded_of_range low high
    have canonical := fits.canonical (by omega)
    have short : shortest b = ⟨c, p⟩ :=
      Binary.shortest_eq canonical (rounded.log2_le canonical high) full small reduced (value ▸ rounded)
    rw [value] at near
    obtain ⟨m, text, plain', untrailed', same⟩ := @Decimal.exists_tidy ⟨c, p⟩ reduced near
    rw [ofDecimal_eq canonical fits.most rounded,
      floatText_of_positive (binary?_floatOf fits unsigned) unsigned (by omega), short, text,
      Numeral.chars_eq_of_value plain plain' untrailed untrailed' (value.trans same.symm)]

/-- No float is written as a numeral that ends in a zero too many, that would need an exponent or that has more than
seventeen digits. -/
theorem untrailed_of_floatText {n : Numeral} {x : Float} (plain : n.IsPlain)
    (text : floatText .literal x = ofChars n.chars) :
    Untrailed n.fraction ∧ IsNear n.decimal.value ∧ HasDigits 17 n.decimal.value := by
  -- other texts of floats begin with a sign or a letter, or have an exponent
  rw [floatText] at text
  cases there : binary? x with
  | none =>
    rw [there] at text
    simp only at text
    split at text
    · cases Numeral.lead_of_chars text.symm
    · split at text
      · cases Numeral.lead_of_chars text.symm
      · cases Numeral.lead_of_chars text.symm
  | some b =>
    rw [there] at text
    simp only at text
    split at text
    · cases Numeral.lead_of_chars text.symm
    · split at text
      · have same : n.chars = Numeral.zero.chars := ofChars_injective text.symm
        have value := (Numeral.value_eq_of_chars plain.positional rfl same).trans Numeral.zero_value
        exact ⟨fun _ => (Numeral.parts_eq_of_chars plain.positional rfl same).2, .inl value, 0, 0, by norm_num, by simp [value]⟩
      · next filled =>
        obtain ⟨fits, -⟩ := Binary.of_binary? there
        have canonical := fits.canonical filled
        have rounded := Binary.shortest_rounded canonical fits.most
        have digits : (shortest b).digits ≠ 0 := (magnitude_bounds canonical fits.most rounded).1
        by_cases near : IsNear (shortest b).value
        · have positive := (zpow_pos (by norm_num) _).trans_le (Decimal.first_bounds digits).1
          have below := rounded.log2_le canonical (near.resolve_left positive.ne').2
          obtain ⟨m, written, plain', untrailed, value⟩ :=
            Decimal.exists_tidy (Binary.shortest_mod_ten canonical below) near
          have same := ofChars_injective (text.symm.trans written)
          rw [(Numeral.parts_eq_of_chars plain.positional plain'.positional same).2,
            Numeral.value_eq_of_chars plain.positional plain'.positional same, value]
          exact ⟨untrailed, near, _, _, Binary.shortest_digits_lt canonical below, rfl⟩
        · refine absurd (text ▸ ?_) (Numeral.not_e_of_positional plain.positional)
          rw [Decimal.isNear_iff digits, Decimal.first, ← length_decimalDigits] at near
          rw [decimalText]
          simp only [if_neg near]
          exact List.mem_append_right _ List.mem_cons_self

end TaskCatalog.Number
