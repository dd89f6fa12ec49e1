import TaskCatalog.Number.FloatText
import TaskCatalog.Number.Spelling
import Mathlib.Algebra.Order.Field.Power
import Mathlib.Data.Rat.Cast.Order
import Mathlib.Tactic.FieldSimp
import Mathlib.Tactic.Ring

/-!
What numbers are written as: digits, and for a number with a fraction digits on both sides of a point, with an
exponent or without. The digits and the exponent give the number back.
-/

namespace TaskCatalog.Number

open Text

/-- The number that a decimal stands for. -/
def Decimal.value (d : Decimal) : ℚ := d.digits * 10 ^ d.exponent

/-- The number that digits stand for. -/
abbrev digitsValue (digits : List Char) : Nat := Nat.ofDigitChars 10 digits 0

theorem digit_bounds {c : Char} (digit : c.isDigit = true) : '0'.toNat ≤ c.toNat ∧ c.toNat ≤ '9'.toNat := by
  simp only [Char.isDigit, Bool.and_eq_true, decide_eq_true_eq] at digit
  exact ⟨digit.1, digit.2⟩

theorem lt_ten_of_digit {c : Char} (digit : c.isDigit = true) : c.toNat - '0'.toNat < 10 := by
  obtain ⟨-, high⟩ := digit_bounds digit
  simp only [Char.reduceToNat] at high ⊢
  omega

theorem eq_of_digit {c d : Char} (first : c.isDigit = true) (last : d.isDigit = true)
    (same : c.toNat - '0'.toNat = d.toNat - '0'.toNat) : c = d := by
  obtain ⟨lowC, -⟩ := digit_bounds first
  obtain ⟨lowD, -⟩ := digit_bounds last
  exact Char.toNat_inj.1 (by omega)

theorem digitValue_of_digit {c : Char} (digit : c.isDigit = true) : digitValue? 10 c = some (c.toNat - '0'.toNat) := by
  rw [digitValue?]
  simp only [digit, if_true, if_pos (lt_ten_of_digit digit)]

theorem digits?_of_digits {cs : List Char} (filled : cs ≠ []) (digits : ∀ c ∈ cs, c.isDigit = true) :
    digits? 10 cs = some (digitsValue cs) := by
  have from' : ∀ (cs : List Char) (n : Nat), (∀ c ∈ cs, c.isDigit = true) →
      cs.foldlM (fun n c => (digitValue? 10 c).map (10 * n + ·)) n = some (Nat.ofDigitChars 10 cs n) := by
    intro cs
    induction cs with
    | nil => exact fun n _ => rfl
    | cons c cs ih =>
      intro n digits
      rw [List.foldlM_cons, digitValue_of_digit (digits c List.mem_cons_self), Nat.ofDigitChars_cons]
      exact ih _ fun d h => digits d (List.mem_cons_of_mem _ h)
  rw [digits?, if_neg (by simpa using filled)]
  exact from' cs 0 digits

theorem decimalDigits_eq (n : Nat) : decimalDigits n = Nat.toDigits 10 n := Nat.toList_repr

theorem digitsValue_decimalDigits (n : Nat) : digitsValue (decimalDigits n) = n := by
  rw [decimalDigits_eq]
  exact Nat.ofDigitChars_ten_toDigits

theorem length_decimalDigits (n : Nat) : (decimalDigits n).length = (Nat.repr n).length := String.length_toList

theorem decimalDigits_filled (n : Nat) : decimalDigits n ≠ [] := by
  rw [decimalDigits_eq]
  exact Nat.toDigits_ne_nil

theorem isDigit_decimalDigits {n : Nat} {c : Char} (h : c ∈ decimalDigits n) : c.isDigit = true := by
  rw [decimalDigits_eq] at h
  exact Nat.isDigit_of_mem_toDigits (by decide) (by decide) h

def exponentChars (e : Int) : List Char :=
  let digits := decimalDigits e.natAbs
  'e' :: (if e < 0 then '-' else '+') :: (if digits.length < 2 then '0' :: digits else digits)

theorem exponentText_eq (e : Int) : exponentText e = ofChars (exponentChars e) := rfl

/-- At least one character, and all of them digits. -/
structure AreDigits (cs : List Char) : Prop where
  filled : cs ≠ []
  all : ∀ c ∈ cs, c.isDigit = true

theorem areDigits_decimalDigits (n : Nat) : AreDigits (decimalDigits n) :=
  ⟨decimalDigits_filled n, fun _ h => isDigit_decimalDigits h⟩

theorem length_repr (n : Nat) : (Nat.repr n).length = (Nat.toDigits 10 n).length := by
  rw [← String.length_toList, Nat.toList_repr]

theorem length_repr_pos (n : Nat) : 0 < (Nat.repr n).length := by
  rw [length_repr]
  exact Nat.length_toDigits_pos

theorem lt_pow_length (n : Nat) : n < 10 ^ (Nat.repr n).length :=
  (Nat.length_toDigits_le_iff (by decide) (length_repr_pos n)).1 (length_repr n).ge

theorem pow_length_le {n : Nat} (filled : n ≠ 0) : 10 ^ ((Nat.repr n).length - 1) ≤ n := by
  by_contra less
  rw [not_le] at less
  by_cases single : (Nat.repr n).length - 1 = 0
  · rw [single] at less
    omega
  · have shorter := (Nat.length_toDigits_le_iff (by decide) (Nat.pos_of_ne_zero single)).2 less
    rw [← length_repr] at shorter
    omega

theorem length_of_bounds {n k : Nat} (least : 10 ^ k ≤ n) (most : n < 10 ^ (k + 1)) : (Nat.repr n).length = k + 1 := by
  have filled : n ≠ 0 := Nat.ne_of_gt ((Nat.pow_pos (by decide)).trans_le least)
  have above := (Nat.pow_lt_pow_iff_right (by decide)).1 (least.trans_lt (lt_pow_length n))
  have below := (Nat.pow_lt_pow_iff_right (by decide)).1 ((pow_length_le filled).trans_lt most)
  omega

theorem digitsValue_append (cs ds : List Char) :
    digitsValue (cs ++ ds) = digitsValue cs * 10 ^ ds.length + digitsValue ds := by
  rw [digitsValue, Nat.ofDigitChars_append, Nat.ofDigitChars_eq_ofDigitChars_zero, Nat.mul_comm]

theorem digitsValue_singleton (c : Char) : digitsValue [c] = c.toNat - '0'.toNat := by
  rw [digitsValue, Nat.ofDigitChars_cons, Nat.ofDigitChars_nil, Nat.mul_zero, Nat.zero_add]

theorem digitsValue_cons (c : Char) (ds : List Char) :
    digitsValue (c :: ds) = (c.toNat - '0'.toNat) * 10 ^ ds.length + digitsValue ds := by
  rw [← digitsValue_singleton]
  exact digitsValue_append [c] ds

theorem digitsValue_lt {ds : List Char} (all : ∀ c ∈ ds, c.isDigit = true) : digitsValue ds < 10 ^ ds.length := by
  induction ds with
  | nil => exact Nat.one_pos
  | cons c ds ih =>
    have later := ih fun d hd => all d (List.mem_cons_of_mem _ hd)
    have small := Nat.mul_le_mul_right (10 ^ ds.length) (Nat.le_of_lt_succ (lt_ten_of_digit (all c List.mem_cons_self)))
    rw [digitsValue_cons, List.length_cons, Nat.pow_succ]
    omega

/-- As many digits with the same value are the same digits. -/
theorem eq_of_digitsValue {cs ds : List Char} (first : ∀ c ∈ cs, c.isDigit = true) (last : ∀ d ∈ ds, d.isDigit = true)
    (count : cs.length = ds.length) (same : digitsValue cs = digitsValue ds) : cs = ds := by
  induction cs generalizing ds with
  | nil => exact (List.length_eq_zero_iff.1 count.symm).symm
  | cons c cs ih =>
    cases ds with
    | nil => cases count
    | cons d ds =>
      obtain ⟨digitC, first⟩ := List.forall_mem_cons.1 first
      obtain ⟨digitD, last⟩ := List.forall_mem_cons.1 last
      have count : cs.length = ds.length := Nat.succ.inj count
      have lessC := digitsValue_lt first
      have lessD := digitsValue_lt last
      rw [digitsValue_cons, digitsValue_cons, count] at same
      rw [count] at lessC
      have lead : c.toNat - '0'.toNat = d.toNat - '0'.toNat := by
        have := congrArg (· / 10 ^ ds.length) same
        simpa only [Nat.mul_add_div (Nat.pow_pos Nat.succ_pos'), Nat.mul_comm _ (10 ^ ds.length), Nat.div_eq_of_lt lessC,
          Nat.div_eq_of_lt lessD, Nat.add_zero] using this
      rw [lead, Nat.add_left_cancel_iff] at same
      rw [eq_of_digit digitC digitD lead, ih first last count same]

theorem decimalDigits_zero {n : Nat} {ds : List Char} (h : decimalDigits n = '0' :: ds) : n = 0 ∧ ds = [] := by
  have all : ∀ c ∈ ds, c.isDigit = true := fun c hc => isDigit_decimalDigits (n := n) (by rw [h]; exact List.mem_cons_of_mem _ hc)
  have value : n = digitsValue ds := by
    have number := digitsValue_decimalDigits n
    rw [h, digitsValue, Nat.ofDigitChars_cons] at number
    exact number.symm
  have size : (Nat.repr n).length = ds.length + 1 := by
    rw [← String.length_toList]
    exact congrArg List.length h
  have zero : n = 0 := by
    by_contra filled
    have least := pow_length_le filled
    have most := digitsValue_lt all
    rw [size, Nat.add_sub_cancel, value] at least
    omega
  subst zero
  exact ⟨rfl, by simpa [decimalDigits] using h.symm⟩

/-- Digits without a zero in front of them are those of their value. -/
theorem decimalDigits_digitsValue {ds : List Char} (digits : AreDigits ds) (unpadded : ds.head? = some '0' → ds = ['0']) :
    decimalDigits (digitsValue ds) = ds := by
  by_cases zero : ds.head? = some '0'
  · rw [unpadded zero]
    rfl
  · obtain ⟨c, rest, rfl⟩ := List.exists_cons_of_ne_nil digits.filled
    have lead : 1 ≤ c.toNat - '0'.toNat := by
      refine Nat.one_le_iff_ne_zero.2 fun none => zero (congrArg some ?_)
      exact eq_of_digit (digits.all c List.mem_cons_self) rfl none
    have least : 10 ^ rest.length ≤ digitsValue (c :: rest) := by
      rw [digitsValue_cons]
      exact le_trans (Nat.le_mul_of_pos_left _ lead) (Nat.le_add_right _ _)
    refine eq_of_digitsValue (areDigits_decimalDigits _).all digits.all ?_ (digitsValue_decimalDigits _)
    rw [length_decimalDigits, length_of_bounds least (digitsValue_lt digits.all), List.length_cons]

theorem getLast?_decimalDigits {n : Nat} (padded : (decimalDigits n).getLast? = some '0') : n % 10 = 0 := by
  obtain ⟨ds, split⟩ := List.getLast?_eq_some_iff.1 padded
  have value := digitsValue_decimalDigits n
  rw [split, digitsValue_append, digitsValue_singleton] at value
  simp at value
  omega

theorem areDigits_zeros (k : Nat) : AreDigits (List.replicate (k + 1) '0') :=
  ⟨by simp, fun c h => by rw [List.eq_of_mem_replicate h]; rfl⟩

theorem AreDigits.append {cs ds : List Char} (h : AreDigits cs) (all : ∀ c ∈ ds, c.isDigit = true) :
    AreDigits (cs ++ ds) :=
  ⟨by simp [h.filled], fun c hc => (List.mem_append.1 hc).elim (h.all c) (all c)⟩

/-- The place of the first digit, counted from the one before the point. -/
def Decimal.first (d : Decimal) : Int := d.exponent + (Nat.repr d.digits).length - 1

theorem Decimal.first_bounds {d : Decimal} (filled : d.digits ≠ 0) : (10 : ℚ) ^ d.first ≤ d.value ∧ d.value < 10 ^ (d.first + 1) := by
  have positive : (0 : ℚ) < 10 ^ d.exponent := zpow_pos (by norm_num) _
  have count := length_repr_pos d.digits
  have low : d.first = ((Nat.repr d.digits).length - 1 : Nat) + d.exponent := by
    rw [first]
    omega
  have high : d.first + 1 = ((Nat.repr d.digits).length : Nat) + d.exponent := by
    rw [first]
    omega
  constructor
  · rw [low, zpow_add₀ (by norm_num), zpow_natCast, value, mul_le_mul_iff_left₀ positive]
    exact_mod_cast pow_length_le filled
  · rw [high, zpow_add₀ (by norm_num), zpow_natCast, value, mul_lt_mul_iff_left₀ positive]
    exact_mod_cast lt_pow_length d.digits

/-- Digits around a point, and an exponent if one is written. -/
structure Numeral where
  whole : List Char
  fraction : List Char
  exponent : Option Int
  wholeDigits : AreDigits whole
  fractionDigits : AreDigits fraction

namespace Numeral

def chars (n : Numeral) : List Char := n.whole ++ '.' :: (n.fraction ++ n.exponent.elim [] exponentChars)

def decimal (n : Numeral) : Decimal :=
  ⟨digitsValue (n.whole ++ n.fraction), n.exponent.getD 0 - n.fraction.length⟩

variable {ds : List Char} (digits : AreDigits ds)

include digits

theorem exists_padded (k : Nat) : ∃ n : Numeral, n.whole = ds ++ List.replicate k '0' ∧ n.fraction = ['0'] ∧
    n.exponent = none ∧ n.decimal.value = digitsValue ds * 10 ^ k := by
  have zeros : ∀ c ∈ List.replicate k '0', c.isDigit = true := fun c h => by
    rw [List.eq_of_mem_replicate h]
    rfl
  refine ⟨⟨ds ++ List.replicate k '0', ['0'], none, digits.append zeros, areDigits_zeros 0⟩, rfl, rfl, rfl, ?_⟩
  have number : digitsValue (ds ++ List.replicate k '0' ++ ['0']) = digitsValue ds * 10 ^ k * 10 := by
    simp only [digitsValue, Nat.ofDigitChars_append, Nat.ofDigitChars_replicate_zero, Nat.ofDigitChars_cons,
      Nat.ofDigitChars_nil, Nat.sub_self, Nat.add_zero]
    ring
  simp only [decimal, Decimal.value, number, Option.getD_none, List.length_singleton]
  push_cast
  field_simp

theorem exists_parted {k : Nat} (positive : 0 < k) (inside : k < ds.length) (e : Option Int) : ∃ n : Numeral,
    n.whole = ds.take k ∧ n.fraction = ds.drop k ∧ n.exponent = e ∧
      n.decimal.value = digitsValue ds * 10 ^ (e.getD 0 + k - ds.length) := by
  have front : AreDigits (ds.take k) :=
    ⟨by rw [Ne, List.take_eq_nil_iff]; exact fun h => h.elim (by omega) digits.filled,
      fun c h => digits.all c (List.mem_of_mem_take h)⟩
  have back : AreDigits (ds.drop k) :=
    ⟨by rw [Ne, List.drop_eq_nil_iff]; omega, fun c h => digits.all c (List.mem_of_mem_drop h)⟩
  refine ⟨⟨ds.take k, ds.drop k, e, front, back⟩, rfl, rfl, rfl, ?_⟩
  have place : e.getD 0 - ((ds.length - k : Nat) : Int) = e.getD 0 + k - ds.length := by omega
  simp only [decimal, Decimal.value, List.take_append_drop, List.length_drop, place]

theorem exists_below (k : Nat) : ∃ n : Numeral, n.whole = ['0'] ∧ n.fraction = List.replicate k '0' ++ ds ∧
    n.exponent = none ∧ n.decimal.value = digitsValue ds * 10 ^ (-(k + ds.length : Int)) := by
  have fraction : AreDigits (List.replicate k '0' ++ ds) := by
    refine ⟨by simp [digits.filled], fun c h => ?_⟩
    rcases List.mem_append.1 h with h | h
    · rw [List.eq_of_mem_replicate h]
      rfl
    · exact digits.all c h
  refine ⟨⟨['0'], List.replicate k '0' ++ ds, none, areDigits_zeros 0, fraction⟩, rfl, rfl, rfl, ?_⟩
  have number : digitsValue (['0'] ++ (List.replicate k '0' ++ ds)) = digitsValue ds := by
    simp only [digitsValue, Nat.ofDigitChars_append, Nat.ofDigitChars_replicate_zero, Nat.ofDigitChars_cons,
      Nat.ofDigitChars_nil]
    rfl
  have place : (0 : Int) - ((List.replicate k '0' ++ ds).length : Nat) = -(k + ds.length : Int) := by
    rw [List.length_append, List.length_replicate]
    push_cast
    ring
  simp only [decimal, Decimal.value, number, Option.getD_none, place]

theorem exists_scientific (e : Int) : ∃ n : Numeral,
    n.chars = (match ds with
      | [c] => [c, '.', '0']
      | c :: more => c :: '.' :: more
      | [] => []) ++ exponentChars e ∧ n.decimal.value = digitsValue ds * 10 ^ (e + 1 - ds.length) := by
  match ds, digits with
  | [], digits => exact absurd rfl digits.filled
  | [c], digits =>
    obtain ⟨n, whole, fraction, exponent, value⟩ :=
      exists_parted (digits.append (areDigits_zeros 0).all) Nat.one_pos (by simp) (some e)
    refine ⟨n, by rw [chars, whole, fraction, exponent]; rfl, ?_⟩
    have number : digitsValue ([c] ++ List.replicate (0 + 1) '0') = digitsValue [c] * 10 := by
      rw [digitsValue, Nat.ofDigitChars_append, Nat.ofDigitChars_replicate_zero]
      ring
    have place : (some e).getD 0 + ((1 : Nat) : Int) - ([c] ++ List.replicate (0 + 1) '0').length = e - 1 := by
      simp
      omega
    have one : e + 1 - ([c].length : Int) = e := by simp
    rw [value, number, place, one, zpow_sub_one₀ (by norm_num)]
    push_cast
    field_simp
  | c :: d :: more, digits =>
    obtain ⟨n, whole, fraction, exponent, value⟩ := exists_parted digits (k := 1) Nat.one_pos (by simp) (some e)
    exact ⟨n, by rw [chars, whole, fraction, exponent]; rfl, value⟩

end Numeral

/-- Digits that do not begin with a zero, unless they are one. -/
def Unpadded (ds : List Char) : Prop := ds.head? = some '0' → ds = ['0']

/-- Digits that do not end in a zero, unless they are one. -/
def Untrailed (ds : List Char) : Prop := ds.getLast? = some '0' → ds = ['0']

instance (ds : List Char) : Decidable (Unpadded ds) := inferInstanceAs (Decidable (_ → _))

instance (ds : List Char) : Decidable (Untrailed ds) := inferInstanceAs (Decidable (_ → _))

theorem unpadded_of_head {n : Nat} (filled : n ≠ 0) {ds : List Char} (head : ds.head? = (decimalDigits n).head?) :
    Unpadded ds := by
  intro zero
  obtain ⟨rest, split⟩ := List.head?_eq_some_iff.1 (head.symm.trans zero)
  exact absurd (decimalDigits_zero split).1 filled

theorem untrailed_of_last {n : Nat} (reduced : n % 10 ≠ 0) {ds : List Char}
    (last : ds.getLast? = (decimalDigits n).getLast?) : Untrailed ds :=
  fun zero => absurd (getLast?_decimalDigits (last.symm.trans zero)) reduced

theorem Numeral.chars_of_positional {n : Numeral} (positional : n.exponent = none) :
    n.chars = n.whole ++ '.' :: n.fraction := by
  rw [chars, positional, Option.elim_none, List.append_nil]

/-- A decimal whose first digit is near the point is written without an exponent. -/
theorem exists_positional {style : FloatStyle} (wholePoint : style.wholePoint = true) {d : Decimal}
    (near : -4 ≤ d.first ∧ d.first < 16) : ∃ n : Numeral, decimalText style d = ofChars n.chars ∧
      n.decimal.value = d.value ∧ n.exponent = none ∧ (d.digits ≠ 0 → Unpadded n.whole) ∧
      (0 ≤ d.exponent ∨ d.digits % 10 ≠ 0 → Untrailed n.fraction) := by
  have areDigits := areDigits_decimalDigits d.digits
  have number : d.value = digitsValue (decimalDigits d.digits) * 10 ^ d.exponent := by
    rw [Decimal.value, digitsValue_decimalDigits]
  have filled := List.length_pos_of_ne_nil areDigits.filled
  rw [Decimal.first, ← length_decimalDigits] at near
  rw [decimalText, number]
  simp only [wholePoint, if_true, if_pos near]
  -- the point stands behind zeros that follow the digits, among the digits, or before zeros that precede them
  split
  · next isWhole =>
    obtain ⟨n, whole, fraction, exponent, value⟩ := Numeral.exists_padded areDigits d.exponent.toNat
    refine ⟨n, ?_, ?_, exponent, fun filled => ?_, fun _ => ?_⟩
    · rw [Numeral.chars_of_positional exponent, whole, fraction]
      exact List.map_append.symm
    · rw [value, ← zpow_natCast, Int.toNat_of_nonneg isWhole]
    · exact unpadded_of_head filled (whole ▸ List.head?_append_of_ne_nil _ areDigits.filled)
    · exact fun _ => fraction
  · next isBroken =>
    split
    · obtain ⟨n, whole, fraction, exponent, value⟩ := Numeral.exists_parted areDigits
        (k := (d.exponent + (decimalDigits d.digits).length - 1 + 1).toNat) (by omega) (by omega) none
      refine ⟨n, ?_, ?_, exponent, fun filled => ?_, fun reduced => ?_⟩
      · rw [Numeral.chars_of_positional exponent, whole, fraction]
      · rw [value]
        congr 2
        simp only [Option.getD_none]
        omega
      · refine unpadded_of_head filled ?_
        rw [whole, List.head?_take, if_neg (by omega)]
      · refine untrailed_of_last (reduced.resolve_left isBroken) ?_
        rw [fraction, List.getLast?_drop, if_neg (by omega)]
    · obtain ⟨n, whole, fraction, exponent, value⟩ := Numeral.exists_below areDigits
        (-(d.exponent + (decimalDigits d.digits).length - 1) - 1).toNat
      refine ⟨n, ?_, ?_, exponent, fun _ _ => whole, fun reduced => ?_⟩
      · rw [Numeral.chars_of_positional exponent, whole, fraction]
        rfl
      · rw [value]
        congr 2
        omega
      · exact untrailed_of_last (reduced.resolve_left isBroken)
          (fraction ▸ List.getLast?_append_of_ne_nil _ areDigits.filled)

theorem exists_numeral {style : FloatStyle} (wholePoint : style.wholePoint = true)
    (exponentPoint : style.exponentPoint = true) (d : Decimal) :
    ∃ n : Numeral, decimalText style d = ofChars n.chars ∧ n.decimal.value = d.value := by
  by_cases near : -4 ≤ d.first ∧ d.first < 16
  · obtain ⟨n, text, value, -⟩ := exists_positional wholePoint near
    exact ⟨n, text, value⟩
  · have areDigits := areDigits_decimalDigits d.digits
    have number : d.value = digitsValue (decimalDigits d.digits) * 10 ^ d.exponent := by
      rw [Decimal.value, digitsValue_decimalDigits]
    rw [Decimal.first, ← length_decimalDigits] at near
    rw [decimalText, number]
    simp only [exponentPoint, if_true, if_neg near]
    generalize decimalDigits d.digits = ds at areDigits
    obtain ⟨n, text, value⟩ := Numeral.exists_scientific areDigits (d.exponent + ds.length - 1)
    refine ⟨n, ?_, ?_⟩
    · rw [text, exponentText_eq, ofChars, ofChars, ← List.map_append]
      rcases ds with _ | ⟨c, _ | ⟨d, more⟩⟩
      · exact absurd rfl areDigits.filled
      · rfl
      · rfl
    · rw [value]
      congr 2
      omega

theorem takeWhile_digits {cs rest : List Char} (digits : AreDigits cs) (stop : rest.head?.any Char.isDigit = false) :
    (cs ++ rest).takeWhile Char.isDigit = cs := by
  rw [List.takeWhile_append_of_pos digits.all]
  cases rest with
  | nil => simp
  | cons c rest => rw [List.takeWhile_cons_of_neg (by simpa using stop), List.append_nil]

theorem dropWhile_digits {cs rest : List Char} (digits : AreDigits cs) (stop : rest.head?.any Char.isDigit = false) :
    (cs ++ rest).dropWhile Char.isDigit = rest := by
  rw [List.dropWhile_append_of_pos digits.all]
  cases rest with
  | nil => rfl
  | cons c rest => rw [List.dropWhile_cons_of_neg (by simpa using stop)]

theorem exists_exponent (e : Int) : ∃ negative ds, exponentChars e = 'e' :: (if negative then '-' else '+') :: ds ∧
    AreDigits ds ∧ withSign negative (digitsValue ds) = e := by
  refine ⟨decide (e < 0), if (decimalDigits e.natAbs).length < 2 then '0' :: decimalDigits e.natAbs
    else decimalDigits e.natAbs, ?_, ?_, ?_⟩
  · simp [exponentChars]
  · split
    · exact (areDigits_zeros 0).append (areDigits_decimalDigits _).all
    · exact areDigits_decimalDigits _
  · have number : digitsValue (if (decimalDigits e.natAbs).length < 2 then '0' :: decimalDigits e.natAbs
        else decimalDigits e.natAbs) = e.natAbs := by
      split
      · exact digitsValue_decimalDigits _
      · exact digitsValue_decimalDigits _
    rw [number, withSign]
    by_cases negative : e < 0
    · simp only [negative, decide_true, if_true]
      omega
    · simp only [negative, decide_false, Bool.false_eq_true, if_false]
      omega

theorem Numeral.decimal?_chars (n : Numeral) :
    decimal? n.chars = some (ofDecimal n.decimal.digits n.decimal.exponent) := by
  have whole : n.chars.takeWhile Char.isDigit = n.whole := takeWhile_digits n.wholeDigits rfl
  have rest : n.chars.drop n.whole.length = '.' :: (n.fraction ++ n.exponent.elim [] exponentChars) :=
    List.drop_left
  have stop : (n.exponent.elim [] exponentChars).head?.any Char.isDigit = false := by
    cases n.exponent <;> rfl
  have fraction := takeWhile_digits n.fractionDigits stop
  have tail := dropWhile_digits n.fractionDigits stop
  have digits := n.wholeDigits.append n.fractionDigits.all
  rw [decimal?]
  simp only [whole, rest, fraction, tail, List.isEmpty_eq_false_iff.2 n.wholeDigits.filled,
    digits?_of_digits digits.filled digits.all]
  cases h : n.exponent with
  | none => simp [decimal, h]
  | some e =>
    obtain ⟨negative, ds, eq, areDigits, value⟩ := exists_exponent e
    have number := digits?_of_digits areDigits.filled areDigits.all
    have sign : signed ((if negative = true then '-' else '+') :: ds) = (negative, ds) := by cases negative <;> rfl
    simp [decimal, h, eq, sign, number, value]

end TaskCatalog.Number
