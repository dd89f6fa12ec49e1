import TaskCatalog.Proofs.DecimalReading
import TaskCatalog.Proofs.Layout
import TaskCatalog.Proofs.TextLines
import TaskCatalog.Yaml.ScalarValue

/-!
Scalars that are not texts: nothing, truth values and numbers are written as one plain word, and the word has
the tag of what it was and is read as it.
-/

namespace TaskCatalog.Yaml

open Text Number

namespace Writing

def isWordChar (c : Char) : Bool := c.isAlphanum || c == '.' || c == '+' || c == '-'

/-- Characters of one word, with a letter or a digit in the first or the second place. -/
structure IsWord (w : List Char) : Prop where
  all : ∀ c ∈ w, isWordChar c = true
  begins : ∃ c v, w = c :: v ∧ (c.isAlphanum = true ∨ v.head?.any Char.isAlphanum = true)

theorem not_break_of_word {c : Char} (word : isWordChar c = true) : Cursor.isBreakOrBlank c = false := by
  cases h : Cursor.isBreakOrBlank c with
  | false => rfl
  | true =>
    simp only [Cursor.isBreakOrBlank, isSpaceOrTab, isBreak, Bool.or_eq_true, beq_iff_eq] at h
    rcases h with (rfl | rfl) | ((rfl | rfl) | rfl) | rfl <;> cases word

theorem ne_of_word {c d : Char} (word : isWordChar c = true) (other : isWordChar d = false) : c ≠ d := by
  rintro rfl
  rw [word] at other
  cases other

variable {w : List Char}

theorem IsWord.filled (h : IsWord w) : w ≠ [] := by
  obtain ⟨c, v, rfl, -⟩ := h.begins
  simp

theorem mem_ofChars {l : Letter} (h : l ∈ ofChars w) : ∃ c ∈ w, l = .scalar c := by
  obtain ⟨c, hc, rfl⟩ := List.mem_map.1 h
  exact ⟨c, hc, rfl⟩

theorem not_edge_of_word {c : Char} (word : isWordChar c = true) : isEdge (.scalar c) = false := by
  have inside := Bool.or_eq_false_iff.1 (not_break_of_word word)
  have notBlank : c ≠ ' ' := ne_of_word word rfl
  simp [isEdge, isBlankLetter, blank, notBlank, isBreakLetter, inside.2]

theorem not_gap_of_word {c : Char} (word : isWordChar c = true) : isGap (.scalar c) = false := by
  have inside := Bool.or_eq_false_iff.1 (not_break_of_word word)
  have notBlank : c ≠ ' ' := ne_of_word word rfl
  have notTab : c ≠ '\t' := ne_of_word word rfl
  have notNull : c ≠ '\x00' := ne_of_word word rfl
  have notReturn : c ≠ '\r' := ne_of_word word rfl
  simp [isGap, notBlank, notTab, notNull, notReturn, inside.2]

theorem runs_of_solid {t : Text} (filled : t ≠ []) (solid : ∀ l ∈ t, isEdge l = false) : runs t = [.word t] := by
  induction t with
  | nil => exact absurd rfl filled
  | cons l t ih =>
    have edges := Bool.or_eq_false_iff.1 (solid l List.mem_cons_self)
    unfold runs
    simp only [edges.1, edges.2, Bool.false_eq_true, if_false]
    cases t with
    | nil => rfl
    | cons m t => rw [ih (List.cons_ne_nil _ _) fun x hx => solid x (List.mem_cons_of_mem _ hx)]

theorem hasIndicator_of_word {p : Letter} (all : ∀ c ∈ w, isWordChar c = true) :
    hasIndicator (some p) (ofChars w) = false := by
  induction w generalizing p with
  | nil => rfl
  | cons c w ih =>
    have notColon : c ≠ ':' := ne_of_word (all c List.mem_cons_self) rfl
    have notHash : c ≠ '#' := ne_of_word (all c List.mem_cons_self) rfl
    have later := @ih (.scalar c) fun d hd => all d (List.mem_cons_of_mem _ hd)
    simp only [ofChars, List.map_cons, hasIndicator] at later ⊢
    simp [notColon, notHash, later]

theorem not_opening_of_word {c : Char} (word : isWordChar c = true) : isOpening (.scalar c) = false := by
  cases h : isOpening (.scalar c) with
  | false => rfl
  | true =>
    have marks : ∀ d ∈ "#,[]\x7b\x7d&*!|>'\"%@\x60".toList, (isWordChar d == false) = true :=
      List.all_eq_true.1 (by decide)
    rw [isOpening, Letter.satisfies_scalar, List.contains_eq_mem, decide_eq_true_eq] at h
    rw [eq_of_beq (marks c h)] at word
    cases word

theorem ne_of_alphanum {c d : Char} (inner : c.isAlphanum = true) (other : d.isAlphanum = false) : c ≠ d := by
  rintro rfl
  rw [inner] at other
  cases other

theorem IsWord.unmarked (h : IsWord w) : isMarked (ofChars w) = false := by
  obtain ⟨c, v, rfl, front⟩ := h.begins
  have word := h.all c List.mem_cons_self
  have later := @hasIndicator_of_word v (.scalar c) fun d hd => h.all d (List.mem_cons_of_mem _ hd)
  have mark (m : Char) (other : m.isAlphanum = false) :
      List.isPrefixOf [Letter.scalar m, .scalar m, .scalar m] (ofChars (c :: v)) = false := by
    rcases front with inner | second
    · have apart : m ≠ c := (ne_of_alphanum inner other).symm
      simp [ofChars, List.isPrefixOf, apart]
    · cases v with
      | nil => cases second
      | cons d v =>
        have apart : m ≠ d := (ne_of_alphanum (by simpa using second) other).symm
        simp [ofChars, List.isPrefixOf, apart]
  have alone : ((ofChars v).head?.all isGap &&
      (Letter.scalar c).satisfies fun c => c == '?' || c == ':' || c == '-') = false := by
    rcases front with inner | second
    · have marks : (Letter.scalar c).satisfies (fun c => c == '?' || c == ':' || c == '-') = false := by
        simp [ne_of_alphanum inner (d := '?') rfl, ne_of_alphanum inner (d := ':') rfl,
          ne_of_alphanum inner (d := '-') rfl]
      rw [marks, Bool.and_false]
    · cases v with
      | nil => cases second
      | cons d v =>
        simp [ofChars, not_gap_of_word (h.all d (by simp))]
  rw [isMarked, show ("---" : Text) = [.scalar '-', .scalar '-', .scalar '-'] from rfl,
    show ("..." : Text) = [.scalar '.', .scalar '.', .scalar '.'] from rfl, mark '-' rfl, mark '.' rfl]
  simp only [ofChars, List.map_cons, hasIndicator] at later alone ⊢
  rw [alone, not_opening_of_word word]
  simpa using later

theorem IsWord.edges (h : IsWord w) : ∀ l ∈ ofChars w, isEdge l = false := by
  intro l hl
  obtain ⟨c, hc, rfl⟩ := mem_ofChars hl
  exact not_edge_of_word (h.all c hc)

theorem IsWord.runs_eq (h : IsWord w) : runs (ofChars w) = [.word (ofChars w)] :=
  runs_of_solid (by simpa [ofChars] using h.filled) h.edges

theorem IsWord.isPlain (h : IsWord w) : IsPlain (ofChars w) := by
  refine ⟨?_, fun l hl _ => ?_, h.unmarked⟩
  · rw [h.runs_eq]
    exact .last (by simpa [ofChars] using h.filled) h.edges
  · obtain ⟨c, hc, rfl⟩ := mem_ofChars hl
    exact ⟨c, rfl, not_break_of_word (h.all c hc), ne_of_word (h.all c hc) rfl⟩

end Writing

theorem Scanner.isScalar_word {w : List Char} (h : Writing.IsWord w) {margin : Nat} (indented : 0 < margin) :
    Scanner.IsScalar margin w (ofChars w) true := by
  have scalar := @Scanner.isScalar_plain ⟨0, margin, true⟩ _ h.isPlain indented
  rw [h.runs_eq] at scalar
  simpa [Writing.folded] using scalar

/-- A dash before a negative number. -/
def signChars (negative : Bool) : List Char := if negative then ['-'] else []

/-- Characters of a number without its sign. -/
structure IsUnsigned (w : List Char) : Prop where
  all : ∀ c ∈ w, Writing.isWordChar c = true
  begins : w.head?.any Char.isDigit = true

variable {w : List Char} {negative : Bool}

theorem isAlphanum_of_digit {c : Char} (digit : c.isDigit = true) : c.isAlphanum = true := by
  rw [Char.isAlphanum, digit, Bool.or_true]

theorem isWordChar_of_digit {c : Char} (digit : c.isDigit = true) : Writing.isWordChar c = true := by
  simp [Writing.isWordChar, isAlphanum_of_digit digit]

theorem ne_of_digit {c d : Char} (digit : c.isDigit = true) (other : d.isDigit = false) : c ≠ d := by
  rintro rfl
  rw [digit] at other
  cases other

theorem IsUnsigned.exists_digit (h : IsUnsigned w) : ∃ c v, w = c :: v ∧ c.isDigit = true := by
  have begins := h.begins
  cases w with
  | nil => cases begins
  | cons c v => exact ⟨c, v, rfl, by simpa using begins⟩

theorem isUnsigned_digits {ds : List Char} (h : AreDigits ds) : IsUnsigned ds := by
  refine ⟨fun c hc => isWordChar_of_digit (h.all c hc), ?_⟩
  obtain ⟨c, v, rfl⟩ := List.exists_cons_of_ne_nil h.filled
  simpa using h.all c List.mem_cons_self

/-- A numeral is made of digits, of the point and of the letter and the sign of its exponent. -/
theorem mem_numeral {n : Numeral} {c : Char} (hc : c ∈ n.chars) : c.isDigit = true ∨ c ∈ ['.', 'e', '+', '-'] := by
  simp only [Numeral.chars, List.mem_append, List.mem_cons] at hc
  rcases hc with hc | rfl | hc | hc
  · exact .inl (n.wholeDigits.all c hc)
  · exact .inr (by decide)
  · exact .inl (n.fractionDigits.all c hc)
  · cases h : n.exponent with
    | none => simp [h] at hc
    | some e =>
      obtain ⟨sign, ds, eq, digits, -⟩ := exists_exponent e
      rw [h, Option.elim_some, eq, List.mem_cons, List.mem_cons] at hc
      rcases hc with rfl | rfl | hc
      · exact .inr (by decide)
      · exact .inr (by cases sign <;> decide)
      · exact .inl (digits.all c hc)

theorem isUnsigned_numeral (n : Numeral) : IsUnsigned n.chars := by
  refine ⟨?_, ?_⟩
  · intro c hc
    rcases mem_numeral hc with digit | mark
    · exact isWordChar_of_digit digit
    · have all : ∀ c ∈ ['.', 'e', '+', '-'], Writing.isWordChar c = true := by decide
      exact all c mark
  · obtain ⟨c, v, eq⟩ := List.exists_cons_of_ne_nil n.wholeDigits.filled
    have digit := n.wholeDigits.all c (by rw [eq]; exact List.mem_cons_self)
    simpa [Numeral.chars, eq] using digit

namespace IsUnsigned

variable (h : IsUnsigned w)

include h

theorem isWord (negative : Bool) : Writing.IsWord (signChars negative ++ w) := by
  obtain ⟨c, v, rfl, digit⟩ := h.exists_digit
  cases negative with
  | false => exact ⟨h.all, c, v, rfl, .inl (isAlphanum_of_digit digit)⟩
  | true =>
    refine ⟨fun d hd => ?_, '-', c :: v, rfl, .inr (isAlphanum_of_digit digit)⟩
    rcases List.mem_cons.1 hd with rfl | hd
    · rfl
    · exact h.all d hd

theorem signed_eq (negative : Bool) : signed (signChars negative ++ w) = (negative, w) := by
  obtain ⟨c, v, rfl, digit⟩ := h.exists_digit
  cases negative with
  | true => rfl
  | false =>
    have notDash : c ≠ '-' := ne_of_digit digit rfl
    have notPlus : c ≠ '+' := ne_of_digit digit rfl
    simp [signChars, signed, notDash, notPlus]

theorem dropSign_eq (negative : Bool) : Spelling.dropSign (signChars negative ++ w) = w := by
  obtain ⟨c, v, rfl, digit⟩ := h.exists_digit
  cases negative with
  | true => rfl
  | false =>
    have notDash : c ≠ '-' := ne_of_digit digit rfl
    have notPlus : c ≠ '+' := ne_of_digit digit rfl
    simp [signChars, Spelling.dropSign, notDash, notPlus]

theorem not_worded (negative : Bool) :
    Spelling.isNull (signChars negative ++ w) = false ∧ Spelling.isTruth (signChars negative ++ w) = false := by
  have front : (signChars negative ++ w).head?.any (fun c => c.isDigit || c == '-') = true := by
    obtain ⟨c, v, rfl, digit⟩ := h.exists_digit
    cases negative with
    | true => rfl
    | false => simp [signChars, digit]
  have listed {words : List String} (other : ∀ v ∈ words, v.toList.head?.any (fun c => c.isDigit || c == '-') = false) :
      words.contains (String.ofList (signChars negative ++ w)) = false := by
    cases found : words.contains (String.ofList (signChars negative ++ w)) with
    | false => rfl
    | true =>
      have apart := other _ (List.contains_iff_mem.1 found)
      rw [String.toList_ofList, front] at apart
      cases apart
  exact ⟨listed (by decide), listed (by decide)⟩

theorem dropLastFeed_eq (negative : Bool) :
    Spelling.dropLastFeed (signChars negative ++ w) = signChars negative ++ w := by
  rw [Spelling.dropLastFeed]
  split
  · next feed =>
    have word := (h.isWord negative).all _ (List.mem_of_getLast? feed)
    cases word
  · rfl

end IsUnsigned

theorem isDigits_of_digits {ds : List Char} (h : AreDigits ds) : Spelling.isDigits ds = true := by
  obtain ⟨c, v, rfl⟩ := List.exists_cons_of_ne_nil h.filled
  simp only [Spelling.isDigits, h.all c List.mem_cons_self, Bool.true_and, List.all_eq_true]
  exact fun d hd => by rw [Spelling.isDigitOrLow, h.all d (List.mem_cons_of_mem _ hd), Bool.true_or]

theorem pieces_of_digits {ds : List Char} {separator : Char} (h : ∀ c ∈ ds, c ≠ separator) :
    Spelling.pieces separator ds = [ds] := by
  induction ds with
  | nil => rfl
  | cons c ds ih =>
    rw [Spelling.pieces, if_neg (h c List.mem_cons_self), ih fun d hd => h d (List.mem_cons_of_mem _ hd)]

theorem isReal_numeral (negative : Bool) (n : Numeral) : Spelling.isReal (signChars negative ++ n.chars) = true := by
  have unsigned := isUnsigned_numeral n
  have point : ∀ c ∈ n.whole, (c != '.') = true := fun c hc => by simpa using ne_of_digit (n.wholeDigits.all c hc) rfl
  have whole : n.chars.takeWhile (· != '.') = n.whole := by
    rw [Numeral.chars, List.takeWhile_append_of_pos point, List.takeWhile_cons_of_neg (by decide), List.append_nil]
  have fraction : n.chars.drop (n.whole.length + 1) = n.fraction ++ n.exponent.elim [] exponentChars := by
    rw [Numeral.chars, ← List.drop_drop, List.drop_left]
    rfl
  have tail : (n.fraction ++ n.exponent.elim [] exponentChars).dropWhile Spelling.isDigitOrLow =
      n.exponent.elim [] exponentChars := by
    rw [List.dropWhile_append_of_pos fun c hc => by rw [Spelling.isDigitOrLow, n.fractionDigits.all c hc, Bool.true_or]]
    cases n.exponent <;> rfl
  have longer : ¬n.whole.length = n.chars.length := by
    rw [Numeral.chars, List.length_append, List.length_cons]
    omega
  have pieces : Spelling.pieces ':' n.whole = [n.whole] :=
    pieces_of_digits fun c hc => ne_of_digit (n.wholeDigits.all c hc) rfl
  have exponent : Spelling.isExponent (n.exponent.elim [] exponentChars) = true := by
    cases n.exponent with
    | none => rfl
    | some e =>
      obtain ⟨sign, ds, eq, digits, -⟩ := exists_exponent e
      rw [Option.elim_some, eq, Spelling.isExponent]
      have filled := List.isEmpty_eq_false_iff.2 digits.filled
      have all : ds.all Char.isDigit = true := List.all_eq_true.2 digits.all
      cases sign <;> simp [filled, all]
  rw [Spelling.isReal, unsigned.dropSign_eq]
  simp only [whole, fraction, tail, longer, if_false, List.isEmpty_eq_false_iff.2 n.wholeDigits.filled,
    Bool.false_eq_true, pieces, isDigits_of_digits n.wholeDigits, exponent, Bool.and_true]

theorem ofSpelling_numeral (negative : Bool) (n : Numeral) :
    Tag.ofSpelling (ofChars (signChars negative ++ n.chars)) = .known .real := by
  have unsigned := isUnsigned_numeral n
  obtain ⟨notNull, notTruth⟩ := unsigned.not_worded negative
  rw [Tag.ofSpelling, chars?_ofChars]
  simp [unsigned.dropLastFeed_eq, notNull, notTruth, isReal_numeral]

/-- Characters that are the same in lower case. -/
def isLowered (c : Char) : Bool := c.isDigit || c == '.' || c == '-' || c == '+' || c == 'e'

theorem lowerChar_of_digit {c : Char} (digit : c.isDigit = true) : lowerChar c = c := by
  have bounds : 48 ≤ c.toNat ∧ c.toNat ≤ 57 := by
    simp only [Char.isDigit, Bool.and_eq_true, decide_eq_true_eq] at digit
    exact digit
  have notUpper : ¬(c.val ≥ 'A'.val ∧ c.val ≤ 'Z'.val) := fun upper => by
    have high : 65 ≤ c.toNat := upper.1
    omega
  rw [lowerChar, if_pos (by omega)]
  exact dif_neg notUpper

theorem lower_of_lowered {cs : List Char} (h : ∀ c ∈ cs, isLowered c = true) : lower (ofChars cs) = ofChars cs := by
  have from' : ∀ (cs : List Char) (before : Text), (∀ c ∈ cs, isLowered c = true) →
      lowerAfter before (ofChars cs) = ofChars cs := by
    intro cs
    induction cs with
    | nil => exact fun _ _ => rfl
    | cons c cs ih =>
      intro before h
      have here := h c List.mem_cons_self
      have notSigma : c ≠ '\u03A3' := by rintro rfl; cases here
      have notDotted : c ≠ '\u0130' := by rintro rfl; cases here
      have same : lowerChar c = c := by
        simp only [isLowered, Bool.or_eq_true, beq_iff_eq] at here
        rcases here with (((digit | rfl) | rfl) | rfl) | rfl
        · exact lowerChar_of_digit digit
        all_goals decide
      have later := ih (.scalar c :: before) fun d hd => h d (List.mem_cons_of_mem _ hd)
      simp only [ofChars, List.map_cons, lowerAfter] at later ⊢
      simp [notSigma, notDotted, same, later]
  exact from' cs [] h

theorem isLowered_numeral (negative : Bool) (n : Numeral) : ∀ c ∈ signChars negative ++ n.chars, isLowered c = true := by
  intro c hc
  rcases List.mem_append.1 hc with hc | hc
  · cases negative with
    | false => cases hc
    | true =>
      rw [List.mem_singleton.1 hc]
      rfl
  · rcases mem_numeral hc with digit | mark
    · simp [isLowered, digit]
    · have all : ∀ c ∈ ['.', 'e', '+', '-'], isLowered c = true := by decide
      exact all c mark

theorem wordChar_bounds {c : Char} (word : Writing.isWordChar c = true) : 43 ≤ c.toNat ∧ c.toNat ≤ 122 := by
  unfold Writing.isWordChar Char.isAlphanum Char.isAlpha Char.isUpper Char.isLower Char.isDigit at word
  simp only [Bool.or_eq_true, Bool.and_eq_true, decide_eq_true_eq, beq_iff_eq] at word
  rcases word with (((((⟨low, high⟩ | ⟨low, high⟩) | ⟨low, high⟩) | rfl) | rfl) | rfl)
  · exact ⟨le_trans (by decide) (low : 65 ≤ c.toNat), le_trans (high : c.toNat ≤ 90) (by decide)⟩
  · exact ⟨le_trans (by decide) (low : 97 ≤ c.toNat), (high : c.toNat ≤ 122)⟩
  · exact ⟨le_trans (by decide) (low : 48 ≤ c.toNat), le_trans (high : c.toNat ≤ 57) (by decide)⟩
  all_goals decide

theorem trimmed_of_word {cs : List Char} (all : ∀ c ∈ cs, Writing.isWordChar c = true) : ScalarValue.trimmed cs = cs := by
  have solid : ∀ l ∈ ofChars cs, isBlank l = false := by
    intro l hl
    obtain ⟨c, hc, rfl⟩ := Writing.mem_ofChars hl
    obtain ⟨low, high⟩ := wordChar_bounds (all c hc)
    have notBlank : c ≠ ' ' := Writing.ne_of_word (all c hc) rfl
    simp [isBlank, isBlankChar, notBlank]
    omega
  rw [ScalarValue.trimmed, (trimmed_of_solid solid).trim_eq, chars?_ofChars]
  rfl

theorem withoutLowLines_of_word {cs : List Char} (all : ∀ c ∈ cs, Writing.isWordChar c = true) :
    ScalarValue.withoutLowLines cs = cs := by
  rw [ScalarValue.withoutLowLines, List.filter_eq_self]
  exact fun c hc => by simpa using Writing.ne_of_word (all c hc) rfl

theorem IsUnsigned.signed_self (h : IsUnsigned w) : signed w = (false, w) := h.signed_eq false

theorem real?_numeral (n : Numeral) :
    ScalarValue.real? n.chars = some (ofDecimal n.decimal.digits n.decimal.exponent) := by
  have unsigned := isUnsigned_numeral n
  obtain ⟨c, v, eq, digit⟩ := unsigned.exists_digit
  have other (word : String) (apart : word.toList.head?.any Char.isDigit = false) : String.ofList n.chars ≠ word := by
    rintro rfl
    rw [String.toList_ofList, unsigned.begins] at apart
    cases apart
  have notInfinity : ["inf", "infinity"].contains (String.ofList n.chars) = false := by
    simp [other "inf" rfl, other "infinity" rfl]
  rw [ScalarValue.real?, trimmed_of_word unsigned.all, unsigned.signed_self]
  simp only [notInfinity, Bool.false_eq_true, if_false, other "nan" rfl, n.decimal?_chars, Option.map_some]

theorem real_numeral (negative : Bool) (n : Numeral) :
    ScalarValue.real (ofChars (signChars negative ++ n.chars)) =
      .ok (if negative then -ofDecimal n.decimal.digits n.decimal.exponent
        else ofDecimal n.decimal.digits n.decimal.exponent) := by
  have unsigned := isUnsigned_numeral n
  have word := unsigned.isWord negative
  obtain ⟨c, v, eq, digit⟩ := unsigned.exists_digit
  have notPoint : c ≠ '.' := ne_of_digit digit rfl
  have notInfinity : n.chars ≠ ".inf".toList := by rw [eq]; simp [notPoint]
  have notNumber : n.chars ≠ ".nan".toList := by rw [eq]; simp [notPoint]
  have noColon : n.chars.contains ':' = false := by
    rw [List.contains_eq_mem, decide_eq_false_iff_not]
    intro colon
    cases unsigned.all ':' colon
  rw [ScalarValue.real, lower_of_lowered (isLowered_numeral negative n), chars?_ofChars]
  simp only [withoutLowLines_of_word word.all, unsigned.signed_eq, List.isEmpty_eq_false_iff.2 word.filled, noColon,
    notInfinity, notNumber, Bool.false_eq_true, if_false, real?_numeral]
  rfl

theorem ofInt_eq (n : Int) : ofInt n = ofChars (signChars (decide (n < 0)) ++ decimalDigits n.natAbs) := by
  rw [ofInt, ofString, decimalDigits]
  by_cases negative : n < 0
  · simp [negative, signChars]
  · simp [negative, signChars]

theorem isReal_digits (negative : Bool) {ds : List Char} (h : AreDigits ds) :
    Spelling.isReal (signChars negative ++ ds) = false := by
  have point : ∀ c ∈ ds, (c != '.') = true := fun c hc => by simpa using ne_of_digit (h.all c hc) rfl
  have whole : ds.takeWhile (· != '.') = ds := List.takeWhile_eq_self_iff.2 point
  rw [Spelling.isReal, (isUnsigned_digits h).dropSign_eq]
  simp only [whole, if_true]

theorem isWhole_digits (negative : Bool) (n : Nat) : Spelling.isWhole (signChars negative ++ decimalDigits n) = true := by
  have digits := areDigits_decimalDigits n
  rw [Spelling.isWhole, (isUnsigned_digits digits).dropSign_eq]
  have pieces : Spelling.pieces ':' (decimalDigits n) = [decimalDigits n] :=
    pieces_of_digits fun c hc => ne_of_digit (digits.all c hc) rfl
  split
  · next rest eq => cases (decimalDigits_zero eq).2
  · next rest eq => cases (decimalDigits_zero eq).2
  · next rest _ _ eq =>
    rw [(decimalDigits_zero eq).2]
    rfl
  · rw [pieces]
    simp only [isDigits_of_digits digits, List.all_nil, Bool.and_true]

theorem ofSpelling_whole (n : Int) : Tag.ofSpelling (ofInt n) = .known .whole := by
  have digits := areDigits_decimalDigits n.natAbs
  have unsigned := isUnsigned_digits digits
  obtain ⟨notNull, notTruth⟩ := unsigned.not_worded (decide (n < 0))
  rw [ofInt_eq, Tag.ofSpelling, chars?_ofChars]
  simp only [unsigned.dropLastFeed_eq, notNull, notTruth, isReal_digits _ digits, isWhole_digits, Bool.false_eq_true,
    if_false, if_true]

theorem whole?_digits {n : Nat} (filled : n ≠ 0) : ScalarValue.whole? 10 (decimalDigits n) =
    if decimalLimit < (decimalDigits n).length then none else some (n : Int) := by
  have digits := areDigits_decimalDigits n
  have unsigned := isUnsigned_digits digits
  have noBase : ScalarValue.dropBase 10 (decimalDigits n) = decimalDigits n := by
    rw [ScalarValue.dropBase]
    exact fun c rest eq => filled (decimalDigits_zero eq).1
  rw [ScalarValue.whole?, trimmed_of_word unsigned.all, unsigned.signed_self]
  simp only [noBase, true_and, digits?_of_digits digits.filled digits.all, digitsValue_decimalDigits, Bool.false_eq_true,
    if_false]
  rfl

theorem whole_digits (negative : Bool) {n : Nat} (filled : n ≠ 0) :
    ScalarValue.whole (signChars negative ++ decimalDigits n) =
      (ScalarValue.numberOf (ScalarValue.whole? 10 (decimalDigits n))).map (withSign negative) := by
  have digits := areDigits_decimalDigits n
  have unsigned := isUnsigned_digits digits
  have word := unsigned.isWord negative
  have pieces : Spelling.pieces ':' (decimalDigits n) = [decimalDigits n] :=
    pieces_of_digits fun c hc => ne_of_digit (digits.all c hc) rfl
  have number : (ScalarValue.numberOf ((Spelling.pieces ':' (decimalDigits n)).mapM (ScalarValue.whole? 10))).map
      (fun ds => withSign negative (ScalarValue.sixtieths ds)) =
        (ScalarValue.numberOf (ScalarValue.whole? 10 (decimalDigits n))).map (withSign negative) := by
    rw [pieces, List.mapM_cons]
    cases ScalarValue.whole? 10 (decimalDigits n) with
    | none => rfl
    | some k =>
      have value : ScalarValue.sixtieths [k] = k := Int.zero_add k
      exact congrArg (fun m => Except.ok (withSign negative m)) value
  rw [ScalarValue.whole, withoutLowLines_of_word word.all, unsigned.signed_eq]
  dsimp only
  split
  · next empty => exact absurd empty word.filled
  · next empty _ => exact absurd empty digits.filled
  · next zero _ => exact absurd (decimalDigits_zero zero).1 filled
  · next eq _ => cases (decimalDigits_zero eq).2
  · next eq _ => cases (decimalDigits_zero eq).2
  · next notEmpty _ _ eq _ => exact (notEmpty (decimalDigits_zero eq).2).elim
  · exact number

theorem whole_ofInt {n : Int} (spelled : (Nat.repr n.natAbs).length ≤ decimalLimit) :
    ScalarValue.whole (signChars (decide (n < 0)) ++ decimalDigits n.natAbs) = .ok n := by
  by_cases zero : n = 0
  · subst zero
    rfl
  · rw [whole_digits _ (Int.natAbs_ne_zero.2 zero), whole?_digits (Int.natAbs_ne_zero.2 zero), length_decimalDigits,
      if_neg (not_lt.2 spelled)]
    refine congrArg Except.ok ?_
    rw [withSign]
    split
    · next negative =>
      rw [decide_eq_true_eq] at negative
      omega
    · next positive =>
      rw [decide_eq_true_eq] at positive
      omega

/-- Digits are read as their value, or as nothing where they are too many. -/
theorem eq_of_whole {n : Nat} {k : Int} (read : ScalarValue.whole (decimalDigits n) = .ok k) : k = n := by
  by_cases zero : n = 0
  · subst zero
    exact (Except.ok.inj read).symm
  · rw [show decimalDigits n = signChars false ++ decimalDigits n from rfl, whole_digits false zero, whole?_digits zero] at read
    split at read
    · cases read
    · exact (Except.ok.inj read).symm

end TaskCatalog.Yaml
