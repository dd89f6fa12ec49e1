import TaskCatalog.Proofs.Outcome
import TaskCatalog.Proofs.PlainScalars
import TaskCatalog.Text.Encoding
import TaskCatalog.Text.Lines

/-!
Texts and their bytes. The bytes of a character are a sequence that gives its code back, so whatever can be
encoded is decoded to its own characters.
-/

namespace TaskCatalog.Text

section

variable {b n v bits fitted : Nat} {rest : Bytes}

theorem toNat_byte (h : b < 256) : (UInt8.ofNat b).toNat = b := by
  rw [UInt8.toNat_ofNat']
  exact Nat.mod_eq_of_lt h

theorem byte_lt (h : b < 256) (limit : UInt8) : UInt8.ofNat b < limit ↔ b < limit.toNat := by
  rw [UInt8.lt_iff_toNat_lt, toNat_byte h]

theorem le_byte (h : b < 256) (limit : UInt8) : limit ≤ UInt8.ofNat b ↔ limit.toNat ≤ b := by
  rw [UInt8.le_iff_toNat_le, toNat_byte h]

theorem byte_beq (h : b < 256) (other : UInt8) : (UInt8.ofNat b == other) = decide (b = other.toNat) := by
  rw [Bool.eq_iff_iff, beq_iff_eq, decide_eq_true_eq, ← UInt8.toNat_inj, toNat_byte h]

theorem leading?_byte (h : b < 256) : leading? (UInt8.ofNat b) =
    if b < 0x80 then some (0, b) else if b < 0xC2 then none else if b < 0xE0 then some (1, b - 0xC0)
    else if b < 0xF0 then some (2, b - 0xE0) else if b < 0xF5 then some (3, b - 0xF0) else none := by
  simp only [leading?, byte_lt h, toNat_byte h]
  rfl

/-- A later byte of a sequence holds six bits. -/
def laterByte (v : Nat) : UInt8 := UInt8.ofNat (v % 64 + 0x80)

theorem laterByte_lt (v : Nat) : v % 64 + 0x80 < 256 := by omega

theorem isContinuation_laterByte (v : Nat) : isContinuation (laterByte v) = true := by
  have high : v % 64 + 0x80 < 192 := by omega
  simp only [isContinuation, laterByte, le_byte (laterByte_lt v), byte_lt (laterByte_lt v), Bool.and_eq_true,
    decide_eq_true_eq]
  exact ⟨Nat.le_add_left _ _, high⟩

/-- The second byte of a sequence that is not too long, stands for no half of a pair and for no code above the last. -/
theorem secondFits_laterByte (h : b < 256) (long : b = 0xE0 → 0x20 ≤ v % 64) (half : b = 0xED → v % 64 < 0x20)
    (longer : b = 0xF0 → 0x10 ≤ v % 64) (large : b = 0xF4 → v % 64 < 0x10) :
    secondFits (UInt8.ofNat b) (laterByte v) = true := by
  rw [secondFits, isContinuation_laterByte]
  simp only [laterByte, byte_beq h, le_byte (laterByte_lt v), byte_lt (laterByte_lt v), Bool.true_and, Bool.and_eq_true,
    Bool.not_eq_true', Bool.and_eq_false_iff, decide_eq_false_iff_not]
  refine ⟨⟨⟨?_, ?_⟩, ?_⟩, ?_⟩ <;> refine or_iff_not_imp_left.2 fun same => ?_
  · have := long (not_not.1 same)
    change ¬ _ < 160
    omega
  · have := half (not_not.1 same)
    change ¬ 160 ≤ _
    omega
  · have := longer (not_not.1 same)
    change ¬ _ < 144
    omega
  · have := large (not_not.1 same)
    change ¬ 144 ≤ _
    omega

theorem continueCode_zero : continueCode 0 bits fitted rest = .ok bits := by
  cases rest <;> rfl

theorem continueCode_laterByte :
    continueCode (n + 1) bits fitted (laterByte v :: rest) = continueCode n (bits * 64 + v % 64) (fitted + 1) rest := by
  rw [continueCode, if_pos (isContinuation_laterByte v), laterByte, toNat_byte (laterByte_lt v), Nat.add_sub_cancel]

theorem sequenceAt_one (h : v < 0x80) : sequenceAt (UInt8.ofNat v) rest = .ok (v, 0) := by
  have lead : leading? (UInt8.ofNat v) = some (0, v) := by
    rw [leading?_byte (by omega), if_pos h]
  simp only [sequenceAt, lead]

theorem sequenceAt_more {lead second : UInt8} (led : leading? lead = some (n + 1, bits))
    (fits : secondFits lead second = true) :
    sequenceAt lead (second :: rest) = (continueCode (n + 1) bits 1 (second :: rest)).map (·, n + 1) := by
  simp only [sequenceAt, led, fits, if_true]

theorem sequenceAt_two (low : 0x80 ≤ v) (high : v < 0x800) :
    sequenceAt (UInt8.ofNat (v / 64 % 32 + 0xC0)) (laterByte v :: rest) = .ok (v, 1) := by
  have led : leading? (UInt8.ofNat (v / 64 % 32 + 0xC0)) = some (1, v / 64) := by
    rw [leading?_byte (by omega), if_neg (by omega), if_neg (by omega), if_pos (by omega), Nat.add_sub_cancel,
      Nat.mod_eq_of_lt (by omega)]
  have fits := @secondFits_laterByte (v / 64 % 32 + 0xC0) v (by omega) (by omega) (by omega) (by omega) (by omega)
  have code : v / 64 * 64 + v % 64 = v := by omega
  rw [sequenceAt_more led fits, continueCode_laterByte, continueCode_zero, code]
  rfl

theorem sequenceAt_three (low : 0x800 ≤ v) (high : v < 0x10000) (whole : ¬ (0xD800 ≤ v ∧ v < 0xE000)) :
    sequenceAt (UInt8.ofNat (v / 4096 % 16 + 0xE0)) (laterByte (v / 64) :: laterByte v :: rest) = .ok (v, 2) := by
  have led : leading? (UInt8.ofNat (v / 4096 % 16 + 0xE0)) = some (2, v / 4096) := by
    rw [leading?_byte (by omega), if_neg (by omega), if_neg (by omega), if_neg (by omega), if_pos (by omega),
      Nat.add_sub_cancel, Nat.mod_eq_of_lt (by omega)]
  have fits := @secondFits_laterByte (v / 4096 % 16 + 0xE0) (v / 64) (by omega) (by omega) (by omega) (by omega)
    (by omega)
  have code : (v / 4096 * 64 + v / 64 % 64) * 64 + v % 64 = v := by omega
  rw [sequenceAt_more led fits, continueCode_laterByte, continueCode_laterByte, continueCode_zero, code]
  rfl

theorem sequenceAt_four (low : 0x10000 ≤ v) (high : v < 0x110000) :
    sequenceAt (UInt8.ofNat (v / 262144 % 8 + 0xF0)) (laterByte (v / 4096) :: laterByte (v / 64) :: laterByte v :: rest) =
      .ok (v, 3) := by
  have led : leading? (UInt8.ofNat (v / 262144 % 8 + 0xF0)) = some (3, v / 262144) := by
    rw [leading?_byte (by omega), if_neg (by omega), if_neg (by omega), if_neg (by omega), if_neg (by omega),
      if_pos (by omega), Nat.add_sub_cancel, Nat.mod_eq_of_lt (by omega)]
  have fits := @secondFits_laterByte (v / 262144 % 8 + 0xF0) (v / 4096) (by omega) (by omega) (by omega) (by omega)
    (by omega)
  have code : ((v / 262144 * 64 + v / 4096 % 64) * 64 + v / 64 % 64) * 64 + v % 64 = v := by omega
  rw [sequenceAt_more led fits, continueCode_laterByte, continueCode_laterByte, continueCode_laterByte, continueCode_zero,
    code]
  rfl

end

/-- The bytes of a character are a sequence with its code. -/
theorem sequenceAt_character (c : Char) (rest : Bytes) : ∃ b more, String.utf8EncodeChar c = b :: more ∧
    sequenceAt b (more ++ rest) = .ok (c.toNat, more.length) := by
  have whole : ¬ (0xD800 ≤ c.toNat ∧ c.toNat < 0xE000) ∧ c.toNat < 0x110000 := by
    have valid : c.toNat.isValidChar := c.valid
    rw [Nat.isValidChar] at valid
    omega
  unfold String.utf8EncodeChar
  change ¬ (0xD800 ≤ c.val.toNat ∧ c.val.toNat < 0xE000) ∧ c.val.toNat < 0x110000 at whole
  dsimp only
  split
  · exact ⟨_, _, rfl, sequenceAt_one (by omega)⟩
  · split
    · exact ⟨_, _, rfl, sequenceAt_two (by omega) (by omega)⟩
    · split
      · exact ⟨_, _, rfl, sequenceAt_three (by omega) (by omega) whole.1⟩
      · exact ⟨_, _, rfl, sequenceAt_four (by omega) whole.2⟩

theorem decodeUtf8From_skip (position : Nat) (more rest : Bytes) :
    decodeUtf8From position more.length (more ++ rest) = decodeUtf8From (position + more.length) 0 rest := by
  induction more generalizing position with
  | nil => rfl
  | cons b more ih =>
    rw [List.cons_append, List.length_cons, decodeUtf8From, ih, Nat.add_right_comm, Nat.add_assoc]

theorem decodeUtf8From_character (c : Char) (position : Nat) (rest : Bytes) :
    decodeUtf8From position 0 (String.utf8EncodeChar c ++ rest) =
      (decodeUtf8From (position + (String.utf8EncodeChar c).length) 0 rest).map (c :: ·) := by
  obtain ⟨b, more, bytes, code⟩ := sequenceAt_character c rest
  rw [bytes, List.cons_append, decodeUtf8From, code]
  dsimp only
  rw [decodeUtf8From_skip, Char.ofNat_toNat, List.length_cons, Nat.add_right_comm, Nat.add_assoc]

theorem decodeUtf8From_go {t : Text} {bytes : Bytes} {first : Nat} (encoded : encodeUtf8.go first t = .ok bytes)
    (position : Nat) : decodeUtf8From position 0 bytes = .ok (chars t) := by
  induction t generalizing bytes first position with
  | nil =>
    cases encoded
    rfl
  | cons l t ih =>
    cases l with
    | half n => cases encoded
    | scalar c =>
      obtain ⟨later, more, rfl⟩ := Outcome.map_eq_ok.1 encoded
      rw [decodeUtf8From_character, ih more]
      rfl

theorem decodeUtf8_of_encoded {t : Text} {bytes : Bytes} (encoded : encodeUtf8 t = .ok bytes) :
    decodeUtf8 bytes = .ok (chars t) := decodeUtf8From_go encoded 0

theorem unifyLineBreaks_of_not_mem {cs : List Char} (none : '\r' ∉ cs) : unifyLineBreaks cs = cs := by
  induction cs with
  | nil => rfl
  | cons c cs ih =>
    rw [List.mem_cons, not_or] at none
    have other : c ≠ '\r' := Ne.symm none.1
    rw [unifyLineBreaks, if_neg other, ih none.2]
    exact fun _ same _ => other same

end TaskCatalog.Text
