import TaskCatalog.Code.StringLiteral
import TaskCatalog.Proofs.QuotedScalars
import TaskCatalog.Text.Quoted

/-!
A quoted text is a string literal of a source file, and the literal stands for the text.
-/

namespace TaskCatalog

open Code Code.Scan Text
open Yaml.Cursor (codeWidths foldl_digits)

namespace Text

-- The characters of a list are tried one by one; the instance for all characters at once never ends.
instance (priority := 1100) decidableForallMem (p : Char → Prop) [DecidablePred p] (cs : List Char) :
    Decidable (∀ c ∈ cs, p c) :=
  List.decidableBAll p cs

def escapedLetter (quote : Char) (l : Letter) : List Char := chars (escapeIn quote l)

def literalBody (t : Text) : List Char := t.flatMap (escapedLetter (quoteChar t))

/-- The characters of a quoted text. -/
def literalChars (t : Text) : List Char := quoteChar t :: (literalBody t ++ [quoteChar t])

/-- How a letter is spelled between quotes. -/
inductive Escaped (quote : Char) : Letter → List Char → Prop
  | plain {c : Char} : isPrintable c = true → c ≠ quote → c ≠ '\\' → Escaped quote (.scalar c) [c]
  | mark {x c : Char} : (x, [c]) ∈ StringLiteral.escapes → Escaped quote (.scalar c) ['\\', x]
  | code {l : Letter} {x : Char} {width : Nat} : (x, width) ∈ codeWidths → l.code < 16 ^ width →
      Escaped quote l ('\\' :: x :: hex width l.code)

theorem quoteChar_mem (t : Text) : quoteChar t ∈ ['\'', '"'] := by
  unfold quoteChar
  split <;> decide

theorem escaped_code (quote : Char) (l : Letter) :
    ∃ cs, escapeCode l.code = ofChars cs ∧ Escaped quote l cs := by
  unfold escapeCode
  split
  · next small => exact ⟨_, rfl, .code (by decide) small⟩
  · split
    · next small => exact ⟨_, rfl, .code (by decide) small⟩
    · exact ⟨_, rfl, .code (by decide) ((Yaml.code_lt l).trans (by decide))⟩

theorem escaped_letter {quote : Char} (kind : quote ∈ ['\'', '"']) (l : Letter) :
    ∃ cs, escapeIn quote l = ofChars cs ∧ Escaped quote l cs := by
  cases l with
  | half n => exact escaped_code quote (.half n)
  | scalar c =>
    rw [escapeIn]
    split
    · next special =>
      refine ⟨['\\', c], rfl, .mark ?_⟩
      simp only [List.mem_cons, List.not_mem_nil, or_false, Bool.or_eq_true, decide_eq_true_eq] at kind special
      obtain (rfl | rfl) | rfl := special.imp_left fun h => h ▸ kind <;> decide
    · next special =>
      simp only [Bool.or_eq_true, decide_eq_true_eq, not_or] at special
      split
      · next tab => exact ⟨['\\', 't'], rfl, tab ▸ .mark (by decide)⟩
      split
      · next feed => exact ⟨['\\', 'n'], rfl, feed ▸ .mark (by decide)⟩
      split
      · next back => exact ⟨['\\', 'r'], rfl, back ▸ .mark (by decide)⟩
      split
      · next printable => exact ⟨[c], rfl, .plain printable special.1 special.2⟩
      · exact escaped_code quote (.scalar c)

theorem escapeIn_eq {quote : Char} (kind : quote ∈ ['\'', '"']) (l : Letter) :
    escapeIn quote l = ofChars (escapedLetter quote l) := by
  obtain ⟨cs, spelled, _⟩ := escaped_letter kind l
  rw [escapedLetter, spelled, chars_ofChars]

theorem escaped_escapedLetter {quote : Char} (kind : quote ∈ ['\'', '"']) (l : Letter) :
    Escaped quote l (escapedLetter quote l) := by
  obtain ⟨cs, spelled, escaped⟩ := escaped_letter kind l
  rwa [escapedLetter, spelled, chars_ofChars]

theorem quoted_eq (t : Text) : quoted t = ofChars (literalChars t) := by
  have body : t.flatMap (escapeIn (quoteChar t)) = ofChars (literalBody t) := by
    rw [literalBody, ofChars, List.map_flatMap]
    exact List.flatMap_congr fun l _ => escapeIn_eq (quoteChar_mem t) l
  simp only [quoted, literalChars, body, ofChars, List.map_cons, List.map_append, List.map_nil, List.cons_append]

/-! The literal is one token, and no character of it is changed when a source is read. -/

theorem mem_hex {c : Char} {width n : Nat} (h : c ∈ hex width n) : c ∈ hexDigits := by
  simp only [hex, List.mem_map] at h
  obtain ⟨i, -, rfl⟩ := h
  have digit : ∀ d < 16, hexDigits.getD d '0' ∈ hexDigits := by decide
  exact digit _ (Nat.mod_lt _ (by decide))

theorem Escaped.solid {quote : Char} {l : Letter} {cs : List Char} (h : Escaped quote l cs) :
    ∀ c ∈ cs, c ≠ '\x00' ∧ c ≠ '\n' ∧ c ≠ '\r' := by
  intro c mem
  cases h with
  | plain printable _ _ =>
    obtain rfl := List.mem_singleton.1 mem
    refine ⟨?_, ?_, ?_⟩ <;> rintro rfl <;> revert printable <;> decide
  | mark escape =>
    have solid : ∀ e ∈ StringLiteral.escapes, e.2 ≠ [] → ∀ c ∈ ['\\', e.1], c ≠ '\x00' ∧ c ≠ '\n' ∧ c ≠ '\r' := by
      decide
    exact solid _ escape (List.cons_ne_nil _ _) c mem
  | code kind _ =>
    have solid : ∀ e ∈ codeWidths, ∀ c ∈ '\\' :: e.1 :: hexDigits, c ≠ '\x00' ∧ c ≠ '\n' ∧ c ≠ '\r' := by decide
    simp only [List.mem_cons] at mem
    exact solid _ kind c (by simpa only [List.mem_cons] using mem.imp_right (·.imp_right mem_hex))

theorem afterSingle_plain {quote c : Char} (other : c ≠ quote) (back : c ≠ '\\') (feed : c ≠ '\n') (rest : List Char) :
    afterSingle quote (c :: rest) = afterSingle quote rest := by
  rw [afterSingle, if_neg other, if_neg feed]
  exact fun _ _ h => absurd h back

theorem afterSingle_plains {quote : Char} {cs : List Char} (plain : ∀ c ∈ cs, c ≠ quote ∧ c ≠ '\\' ∧ c ≠ '\n')
    (rest : List Char) : afterSingle quote (cs ++ rest) = afterSingle quote rest := by
  induction cs with
  | nil => rfl
  | cons c cs ih =>
    obtain ⟨other, back, feed⟩ := plain c List.mem_cons_self
    rw [List.cons_append, afterSingle_plain other back feed, ih fun d h => plain d (List.mem_cons_of_mem _ h)]

theorem Escaped.afterSingle {quote : Char} {l : Letter} {cs : List Char} (kind : quote ∈ ['\'', '"'])
    (h : Escaped quote l cs) (rest : List Char) : afterSingle quote (cs ++ rest) = afterSingle quote rest := by
  cases h with
  | plain printable other back =>
    refine afterSingle_plain other back ?_ rest
    rintro rfl
    revert printable
    decide
  | mark _ => rfl
  | @code l x width _ _ =>
    have plain : ∀ q ∈ ['\'', '"'], ∀ c ∈ hexDigits, c ≠ q ∧ c ≠ '\\' ∧ c ≠ '\n' := by decide
    exact afterSingle_plains (fun c mem => plain quote kind c (mem_hex mem)) rest

theorem afterSingle_escaped {quote : Char} (kind : quote ∈ ['\'', '"']) (t : Text) (rest : List Char) :
    afterSingle quote (t.flatMap (escapedLetter quote) ++ rest) = afterSingle quote rest := by
  induction t with
  | nil => rfl
  | cons l t ih => rw [List.flatMap_cons, List.append_assoc, (escaped_escapedLetter kind l).afterSingle kind, ih]

theorem Escaped.head {quote : Char} {l : Letter} {cs : List Char} (kind : quote ∈ ['\'', '"'])
    (h : Escaped quote l cs) : ∃ c rest, cs = c :: rest ∧ c ≠ quote := by
  have back : ∀ q ∈ ['\'', '"'], '\\' ≠ q := by decide
  cases h with
  | plain _ other _ => exact ⟨_, _, rfl, other⟩
  | mark _ => exact ⟨_, _, rfl, back quote kind⟩
  | code _ _ => exact ⟨_, _, rfl, back quote kind⟩

theorem literalBody_head (t : Text) : literalBody t = [] ∨ ∃ c rest, literalBody t = c :: rest ∧ c ≠ quoteChar t := by
  rw [literalBody]
  generalize quoted : quoteChar t = q
  cases t with
  | nil => exact .inl rfl
  | cons l t =>
    have kind : q ∈ ['\'', '"'] := quoted ▸ quoteChar_mem _
    obtain ⟨c, rest, spelled, other⟩ := (escaped_escapedLetter kind l).head kind
    exact .inr ⟨c, rest ++ t.flatMap (escapedLetter q), by rw [List.flatMap_cons, spelled]; rfl, other⟩

theorem afterString_literal (t : Text) {rest : List Char} (apart : rest.head? ≠ some (quoteChar t)) :
    afterString (literalChars t ++ rest) = some rest := by
  have single : (literalBody t ++ quoteChar t :: rest).take 2 ≠ [quoteChar t, quoteChar t] := by
    rcases literalBody_head t with none | ⟨c, body, some, other⟩
    · rw [none]
      cases rest with
      | nil => simp
      | cons d rest => simpa using apart
    · rw [some]
      intro same
      rw [List.cons_append, List.take_succ_cons] at same
      exact other (List.cons.inj same).1
  have closing : afterSingle (quoteChar t) (quoteChar t :: rest) = some rest := by
    have kinds : ∀ q ∈ ['\'', '"'], afterSingle q (q :: rest) = some rest := by
      simp [Scan.afterSingle]
    exact kinds _ (quoteChar_mem t)
  simp only [literalChars, List.cons_append, List.append_assoc, List.nil_append]
  rw [afterString, if_neg single, literalBody, afterSingle_escaped (quoteChar_mem t), closing]

theorem solid_literalChars (t : Text) : ∀ c ∈ literalChars t, c ≠ '\x00' ∧ c ≠ '\n' ∧ c ≠ '\r' := by
  have quote : ∀ q ∈ ['\'', '"'], q ≠ '\x00' ∧ q ≠ '\n' ∧ q ≠ '\r' := by decide
  intro c mem
  simp only [literalChars, literalBody, List.mem_cons, List.mem_append, List.mem_flatMap, List.not_mem_nil,
    or_false] at mem
  rcases mem with rfl | ⟨l, -, spelled⟩ | rfl
  · exact quote _ (quoteChar_mem t)
  · exact (escaped_escapedLetter (quoteChar_mem t) l).solid c spelled
  · exact quote _ (quoteChar_mem t)

/-! What the literal stands for. -/

theorem codes_skip (cs rest : List Char) :
    StringLiteral.codes false cs.length (cs ++ rest) = StringLiteral.codes false 0 rest := by
  induction cs with
  | nil => rfl
  | cons c cs ih => exact ih

theorem hexValue_hex {width n : Nat} (small : n < 16 ^ width) : StringLiteral.hexValue (hex width n) = n := by
  rw [StringLiteral.hexValue, foldl_digits (by decide), Nat.mod_eq_of_lt small]
  simp

theorem isHexDigit_hex (width n : Nat) : (hex width n).all isHexDigit = true := by
  have digit : ∀ c ∈ hexDigits, isHexDigit c = true := by decide
  exact List.all_eq_true.2 fun c mem => digit c (mem_hex mem)

theorem hexDigits?_hex {width n : Nat} (small : n < 16 ^ width) (rest : List Char) :
    StringLiteral.hexDigits? width (hex width n ++ rest) = some n := by
  have taken : (hex width n ++ rest).take width = hex width n := List.take_left' (by simp [hex])
  rw [StringLiteral.hexDigits?, taken, isHexDigit_hex, hexValue_hex small]
  simp [hex]

theorem Escaped.codes {quote : Char} {l : Letter} {cs : List Char} (h : Escaped quote l cs) (rest : List Char) :
    StringLiteral.codes false 0 (cs ++ rest) = (StringLiteral.codes false 0 rest).map (l.code :: ·) := by
  cases h with
  | @plain c _ _ back => rw [List.singleton_append, StringLiteral.codes, if_neg back]; rfl
  | @mark x c escape =>
    have meant : StringLiteral.escapeAt false (x :: rest) = some ([c.toNat], 1) := by
      have found : ∀ e ∈ StringLiteral.escapes, StringLiteral.escapes.lookup e.1 = some e.2 := by decide
      simp only [StringLiteral.escapeAt, found _ escape]
      rfl
    change StringLiteral.codes false 0 ('\\' :: x :: rest) = _
    rw [StringLiteral.codes, if_pos rfl, meant]
    rfl
  | @code l x width kind small =>
    have meant : StringLiteral.escapeAt false (x :: (hex width l.code ++ rest)) = some ([l.code], width + 1) := by
      have digits := hexDigits?_hex small rest
      have unknown : StringLiteral.escapes.lookup x = none :=
        (by decide : ∀ e ∈ codeWidths, StringLiteral.escapes.lookup e.1 = none) _ kind
      have bound := Yaml.code_lt l
      simp only [StringLiteral.escapeAt, unknown]
      simp only [codeWidths, List.mem_cons, Prod.mk.injEq, List.not_mem_nil, or_false] at kind
      rcases kind with ⟨rfl, rfl⟩ | ⟨rfl, rfl⟩ | ⟨rfl, rfl⟩ <;> rw [digits]
      · rfl
      · rfl
      · exact if_pos bound
    change StringLiteral.codes false 0 ('\\' :: x :: (hex width l.code ++ rest)) = _
    rw [StringLiteral.codes, if_pos rfl, meant]
    have size : width + 1 = (x :: hex width l.code).length := by simp [hex]
    change (StringLiteral.codes false (width + 1) ((x :: hex width l.code) ++ rest)).map _ = _
    rw [size, codes_skip]
    rfl

theorem codes_escaped {quote : Char} (kind : quote ∈ ['\'', '"']) (t : Text) :
    StringLiteral.codes false 0 (t.flatMap (escapedLetter quote)) = some (t.map Letter.code) := by
  induction t with
  | nil => rfl
  | cons l t ih => rw [List.flatMap_cons, (escaped_escapedLetter kind l).codes, ih]; rfl

theorem textOf_literalBody (t : Text) : StringLiteral.textOf false (literalBody t) = some t := by
  have letters : (t.map Letter.code).filterMap Letter.ofCode? = t := by
    rw [List.filterMap_map]
    exact (List.filterMap_congr fun l _ => Yaml.ofCode?_code l).trans List.filterMap_some
  rw [StringLiteral.textOf, literalBody, codes_escaped (quoteChar_mem t)]
  exact congrArg some letters

theorem ofToken_literalChars (t : Text) :
    StringLiteral.ofToken (literalChars t) = ⟨false, false, false, false, literalBody t, 1⟩ := by
  obtain ⟨q, quoted⟩ : ∃ q, quoteChar t = q := ⟨_, rfl⟩
  have kind : isQuote q = true := by
    have kinds : ∀ q ∈ ['\'', '"'], isQuote q = true := by decide
    exact kinds q (quoted ▸ quoteChar_mem t)
  have unmarked : (q :: (literalBody t ++ [q])).takeWhile (!isQuote ·) = [] := by simp [kind]
  have once : (decide (6 ≤ (q :: (literalBody t ++ [q])).length) &&
      (q :: (literalBody t ++ [q])).take 3 == List.replicate 3 q) = false := by
    rcases literalBody_head t with none | ⟨c, body, some, other⟩
    · rw [none]
      rfl
    · rw [some]
      simp [List.replicate, quoted ▸ other]
  simp only [StringLiteral.ofToken, literalChars, quoted, unmarked, List.length_nil, List.drop_zero, List.headD_cons, once]
  simp

end Text

end TaskCatalog
