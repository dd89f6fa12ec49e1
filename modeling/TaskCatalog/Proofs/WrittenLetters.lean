import TaskCatalog.Proofs.QuotedScalars
import TaskCatalog.Yaml.Token

/-!
The letters of a document that was written. None of them is special, so the document can be encoded and its
characters are let in where it is read; a key before its colon stays on its line.
-/

namespace TaskCatalog.Yaml.Writing

open Text

variable {l : Letter} {s : Spot} {t : Text}

theorem isAllowed_of_common {c : Char} (common : isSpecial (.scalar c) = false) : Tokens.isAllowed c = true := by
  simp only [isSpecial, Letter.satisfies_scalar, Bool.not_eq_false', Bool.or_eq_true, Bool.and_eq_true, beq_iff_eq,
    decide_eq_true_eq] at common
  simp only [Tokens.isAllowed, Bool.or_eq_true, Bool.and_eq_true, beq_iff_eq, decide_eq_true_eq, bne_iff_ne]
  rcases common with ((rfl | ascii) | rfl) | ⟨⟨⟨⟨high, -⟩, notFirst⟩, notSecond⟩, -⟩
  · exact .inl (.inl (.inl (.inl (.inr rfl))))
  · exact .inl (.inl (.inr ascii))
  · exact .inl (.inr rfl)
  · exact .inr ⟨⟨high, notFirst⟩, notSecond⟩

theorem not_special_of_bare (bare : isBare l = true) : isSpecial l = false := by
  cases l with
  | half n => cases bare
  | scalar c =>
    simp only [isBare, Letter.satisfies_scalar, Bool.or_eq_true, Bool.and_eq_true, decide_eq_true_eq] at bare
    simp only [isSpecial, Letter.satisfies_scalar, Bool.not_eq_false', Bool.or_eq_true, Bool.and_eq_true, beq_iff_eq,
      decide_eq_true_eq]
    rcases bare.2 with ascii | ⟨⟨⟨⟨high, low⟩, notMark⟩, -⟩, -⟩
    · exact .inl (.inl (.inr ascii))
    · exact .inr ⟨⟨⟨⟨high, notMark⟩, by omega⟩, by omega⟩, by omega⟩

theorem not_break_of_bare (bare : isBare l = true) : isBreakLetter l = false := by
  cases l with
  | half n => rfl
  | scalar c =>
    cases breaks : isBreak c with
    | false => exact breaks
    | true =>
      simp only [isBreak, Bool.or_eq_true, beq_iff_eq] at breaks
      rcases breaks with ((rfl | rfl) | rfl) | rfl <;> cases bare

theorem mem_newLine {n : Nat} (h : l ∈ newLine n) : l = .scalar '\n' ∨ l = blank := by
  rcases List.mem_cons.1 h with rfl | h
  · exact .inl rfl
  · exact .inr (List.eq_of_mem_replicate h)

theorem mem_doubleQuotes (h : l ∈ doubleQuotes t) : l ∈ t ∨ l = .scalar '\'' := by
  obtain ⟨m, hm, h⟩ := List.mem_flatMap.1 h
  split at h
  · have quotes : ∀ q ∈ ("''" : Text), q = .scalar '\'' := by decide
    exact .inr (quotes l h)
  · rw [List.mem_singleton.1 h]
    exact .inl hm

/-- What folding leaves: the letters of the text, quotes, blanks and, where lines may be broken, breaks. -/
inductive InFolded (s : Spot) (t : Text) : Letter → Prop
  | own {l : Letter} (member : l ∈ t) : InFolded s t l
  | quote : InFolded s t (.scalar '\'')
  | blank : InFolded s t (.scalar ' ')
  | feed (broken : s.breakable = true) : InFolded s t (.scalar '\n')

theorem InFolded.later {u : Text} : InFolded s u l → InFolded s (t ++ u) l
  | .own member => .own (List.mem_append_right _ member)
  | .quote => .quote
  | .blank => .blank
  | .feed broken => .feed broken

theorem mem_folded {quoted : Bool} {rs : List Run} : ∀ {first : Bool} {column : Nat},
    l ∈ folded s quoted first column rs → InFolded s (letters rs) l := by
  induction rs with
  | nil => exact nofun
  | cons r rest ih =>
    intro first column h
    cases r with
    | word t =>
      rw [folded] at h
      rcases List.mem_append.1 h with h | h
      · cases quoted with
        | false => exact .own (List.mem_append_left _ h)
        | true =>
          rcases mem_doubleQuotes h with member | rfl
          · exact .own (List.mem_append_left _ member)
          · exact .quote
      · exact (ih h).later
    | blanks n =>
      rw [folded] at h
      split at h
      · next inner =>
        rcases List.mem_append.1 h with h | h
        · rcases mem_newLine h with rfl | rfl
          · exact .feed inner.2.2.1
          · exact .blank
        · exact (ih h).later
      · rcases List.mem_append.1 h with h | h
        · rw [List.eq_of_mem_replicate h]
          exact .blank
        · exact (ih h).later
    | breaks t =>
      rw [folded] at h
      simp only [List.mem_append] at h
      rcases h with ((h | h) | h) | h
      · split at h
        · next feed =>
          rw [List.mem_singleton.1 (h : l ∈ [Letter.scalar '\n'])]
          exact .own (List.mem_append_left _ (List.mem_of_mem_head? feed))
        · cases h
      · exact .own (List.mem_append_left _ h)
      · rw [List.eq_of_mem_replicate h]
        exact .blank
      · exact (ih h).later

/-- What stands between double quotes. -/
inductive InDouble (s : Spot) : Letter → Prop
  | bare {l : Letter} (bare : isBare l = true) : InDouble s l
  | quote : InDouble s (.scalar '"')
  | backslash : InDouble s (.scalar '\\')
  | feed (broken : s.breakable = true) : InDouble s (.scalar '\n')

theorem inDouble_upperHex {width n : Nat} (h : l ∈ upperHex width n) : InDouble s l := by
  have digit : ∀ d < 16, isBare (.scalar (hexDigits.getD d '0').toUpper) = true := by decide
  simp only [upperHex, hex, ofChars, List.map_map, List.mem_map] at h
  obtain ⟨i, -, rfl⟩ := h
  exact .bare (digit _ (Nat.mod_lt _ (by decide)))

theorem inDouble_escape {k : Char} {c : Char} (listed : (k, c) ∈ escapes) : InDouble s (.scalar c) := by
  have named : ∀ e ∈ escapes, isBare (.scalar e.2) = true ∨ e.2 = '"' ∨ e.2 = '\\' := by decide
  rcases named _ listed with bare | rfl | rfl
  · exact .bare bare
  · exact .quote
  · exact .backslash

theorem inDouble_coded {c : Char} {width n : Nat} (bare : isBare (.scalar c) = true)
    (h : l ∈ [.scalar '\\', .scalar c] ++ upperHex width n) : InDouble s l := by
  simp only [List.cons_append, List.nil_append, List.mem_cons] at h
  rcases h with rfl | rfl | h
  · exact .backslash
  · exact .bare bare
  · exact inDouble_upperHex h

theorem mem_escaped {m : Letter} (h : l ∈ escaped m) : InDouble s l := by
  unfold escaped at h
  dsimp only at h
  split at h
  · next c known =>
    have listed : ∃ k, (k, c) ∈ escapes := by
      cases m with
      | half n => cases known
      | scalar k => exact ⟨k, Association.mem_of_lookup known⟩
    obtain ⟨k, listed⟩ := listed
    simp only [List.mem_cons, List.not_mem_nil, or_false] at h
    rcases h with rfl | rfl
    · exact .backslash
    · exact inDouble_escape listed
  · split at h
    · exact inDouble_coded (by decide) h
    · split at h
      · exact inDouble_coded (by decide) h
      · exact inDouble_coded (by decide) h

theorem mem_quotedBreak {next : Option Letter} (broken : s.breakable = true) (h : l ∈ (quotedBreak s next).1) :
    InDouble s l := by
  have inLine (h : l ∈ newLine s.indent) : InDouble s l := by
    rcases mem_newLine h with rfl | rfl
    · exact .feed broken
    · exact .bare rfl
  rw [quotedBreak] at h
  split at h
  · simp only [List.cons_append, List.mem_cons, List.mem_append] at h
    rcases h with rfl | h | h
    · exact .backslash
    · exact inLine h
    · rw [List.mem_singleton.1 (h : l ∈ [Letter.scalar '\\'])]
      exact .backslash
  · rcases List.mem_cons.1 h with rfl | h
    · exact .backslash
    · exact inLine h

theorem mem_doubleText {first fresh : Bool} {column : Nat} (h : l ∈ doubleText s first fresh column t) :
    InDouble s l := by
  induction t generalizing first fresh column with
  | nil => cases h
  | cons m rest ih =>
    have written := doubled_doubleText s first fresh column m rest
    generalize doubleText s first fresh column (m :: rest) = w at written h
    cases written with
    | bare bare =>
      rcases List.mem_cons.1 h with rfl | h
      · exact .bare bare
      · exact ih h
    | brokenBare bare broken =>
      rcases List.mem_append.1 h with h | h
      · exact mem_quotedBreak broken h
      · rcases List.mem_cons.1 h with rfl | h
        · exact .bare bare
        · exact ih h
    | escaped =>
      rcases List.mem_append.1 h with h | h
      · exact mem_escaped h
      · exact ih h
    | brokenEscaped _ broken =>
      simp only [List.mem_append] at h
      rcases h with (h | h) | h
      · exact mem_escaped h
      · exact mem_quotedBreak broken h
      · exact ih h

/-- No letter that is written is special, and one is a break only where lines are broken. -/
structure Stands (s : Spot) (t : Text) (l : Letter) : Prop where
  common : isSpecial l = false
  breaks : isBreakLetter l = true → s.breakable = true ∨ isMultiline t = true

theorem InFolded.stands (common : (!t.any isSpecial) = true) (h : InFolded s t l) : Stands s t l := by
  cases h with
  | own member =>
    rw [Bool.not_eq_true', List.any_eq_false] at common
    exact ⟨Bool.eq_false_iff.2 (common l member), fun breaks => .inr (List.any_eq_true.2 ⟨l, member, breaks⟩)⟩
  | quote => exact ⟨rfl, nofun⟩
  | blank => exact ⟨rfl, nofun⟩
  | feed broken => exact ⟨rfl, fun _ => .inl broken⟩

theorem InDouble.stands (h : InDouble s l) : Stands s t l := by
  cases h with
  | bare bare => exact ⟨not_special_of_bare bare, fun breaks => by rw [not_break_of_bare bare] at breaks; cases breaks⟩
  | quote => exact ⟨rfl, nofun⟩
  | backslash => exact ⟨rfl, nofun⟩
  | feed broken => exact ⟨rfl, fun _ => .inl broken⟩

theorem mem_text (h : l ∈ text s t) : Stands s t l := by
  have ofFolded {quoted : Bool} {column : Nat} (common : (!t.any isSpecial) = true)
      (h : l ∈ folded s quoted true column (runs t)) : Stands s t l := by
    have folded := mem_folded h
    rw [letters_runs] at folded
    exact folded.stands common
  have quoted {q : Letter} {inner : Text} (quote : Stands s t q) (inside : l ∈ inner → Stands s t l)
      (h : l ∈ [q] ++ inner ++ [q]) : Stands s t l := by
    simp only [List.mem_append, List.mem_singleton] at h
    rcases h with (rfl | h) | rfl
    · exact quote
    · exact inside h
    · exact quote
  rw [text] at h
  split at h
  · next plain =>
    simp only [canBePlain, Bool.and_eq_true] at plain
    exact ofFolded plain.1.1.1.2 h
  · split at h
    · next single =>
      simp only [canBeSingle, Bool.and_eq_true] at single
      exact quoted ⟨rfl, fun breaks => absurd breaks (by decide)⟩ (ofFolded single.1.1.1) h
    · exact quoted ⟨rfl, fun breaks => absurd breaks (by decide)⟩ (fun h => (mem_doubleText h).stands) h

theorem oneLine_text (whole : s.breakable = false) (line : isMultiline t = false) : OneLine (chars (text s t)) := by
  intro c h
  obtain ⟨l, hl, eq⟩ := List.mem_filterMap.1 h
  have stands := mem_text hl
  cases l with
  | half n => cases eq
  | scalar d =>
    obtain rfl : d = c := Option.some.inj eq
    refine ⟨?_, ?_⟩
    · cases isBreak : isBreak d with
      | false => rfl
      | true => simpa [whole, line] using stands.breaks isBreak
    · rintro rfl
      cases stands.common

theorem folded_whole {s : Spot} {rs : List Run} (whole : s.breakable = false) (words : Words rs) :
    ∀ first column, folded s false first column rs = letters rs := by
  induction words with
  | last => exact fun _ _ => by simp [folded, Run.letters]
  | more _ _ _ _ ih => exact fun _ _ => by simp [folded, Run.letters, whole, ih]

theorem prefix_before_colon {m : Char} {u tail : List Char} (other : m ≠ ':') (h : [m, m, m] <+: u ++ ':' :: tail) :
    [m, m, m] <+: u := by
  rcases u with _ | ⟨a, _ | ⟨b, _ | ⟨d, u⟩⟩⟩
  all_goals simp only [List.nil_append, List.cons_append, List.cons_prefix_cons] at h ⊢
  · exact absurd h.1 other
  · exact absurd h.2.1 other
  · exact absurd h.2.2.1 other
  · exact ⟨h.1, h.2.1, h.2.2.1, List.nil_prefix⟩

theorem isMark_of_plain {t : Text} (plain : IsPlain t) {c : Cursor} {tail : List Char} {m : Char} (mark : m ∈ ['-', '.'])
    (h : c.rest = chars t ++ ':' :: tail) : c.isMark m = false := by
  have unmarked := plain.unmarked
  simp only [isMarked, Bool.or_eq_false_iff] at unmarked
  have apart : ¬[m, m, m] <+: chars t := by
    intro front
    have written : ofChars [m, m, m] <+: ofChars (chars t) := front.map Letter.scalar
    rw [plain.ofChars_chars, ← List.isPrefixOf_iff_prefix] at written
    simp only [List.mem_cons, List.not_mem_nil, or_false] at mark
    rcases mark with rfl | rfl
    · exact absurd written (by rw [Bool.not_eq_true]; exact unmarked.1.1)
    · exact absurd written (by rw [Bool.not_eq_true]; exact unmarked.1.2)
  have other : m ≠ ':' := by
    rintro rfl
    simp at mark
  rw [Cursor.isMark, h, Bool.and_eq_false_iff, Bool.eq_false_iff, ne_eq, List.isPrefixOf_iff_prefix]
  exact .inl fun front => apart (prefix_before_colon other front)

theorem beginsLine_key {s : Spot} (whole : s.breakable = false) (t : Text) (tail : List Char) :
    BeginsLine (chars (text s t) ++ ':' :: tail) := by
  cases plain : canBePlain t with
  | true =>
    have plain' := isPlain_of_canBePlain plain
    obtain ⟨d, v, begins, -, inside, common, -⟩ := plain'.written s s.column
    have written : text s t = folded s false true s.column (runs t) := by rw [text, if_pos plain]
    refine ⟨?_, fun c h => ?_⟩
    · have notComment : d ≠ '#' := by
        rintro rfl
        cases common
      simp [written, begins, inside, notComment]
    · rw [written, folded_whole whole plain'.words, letters_runs] at h
      rw [Cursor.isAnyMark, isMark_of_plain plain' (by decide) h, isMark_of_plain plain' (by decide) h]
      rfl
  | false =>
    obtain ⟨double, v, begins⟩ : ∃ double v, chars (text s t) = quoteMark double :: v := by
      rw [text]
      simp only [plain, Bool.false_eq_true, if_false]
      split
      · exact ⟨false, _, rfl⟩
      · exact ⟨true, _, rfl⟩
    rw [begins]
    refine ⟨?_, fun c h => ?_⟩
    · cases double <;> rfl
    · cases double <;> simp [Cursor.isAnyMark, Cursor.isMark, h, quoteMark]

end TaskCatalog.Yaml.Writing
