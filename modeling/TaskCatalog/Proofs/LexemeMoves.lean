import TaskCatalog.Proofs.QuotedLiterals
import TaskCatalog.Proofs.ScanSteps

/-!
How a scan moves over single names, marks and quoted texts, over blanks and over line breaks.
-/

namespace TaskCatalog.Code.Scan

open Text

variable {cs rest word : List Char} {a b c d : Char} {line : Nat} {margins : List Margin} {brackets : List (Char × Nat)}

/-! What does not begin a string literal. -/

theorem stringMark?_of_mark (plain : isQuote c = false) (unmarked : ∀ m ∈ stringMarks, m.toList.head? ≠ some c.toLower)
    (rest : List Char) : stringMark? (c :: rest) = none := by
  have other (cs : List Char) : stringMarks.contains (String.ofList (c.toLower :: cs)) = false := by
    refine Bool.eq_false_iff.2 fun h => unmarked _ (List.contains_iff_mem.1 h) ?_
    rw [String.toList_ofList, List.head?_cons]
  cases rest with
  | nil => simp [stringMark?, plain]
  | cons b rest =>
    have one := other []
    have two := other [b.toLower]
    simp only [stringMark?, plain, String.singleton_eq_ofList, one, two]
    simp

theorem stringMark?_of_word (plain : ∀ x ∈ [a, b, c], isQuote x = false) (rest : List Char) :
    stringMark? (a :: b :: c :: rest) = none := by
  simp only [List.mem_cons, List.not_mem_nil, or_false, forall_eq_or_imp] at plain
  simp [stringMark?, plain.1, plain.2.1, plain.2.2]

namespace Cursor

/-! Single lexemes. -/

theorem lexeme_literal (t : Text) (apart : rest.head? ≠ some (quoteChar t)) :
    ∃ line', (⟨literalChars t ++ rest, line, margins, brackets⟩ : Cursor).lexeme =
      (.string (literalChars t), ⟨rest, line', margins, brackets⟩) := by
  have kind : isQuote (quoteChar t) = true :=
    (by decide : ∀ q ∈ ['\'', '"'], isQuote q = true) _ (quoteChar_mem t)
  have mark : stringMark? (literalChars t ++ rest) = some 0 := by
    rw [literalChars, List.cons_append, stringMark?.eq_def]
    simp [kind]
  have cut : (literalChars t ++ rest).take ((literalChars t ++ rest).length - rest.length) = literalChars t := by
    simp
  refine ⟨line + (literalChars t).count '\n', ?_⟩
  simp only [lexeme, mark, string, List.drop_zero, afterString_literal t apart, cut]

/-- A word that can be a name, of three letters or more, as the letters before a literal are not. -/
structure IsName (word : List Char) : Prop where
  long : ∃ a b c cs, word = a :: b :: c :: cs
  parts : word.all isNamePart = true
  start : word.head?.any isNameStart = true
  identifier : (word.head?.any isIdentifierStart && word.all isIdentifierPart) = true

theorem lexeme_name (h : IsName word) (ends : isNamePart d = false) (rest : List Char) :
    (⟨word ++ d :: rest, line, margins, brackets⟩ : Cursor).lexeme =
      (.name (String.ofList word), ⟨d :: rest, line, margins, brackets⟩) := by
  have taken : (word ++ d :: rest).takeWhile isNamePart = word := by
    rw [List.takeWhile_append_of_pos (List.all_eq_true.1 h.parts), List.takeWhile_cons_of_neg (by simp [ends]),
      List.append_nil]
  have unquoted : ∀ c ∈ word, isQuote c = false := by
    refine fun c mem => Bool.eq_false_iff.2 fun kind => ?_
    have part := List.all_eq_true.1 h.parts c mem
    simp only [isQuote, Bool.or_eq_true, beq_iff_eq] at kind
    obtain rfl | rfl := kind <;> revert part <;> decide
  have named : (⟨word ++ d :: rest, line, margins, brackets⟩ : Cursor).name =
      (.name (String.ofList word), ⟨d :: rest, line, margins, brackets⟩) := by
    simp only [name, taken, h.identifier, if_true, List.drop_left]
  obtain ⟨a, b, c, cs, rfl⟩ := h.long
  have unmarked : stringMark? (a :: b :: c :: (cs ++ d :: rest)) = none :=
    stringMark?_of_word (fun x mem => unquoted x (by simp only [List.mem_cons] at mem ⊢; tauto)) _
  have start : isNameStart a = true := h.start
  simp only [List.cons_append] at named ⊢
  simp only [lexeme, unmarked, start, if_true, named]

/-- A character that is a mark by itself before another one. -/
structure IsMark (c d : Char) : Prop where
  plain : isQuote c = false
  unmarked : ∀ m ∈ stringMarks, m.toList.head? ≠ some c.toLower
  nameless : isNameStart c = false
  numberless : c.isDigit = false ∧ c ≠ '.'
  visible : 32 ≤ c.toNat ∧ c.toNat ≠ 127
  single : ∀ m ∈ longMarks ++ doubleMarks, m.toList.take 2 ≠ [c, d]

/-- No mark of several characters begins with a bracket or a comma. -/
theorem IsMark.of_bracket (kind : c ∈ ['(', '[', '\x7b', ')', ']', '\x7d', ',']) (d : Char) : IsMark c d := by
  have facts : ∀ c ∈ ['(', '[', '\x7b', ')', ']', '\x7d', ','], isQuote c = false ∧
      (∀ m ∈ stringMarks, m.toList.head? ≠ some c.toLower) ∧ isNameStart c = false ∧ (c.isDigit = false ∧ c ≠ '.') ∧
      (32 ≤ c.toNat ∧ c.toNat ≠ 127) ∧ ∀ m ∈ longMarks ++ doubleMarks, m.toList.head? ≠ some c := by decide
  obtain ⟨plain, unmarked, nameless, numberless, visible, first⟩ := facts c kind
  refine ⟨plain, unmarked, nameless, numberless, visible, fun m mem same => first m mem ?_⟩
  have taken := congrArg List.head? same
  rwa [List.head?_take, if_neg (by decide)] at taken

theorem markAt_of_single (h : IsMark c d) (rest : List Char) : markAt (c :: d :: rest) = String.singleton c := by
  have long : longMarks.contains (String.ofList ((c :: d :: rest).take 3)) = false := by
    refine Bool.eq_false_iff.2 fun mem => h.single _ (List.mem_append_left _ (List.contains_iff_mem.1 mem)) ?_
    rw [String.toList_ofList]
    rfl
  have double : doubleMarks.contains (String.ofList ((c :: d :: rest).take 2)) = false := by
    refine Bool.eq_false_iff.2 fun mem => h.single _ (List.mem_append_right _ (List.contains_iff_mem.1 mem)) ?_
    rw [String.toList_ofList]
    rfl
  simp only [markAt, long, double]
  rfl

theorem lexeme_eq_mark (h : IsMark c d) (rest : List Char) :
    (⟨c :: rest, line, margins, brackets⟩ : Cursor).lexeme = (⟨c :: rest, line, margins, brackets⟩ : Cursor).mark := by
  simp [lexeme, stringMark?_of_mark h.plain h.unmarked, h.nameless, h.numberless]

theorem lexeme_separator (h : IsMark c d) (closes : isClosing c = false) (opens : closing? c = none)
    (rest : List Char) :
    (⟨c :: d :: rest, line, margins, brackets⟩ : Cursor).lexeme =
      (.mark (String.singleton c), ⟨d :: rest, line, margins, brackets⟩) := by
  have visible : (c.toNat < 32 || c.toNat = 127) = false := by simp [h.visible]
  rw [lexeme_eq_mark h]
  simp [mark, markAt_of_single h, closes, opens, visible]

theorem lexeme_opening {close : Char} (h : IsMark c d) (closes : isClosing c = false)
    (opens : closing? c = some close) (room : brackets.length < bracketLimit) (rest : List Char) :
    (⟨c :: d :: rest, line, margins, brackets⟩ : Cursor).lexeme =
      (.mark (String.singleton c), ⟨d :: rest, line, margins, (close, line) :: brackets⟩) := by
  rw [lexeme_eq_mark h]
  simp [mark, markAt_of_single h, closes, opens, Nat.not_le.2 room]

theorem lexeme_closing {at' : Nat} (h : IsMark c d) (closes : isClosing c = true) (rest : List Char) :
    (⟨c :: d :: rest, line, margins, (c, at') :: brackets⟩ : Cursor).lexeme =
      (.mark (String.singleton c), ⟨d :: rest, line, margins, brackets⟩) := by
  rw [lexeme_eq_mark h]
  simp [mark, markAt_of_single h, closes]

end Cursor

/-! Steps inside a line. -/

/-- Characters at which the next lexeme does not begin. -/
def isSkipped (c : Char) : Bool := Cursor.isGap c || c == '#' || c == '\n' || c == '\\'

theorem of_not_skipped (solid : isSkipped c = false) :
    c ≠ ' ' ∧ c ≠ '\t' ∧ c ≠ '\x0c' ∧ c ≠ '#' ∧ c ≠ '\n' ∧ c ≠ '\\' := by
  simp only [isSkipped, Cursor.isGap, Bool.or_eq_false_iff, beq_eq_false_iff_ne] at solid
  obtain ⟨⟨⟨⟨⟨blank, tab⟩, form⟩, hash⟩, feed⟩, back⟩ := solid
  exact ⟨blank, tab, form, hash, feed, back⟩

theorem Cursor.IsName.solid (h : Cursor.IsName (a :: cs)) : isSkipped a = false := by
  have part := (List.all_eq_true.1 h.parts) a List.mem_cons_self
  refine Bool.eq_false_iff.2 fun skipped => ?_
  simp only [isSkipped, Cursor.isGap, Bool.or_eq_true, beq_iff_eq] at skipped
  obtain ((((rfl | rfl) | rfl) | rfl) | rfl) | rfl := skipped <;> revert part <;> decide

theorem Moves.of_lexeme {l : Lexeme} {next : Cursor} (solid : isSkipped c = false)
    (found : (⟨c :: rest, line, margins, brackets⟩ : Cursor).lexeme = (l, next)) (sound : l.isFault = false)
    (shorter : next.rest.length < rest.length + 1) : Moves false ⟨c :: rest, line, margins, brackets⟩ [l] false next := by
  obtain ⟨blank, tab, form, hash, feed, back⟩ := of_not_skipped solid
  have gap : Cursor.isGap c = false := by simp [Cursor.isGap, blank, tab, form]
  have first : (c :: rest).dropWhile Cursor.isGap = c :: rest := List.dropWhile_cons_of_neg (by simp [gap])
  have given : step false ⟨c :: rest, line, margins, brackets⟩ = ([located l line next], some (false, next)) := by
    simp only [step, first, Bool.false_eq_true, if_false]
    split
    · next h => cases h
    · next h => exact absurd (List.cons.inj h).1 hash
    · next h => exact absurd (List.cons.inj h).1 feed
    · next h => exact absurd (List.cons.inj h).1 back
    · next h => exact absurd (List.cons.inj h).1 back
    · next h => exact absurd (List.cons.inj h).1 back
    · rw [found]
      cases l <;> first | rfl | cases sound
  exact Moves.of_step given (by simp only [stepsLeft, List.length_cons]; omega)

theorem Moves.literal (t : Text) (apart : rest.head? ≠ some (quoteChar t)) :
    ∃ line', Moves false ⟨literalChars t ++ rest, line, margins, brackets⟩ [.string (literalChars t)]
      false ⟨rest, line', margins, brackets⟩ := by
  obtain ⟨line', found⟩ : ∃ line', (⟨literalChars t ++ rest, line, margins, brackets⟩ : Cursor).lexeme =
      (.string (literalChars t), ⟨rest, line', margins, brackets⟩) := Cursor.lexeme_literal t apart
  have solid : isSkipped (quoteChar t) = false :=
    (by decide : ∀ q ∈ ['\'', '"'], isSkipped q = false) _ (quoteChar_mem t)
  exact ⟨line', Moves.of_lexeme solid found rfl (by simp; omega)⟩

theorem Moves.name (h : Cursor.IsName word) (ends : isNamePart d = false) (rest : List Char) :
    Moves false ⟨word ++ d :: rest, line, margins, brackets⟩ [.name (String.ofList word)]
      false ⟨d :: rest, line, margins, brackets⟩ := by
  have found : (⟨word ++ d :: rest, line, margins, brackets⟩ : Cursor).lexeme =
      (.name (String.ofList word), ⟨d :: rest, line, margins, brackets⟩) := Cursor.lexeme_name h ends rest
  obtain ⟨a, b, c, cs, rfl⟩ := h.long
  exact Moves.of_lexeme h.solid found rfl (by simp; omega)

theorem Moves.separator (h : Cursor.IsMark c d) (solid : isSkipped c = false) (closes : isClosing c = false)
    (opens : closing? c = none) (rest : List Char) :
    Moves false ⟨c :: d :: rest, line, margins, brackets⟩ [.mark (String.singleton c)]
      false ⟨d :: rest, line, margins, brackets⟩ :=
  Moves.of_lexeme solid (Cursor.lexeme_separator h closes opens rest) rfl (Nat.lt_succ_self _)

theorem Moves.opening {close : Char} (h : Cursor.IsMark c d) (solid : isSkipped c = false)
    (closes : isClosing c = false) (opens : closing? c = some close)
    (room : brackets.length < Cursor.bracketLimit) (rest : List Char) :
    Moves false ⟨c :: d :: rest, line, margins, brackets⟩ [.mark (String.singleton c)]
      false ⟨d :: rest, line, margins, (close, line) :: brackets⟩ :=
  Moves.of_lexeme solid (Cursor.lexeme_opening h closes opens room rest) rfl (Nat.lt_succ_self _)

theorem Moves.closing {at' : Nat} (h : Cursor.IsMark c d) (solid : isSkipped c = false)
    (closes : isClosing c = true) (rest : List Char) :
    Moves false ⟨c :: d :: rest, line, margins, (c, at') :: brackets⟩ [.mark (String.singleton c)]
      false ⟨d :: rest, line, margins, brackets⟩ :=
  Moves.of_lexeme solid (Cursor.lexeme_closing h closes rest) rfl (Nat.lt_succ_self _)

theorem Moves.blank : Moves false ⟨' ' :: rest, line, margins, brackets⟩ [] false ⟨rest, line, margins, brackets⟩ := by
  refine ⟨0, by simp [stepsLeft], fun fuel => ?_⟩
  cases fuel with
  | zero => rfl
  | succ fuel =>
    rw [List.nil_append, Nat.add_zero, lexemes, lexemes, tokens_succ, tokens_succ]
    rfl

/-! Line breaks. -/

theorem margin_solid (cursor : Cursor) (solid : isSkipped c = false) (m : Margin) (rest : List Char) :
    cursor.margin m 0 line (c :: rest) = .ok (m, line, c :: rest) := by
  obtain ⟨blank, tab, form, -, -, back⟩ := of_not_skipped solid
  unfold Cursor.margin
  split
  · next h => exact absurd (List.cons.inj h).1 blank
  · next h => exact absurd (List.cons.inj h).1 tab
  · next h => exact absurd (List.cons.inj h).1 form
  · next h => exact absurd (List.cons.inj h).1 back
  · next h => exact absurd (List.cons.inj h).1 back
  · next h => exact absurd (List.cons.inj h).1 back
  · rfl

theorem margin_blanks (cursor : Cursor) (solid : isSkipped c = false) (n : Nat) (m : Margin) (rest : List Char) :
    ∃ m', cursor.margin m 0 line (List.replicate n ' ' ++ c :: rest) = .ok (m', line, c :: rest) := by
  induction n generalizing m with
  | zero => exact ⟨m, margin_solid cursor solid m rest⟩
  | succ n ih =>
    rw [List.replicate_succ, List.cons_append, Cursor.margin]
    exact ih _

theorem Moves.front (solid : isSkipped c = false) :
    Moves true ⟨c :: rest, line, [⟨0, 0⟩], []⟩ [] false ⟨c :: rest, line, [⟨0, 0⟩], []⟩ := by
  obtain ⟨-, -, -, hash, feed, -⟩ := of_not_skipped solid
  have given : step true ⟨c :: rest, line, [⟨0, 0⟩], []⟩ =
      ([], some (false, ⟨c :: rest, line, [⟨0, 0⟩], []⟩)) := by
    simp [step, margin_solid _ solid, hash, feed, Cursor.enter]
  exact Moves.of_step given (by simp [stepsLeft])

theorem Moves.lineBreak (rest : List Char) :
    Moves false ⟨'\n' :: rest, line, margins, []⟩ [.newline] true ⟨rest, line + 1, margins, []⟩ := by
  have given : step false ⟨'\n' :: rest, line, margins, []⟩ =
    ([(.newline, line, 0)], some (true, ⟨rest, line + 1, margins, []⟩)) := rfl
  exact Moves.of_step given (by simp [stepsLeft]; omega)

theorem Moves.emptyLine (rest : List Char) :
    Moves true ⟨'\n' :: rest, line, margins, []⟩ [] true ⟨rest, line + 1, margins, []⟩ := by
  have given : step true ⟨'\n' :: rest, line, margins, []⟩ =
    ([], some (true, ⟨rest, line + 1, margins, []⟩)) := rfl
  exact Moves.of_step given (by simp [stepsLeft])

/-- Inside brackets a line break and the blanks behind it are left out. -/
theorem Moves.innerBreak (solid : isSkipped c = false) (n : Nat) (rest : List Char) (b : Char × Nat)
    (outer : List (Char × Nat)) :
    Moves false ⟨'\n' :: (List.replicate n ' ' ++ c :: rest), line, margins, b :: outer⟩ []
      false ⟨c :: rest, line + 1, margins, b :: outer⟩ := by
  obtain ⟨-, -, -, hash, feed, -⟩ := of_not_skipped solid
  have break' : Moves false ⟨'\n' :: (List.replicate n ' ' ++ c :: rest), line, margins, b :: outer⟩ []
      true ⟨List.replicate n ' ' ++ c :: rest, line + 1, margins, b :: outer⟩ := by
    have given : step false ⟨'\n' :: (List.replicate n ' ' ++ c :: rest), line, margins, b :: outer⟩ =
      ([], some (true, ⟨List.replicate n ' ' ++ c :: rest, line + 1, margins, b :: outer⟩)) := rfl
    exact Moves.of_step given (by simp [stepsLeft]; omega)
  have front : Moves true ⟨List.replicate n ' ' ++ c :: rest, line + 1, margins, b :: outer⟩ []
      false ⟨c :: rest, line + 1, margins, b :: outer⟩ := by
    obtain ⟨m', measured⟩ : ∃ m', Cursor.margin ⟨List.replicate n ' ' ++ c :: rest, line + 1, margins, b :: outer⟩ ⟨0, 0⟩
        0 (line + 1) (List.replicate n ' ' ++ c :: rest) = .ok (m', line + 1, c :: rest) :=
      margin_blanks _ solid n ⟨0, 0⟩ rest
    have given : step true ⟨List.replicate n ' ' ++ c :: rest, line + 1, margins, b :: outer⟩ =
        ([], some (false, ⟨c :: rest, line + 1, margins, b :: outer⟩)) := by
      simp [step, measured, hash, feed]
    exact Moves.of_step given (by
      simp only [stepsLeft, List.length_append, List.length_replicate, List.length_cons, Bool.toNat_true, Bool.toNat_false]
      omega)
  exact break'.trans front

end TaskCatalog.Code.Scan
