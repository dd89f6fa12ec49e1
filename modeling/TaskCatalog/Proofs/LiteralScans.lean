import TaskCatalog.Artifact.Layout
import TaskCatalog.Proofs.LexemeMoves

/-!
Values of texts, truth values and nulls in lists and maps: what a scan makes of their literals, in one line
or broken into several.
-/

namespace TaskCatalog

open Text Code Code.Scan

/-! The pieces of a broken text are the text. -/

namespace Layout

theorem flatten_spacedWords {fuel : Nat} {t : Text} (enough : t.length ≤ fuel) : (spacedWords fuel t).flatten = t := by
  induction fuel generalizing t with
  | zero =>
    rw [List.eq_nil_of_length_eq_zero (Nat.le_zero.1 enough)]
    rfl
  | succ fuel ih =>
    cases t with
    | nil => rfl
    | cons l t =>
      simp only [spacedWords]
      generalize word : (l :: t).takeWhile (!isBlank ·) = w
      generalize blanks : ((l :: t).drop w.length).takeWhile isBlank = b
      have cut : l :: t = w ++ b ++ (l :: t).drop (w.length + b.length) := by
        have first : (l :: t).take w.length = w := word ▸ List.prefix_iff_eq_take.1 (List.takeWhile_prefix _) |>.symm
        have second : ((l :: t).drop w.length).take b.length = b :=
          blanks ▸ List.prefix_iff_eq_take.1 (List.takeWhile_prefix _) |>.symm
        conv => lhs; rw [← List.take_append_drop w.length (l :: t), first]
        conv => lhs; rw [← List.take_append_drop b.length ((l :: t).drop w.length), second]
        rw [List.drop_drop, List.append_assoc]
      have progress : 0 < w.length + b.length := by
        cases blank : isBlank l with
        | false => simp [← word, blank]
        | true =>
          have none : w = [] := by simp [← word, blank]
          simp [← blanks, none, blank]
      have fewer : ((l :: t).drop (w.length + b.length)).length ≤ fuel := by
        simp only [List.length_drop, List.length_cons] at enough ⊢
        omega
      rw [List.flatten_cons, ih fewer]
      exact cut.symm

theorem flatten_fillWords (start allowance : Nat) (last : Bool) (current : Text) (words : List Text) :
    (fillWords start allowance last current words).flatten = current ++ words.flatten := by
  induction words generalizing current with
  | nil =>
    rw [fillWords]
    split <;> simp_all
  | cons word rest ih =>
    rw [fillWords]
    generalize (if last && rest.isEmpty then start + allowance else start) = column
    split
    · rw [List.flatten_append, ih]
      split <;> simp_all
    · rw [ih]
      simp

theorem flatten_pieces (start allowance : Nat) (ls : List Text) : (pieces start allowance ls).flatten = ls.flatten := by
  induction ls with
  | nil => rfl
  | cons line rest ih =>
    rw [pieces]
    generalize (if rest.isEmpty then start + allowance else start) = column
    rw [List.flatten_append, ih, List.flatten_cons]
    congr 1
    split
    · rw [flatten_fillWords, flatten_spacedWords (Nat.le_refl _), List.nil_append]
    · simp

theorem flatten_brokenLines (t : Text) : (brokenLines t).flatten = t := by
  fun_induction brokenLines t <;> simp_all

end Layout

/-! The lexemes of a value. -/

namespace Code

/-- Lexemes of several things, with commas between. -/
inductive Listed {α : Type} (R : α → List Lexeme → Prop) : List α → List Lexeme → Prop
  | nil : Listed R [] []
  | one {a : α} {ls : List Lexeme} : R a ls → Listed R [a] ls
  | more {a b : α} {as : List α} {ls ls' : List Lexeme} :
      R a ls → Listed R (b :: as) ls' → Listed R (a :: b :: as) (ls ++ .mark "," :: ls')

def literalLexeme (t : Text) : Lexeme := .string (literalChars t)

inductive SpellsScalar : Value → List Lexeme → Prop
  | text (pieces : List Text) : pieces ≠ [] → SpellsScalar (.text pieces.flatten) (pieces.map literalLexeme)
  | null : SpellsScalar .null [.name "None"]
  | truth (b : Bool) : SpellsScalar (.truth b) [.name (if b then "True" else "False")]

/-- An entry of a map, given how the values in it are spelled. -/
def SpellsEntry (R : Value → List Lexeme → Prop) (entry : Value × Value) (ls : List Lexeme) : Prop :=
  ∃ key inner, entry.1 = .text key ∧ R entry.2 inner ∧ ls = literalLexeme key :: .mark ":" :: inner

/-- Lexemes that spell a value whose collections are nested at most so deep. -/
def Spells : Nat → Value → List Lexeme → Prop
  | 0 => SpellsScalar
  | n + 1 => fun v ls =>
    SpellsScalar v ls ∨
    (∃ items inner, v = .list items ∧ Listed (Spells n) items inner ∧ ls = .mark "[" :: (inner ++ [.mark "]"])) ∨
    ∃ entries inner, v = .map entries ∧ (entries.map (·.1)).Nodup ∧ Listed (SpellsEntry (Spells n)) entries inner ∧
      ls = .mark "\x7b" :: (inner ++ [.mark "\x7d"])

theorem Spells.of_scalar {v : Value} {ls : List Lexeme} (h : SpellsScalar v ls) (n : Nat) : Spells n v ls := by
  cases n with
  | zero => exact h
  | succ n => exact .inl h

end Code

/-- A value of texts, truth values and nulls in lists and maps, which are nested at most so deep. -/
inductive Value.IsData : Nat → Value → Prop
  | text {n : Nat} (t : Text) : IsData n (.text t)
  | null {n : Nat} : IsData n .null
  | truth {n : Nat} (b : Bool) : IsData n (.truth b)
  | list {n : Nat} {items : List Value} : (∀ v ∈ items, IsData n v) → IsData (n + 1) (.list items)
  | map {n : Nat} {entries : List (Value × Value)} : (∀ e ∈ entries, ∃ t, e.1 = .text t) →
      (entries.map (·.1)).Nodup → (∀ e ∈ entries, IsData n e.2) → IsData (n + 1) (.map entries)

namespace Code.Scan

/-! What a scan makes of a literal. -/

/-- Characters that may follow a literal. -/
def delimiters : List Char := [',', ':', ']', '\x7d', '\n']

/-- A text that a scan reads as some lexemes, wherever there is room for the brackets in it; one that is broken
into lines is read so inside of brackets only. No character of it is changed when a source is read. -/
structure ScansAs (nesting : Nat) (inside : Bool) (cs : List Char) (ls : List Lexeme) : Prop where
  clean : ∀ c ∈ cs, c ≠ '\x00' ∧ c ≠ '\r'
  solid : ∃ c rest, cs = c :: rest ∧ isSkipped c = false
  moves : ∀ (d : Char) (rest : List Char) (line : Nat) (margins : List Margin) (brackets : List (Char × Nat)),
    d ∈ delimiters → brackets.length + nesting ≤ Cursor.bracketLimit → (inside = true → brackets ≠ []) →
    ∃ line', Moves false ⟨cs ++ d :: rest, line, margins, brackets⟩ ls false ⟨d :: rest, line', margins, brackets⟩

/-- The same of a text, all of whose letters are characters. -/
def Scans (nesting : Nat) (inside : Bool) (t : Text) (ls : List Lexeme) : Prop :=
  ∃ cs, t = ofChars cs ∧ ScansAs nesting inside cs ls

variable {nesting : Nat} {inside : Bool} {t u : Text} {ls ls' : List Lexeme}

theorem ofChars_append (cs cs' : List Char) : ofChars (cs ++ cs') = ofChars cs ++ ofChars cs' := List.map_append

theorem Scans.inner (h : Scans nesting false t ls) : Scans nesting true t ls := by
  obtain ⟨cs, rfl, clean, solid, moves⟩ := h
  exact ⟨cs, rfl, clean, solid, fun d rest line margins brackets delimited room _ =>
    moves d rest line margins brackets delimited room fun h => nomatch h⟩

theorem scans_quoted (t : Text) (nesting : Nat) : Scans nesting false (quoted t) [literalLexeme t] := by
  refine ⟨literalChars t, quoted_eq t, ?_, ⟨_, _, rfl, ?_⟩, fun d rest line margins brackets delimited _ _ => ?_⟩
  · exact fun c mem => ⟨(solid_literalChars t c mem).1, (solid_literalChars t c mem).2.2⟩
  · exact (by decide : ∀ q ∈ ['\'', '"'], isSkipped q = false) _ (quoteChar_mem t)
  · have apart : (d :: rest).head? ≠ some (quoteChar t) := fun same =>
      (by decide : ∀ d ∈ delimiters, ∀ q ∈ ['\'', '"'], d ≠ q) d delimited _ (quoteChar_mem t) (Option.some.inj same)
    exact Moves.literal t apart

/-- The words for values. -/
theorem isName_word {w : String} (known : w ∈ ["None", "True", "False"]) : Cursor.IsName w.toList := by
  simp only [List.mem_cons, List.not_mem_nil, or_false] at known
  obtain rfl | rfl | rfl := known <;> exact ⟨⟨_, _, _, _, rfl⟩, by decide, by decide, by decide⟩

theorem scans_word {w : String} (known : w ∈ ["None", "True", "False"]) (nesting : Nat) :
    Scans nesting false (w : Text) [.name w] := by
  have clean : ∀ w ∈ ["None", "True", "False"], ∀ c ∈ w.toList, c ≠ '\x00' ∧ c ≠ '\r' := by decide
  have solid : ∀ w ∈ ["None", "True", "False"], ∀ c ∈ w.toList, isSkipped c = false := by decide
  obtain ⟨a, b, c, cs, spelled⟩ := (isName_word known).long
  refine ⟨w.toList, rfl, clean w known, ⟨a, b :: c :: cs, spelled, solid w known a (by simp [spelled])⟩, ?_⟩
  intro d rest line margins brackets delimited _ _
  have ends : ∀ d ∈ delimiters, isNamePart d = false := by decide
  have moves : Moves false ⟨w.toList ++ d :: rest, line, margins, brackets⟩ [.name (String.ofList w.toList)]
      false ⟨d :: rest, line, margins, brackets⟩ := Moves.name (isName_word known) (ends d delimited) rest
  rw [String.ofList_toList] at moves
  exact ⟨line, moves⟩

/-- What stands between two literals inside of brackets. -/
structure Between (cs : List Char) (ls : List Lexeme) : Prop where
  clean : ∀ c ∈ cs, c ≠ '\x00' ∧ c ≠ '\r'
  delimits : ∃ d rest, cs = d :: rest ∧ d ∈ delimiters
  moves : ∀ (c : Char) (rest : List Char) (line : Nat) (margins : List Margin) (brackets : List (Char × Nat)),
    isSkipped c = false → brackets ≠ [] →
    ∃ line', Moves false ⟨cs ++ c :: rest, line, margins, brackets⟩ ls false ⟨c :: rest, line', margins, brackets⟩

theorem clean_newLine (n : Nat) : ∀ c ∈ '\n' :: List.replicate n ' ', c ≠ '\x00' ∧ c ≠ '\r' := by
  intro c mem
  rcases List.mem_cons.1 mem with rfl | mem
  · decide
  · rw [List.eq_of_mem_replicate mem]
    decide

theorem between_newLine (n : Nat) : Between ('\n' :: List.replicate n ' ') [] := by
  refine ⟨clean_newLine n, ⟨_, _, rfl, by decide⟩, fun c rest line margins brackets solid inside => ?_⟩
  obtain ⟨b, outer, rfl⟩ := List.exists_cons_of_ne_nil inside
  exact ⟨line + 1, Moves.innerBreak solid n rest b outer⟩

theorem between_comma : Between [',', ' '] [.mark ","] := by
  refine ⟨by decide, ⟨_, _, rfl, by decide⟩, fun c rest line margins brackets solid inside => ⟨line, ?_⟩⟩
  exact (Moves.separator (.of_bracket (by decide) ' ') rfl rfl rfl _).trans Moves.blank

theorem between_comma_newLine (n : Nat) : Between (',' :: '\n' :: List.replicate n ' ') [.mark ","] := by
  have newLine := between_newLine n
  refine ⟨?_, ⟨_, _, rfl, by decide⟩, fun c rest line margins brackets solid inside => ?_⟩
  · exact List.forall_mem_cons.2 ⟨by decide, clean_newLine n⟩
  · obtain ⟨line', more⟩ := newLine.moves c rest line margins brackets solid inside
    exact ⟨line', (Moves.separator (.of_bracket (by decide) '\n') rfl rfl rfl _).trans more⟩

theorem between_colon : Between [':', ' '] [.mark ":"] := by
  refine ⟨by decide, ⟨_, _, rfl, by decide⟩, fun c rest line margins brackets solid inside => ⟨line, ?_⟩⟩
  have colon : Cursor.IsMark ':' ' ' := ⟨rfl, by decide, rfl, by decide, by decide, by decide⟩
  exact (Moves.separator colon rfl rfl rfl _).trans Moves.blank

theorem Scans.glue {sep : List Char} {ms : List Lexeme} (first : Scans nesting true t ls) (between : Between sep ms)
    (second : Scans nesting true u ls') : Scans nesting true (t ++ ofChars sep ++ u) (ls ++ (ms ++ ls')) := by
  obtain ⟨cs, rfl, clean, ⟨c₁, cs₁, rfl, solid₁⟩, moves⟩ := first
  obtain ⟨cs', rfl, clean', ⟨c₂, cs₂, rfl, solid₂⟩, moves'⟩ := second
  obtain ⟨d, rest', rfl, delimited⟩ := between.delimits
  refine ⟨(c₁ :: cs₁) ++ (d :: rest') ++ (c₂ :: cs₂), by simp only [ofChars_append], ?_, ⟨_, _, rfl, solid₁⟩, ?_⟩
  · intro c mem
    rcases List.mem_append.1 mem with mem | mem
    · rcases List.mem_append.1 mem with mem | mem
      · exact clean c mem
      · exact between.clean c mem
    · exact clean' c mem
  · intro e rest line margins brackets delimited' room inside
    obtain ⟨line₁, before⟩ := moves d (rest' ++ (c₂ :: (cs₂ ++ e :: rest))) line margins brackets delimited room inside
    obtain ⟨line₂, amid⟩ := between.moves c₂ (cs₂ ++ e :: rest) line₁ margins brackets solid₂ (inside rfl)
    obtain ⟨line₃, behind⟩ := moves' e rest line₂ margins brackets delimited' room inside
    refine ⟨line₃, ?_⟩
    have whole := before.trans (amid.trans behind)
    simpa only [List.append_assoc, List.cons_append] using whole

theorem scans_join {α : Type} {R : α → List Lexeme → Prop} {sep : List Char} (between : Between sep [.mark ","])
    {as : List α} {ts : List Text} (each : List.Forall₂ (fun a t => ∃ ls, R a ls ∧ Scans nesting true t ls) as ts)
    (filled : as ≠ []) : ∃ ls, Listed R as ls ∧ Scans nesting true (join (ofChars sep) ts) ls := by
  induction each with
  | nil => exact absurd rfl filled
  | @cons a t as ts first rest ih =>
    obtain ⟨ls, spelled, scanned⟩ := first
    cases rest with
    | nil => exact ⟨ls, .one spelled, scanned⟩
    | cons second rest =>
      obtain ⟨ls', spelled', scanned'⟩ := ih (List.cons_ne_nil _ _)
      exact ⟨_, .more spelled spelled', scanned.glue between scanned'⟩

theorem newLine_eq (indent : Nat) : Layout.newLine indent = ofChars ('\n' :: List.replicate indent ' ') := by
  simp [Layout.newLine, ofChars]

theorem scans_pieces (indent : Nat) {pieces : List Text} (filled : pieces ≠ []) :
    Scans nesting true (join (Layout.newLine indent) (pieces.map quoted)) (pieces.map literalLexeme) := by
  induction pieces with
  | nil => exact absurd rfl filled
  | cons p ps ih =>
    cases ps with
    | nil => exact (scans_quoted p nesting).inner
    | cons q qs =>
      rw [newLine_eq] at ih ⊢
      exact (scans_quoted p nesting).inner.glue (between_newLine indent) (ih (List.cons_ne_nil _ _))

/-- A bracket, and the one that closes it. -/
def bracketPairs : List (Char × Char) := [('[', ']'), ('\x7b', '\x7d')]

theorem bracketPairs_facts : ∀ p ∈ bracketPairs, p.1 ∈ ['(', '[', '\x7b', ')', ']', '\x7d', ','] ∧
    p.2 ∈ ['(', '[', '\x7b', ')', ']', '\x7d', ','] ∧ isSkipped p.1 = false ∧ isSkipped p.2 = false ∧
    isClosing p.1 = false ∧ isClosing p.2 = true ∧ closing? p.1 = some p.2 ∧ p.2 ∈ delimiters ∧
    (p.1 ≠ '\x00' ∧ p.1 ≠ '\r') ∧ (p.2 ≠ '\x00' ∧ p.2 ≠ '\r') := by decide

theorem Scans.bracketed {o close : Char} (pair : (o, close) ∈ bracketPairs) (h : Scans nesting true t ls) :
    Scans (nesting + 1) false (ofChars [o] ++ t ++ ofChars [close])
      (.mark (String.singleton o) :: (ls ++ [.mark (String.singleton close)])) := by
  obtain ⟨opener, closer, solid, solid', isOpening, isClosing, opens, delimits, clean₁, clean₂⟩ :=
    bracketPairs_facts _ pair
  dsimp only at opener closer solid solid' isOpening isClosing opens delimits clean₁ clean₂
  obtain ⟨cs, rfl, clean, ⟨c₁, cs₁, rfl, solid₁⟩, moves⟩ := h
  refine ⟨[o] ++ (c₁ :: cs₁) ++ [close], by simp only [ofChars_append], ?_, ⟨_, _, rfl, solid⟩, ?_⟩
  · intro c mem
    simp only [List.mem_append, List.mem_singleton] at mem
    rcases mem with (rfl | mem) | rfl
    · exact clean₁
    · exact clean c mem
    · exact clean₂
  · intro d rest line margins brackets _ room _
    have before : Moves false ⟨o :: c₁ :: (cs₁ ++ close :: d :: rest), line, margins, brackets⟩ _ _ _ :=
      Moves.opening (.of_bracket opener c₁) solid isOpening opens (by omega) _
    obtain ⟨line', amid⟩ := moves close (d :: rest) line margins ((close, line) :: brackets) delimits
      (by rw [List.length_cons]; omega) fun _ => List.cons_ne_nil _ _
    have behind : Moves false ⟨close :: d :: rest, line', margins, (close, line) :: brackets⟩ _ _ _ :=
      Moves.closing (.of_bracket closer d) solid' isClosing rest
    refine ⟨line', ?_⟩
    have whole := before.trans (amid.trans behind)
    simpa only [List.append_assoc, List.cons_append, List.nil_append] using whole

theorem scans_empty {o close : Char} (pair : (o, close) ∈ bracketPairs) (nesting : Nat) :
    Scans (nesting + 1) false (ofChars [o, close]) [.mark (String.singleton o), .mark (String.singleton close)] := by
  obtain ⟨opener, closer, solid, solid', isOpening, isClosing, opens, delimits, clean₁, clean₂⟩ :=
    bracketPairs_facts _ pair
  dsimp only at opener closer solid solid' isOpening isClosing opens delimits clean₁ clean₂
  refine ⟨[o, close], rfl, ?_, ⟨_, _, rfl, solid⟩, fun d rest line margins brackets _ room _ => ⟨line, ?_⟩⟩
  · simpa only [List.forall_mem_cons, List.not_mem_nil, false_implies, implies_true, and_true] using ⟨clean₁, clean₂⟩
  · exact (Moves.opening (.of_bracket opener close) solid isOpening opens (by omega) _).trans
      (Moves.closing (.of_bracket closer d) solid' isClosing rest)

/-! Values. -/

theorem scans_text (t : Text) (nesting : Nat) :
    ∃ ls, SpellsScalar (.text t) ls ∧ Scans nesting false (quoted t) ls := by
  have whole := SpellsScalar.text [t] (List.cons_ne_nil _ _)
  rw [List.flatten_singleton] at whole
  exact ⟨_, whole, scans_quoted t nesting⟩

theorem scans_null (nesting : Nat) : ∃ ls, SpellsScalar .null ls ∧ Scans nesting false Value.null.literal ls :=
  ⟨_, .null, scans_word (by decide) nesting⟩

theorem scans_truth (b : Bool) (nesting : Nat) :
    ∃ ls, SpellsScalar (.truth b) ls ∧ Scans nesting false (Value.truth b).literal ls := by
  refine ⟨_, .truth b, ?_⟩
  cases b with
  | false => exact scans_word (by decide) nesting
  | true => exact scans_word (by decide) nesting

/-- Items between brackets, whatever stands between them beside a comma. -/
theorem scans_collection {α : Type} {R : α → List Lexeme → Prop} {o close : Char} (pair : (o, close) ∈ bracketPairs)
    {sep : List Char} (between : Between sep [.mark ","]) {as : List α} {ts : List Text}
    (each : List.Forall₂ (fun a t => ∃ ls, R a ls ∧ Scans nesting true t ls) as ts) :
    ∃ ls, Listed R as ls ∧ Scans (nesting + 1) false (ofChars [o] ++ join (ofChars sep) ts ++ ofChars [close])
      (.mark (String.singleton o) :: (ls ++ [.mark (String.singleton close)])) := by
  cases each with
  | nil => exact ⟨[], .nil, scans_empty pair nesting⟩
  | cons first rest =>
    obtain ⟨ls, listed, scanned⟩ := scans_join between (.cons first rest) (List.cons_ne_nil _ _)
    exact ⟨ls, listed, scanned.bracketed pair⟩

theorem literals_eq (items : List Value) : Value.literals items = items.map Value.literal := by
  induction items with
  | nil => rfl
  | cons v items ih => rw [Value.literals, ih, List.map_cons]

theorem entryLiterals_eq (entries : List (Value × Value)) :
    Value.entryLiterals entries = entries.map fun e => (e.1.literal ++ (": " : Text) ++ e.2.literal : Text) := by
  induction entries with
  | nil => rfl
  | cons e entries ih => rw [Value.entryLiterals, ih, List.map_cons]

theorem scans_entry {R : Value → List Lexeme → Prop} {k : Text} {v : Value} (value : ∃ ls, R v ls ∧ Scans nesting true t ls) :
    ∃ ls, SpellsEntry R (.text k, v) ls ∧ Scans nesting true ((Value.text k).literal ++ ": " ++ t) ls := by
  obtain ⟨ls, spelled, scanned⟩ := value
  exact ⟨_, ⟨k, ls, rfl, spelled, rfl⟩, (scans_quoted k nesting).inner.glue between_colon scanned⟩

theorem scans_of_scalar {v : Value} {n : Nat} (h : ∃ ls, SpellsScalar v ls ∧ Scans n inside t ls) :
    ∃ ls, Spells n v ls ∧ Scans n inside t ls := by
  obtain ⟨ls, spelled, scanned⟩ := h
  exact ⟨ls, .of_scalar spelled n, scanned⟩

theorem scans_literal {n : Nat} {v : Value} (h : v.IsData n) : ∃ ls, Spells n v ls ∧ Scans n false v.literal ls := by
  induction h with
  | text t => exact scans_of_scalar (scans_text t _)
  | null => exact scans_of_scalar (scans_null _)
  | truth b => exact scans_of_scalar (scans_truth b _)
  | @list n items _ each =>
    have texts : List.Forall₂ (fun v t => ∃ ls, Spells n v ls ∧ Scans n true t ls) items (Value.literals items) := by
      rw [literals_eq, List.forall₂_map_right_iff, List.forall₂_same]
      intro v mem
      obtain ⟨ls, spelled, scanned⟩ := each v mem
      exact ⟨ls, spelled, scanned.inner⟩
    obtain ⟨ls, listed, scanned⟩ :=
      scans_collection (show ('[', ']') ∈ bracketPairs by decide) between_comma texts
    exact ⟨_, .inr (.inl ⟨items, ls, rfl, listed, rfl⟩), scanned⟩
  | @map n entries keys distinct _ each =>
    have texts : List.Forall₂ (fun e t => ∃ ls, SpellsEntry (Spells n) e ls ∧ Scans n true t ls) entries
        (Value.entryLiterals entries) := by
      rw [entryLiterals_eq, List.forall₂_map_right_iff, List.forall₂_same]
      rintro ⟨k, v⟩ mem
      obtain ⟨key, rfl⟩ := keys _ mem
      obtain ⟨ls, spelled, scanned⟩ := each _ mem
      exact scans_entry ⟨ls, spelled, scanned.inner⟩
    obtain ⟨ls, listed, scanned⟩ :=
      scans_collection (show ('\x7b', '\x7d') ∈ bracketPairs by decide) between_comma texts
    exact ⟨_, .inr (.inr ⟨entries, ls, rfl, distinct, listed, rfl⟩), scanned⟩

/-! Values that are broken into lines. -/

theorem scans_brokenText (start allowance : Nat) (t : Text) (nesting : Nat) :
    ∃ ls, SpellsScalar (.text t) ls ∧ Scans nesting true (Layout.brokenText start allowance t) ls := by
  unfold Layout.brokenText
  split
  · obtain ⟨ls, spelled, scanned⟩ := scans_text t nesting
    exact ⟨ls, spelled, scanned.inner⟩
  · next some =>
    have whole : (Layout.pieces start allowance (brokenLines t)).flatten = t := by
      rw [Layout.flatten_pieces, Layout.flatten_brokenLines]
    have filled : Layout.pieces start allowance (brokenLines t) ≠ [] := by
      intro none
      rw [none] at whole
      exact some (whole ▸ rfl)
    have spelled := SpellsScalar.text _ filled
    rw [whole] at spelled
    exact ⟨_, spelled, scans_pieces start filled⟩

/-- Wherever a value stands, its literal in lines is scanned as lexemes that spell it. -/
def LaysOut (n : Nat) (v : Value) : Prop :=
  ∀ start allowance, ∃ ls, Spells n v ls ∧ Scans n true (Layout.value start allowance v) ls

variable {n : Nat}

theorem laysOut_text (t : Text) : LaysOut n (.text t) := by
  intro start allowance
  refine scans_of_scalar ?_
  rw [Layout.value]
  split
  · exact scans_brokenText start _ t n
  · obtain ⟨ls, spelled, scanned⟩ := scans_text t n
    exact ⟨ls, spelled, scanned.inner⟩

theorem scans_itemLines {items : List Value} (each : ∀ v ∈ items, LaysOut n v) (start allowance : Nat) :
    List.Forall₂ (fun v t => ∃ ls, Spells n v ls ∧ Scans n true t ls) items (Layout.itemLines start allowance items) := by
  induction items with
  | nil => exact .nil
  | cons v items ih =>
    rw [Layout.itemLines]
    exact .cons (each v List.mem_cons_self _ _) (ih fun w mem => each w (List.mem_cons_of_mem _ mem))

theorem scans_entryLines {entries : List (Value × Value)} (keys : ∀ e ∈ entries, ∃ t, e.1 = .text t)
    (each : ∀ e ∈ entries, LaysOut n e.2) (start allowance : Nat) :
    List.Forall₂ (fun e t => ∃ ls, SpellsEntry (Spells n) e ls ∧ Scans n true t ls) entries
      (Layout.entryLines start allowance entries) := by
  induction entries with
  | nil => exact .nil
  | cons e entries ih =>
    obtain ⟨k, v⟩ := e
    obtain ⟨key, rfl⟩ := keys _ List.mem_cons_self
    rw [Layout.entryLines]
    exact .cons (scans_entry (each _ List.mem_cons_self _ _))
      (ih (fun w mem => keys w (List.mem_cons_of_mem _ mem)) fun w mem => each w (List.mem_cons_of_mem _ mem))

theorem scans_listValue {items : List Value} (data : ∀ v ∈ items, v.IsData n)
    (each : ∀ v ∈ items, LaysOut n v) (start allowance : Nat) :
    ∃ ls, Spells (n + 1) (.list items) ls ∧ Scans (n + 1) false (Layout.value start allowance (.list items)) ls := by
  rw [Layout.value]
  split
  · obtain ⟨ls, listed, scanned⟩ := scans_collection (show ('[', ']') ∈ bracketPairs by decide)
      (between_comma_newLine (start + 1)) (scans_itemLines each (start + 1) (allowance + 1))
    rw [newLine_eq]
    exact ⟨_, .inr (.inl ⟨items, ls, rfl, listed, rfl⟩), scanned⟩
  · exact scans_literal (.list data)

theorem scans_mapValue {entries : List (Value × Value)} (keys : ∀ e ∈ entries, ∃ t, e.1 = .text t)
    (distinct : (entries.map (·.1)).Nodup) (data : ∀ e ∈ entries, e.2.IsData n) (each : ∀ e ∈ entries, LaysOut n e.2) (start allowance : Nat) :
    ∃ ls, Spells (n + 1) (.map entries) ls ∧ Scans (n + 1) false (Layout.value start allowance (.map entries)) ls := by
  rw [Layout.value]
  split
  · obtain ⟨ls, listed, scanned⟩ := scans_collection (show ('\x7b', '\x7d') ∈ bracketPairs by decide)
      (between_comma_newLine (start + 1)) (scans_entryLines keys each (start + 1) (allowance + 1))
    rw [newLine_eq]
    exact ⟨_, .inr (.inr ⟨entries, ls, rfl, distinct, listed, rfl⟩), scanned⟩
  · exact scans_literal (.map keys distinct data)

theorem laysOut_of_data {v : Value} (h : v.IsData n) : LaysOut n v := by
  induction h with
  | text t => exact laysOut_text t
  | null =>
    intro start allowance
    obtain ⟨ls, spelled, scanned⟩ := scans_null _
    exact ⟨ls, .of_scalar spelled _, scanned.inner⟩
  | truth b =>
    intro start allowance
    obtain ⟨ls, spelled, scanned⟩ := scans_truth b _
    exact ⟨ls, .of_scalar spelled _, scanned.inner⟩
  | list data each =>
    intro start allowance
    obtain ⟨ls, spelled, scanned⟩ := scans_listValue data each start allowance
    exact ⟨ls, spelled, scanned.inner⟩
  | map keys distinct data each =>
    intro start allowance
    obtain ⟨ls, spelled, scanned⟩ := scans_mapValue keys distinct data each start allowance
    exact ⟨ls, spelled, scanned.inner⟩

/-- A map by itself need not stand inside of brackets. -/
theorem scans_laidOut {entries : List (Value × Value)} (keys : ∀ e ∈ entries, ∃ t, e.1 = .text t)
    (distinct : (entries.map (·.1)).Nodup) (data : ∀ e ∈ entries, e.2.IsData n) :
    ∃ ls, Spells (n + 1) (.map entries) ls ∧ Scans (n + 1) false (Value.map entries).laidOut ls :=
  scans_mapValue keys distinct data (fun e mem => laysOut_of_data (data e mem)) 0 0

end Code.Scan

end TaskCatalog
