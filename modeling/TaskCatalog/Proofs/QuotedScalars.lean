import TaskCatalog.Proofs.Association
import TaskCatalog.Proofs.PlainScalars
import Mathlib.Tactic.Ring

/-!
A text that is written between quotes reads back as that text: between single quotes with its quotes
doubled and its blanks and breaks folded, between double quotes with escapes and escaped breaks.
-/

namespace TaskCatalog.Yaml

open Text

namespace Cursor

/-- A scanned text with a part of it before. -/
def prepend (part : Text) (s : Scanned) : Scanned := (part ++ s.1, s.2)

theorem map_prepend (x : Except Fault Scanned) (p q : Text) :
    (x.map (prepend q)).map (prepend p) = x.map (prepend (p ++ q)) := by
  cases x with
  | error e => rfl
  | ok s => simp [Except.map, prepend]

theorem map_prepend_nil (x : Except Fault Scanned) : x.map (prepend []) = x := by
  cases x <;> rfl

/-- Characters of a quoted scalar that mean themselves wherever they stand. -/
def isQuotable (ch : Char) : Bool := !(ch == '\'' || ch == '"' || ch == '\\' || isBreakOrBlank ch)

/-- A quoted scalar from the end of a run on. -/
def quotedTail (double : Bool) (fuel : Nat) (c : Cursor) : Except Fault Scanned :=
  let quote := if double then '"' else '\''
  let continued (part : Text) (c : Cursor) : Except Fault Scanned :=
    (quotedScalar double fuel c).map (prepend part)
  match c.rest with
  | [] => .error .malformed
  | ch :: next =>
    if isBreakOrBlank ch then
      (quotedSpaces (fuel + 1) c).bind fun (blanks, c) => continued (ofChars blanks) c
    else if ch = '\\' && double then
      (escape (fuel + 1) c.advance).bind fun (part, c) => continued part c
    else if ch = quote then
      if !double && next.head? == some '\'' then continued "'" (c.skip 2) else .ok ([], c.advance)
    else continued [.scalar ch] c.advance

theorem quotedScalar_succ (double : Bool) (fuel : Nat) (c : Cursor) :
    quotedScalar double (fuel + 1) c =
      (quotedTail double fuel (c.span isQuotable).2).map (prepend (ofChars (c.span isQuotable).1)) := by
  have same : (fun ch => !(ch == '\'' || ch == '"' || ch == '\\' || isBreakOrBlank ch)) = isQuotable := rfl
  rw [quotedScalar, quotedTail]
  simp only [same]
  generalize c.span isQuotable = p
  obtain ⟨run, c⟩ := p
  have then_ (part : Text) (x : Except Fault Scanned) :
      (do let (t, last) ← x; return (ofChars run ++ part ++ t, last)) =
        (x.map (prepend part)).map (prepend (ofChars run)) := by
    cases x with
    | error e => rfl
    | ok p => simp [bind, Except.bind, pure, Except.pure, Except.map, prepend]
  cases c.rest with
  | nil => rfl
  | cons ch next =>
    simp only [then_]
    split
    · cases quotedSpaces (fuel + 1) c <;> rfl
    · split
      · cases escape (fuel + 1) c.advance <;> rfl
      · have stop : Except.map (prepend (ofChars run)) (.ok ([], c.advance) : Except Fault Scanned) =
            .ok (ofChars run, c.advance) := by simp [Except.map, prepend]
        simp only [apply_ite (Except.map (prepend (ofChars run))), stop]

/-- A quoted scalar that is read from `c` on begins with `part` and goes on from `d`. -/
def Quotes (double : Bool) (c : Cursor) (part : Text) (d : Cursor) : Prop :=
  ∀ fuel, c.rest.length < fuel → ∃ later, d.rest.length < later ∧
    quotedScalar double fuel c = (quotedScalar double later d).map (prepend part)

variable {double : Bool} {c d e : Cursor} {part more : Text} {ch : Char} {next : List Char} {k : Nat}

theorem Quotes.refl (double : Bool) (c : Cursor) : Quotes double c [] c :=
  fun fuel enough => ⟨fuel, enough, (map_prepend_nil _).symm⟩

theorem Quotes.trans (first : Quotes double c part d) (second : Quotes double d more e) :
    Quotes double c (part ++ more) e := by
  intro fuel enough
  obtain ⟨middle, enough, eq⟩ := first fuel enough
  obtain ⟨later, enough, eq'⟩ := second middle enough
  exact ⟨later, enough, by rw [eq, eq', map_prepend]⟩

/-- Written characters that stand for `part` between quotes, with a tail behind them. -/
def Spells (double : Bool) (w : List Char) (part : Text) (tail : List Char) : Prop :=
  ∀ c : Cursor, c.rest = w ++ tail → Quotes double c part (c.skip w.length)

theorem Spells.nil (double : Bool) (tail : List Char) : Spells double [] [] tail := fun c _ => .refl double c

theorem Spells.append {v w tail : List Char} {p q : Text} (first : Spells double v p (w ++ tail))
    (second : Spells double w q tail) : Spells double (v ++ w) (p ++ q) tail := by
  intro c h
  rw [List.append_assoc] at h
  rw [List.length_append, skip_add]
  exact (first c h).trans (second _ (skip_of_append h))

theorem advance_lt (h : c.rest = ch :: next) : c.advance.rest.length < c.rest.length := by
  rw [advance_of_cons h, h]
  exact Nat.lt_succ_self _

theorem quotedScalar_of_stop {fuel : Nat} (h : c.rest = ch :: next) (stop : isQuotable ch = false) :
    quotedScalar double (fuel + 1) c = quotedTail double fuel c := by
  rw [quotedScalar_succ, span_of_stop (by simpa [h] using stop)]
  exact map_prepend_nil _

theorem quotes_of_tail (h : c.rest = ch :: next) (stop : isQuotable ch = false)
    (shorter : d.rest.length < c.rest.length)
    (tail : ∀ fuel, c.rest.length ≤ fuel → quotedTail double fuel c = (quotedScalar double fuel d).map (prepend part)) :
    Quotes double c part d := by
  intro fuel enough
  obtain ⟨fuel, rfl⟩ := Nat.exists_eq_succ_of_ne_zero (Nat.ne_of_gt (Nat.zero_lt_of_lt enough))
  exact ⟨fuel, by omega, by rw [quotedScalar_of_stop h stop, tail fuel (by omega)]⟩

theorem spells_quotable (quotable : isQuotable ch = true) (next : List Char) :
    Spells double [ch] [.scalar ch] next := by
  intro c h fuel enough
  have cut : c.rest = ch :: next := h
  obtain ⟨fuel, rfl⟩ := Nat.exists_eq_succ_of_ne_zero (Nat.ne_of_gt (Nat.zero_lt_of_lt enough))
  refine ⟨fuel + 1, Nat.lt_trans (advance_lt cut) enough, ?_⟩
  have spanned : c.span isQuotable = (ch :: (c.advance.span isQuotable).1, (c.advance.span isQuotable).2) := by
    simp [span, advance_of_cons cut, cut, quotable, skip]
  rw [quotedScalar_succ, spanned, List.length_singleton, skip, skip, quotedScalar_succ, map_prepend]
  rfl

theorem spells_other (next : List Char)
    (other : (ch = '\'' ∧ double = true) ∨ (ch = '"' ∧ double = false) ∨ (ch = '\\' ∧ double = false)) :
    Spells double [ch] [.scalar ch] next := by
  intro c h
  have cut : c.rest = ch :: next := h
  refine quotes_of_tail cut (by rcases other with ⟨rfl, -⟩ | ⟨rfl, -⟩ | ⟨rfl, -⟩ <;> rfl) (advance_lt cut)
    fun fuel _ => ?_
  rw [quotedTail, cut]
  rcases other with ⟨rfl, rfl⟩ | ⟨rfl, rfl⟩ | ⟨rfl, rfl⟩ <;> rfl

theorem spells_quote (next : List Char) : Spells false ['\'', '\''] "'" next := by
  intro c h
  have at' := skip_of_append h
  refine quotes_of_tail h rfl (by rw [at', h, List.length_append]; exact Nat.lt_add_of_pos_left (Nat.succ_pos _))
    fun fuel _ => ?_
  rw [quotedTail, h]
  rfl

theorem not_spaceOrTab (inside : isBreakOrBlank ch = false) : isSpaceOrTab ch = false :=
  (Bool.or_eq_false_iff.1 inside).1

theorem not_break (inside : isBreakOrBlank ch = false) : isBreak ch = false := (Bool.or_eq_false_iff.1 inside).2

theorem not_spaceOrTab_of_break (breaks : isBreak ch = true) : isSpaceOrTab ch = false := by
  cases eq : isSpaceOrTab ch with
  | false => rfl
  | true =>
    simp only [isSpaceOrTab, Bool.or_eq_true, beq_iff_eq] at eq
    rcases eq with rfl | rfl <;> cases breaks

theorem quotedSpaces_blanks (fuel : Nat) (h : c.rest = List.replicate k ' ' ++ ch :: next)
    (inside : isBreakOrBlank ch = false) : quotedSpaces fuel c = .ok (List.replicate k ' ', c.skip k) := by
  have all : ∀ b ∈ List.replicate k ' ', isSpaceOrTab b = true := fun b hb => by
    rw [List.eq_of_mem_replicate hb]; rfl
  have spanned : c.span isSpaceOrTab = (List.replicate k ' ', c.skip k) := by
    simpa using span_of_append h all (not_spaceOrTab inside)
  have at' : (c.skip k).rest = ch :: next := by simpa using skip_of_append h
  rw [quotedSpaces, spanned]
  simp only [atEnd, at', List.isEmpty_cons, Bool.false_eq_true, if_false,
    lineBreak_of_stop (c := c.skip k) (by rw [at']; exact not_break inside)]

theorem quotedTail_blanks (fuel : Nat) (h : c.rest = List.replicate (k + 1) ' ' ++ ch :: next)
    (inside : isBreakOrBlank ch = false) : quotedTail double fuel c =
      (quotedScalar double fuel (c.skip (k + 1))).map (prepend (ofChars (List.replicate (k + 1) ' '))) := by
  have begins : c.rest = ' ' :: (List.replicate k ' ' ++ ch :: next) := by
    rw [h, List.replicate_succ, List.cons_append]
  rw [quotedTail, begins]
  simp only [quotedSpaces_blanks (fuel + 1) h inside]
  rfl

theorem spells_blanks (k : Nat) (inside : isBreakOrBlank ch = false) :
    Spells double (List.replicate (k + 1) ' ') (ofChars (List.replicate (k + 1) ' ')) (ch :: next) := by
  intro c h
  have at' := skip_of_append h
  rw [List.length_replicate] at at' ⊢
  have begins : c.rest = ' ' :: (List.replicate k ' ' ++ ch :: next) := h
  exact quotes_of_tail begins rfl (by rw [at', h]; simp) fun fuel _ => quotedTail_blanks fuel h inside

theorem spells_blank (k : Nat) (inside : isBreakOrBlank ch = false) :
    Spells double [' '] [.scalar ' '] (List.replicate k ' ' ++ ch :: next) := by
  cases k with
  | zero => exact spells_blanks 0 inside
  | succ k =>
    intro c h fuel enough
    obtain ⟨fuel, rfl⟩ := Nat.exists_eq_succ_of_ne_zero (Nat.ne_of_gt (Nat.zero_lt_of_lt enough))
    have cut : c.rest = ' ' :: (List.replicate (k + 1) ' ' ++ ch :: next) := h
    have whole : c.rest = List.replicate (k + 1 + 1) ' ' ++ ch :: next := h
    have later : c.advance.rest = List.replicate (k + 1) ' ' ++ ch :: next := advance_of_cons cut
    refine ⟨fuel + 1, Nat.lt_trans (advance_lt cut) enough, ?_⟩
    have one : c.skip [' '].length = c.advance := rfl
    rw [quotedScalar_of_stop cut rfl, quotedTail_blanks fuel whole inside, one,
      quotedScalar_of_stop (h := (later : _ = ' ' :: (List.replicate k ' ' ++ ch :: next))) rfl,
      quotedTail_blanks fuel later inside, map_prepend]
    rfl

theorem quotedBreaks_indent {bs : List Char} (breaks : ∀ b ∈ bs, isBreak b = true ∧ b ≠ '\u0085') :
    ∀ {c : Cursor} {fuel : Nat}, bs.length < fuel → c.rest = bs ++ (List.replicate (k + 1) ' ' ++ ch :: next) →
      isBreakOrBlank ch = false → quotedBreaks fuel c = .ok (bs, c.skip (bs.length + (k + 1))) := by
  induction bs with
  | nil =>
    intro c fuel enough h inside
    obtain ⟨fuel, rfl⟩ := Nat.exists_eq_succ_of_ne_zero (Nat.ne_of_gt enough)
    have skipped : c.skipWhile isSpaceOrTab = c.skip (k + 1) :=
      skipWhile_blanks h rfl (not_spaceOrTab inside)
    have at' : (c.skip (k + 1)).rest = ch :: next := by
      simpa using skip_of_append (w := List.replicate (k + 1) ' ') h
    have begins : c.rest = ' ' :: (List.replicate k ' ' ++ ch :: next) := h
    rw [quotedBreaks, isAnyMark_of_blank begins]
    simp only [Bool.false_eq_true, if_false, skipped,
      lineBreak_of_stop (c := c.skip (k + 1)) (by rw [at']; exact not_break inside)]
    simp
  | cons b bs ih =>
    intro c fuel enough h inside
    obtain ⟨fuel, rfl⟩ := Nat.exists_eq_succ_of_ne_zero (Nat.ne_of_gt (Nat.zero_lt_of_lt enough))
    obtain ⟨isBreak, kept⟩ := breaks b List.mem_cons_self
    have notBlank := not_spaceOrTab_of_break isBreak
    have stay : c.skipWhile isSpaceOrTab = c := skipWhile_of_stop (by rw [h]; exact notBlank)
    have rest := @ih (fun x hx => breaks x (List.mem_cons_of_mem _ hx)) c.advance fuel (by simpa using enough) (advance_of_cons h) inside
    rw [quotedBreaks, isAnyMark_of_break h isBreak]
    simp only [Bool.false_eq_true, if_false, stay, lineBreak_of_break h isBreak kept, rest]
    simp only [bind, Except.bind, pure, Except.pure, List.cons_append, List.nil_append, List.length_cons,
      Nat.succ_add]
    rfl

theorem spells_breaks {b : Char} {bs : List Char} (k : Nat) (breaks : ∀ x ∈ b :: bs, isBreak x = true ∧ x ≠ '\u0085')
    (inside : isBreakOrBlank ch = false) :
    Spells double (b :: bs ++ List.replicate (k + 1) ' ') (ofChars (fold [b] bs)) (ch :: next) := by
  intro c h
  obtain ⟨breaksHere, kept⟩ := breaks b List.mem_cons_self
  have notBlank := not_spaceOrTab_of_break breaksHere
  have at' := skip_of_append h
  refine quotes_of_tail h (by simp [isQuotable, isBreakOrBlank, breaksHere]) (by rw [at', h]; simp; omega)
    fun fuel enough => ?_
  have cut : c.rest = b :: (bs ++ (List.replicate (k + 1) ' ' ++ ch :: next)) := by simpa using h
  have later := advance_of_cons cut
  have rest := @quotedBreaks_indent ch next k bs (fun x hx => breaks x (List.mem_cons_of_mem _ hx)) c.advance
    (fuel + 1) (by rw [h] at enough; simp at enough; omega) later inside
  have size : (b :: bs ++ List.replicate (k + 1) ' ').length = bs.length + (k + 1) + 1 := by simp
  have spaces : quotedSpaces (fuel + 1) c =
      .ok (fold [b] bs, c.skip (b :: bs ++ List.replicate (k + 1) ' ').length) := by
    rw [quotedSpaces, span_of_stop (by rw [h]; exact notBlank)]
    simp only [atEnd, h, List.cons_append, List.isEmpty_cons, Bool.false_eq_true, if_false,
      lineBreak_of_break h breaksHere kept, rest]
    rw [← List.cons_append, size]
    rfl
  have blank : isBreakOrBlank b = true := by simp [isBreakOrBlank, breaksHere]
  rw [quotedTail, h]
  simp only [List.cons_append, blank, if_true, spaces]
  rfl

theorem quotedTail_escape (fuel : Nat) (h : c.rest = '\\' :: next) : quotedTail true fuel c =
    (escape (fuel + 1) c.advance).bind fun (part, c) => (quotedScalar true fuel c).map (prepend part) := by
  rw [quotedTail, h]
  rfl

theorem spells_of_escape {w : List Char} (filled : w ≠ [])
    (read : ∀ (c : Cursor) (fuel : Nat), c.rest = w ++ next → c.rest.length < fuel →
      escape fuel c = .ok (part, c.skip w.length)) : Spells true ('\\' :: w) part next := by
  intro c h
  have at' := skip_of_append h
  have cut : c.rest = '\\' :: (w ++ next) := h
  have size : 0 < w.length := List.length_pos_of_ne_nil filled
  refine quotes_of_tail cut rfl (by rw [at', h, List.length_append]; exact Nat.lt_add_of_pos_left (Nat.succ_pos _))
    fun fuel enough => ?_
  rw [quotedTail_escape fuel cut, read c.advance (fuel + 1) (advance_of_cons cut)
    (by rw [advance_of_cons cut]; rw [cut] at enough; simp at enough ⊢; omega)]
  rfl

theorem spells_named {x m : Char} (known : singleEscapes.lookup x = some m) (next : List Char) :
    Spells true ['\\', x] [.scalar m] next := by
  refine spells_of_escape (w := [x]) (by simp) fun c fuel h _ => ?_
  rw [escape, h]
  simp only [List.singleton_append, known]
  rfl

theorem spells_escapedBreak (k : Nat) (inside : isBreakOrBlank ch = false) :
    Spells true ('\\' :: '\n' :: List.replicate (k + 1) ' ') [] (ch :: next) := by
  refine spells_of_escape (by simp) fun c fuel h enough => ?_
  have cut : c.rest = '\n' :: (List.replicate (k + 1) ' ' ++ ch :: next) := h
  obtain ⟨fuel, rfl⟩ := Nat.exists_eq_succ_of_ne_zero (Nat.ne_of_gt (Nat.zero_lt_of_lt enough))
  have unknown : singleEscapes.lookup '\n' = none := by decide
  have broken : c.lineBreak = (['\n'], c.advance) := lineBreak_of_break cut rfl (by decide)
  have rest : quotedBreaks (fuel + 1) c.advance = .ok ([], c.advance.skip (k + 1)) := by
    simpa using @quotedBreaks_indent ch next k [] (by simp) c.advance (fuel + 1) (Nat.succ_pos fuel)
      (advance_of_cons cut) inside
  have skipped : c.skip ('\n' :: List.replicate (k + 1) ' ').length = c.advance.skip (k + 1) := by
    rw [List.length_cons, List.length_replicate]; rfl
  rw [escape, cut, skipped]
  simp only [unknown, broken, rest]
  rw [if_neg (by decide), if_pos (by decide)]
  rfl

def codeWidths : List (Char × Nat) := [('x', 2), ('u', 4), ('U', 8)]

theorem spells_code {x : Char} {width : Nat} {digits : List Char} {l : Letter} (kind : (x, width) ∈ codeWidths)
    (size : digits.length = width) (hex : digits.all isHexDigit = true)
    (code : Letter.ofCode? (hexNumber digits) = some l) (next : List Char) :
    Spells true ('\\' :: x :: digits) [l] next := by
  refine spells_of_escape (by simp) fun c fuel h _ => ?_
  have cut : c.rest = x :: (digits ++ next) := h
  have taken : c.advance.rest.take width = digits := by
    rw [advance_of_cons cut, ← size, List.take_left]
  have read : codeEscape width c.advance = .ok (l, c.advance.skip width) := by
    rw [codeEscape, taken, if_pos ⟨size, hex⟩, code]
  have skipped : c.skip (x :: digits).length = c.advance.skip width := by rw [List.length_cons, size]; rfl
  have unknown : singleEscapes.lookup x = none :=
    (by decide : ∀ p ∈ codeWidths, singleEscapes.lookup p.1 = none) _ kind
  rw [escape, cut, skipped]
  simp only [unknown]
  simp only [codeWidths, List.mem_cons, Prod.mk.injEq, List.not_mem_nil, or_false] at kind
  rcases kind with ⟨rfl, rfl⟩ | ⟨rfl, rfl⟩ | ⟨rfl, rfl⟩ <;>
    simp [read, bind, Except.bind, pure, Except.pure]

theorem foldl_digits {v : Char → Nat} (digit : ∀ d < 16, v (hexDigits.getD d '0') = d) (a n width : Nat) :
    (hex width n).foldl (fun n c => 16 * n + v c) a = a * 16 ^ width + n % 16 ^ width := by
  induction width generalizing a with
  | zero => simp [hex, Nat.mod_one]
  | succ width ih =>
    have split : hex (width + 1) n = hexDigits.getD (n / Nat.pow 16 width % 16) '0' :: hex width n := by
      simp [hex, List.range_succ]
    rw [split, List.foldl_cons, ih, digit _ (Nat.mod_lt _ (by decide)), Nat.mod_pow_succ, Nat.pow_succ]
    change (16 * a + n / 16 ^ width % 16) * 16 ^ width + n % 16 ^ width = _
    ring

theorem hexNumber_upper {n width : Nat} (small : n < 16 ^ width) : hexNumber ((hex width n).map Char.toUpper) = n := by
  rw [hexNumber, List.foldl_map, foldl_digits (v := fun c => hexValue c.toUpper) (by decide), Nat.mod_eq_of_lt small]
  simp

theorem isHexDigit_upper (n width : Nat) : ((hex width n).map Char.toUpper).all isHexDigit = true := by
  have digit : ∀ d < 16, isHexDigit (hexDigits.getD d '0').toUpper = true := by decide
  simp only [hex, List.map_map, List.all_map, List.all_eq_true]
  intro i _
  exact digit _ (Nat.mod_lt _ (by decide))

end Cursor

theorem ofCode?_code (l : Letter) : Letter.ofCode? l.code = some l := by
  cases l with
  | scalar c =>
    have valid : (Letter.scalar c).code.isValidChar := c.valid
    rw [Letter.ofCode?, dif_pos valid]
    rfl
  | half n =>
    have half : ¬(0xD800 + n.val).isValidChar := by
      have := n.isLt
      simp only [Nat.isValidChar]
      omega
    rw [Letter.ofCode?, Letter.code, dif_neg half, dif_pos (by omega)]
    simp

theorem code_lt (l : Letter) : l.code < 0x110000 := by
  cases l with
  | scalar c =>
    have valid := c.valid
    simp only [UInt32.isValidChar, Nat.isValidChar] at valid
    change c.val.toNat < _
    omega
  | half n => simp only [Letter.code]; omega

namespace Writing

/-- Runs in which no blanks stand beside breaks; after a gap of either kind comes a word or the end. -/
inductive Spaced : Bool → List Run → Prop
  | nil {gap} : Spaced gap []
  | word {gap t rs} : t ≠ [] → (∀ l ∈ t, isEdge l = false) → Spaced false rs → Spaced gap (.word t :: rs)
  | blanks {n rs} : Spaced true rs → Spaced false (.blanks (n + 1) :: rs)
  | breaks {t rs} : t ≠ [] → (∀ l ∈ t, isBreakLetter l = true) → Spaced true rs → Spaced false (.breaks t :: rs)

theorem Spaced.weaken {gap : Bool} {rs : List Run} (h : Spaced gap rs) : Spaced false rs := by
  cases h with
  | nil => exact .nil
  | word filled edges rest => exact .word filled edges rest
  | blanks rest => exact .blanks rest
  | breaks filled all rest => exact .breaks filled all rest

theorem not_break_of_blank {l : Letter} (h : isBlankLetter l = true) : isBreakLetter l = false := by
  obtain rfl : l = blank := by simpa [isBlankLetter] using h
  decide

theorem exists_blanks {l : Letter} (isBlank : isBlankLetter l = true) (t : Text) :
    ∃ n more, runs (l :: t) = .blanks n :: more := by
  unfold runs
  simp only [isBlank, if_true]
  split
  · exact ⟨_, _, rfl⟩
  · exact ⟨_, _, rfl⟩

theorem exists_breaks {l : Letter} (isBreak : isBreakLetter l = true) (t : Text) :
    ∃ u more, runs (l :: t) = .breaks u :: more := by
  have notBlank : isBlankLetter l = false := by
    cases eq : isBlankLetter l with
    | false => rfl
    | true => rw [not_break_of_blank eq] at isBreak; cases isBreak
  unfold runs
  simp only [notBlank, isBreak, if_true, Bool.false_eq_true, if_false]
  split
  · exact ⟨_, _, rfl⟩
  · exact ⟨_, _, rfl⟩

theorem not_blank_of_runs {t : Text} (other : ∀ n more, runs t ≠ .blanks n :: more) :
    t.head?.any isBlankLetter = false := by
  rw [Option.any_eq_false]
  intro l begins
  refine Bool.eq_false_iff.2 fun isBlank => ?_
  obtain ⟨u, rfl⟩ := List.head?_eq_some_iff.1 begins
  obtain ⟨n, more, eq⟩ := exists_blanks isBlank u
  exact other n more eq

theorem not_break_of_runs {t : Text} (other : ∀ u more, runs t ≠ .breaks u :: more) :
    t.head?.any isBreakLetter = false := by
  rw [Option.any_eq_false]
  intro l begins
  refine Bool.eq_false_iff.2 fun isBreak => ?_
  obtain ⟨v, rfl⟩ := List.head?_eq_some_iff.1 begins
  obtain ⟨u, more, eq⟩ := exists_breaks isBreak v
  exact other u more eq

/-- A gap of the one kind that would meet a gap of the other. -/
def Meets (l : Letter) (t : Text) : Prop :=
  (isBreakLetter l = true ∧ t.head?.any isBlankLetter = true) ∨ (isBlankLetter l = true ∧ t.head?.any isBreakLetter = true)

section

variable {l : Letter} {t : Text}

theorem spaced_of_word (notBlank : t.head?.any isBlankLetter = false) (notBreak : t.head?.any isBreakLetter = false)
    (rest : Spaced (t.head?.all fun l => !isEdge l) (runs t)) : Spaced true (runs t) := by
  cases t with
  | nil => exact .nil
  | cons m t =>
    simp only [List.head?_cons, Option.any_some, Option.all_some] at notBlank notBreak rest
    simpa [isEdge, notBlank, notBreak] using rest

theorem spaced_blank (isBlank : isBlankLetter l = true) (apart : ¬Meets l t)
    (rest : Spaced (t.head?.all fun l => !isEdge l) (runs t)) : Spaced false (runs (l :: t)) := by
  have notBreak : t.head?.any isBreakLetter = false :=
    Bool.eq_false_iff.2 fun isBreak => apart (.inr ⟨isBlank, isBreak⟩)
  unfold runs
  simp only [isBlank, if_true]
  split
  · next n more eq =>
    rw [eq] at rest
    cases rest.weaken with
    | blanks rest => exact .blanks rest
  · next other => exact .blanks (spaced_of_word (not_blank_of_runs other) notBreak rest)

theorem spaced_break (notBlank : isBlankLetter l = false) (isBreak : isBreakLetter l = true) (apart : ¬Meets l t)
    (rest : Spaced (t.head?.all fun l => !isEdge l) (runs t)) : Spaced false (runs (l :: t)) := by
  have noBlank : t.head?.any isBlankLetter = false :=
    Bool.eq_false_iff.2 fun isBlank => apart (.inl ⟨isBreak, isBlank⟩)
  unfold runs
  simp only [notBlank, isBreak, if_true, Bool.false_eq_true, if_false]
  split
  · next u more eq =>
    rw [eq] at rest
    cases rest.weaken with
    | breaks filled all rest => exact .breaks (List.cons_ne_nil _ _) (List.forall_mem_cons.2 ⟨isBreak, all⟩) rest
  · next other =>
    refine .breaks (List.cons_ne_nil _ _) (List.forall_mem_singleton.2 isBreak) ?_
    exact spaced_of_word noBlank (not_break_of_runs other) rest

theorem spaced_inner (notBlank : isBlankLetter l = false) (notBreak : isBreakLetter l = false) {gap gap' : Bool}
    (rest : Spaced gap (runs t)) : Spaced gap' (runs (l :: t)) := by
  have inner : isEdge l = false := by simp [isEdge, notBlank, notBreak]
  unfold runs
  simp only [notBlank, notBreak, Bool.false_eq_true, if_false]
  split
  · next u more eq =>
    rw [eq] at rest
    cases rest.weaken with
    | word filled edges rest => exact .word (List.cons_ne_nil _ _) (List.forall_mem_cons.2 ⟨inner, edges⟩) rest
  · exact .word (List.cons_ne_nil _ _) (List.forall_mem_singleton.2 inner) rest.weaken

theorem spaced_cons (apart : ¬Meets l t) (rest : Spaced (t.head?.all fun l => !isEdge l) (runs t)) :
    Spaced (!isEdge l) (runs (l :: t)) := by
  cases isBlank : isBlankLetter l with
  | true => simpa [isEdge, isBlank] using spaced_blank isBlank apart rest
  | false =>
    cases isBreak : isBreakLetter l with
    | true => simpa [isEdge, isBreak] using spaced_break isBlank isBreak apart rest
    | false => exact spaced_inner isBlank isBreak rest

end

theorem spaced_runs {t : Text} (noBreakBlank : hasNeighbours isBreakLetter isBlankLetter t = false)
    (noBlankBreak : hasNeighbours isBlankLetter isBreakLetter t = false) :
    Spaced (t.head?.all fun l => !isEdge l) (runs t) := by
  induction t with
  | nil => exact .nil
  | cons l t ih =>
    cases t with
    | nil => exact spaced_cons (by simp [Meets]) .nil
    | cons m t =>
      simp only [hasNeighbours, Bool.or_eq_false_iff] at noBreakBlank noBlankBreak
      refine spaced_cons ?_ (ih noBreakBlank.2 noBlankBreak.2)
      rintro (⟨one, two⟩ | ⟨one, two⟩)
      · exact Bool.false_ne_true (noBreakBlank.1.symm.trans (Bool.and_eq_true_iff.2 ⟨one, two⟩))
      · exact Bool.false_ne_true (noBlankBreak.1.symm.trans (Bool.and_eq_true_iff.2 ⟨one, two⟩))

open Cursor

@[simp] theorem doubleQuotes_cons (l : Letter) (t : Text) :
    doubleQuotes (l :: t) = (if l = .scalar '\'' then ("''" : Text) else [l]) ++ doubleQuotes t := rfl

theorem spells_word {t : Text} (solid : ∀ l ∈ t, IsSolid l) (tail : List Char) :
    Spells false (chars (doubleQuotes t)) t tail := by
  induction t with
  | nil => exact .nil false tail
  | cons l t ih =>
    obtain ⟨ch, rfl, inside, -⟩ := solid l List.mem_cons_self
    have rest := ih fun m hm => solid m (List.mem_cons_of_mem _ hm)
    by_cases quote : ch = '\''
    · subst quote
      exact (spells_quote _).append rest
    · have written : doubleQuotes (.scalar ch :: t) = .scalar ch :: doubleQuotes t := by simp [quote]
      rw [written]
      by_cases other : ch = '"' ∨ ch = '\\'
      · exact (spells_other _ (.inr (other.imp (⟨·, rfl⟩) (⟨·, rfl⟩)))).append rest
      · exact (spells_quotable (by simpa [isQuotable, inside, quote] using other) _).append rest

theorem exists_inside {rs : List Run} (h : Spaced true rs) (solid : ∀ l ∈ letters rs, isEdge l = false → IsSolid l)
    (s : Spot) (column : Nat) (tail : List Char) :
    ∃ d v, chars (folded s true false column rs) ++ '\'' :: tail = d :: v ∧ isBreakOrBlank d = false := by
  cases h with
  | nil => exact ⟨'\'', tail, rfl, rfl⟩
  | @word _ t rs filled edges rest =>
    obtain ⟨d, u, rfl, inside⟩ := exists_head filled fun l hl => solid l (by simp [Run.letters, hl]) (edges l hl)
    simp only [folded, if_true, doubleQuotes_cons]
    split
    · exact ⟨'\'', _, rfl, rfl⟩
    · exact ⟨d, _, rfl, inside⟩

theorem scalar_of_break {l : Letter} (h : isBreakLetter l = true) : ∃ c, l = .scalar c ∧ isBreak c = true := by
  cases l with
  | half n => cases h
  | scalar c => exact ⟨c, rfl, h⟩

theorem spells_breakRun {t : Text} (filled : t ≠ []) (all : ∀ l ∈ t, isBreakLetter l = true)
    (kept : ∀ l ∈ t, l ≠ .scalar '\u0085') (k : Nat) {d : Char} (inside : isBreakOrBlank d = false) (v : List Char) :
    Spells false (chars (ofString (if t.head? = some (.scalar '\n') then "\n" else "") ++ t ++ spaces (k + 1))) t
      (d :: v) := by
  have scalar : ofChars (chars t) = t := ofChars_chars fun l hl => by
    obtain ⟨c, rfl, -⟩ := scalar_of_break (all l hl)
    rfl
  have breaks : ∀ x ∈ chars t, isBreak x = true ∧ x ≠ '\u0085' := by
    intro x hx
    obtain ⟨l, hl, eq⟩ := List.mem_filterMap.1 hx
    obtain ⟨c, rfl, isBreak⟩ := scalar_of_break (all l hl)
    obtain rfl : c = x := by simpa [Letter.char?] using eq
    exact ⟨isBreak, fun eq => kept _ hl (congrArg Letter.scalar eq)⟩
  obtain ⟨l, u, rfl⟩ := List.exists_cons_of_ne_nil filled
  obtain ⟨b, rfl, -⟩ := scalar_of_break (all l List.mem_cons_self)
  simp only [List.head?_cons, Option.some.injEq, Letter.scalar.injEq, chars_append, chars_spaces]
  have part : Letter.scalar b :: u = ofChars (b :: chars u) := scalar.symm
  have whole : Spells false ((if b = '\n' then ['\n'] else []) ++ b :: chars u ++ List.replicate (k + 1) ' ')
      (ofChars (b :: chars u)) (d :: v) := by
    split
    · next feed =>
      subst feed
      exact @spells_breaks false d v '\n' ('\n' :: chars u) k (List.forall_mem_cons.2 ⟨by decide, breaks⟩) inside
    · next other =>
      have kept : fold [b] (chars u) = b :: chars u := by simp [fold, other]
      have whole := @spells_breaks false d v b (chars u) k breaks inside
      rwa [kept] at whole
  rw [part]
  simpa [apply_ite String.toList] using whole

theorem spells_foldedBlank {d : Char} (inside : isBreakOrBlank d = false) (k : Nat) (v : List Char) :
    Spells false (chars (newLine (k + 1))) (spaces 1) (d :: v) := by
  rw [chars_newLine]
  exact @spells_breaks false d v '\n' [] k (List.forall_mem_singleton.2 (by decide)) inside

theorem spells_spaces {d : Char} (inside : isBreakOrBlank d = false) (n : Nat) (v : List Char) :
    Spells false (chars (spaces (n + 1))) (spaces (n + 1)) (d :: v) := by
  have same : ofChars (List.replicate (n + 1) ' ') = spaces (n + 1) := List.map_replicate
  rw [chars_spaces]
  exact same ▸ spells_blanks n inside

theorem spells_folded {s : Spot} (indented : 0 < s.indent) (tail : List Char) {gap : Bool} {rs : List Run}
    (spaced : Spaced gap rs) : ∀ {first : Bool} {column : Nat},
      (∀ l ∈ letters rs, isEdge l = false → IsSolid l) → (∀ l ∈ letters rs, l ≠ .scalar '\u0085') →
      Spells false (chars (folded s true first column rs)) (letters rs) ('\'' :: tail) := by
  obtain ⟨k, indent⟩ := Nat.exists_eq_succ_of_ne_zero (Nat.ne_of_gt indented)
  induction spaced with
  | nil => exact fun _ _ => .nil false _
  | @word gap t rs filled edges _ ih =>
    intro first column solid kept
    rw [letters_cons, List.forall_mem_append] at solid kept
    simp only [folded, if_true, chars_append]
    exact (spells_word (fun l hl => solid.1 l hl (edges l hl)) _).append (ih solid.2 kept.2)
  | @blanks n rs spaced ih =>
    intro first column solid kept
    rw [letters_cons, List.forall_mem_append] at solid kept
    rw [folded]
    split
    · next fold =>
      obtain rfl : n = 0 := Nat.succ.inj fold.1
      obtain ⟨d, v, eq, inside⟩ := exists_inside spaced solid.2 s s.indent tail
      rw [chars_append]
      refine Spells.append ?_ (ih solid.2 kept.2)
      rw [eq, indent]
      exact spells_foldedBlank inside k v
    · obtain ⟨d, v, eq, inside⟩ := exists_inside spaced solid.2 s (column + (n + 1)) tail
      rw [chars_append]
      refine Spells.append ?_ (ih solid.2 kept.2)
      rw [eq]
      exact spells_spaces inside n v
  | @breaks t rs filled all spaced ih =>
    intro first column solid kept
    rw [letters_cons, List.forall_mem_append] at solid kept
    obtain ⟨d, v, eq, inside⟩ := exists_inside spaced solid.2 s s.indent tail
    rw [folded, chars_append]
    refine Spells.append ?_ (ih solid.2 kept.2)
    rw [eq, indent]
    exact spells_breakRun filled all kept.1 k inside v

/-- Whether a blank stands between a letter that is escaped and some other letter. -/
def hasParted : Text → Bool
  | l :: m :: n :: rest => (!isBare l && isBlankLetter m) || hasParted (m :: n :: rest)
  | _ => false

theorem exists_bare {l : Letter} (h : isBare l = true) : ∃ c, l = .scalar c ∧ c ≠ '"' ∧ c ≠ '\\' ∧
    (c ≠ ' ' → isBreakOrBlank c = false) := by
  cases l with
  | half n => cases h
  | scalar c =>
    refine ⟨c, rfl, ?_, ?_, fun notBlank => ?_⟩
    · rintro rfl
      cases h
    · rintro rfl
      cases h
    · have notBreak : ∀ b ∈ ['\t', '\n', '\u0085', '\u2028', '\u2029'], c ≠ b := by
        rintro b hb rfl
        have escaped : ∀ b ∈ ['\t', '\n', '\u0085', '\u2028', '\u2029'], (isBare (.scalar b) == false) = true :=
          List.all_eq_true.1 (by decide)
        rw [eq_of_beq (escaped c hb)] at h
        cases h
      simp at notBreak
      simp [isBreakOrBlank, isSpaceOrTab, isBreak, notBlank, notBreak]

theorem spells_hex {l : Letter} {x : Char} {width : Nat} (kind : (x, width) ∈ codeWidths)
    (small : l.code < 16 ^ width) (tail : List Char) :
    Spells true ('\\' :: x :: (hex width l.code).map Char.toUpper) [l] tail := by
  refine spells_code kind (by simp [hex]) (isHexDigit_upper _ _) ?_ tail
  rw [hexNumber_upper small, ofCode?_code]

theorem spells_escaped (l : Letter) (tail : List Char) : Spells true (chars (escaped l)) [l] tail := by
  have byCode : Spells true (chars (if l.code < 0x100 then "\\x" ++ upperHex 2 l.code
      else if l.code < 0x10000 then "\\u" ++ upperHex 4 l.code else "\\U" ++ upperHex 8 l.code)) [l] tail := by
    simp only [upperHex]
    split
    · next small => simpa using spells_hex (x := 'x') (by decide) small tail
    · split
      · next small => simpa using spells_hex (x := 'u') (by decide) small tail
      · simpa using spells_hex (x := 'U') (by decide) ((code_lt l).trans (by decide)) tail
  unfold escaped
  cases l with
  | half n => exact byCode
  | scalar c =>
    cases known : escapes.lookup c with
    | none => simpa only [known] using byCode
    | some x =>
      have named : ∀ p ∈ escapes, singleEscapes.lookup p.2 = some p.1 := by decide
      simp only [known]
      exact spells_named (named (c, x) (Association.mem_of_lookup known)) tail

theorem escaped_begins (l : Letter) : ∃ u, escaped l = .scalar '\\' :: u := by
  cases l with
  | half n =>
    simp only [escaped]
    split_ifs <;> exact ⟨_, rfl⟩
  | scalar c =>
    cases known : escapes.lookup c with
    | some x => exact ⟨[.scalar x], by simp only [escaped, known]⟩
    | none =>
      simp only [escaped, known]
      split_ifs <;> exact ⟨_, rfl⟩

theorem quotedBreak_begins (s : Spot) (next : Option Letter) : ∃ u, (quotedBreak s next).1 = .scalar '\\' :: u := by
  unfold quotedBreak
  split <;> exact ⟨_, rfl⟩

theorem chars_quotedBreak (s : Spot) (next : Option Letter) : chars (quotedBreak s next).1 =
    '\\' :: '\n' :: List.replicate s.indent ' ' ++ (if next = some blank then ['\\'] else []) := by
  unfold quotedBreak
  split <;> simp

/-- How the next letter between double quotes is written: as it is or escaped, with a break or none. -/
inductive Doubled (s : Spot) (first : Bool) (l : Letter) (rest : Text) : Text → Prop
  | bare {column} : isBare l = true → Doubled s first l rest (l :: doubleText s false false column rest)
  | brokenBare {column} : isBare l = true → s.breakable = true →
      Doubled s first l rest ((quotedBreak s (some l)).1 ++ l :: doubleText s false false column rest)
  | escaped {column} : isBare l = false → Doubled s first l rest (escaped l ++ doubleText s false true column rest)
  | brokenEscaped : isBare l = false → s.breakable = true → first = false → rest ≠ [] →
      Doubled s first l rest (Writing.escaped l ++ (quotedBreak s rest.head?).1
        ++ doubleText s false true (quotedBreak s rest.head?).2 rest)

theorem doubled_doubleText (s : Spot) (first fresh : Bool) (column : Nat) (l : Letter) (rest : Text) :
    Doubled s first l rest (doubleText s first fresh column (l :: rest)) := by
  unfold doubleText
  cases bare : isBare l with
  | true =>
    simp only [if_true]
    split
    · next inner =>
      simp only [Bool.and_eq_true] at inner
      exact .brokenBare bare inner.1.1.1.1
    · exact .bare bare
  | false =>
    simp only [Bool.false_eq_true, if_false]
    split
    · next inner =>
      simp only [Bool.and_eq_true, Bool.not_eq_true', List.isEmpty_eq_false_iff] at inner
      exact .brokenEscaped bare inner.1.1.1 inner.1.1.2 inner.1.2
    · exact .escaped bare

theorem doubleText_blank {s : Spot} {rest : Text} {column : Nat} (fresh : Bool)
    (whole : s.breakable = true → rest ≠ [] → column ≤ lineWidth) :
    doubleText s false fresh column (blank :: rest) = blank :: doubleText s false false (column + 1) rest := by
  have stays : (s.breakable && !rest.isEmpty && decide (lineWidth < column)) = false := by
    cases hb : s.breakable with
    | false => rfl
    | true =>
      cases rest with
      | nil => rfl
      | cons l rest => simpa using whole hb (List.cons_ne_nil _ _)
  rw [doubleText, if_pos (by decide)]
  simp only [Bool.not_false, Bool.and_true, beq_self_eq_true, Bool.true_or, stays, Bool.false_eq_true, if_false]

theorem exists_visible (s : Spot) (tail : List Char) (t : Text) : ∀ (first fresh : Bool) (column : Nat),
    ∃ k d v, chars (doubleText s first fresh column t) ++ '"' :: tail = List.replicate k ' ' ++ d :: v ∧
      isBreakOrBlank d = false ∧ (t.head? ≠ some blank → k = 0) := by
  induction t with
  | nil => exact fun _ _ _ => ⟨0, '"', tail, rfl, rfl, fun _ => rfl⟩
  | cons l rest ih =>
    intro first fresh column
    have escape {u : Text} : ∃ k d v, chars (.scalar '\\' :: u) ++ '"' :: tail = List.replicate k ' ' ++ d :: v ∧
        isBreakOrBlank d = false ∧ ((l :: rest).head? ≠ some blank → k = 0) :=
      ⟨0, '\\', _, rfl, rfl, fun _ => rfl⟩
    have written := doubled_doubleText s first fresh column l rest
    generalize doubleText s first fresh column (l :: rest) = w at written
    cases written with
    | @bare column bare =>
      obtain ⟨c, rfl, -, -, inside⟩ := exists_bare bare
      by_cases isBlank : c = ' '
      · subst isBlank
        obtain ⟨k, d, v, eq, inside, -⟩ := ih false false column
        refine ⟨k + 1, d, v, ?_, inside, fun h => absurd rfl h⟩
        simp [eq, List.replicate_succ]
      · exact ⟨0, c, _, rfl, inside isBlank, fun _ => rfl⟩
    | brokenBare =>
      obtain ⟨u, eq⟩ := quotedBreak_begins s (some l)
      rw [eq]
      exact escape
    | escaped =>
      obtain ⟨u, eq⟩ := escaped_begins l
      rw [eq]
      exact escape
    | brokenEscaped =>
      obtain ⟨u, eq⟩ := escaped_begins l
      rw [eq]
      exact escape

theorem hasParted_tail {l : Letter} {t : Text} (h : hasParted (l :: t) = false) : hasParted t = false := by
  match t, h with
  | [], _ => rfl
  | [_], _ => rfl
  | _ :: _ :: _, h => exact (Bool.or_eq_false_iff.1 h).2

theorem spells_bare {s : Spot} {l : Letter} {rest : Text} {column : Nat} (tail : List Char) (bare : isBare l = true)
    (later : Spells true (chars (doubleText s false false column rest)) rest ('"' :: tail)) :
    Spells true (chars (l :: doubleText s false false column rest)) (l :: rest) ('"' :: tail) := by
  obtain ⟨c, rfl, notQuote, notSlash, inside⟩ := exists_bare bare
  refine Spells.append (v := [c]) (p := [.scalar c]) ?_ later
  by_cases isBlank : c = ' '
  · subst isBlank
    obtain ⟨k, d, v, eq, inside, -⟩ := exists_visible s tail rest false false column
    change Spells true [' '] _ (chars _ ++ _)
    rw [eq]
    exact spells_blank k inside
  · by_cases other : c = '\''
    · exact spells_other _ (.inl ⟨other, rfl⟩)
    · exact spells_quotable (by simp [isQuotable, inside isBlank, notQuote, notSlash, other]) _

theorem spells_blankLine {s : Spot} {rest : Text} {w : List Char} (indented : 0 < s.indent) (tail : List Char)
    (later : Spells true w rest tail) :
    Spells true ('\\' :: '\n' :: List.replicate s.indent ' ' ++ ('\\' :: ' ' :: w)) (blank :: rest) tail := by
  obtain ⟨k, indent⟩ := Nat.exists_eq_succ_of_ne_zero (Nat.ne_of_gt indented)
  rw [indent]
  exact (spells_escapedBreak k rfl).append (Spells.append (v := ['\\', ' ']) (spells_named rfl _) later)

theorem spells_line {s : Spot} {rest : Text} {w tail v : List Char} {d : Char} (indented : 0 < s.indent)
    (begins : w ++ tail = d :: v) (inside : isBreakOrBlank d = false) (later : Spells true w rest tail) :
    Spells true ('\\' :: '\n' :: List.replicate s.indent ' ' ++ w) rest tail := by
  obtain ⟨k, indent⟩ := Nat.exists_eq_succ_of_ne_zero (Nat.ne_of_gt indented)
  rw [indent]
  refine Spells.append (p := []) ?_ later
  rw [begins]
  exact spells_escapedBreak k inside

/-- A text reads back from between double quotes, unless it is indented so far that a break is written before
a blank and the backslash of a second one after it. -/
theorem spells_doubleText {s : Spot} (indented : 0 < s.indent) (tail : List Char) :
    ∀ (t : Text) (first fresh : Bool) (column : Nat),
      (s.breakable = true → lineWidth ≤ s.indent → hasParted (if first then t.drop 1 else t) = false) →
      Spells true (chars (doubleText s first fresh column t)) t ('"' :: tail)
  | [], _, _, _, _ => .nil true _
  | l :: rest, first, fresh, column, whole => by
    have wholeRest : s.breakable = true → lineWidth ≤ s.indent → hasParted rest = false := by
      intro hb deep
      have clean := whole hb deep
      cases first with
      | true => exact clean
      | false => exact hasParted_tail clean
    have later := fun fresh column => spells_doubleText indented tail rest false fresh column wholeRest
    have written := doubled_doubleText s first fresh column l rest
    generalize doubleText s first fresh column (l :: rest) = w at written
    cases written with
    | bare isBare => exact spells_bare tail isBare (later _ _)
    | @brokenBare column bare _ =>
      rw [chars_append, chars_quotedBreak]
      by_cases isBlank : l = blank
      · subst isBlank
        simpa using spells_blankLine indented _ (later false column)
      · have notBlank : some l ≠ some blank := fun eq => isBlank (Option.some.inj eq)
        obtain ⟨c, rfl, -, -, inside⟩ := exists_bare bare
        rw [if_neg notBlank, List.append_nil]
        exact spells_line indented (d := c) rfl (inside fun eq => isBlank (congrArg Letter.scalar eq))
          (spells_bare tail bare (later false column))
    | escaped =>
      rw [chars_append]
      exact (spells_escaped l _).append (later _ _)
    | brokenEscaped notBare hb isLater filled =>
      rw [List.append_assoc, chars_append, chars_append, chars_quotedBreak]
      refine (spells_escaped l _).append (p := [l]) ?_
      by_cases isBlank : rest.head? = some blank
      · obtain ⟨r, rfl⟩ := List.head?_eq_some_iff.1 isBlank
        have wholeAfter := fun hb deep => hasParted_tail (wholeRest hb deep)
        have after := fun column => spells_doubleText indented tail r false false column wholeAfter
        -- The break before this blank has its backslash already: there must be none before what follows the blank.
        have unbroken : s.breakable = true → r ≠ [] → s.indent + 1 ≤ lineWidth := by
          intro hb filled
          obtain ⟨m, r, rfl⟩ := List.exists_cons_of_ne_nil filled
          by_contra deep
          have clean := whole hb (by omega)
          rw [isLater] at clean
          simp [hasParted, notBare, isBlankLetter] at clean
        have column : (quotedBreak s (some blank)).2 = s.indent + 1 := by rw [quotedBreak, if_pos rfl]
        rw [if_pos isBlank, isBlank, column, doubleText_blank true unbroken]
        simpa using spells_blankLine indented _ (after (s.indent + 1 + 1))
      · obtain ⟨k, d, v, eq, inside, front⟩ := exists_visible s tail rest false true (quotedBreak s rest.head?).2
        obtain rfl := front isBlank
        rw [if_neg isBlank, List.append_nil]
        exact spells_line indented eq inside (later true _)
  termination_by t => t.length

def quoteMark (double : Bool) : Char := if double then '"' else '\''

theorem quotedScalar_of_spells {double : Bool} {w tail : List Char} {t : Text} {c : Cursor} {fuel : Nat}
    (spells : Spells double w t (quoteMark double :: tail)) (h : c.rest = w ++ quoteMark double :: tail)
    (alone : double = true ∨ tail.head? ≠ some '\'') (enough : c.rest.length < fuel) :
    quotedScalar double fuel c = .ok (t, c.skip (w.length + 1)) := by
  obtain ⟨later, enough, eq⟩ := spells c h fuel enough
  obtain ⟨later, rfl⟩ := Nat.exists_eq_succ_of_ne_zero (Nat.ne_of_gt (Nat.zero_lt_of_lt enough))
  have at' := skip_of_append h
  have stop : isQuotable (quoteMark double) = false := by cases double <;> rfl
  have ends : quotedTail double later (c.skip w.length) = .ok ([], (c.skip w.length).advance) := by
    rw [quotedTail, at']
    cases double with
    | true => rfl
    | false =>
      have single : (tail.head? == some '\'') = false := by simpa using alone
      simp only [quoteMark, Bool.false_eq_true, if_false, Bool.not_false, Bool.true_and, single]
      rfl
  rw [eq, quotedScalar_of_stop at' stop, ends, skip_add]
  simp [Except.map, prepend, skip]

/-- What it takes for a text to read back where it is written. A next-line control between single quotes would
be taken for a break, and so may the backslash before a blank at the front of a line be for one that is meant. -/
def isLegible (s : Spot) (t : Text) : Bool :=
  if canBePlain t then true
  else if canBeSingle t && (s.breakable || !isMultiline t) then !t.contains (.scalar '\u0085')
  else !(s.breakable && decide (lineWidth ≤ s.indent) && hasParted (t.drop 1))

theorem spells_single {s : Spot} {t : Text} (indented : 0 < s.indent) (single : canBeSingle t = true)
    (kept : t.contains (.scalar '\u0085') = false) (column : Nat) (tail : List Char) :
    Spells false (chars (folded s true true column (runs t))) t ('\'' :: tail) := by
  simp only [canBeSingle, Bool.and_eq_true, Bool.not_eq_true', List.any_eq_false, Bool.not_eq_true] at single
  obtain ⟨⟨common, noBreakBlank⟩, noBlankBreak⟩ := single
  have whole := @spells_folded s indented tail _ _ (spaced_runs noBreakBlank noBlankBreak) true column
  rw [letters_runs] at whole
  refine whole (fun l hl inner => isSolid_of_plain (common l hl) inner) fun l hl eq => ?_
  subst eq
  simp [hl] at kept

theorem quotedScalar_text {s : Spot} {t : Text} {tail : List Char} {c : Cursor} {fuel : Nat} (indented : 0 < s.indent)
    (quoted : canBePlain t = false) (legible : isLegible s t = true) (alone : tail.head? ≠ some '\'')
    (h : c.rest = chars (text s t) ++ tail) (enough : c.rest.length ≤ fuel) :
    ∃ double v, c.rest = quoteMark double :: v ∧
      quotedScalar double fuel c.advance = .ok (t, c.skip (chars (text s t)).length) := by
  rw [isLegible] at legible
  rw [text] at h ⊢
  simp only [quoted, Bool.false_eq_true, if_false] at h legible ⊢
  have read {double : Bool} {w : Text} (spells : Spells double (chars w) t (quoteMark double :: tail))
      (h : c.rest = quoteMark double :: (chars w ++ quoteMark double :: tail)) :
      quotedScalar double fuel c.advance = .ok (t, c.skip ((chars w).length + 1 + 1)) := by
    rw [quotedScalar_of_spells spells (advance_of_cons h) (.inr alone)
      (by rw [advance_of_cons h]; rw [h] at enough; exact enough)]
    rfl
  split at h
  · rename_i single
    simp only [single, if_true, Bool.not_eq_true'] at legible ⊢
    have cut : c.rest = quoteMark false :: (chars (folded s true true (s.column + 1) (runs t))
        ++ quoteMark false :: tail) := by
      rw [h]
      simp [quoteMark]
    refine ⟨false, _, cut, ?_⟩
    rw [read (spells_single indented (Bool.and_eq_true_iff.1 single).1 legible _ _) cut]
    simp
  · rename_i double
    simp only [double, Bool.false_eq_true, if_false] at legible ⊢
    have cut : c.rest = quoteMark true :: (chars (doubleText s true true (s.column + 1) t)
        ++ quoteMark true :: tail) := by
      rw [h]
      simp [quoteMark]
    refine ⟨true, _, cut, ?_⟩
    rw [read (spells_doubleText indented tail t true true _ fun hb deep => by simpa [hb, deep] using legible) cut]
    simp

end Writing

end TaskCatalog.Yaml
