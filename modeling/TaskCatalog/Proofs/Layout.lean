import TaskCatalog.Proofs.QuotedScalars
import TaskCatalog.Yaml.Token

/-!
The tokens of a document that was written. A line is read from where its indentation ends; what the
blocks inside it have opened is closed where a later line is indented less.
-/

namespace TaskCatalog.Yaml

open Text

/-- The tokens that are read from a state on, up to the end of the stream. -/
inductive Scans : Scanner → List Token → Prop
  | last {s ready ended} : s.prepare = .ok ready → ready.cursor.atEnd = true → ready.token = .ok ended →
      Scans s ended.tokens.toList
  | step {s ready next ts} : s.prepare = .ok ready → ready.cursor.atEnd = false → ready.token = .ok next →
      next.cursor.rest.length < s.cursor.rest.length → Scans next ts → Scans s ts

theorem Scans.scan {s : Scanner} {ts : List Token} (h : Scans s ts) :
    ∀ fuel, s.cursor.rest.length < fuel → Tokens.scan fuel s = ⟨ts, none⟩ := by
  induction h with
  | last prepared atEnd ended =>
    intro fuel enough
    obtain ⟨fuel, rfl⟩ := Nat.exists_eq_succ_of_ne_zero (Nat.ne_of_gt (Nat.zero_lt_of_lt enough))
    simp [Tokens.scan, prepared, ended, atEnd]
  | step prepared atEnd token shorter _ ih =>
    intro fuel enough
    obtain ⟨fuel, rfl⟩ := Nat.exists_eq_succ_of_ne_zero (Nat.ne_of_gt (Nat.zero_lt_of_lt enough))
    simpa [Tokens.scan, prepared, token, atEnd] using ih fuel (by omega)

/-- From the one state the same tokens are read as from the other. -/
def Leads (s later : Scanner) : Prop := ∀ ts, Scans later ts → Scans s ts

theorem Leads.refl (s : Scanner) : Leads s s := fun _ h => h

theorem Leads.trans {s t u : Scanner} (first : Leads s t) (second : Leads t u) : Leads s u :=
  fun ts h => first ts (second ts h)

theorem leads_of_prepare {s later : Scanner} (same : s.prepare = later.prepare)
    (shorter : later.cursor.rest.length ≤ s.cursor.rest.length) : Leads s later := by
  intro ts h
  cases h with
  | last prepared atEnd ended => exact .last (same.trans prepared) atEnd ended
  | step prepared atEnd token less rest =>
    exact .step (same.trans prepared) atEnd token (Nat.lt_of_lt_of_le less shorter) rest

theorem leads_of_token {s ready next : Scanner} (prepared : s.prepare = .ok ready) (inside : ready.cursor.atEnd = false)
    (token : ready.token = .ok next) (shorter : next.cursor.rest.length < s.cursor.rest.length) : Leads s next :=
  fun _ rest => .step prepared inside token shorter rest

/-- What has been read of the blocks around a line: the tokens, and the margins of the innermost block and of
those around it. -/
structure Frame where
  tokens : List Token
  margin : Nat
  margins : List Nat

namespace Frame

def add (f : Frame) (ts : List Token) : Frame := { f with tokens := f.tokens ++ ts }

/-- A block of a kind at a column, opened unless it is there. -/
def enter (f : Frame) (t : Token) (column : Nat) : Frame :=
  if f.margin < column + 1 then ⟨f.tokens ++ [t], column + 1, f.margin :: f.margins⟩ else f

@[simp] theorem add_add (f : Frame) (ts us : List Token) : (f.add ts).add us = f.add (ts ++ us) := by
  simp [add]

@[simp] theorem add_margin (f : Frame) (ts : List Token) : (f.add ts).margin = f.margin := rfl

theorem enter_of_lt {f : Frame} {column : Nat} (t : Token) (h : f.margin < column + 1) :
    f.enter t column = ⟨f.tokens ++ [t], column + 1, f.margin :: f.margins⟩ := if_pos h

theorem enter_of_le {f : Frame} {column : Nat} (t : Token) (h : column + 1 ≤ f.margin) : f.enter t column = f :=
  if_neg (Nat.not_lt.2 h)

end Frame

namespace Scanner

/-- A state outside of brackets in which no token can turn out to be a key. -/
def free (c : Cursor) (f : Frame) (allowed : Bool) : Scanner :=
  ⟨c, f.tokens.toArray, f.margin, f.margins, 0, allowed, []⟩

variable {c : Cursor} {f : Frame} {k : Nat} {allowed : Bool} {next : List Char}

/-- A character that is neither skipped before a token nor begins a comment. -/
def isTokenStart (ch : Char) : Bool := !(ch == ' ' || ch == '#' || isBreak ch)

theorem isTokenStart_of_inside {ch : Char} (inside : Cursor.isBreakOrBlank ch = false) (noComment : ch ≠ '#') :
    isTokenStart ch = true := by
  simp only [Cursor.isBreakOrBlank, isSpaceOrTab, Bool.or_eq_false_iff] at inside
  simp [isTokenStart, inside, noComment]

theorem isTokenStart_of_line (begins : BeginsLine next) : next.head?.all isTokenStart = true := by
  cases next with
  | nil => rfl
  | cons ch next =>
    have solid := begins.solid
    simp only [List.head?_cons, Option.any_some, Bool.or_eq_false_iff, beq_eq_false_iff_ne] at solid
    exact isTokenStart_of_inside solid.2 solid.1

theorem stops_of_start {p : Char → Bool} (start : next.head?.all isTokenStart = true)
    (other : ∀ ch, p ch = true → isTokenStart ch = false) : next.head?.any p = false := by
  cases next with
  | nil => rfl
  | cons ch next =>
    cases eq : p ch with
    | false => simpa using eq
    | true =>
      rw [List.head?_cons, Option.all_some, other ch eq] at start
      cases start

theorem toNextToken_blanks {s : Scanner} (fuel k : Nat) (h : s.cursor.rest = List.replicate k ' ' ++ next)
    (start : next.head?.all isTokenStart = true) :
    s.toNextToken (fuel + 1) = { s with cursor := s.cursor.skip k } := by
  have at' : (s.cursor.skip k).rest = next := by simpa using Cursor.skip_of_append h
  have blanks : s.cursor.skipWhile (· == ' ') = s.cursor.skip k :=
    Cursor.skipWhile_blanks h rfl (stops_of_start start fun ch eq => by simp at eq; subst eq; rfl)
  have noComment : (s.cursor.skip k).at? (· == '#') = false := by
    rw [Cursor.at?, at']
    exact stops_of_start start fun ch eq => by simp at eq; subst eq; rfl
  have noBreak : (s.cursor.skip k).lineBreak = ([], s.cursor.skip k) := by
    refine Cursor.lineBreak_of_stop ?_
    rw [at']
    exact stops_of_start start fun ch eq => by simp [isTokenStart, eq]
  have still : (s.cursor.skip k).skipComment = s.cursor.skip k := by
    rw [Cursor.skipComment, noComment]
    rfl
  rw [toNextToken]
  simp only [blanks, still, noBreak]

theorem toNextToken_line {s : Scanner} (fuel : Nat) (h : s.cursor.rest = '\n' :: (List.replicate k ' ' ++ next))
    (start : next.head?.all isTokenStart = true) : s.toNextToken (fuel + 2) =
      { s with cursor := s.cursor.skip (1 + k), keyAllowed := s.keyAllowed || s.depth == 0 } := by
  have blanks : s.cursor.skipWhile (· == ' ') = s.cursor := Cursor.skipWhile_of_stop (by rw [h]; rfl)
  have still : s.cursor.skipComment = s.cursor := by
    rw [Cursor.skipComment, Cursor.at?, h]
    rfl
  have broken : s.cursor.lineBreak = (['\n'], s.cursor.advance) := Cursor.lineBreak_of_break h rfl (by decide)
  have there := @toNextToken_blanks next { s with cursor := s.cursor.advance, keyAllowed := s.keyAllowed || s.depth == 0 }
    fuel k (Cursor.advance_of_cons h) start
  rw [toNextToken]
  simp only [blanks, still, broken, there, Cursor.skip_add]
  rfl

theorem dropStaleKeys_of_stale {s : Scanner} (stale : ∀ e ∈ s.keys, e.2.required = false ∧ isStale s.cursor e.2 = true) :
    s.dropStaleKeys = .ok { s with keys := [] } := by
  rw [dropStaleKeys, if_neg, List.filter_eq_nil_iff.2]
  · intro e he
    simp [(stale e he).2]
  · rw [List.any_eq_true]
    rintro ⟨e, he, required⟩
    simp [(stale e he).1] at required

theorem dropStaleKeys_of_fresh {s : Scanner} (fresh : ∀ e ∈ s.keys, isStale s.cursor e.2 = false) :
    s.dropStaleKeys = .ok s := by
  rw [dropStaleKeys, if_neg, List.filter_eq_self.2]
  · intro e he
    simp [fresh e he]
  · rw [List.any_eq_true]
    rintro ⟨e, he, required⟩
    simp [fresh e he] at required

theorem prepare_of_stale {s moved : Scanner} (move : s.toNextToken (s.cursor.rest.length + 1) = moved)
    (stale : ∀ e ∈ moved.keys, e.2.required = false ∧ isStale moved.cursor e.2 = true) :
    s.prepare = .ok (({ moved with keys := [] } : Scanner).closeBlocks (moved.cursor.column + 1)) := by
  rw [prepare, move, dropStaleKeys_of_stale stale]
  rfl

theorem closeBlocks_of_le {s : Scanner} {column : Nat} (h : s.margin ≤ column) : s.closeBlocks column = s := by
  have here : ¬column < s.margin := Nat.not_lt.2 h
  have same : closeBlocks.go s column s.tokens s.margin s.margins = s := by
    cases eq : s.margins with
    | nil => rw [closeBlocks.go, ← eq]
    | cons outer margins => rw [closeBlocks.go, if_neg here, ← eq]
  rw [closeBlocks, same, ite_self]

theorem prepare_of_fresh {s : Scanner} (start : s.cursor.rest.head?.all isTokenStart = true)
    (fresh : ∀ e ∈ s.keys, isStale s.cursor e.2 = false) (deep : s.depth ≠ 0 ∨ s.margin ≤ s.cursor.column + 1) :
    s.prepare = .ok s := by
  have still : s.closeBlocks (s.cursor.column + 1) = s := by
    rcases deep with inner | deep
    · rw [closeBlocks, if_neg inner]
    · exact closeBlocks_of_le deep
  rw [prepare, toNextToken_blanks _ 0 rfl start]
  simp only [Cursor.skip, dropStaleKeys_of_fresh fresh]
  exact congrArg Except.ok still

theorem prepare_free (k : Nat) (h : c.rest = List.replicate k ' ' ++ next) (start : next.head?.all isTokenStart = true) :
    (free c f allowed).prepare = .ok ((free (c.skip k) f allowed).closeBlocks ((c.skip k).column + 1)) :=
  prepare_of_stale (toNextToken_blanks _ k h start) (by simp [free])

theorem isStale_of_line {c : Cursor} {e : PossibleKey} (h : e.line < c.line) : isStale c e = true := by
  have other : (e.line != c.line) = true := by simpa using Nat.ne_of_lt h
  rw [isStale, other, Bool.true_or]

/-- A state outside of brackets without its possible keys. -/
def forget (s : Scanner) : Scanner := { s with depth := 0, keys := [] }

theorem prepare_line {s : Scanner} (depth : s.depth = 0) (h : s.cursor.rest = '\n' :: (List.replicate k ' ' ++ next))
    (start : next.head?.all isTokenStart = true)
    (old : ∀ e ∈ s.keys, e.2.required = false ∧ e.2.line ≤ s.cursor.line) :
    s.prepare = (forget { s with cursor := s.cursor.skip (1 + k), keyAllowed := true }).prepare := by
  have at' := Cursor.skip_line h
  obtain ⟨n, size⟩ : ∃ n, s.cursor.rest.length = n + 1 := ⟨(List.replicate k ' ' ++ next).length, by rw [h]; rfl⟩
  have move : s.toNextToken (s.cursor.rest.length + 1) =
      { s with cursor := s.cursor.skip (1 + k), keyAllowed := s.keyAllowed || s.depth == 0 } := by
    rw [size]
    exact toNextToken_line n h start
  have there : (forget { s with cursor := s.cursor.skip (1 + k), keyAllowed := true }).toNextToken
      ((s.cursor.skip (1 + k)).rest.length + 1) = forget { s with cursor := s.cursor.skip (1 + k), keyAllowed := true } :=
    toNextToken_blanks _ 0 rfl (by rw [forget, at']; exact start)
  rw [prepare_of_stale move, prepare_of_stale there (by simp [forget])]
  · simp [forget, depth]
  · intro e he
    refine ⟨(old e he).1, isStale_of_line ?_⟩
    simp only [at']
    exact Nat.lt_succ_of_le (old e he).2

theorem prepare_later {s : Scanner} (depth : s.depth = 0) (start : s.cursor.rest.head?.all isTokenStart = true)
    (old : ∀ e ∈ s.keys, e.2.required = false ∧ e.2.line < s.cursor.line) : s.prepare = (forget s).prepare := by
  have move := toNextToken_blanks s.cursor.rest.length 0 rfl start
  have there : (forget s).toNextToken (s.cursor.rest.length + 1) = forget s := toNextToken_blanks _ 0 rfl start
  rw [prepare_of_stale move, prepare_of_stale there (by simp [forget])]
  · simp [Cursor.skip, depth, forget]
  · exact fun e he => ⟨(old e he).1, isStale_of_line (old e he).2⟩

theorem closeBlocks_free (column : Nat) : (free c f allowed).closeBlocks column =
    closeBlocks.go (free c ⟨[], 0, []⟩ allowed) column f.tokens.toArray f.margin f.margins := by
  have same : ∀ (outer : List Nat) (t : Array Token) (m : Nat), closeBlocks.go (free c f allowed) column t m outer =
      closeBlocks.go (free c ⟨[], 0, []⟩ allowed) column t m outer := by
    intro outer
    induction outer with
    | nil => exact fun _ _ => rfl
    | cons inner outer ih =>
      intro t m
      rw [closeBlocks.go, closeBlocks.go]
      split
      · exact ih _ _
      · rfl
  exact same _ _ _

theorem prepare_close {ts : List Token} {margin outer : Nat} {margins : List Nat}
    (start : c.rest.head?.all isTokenStart = true) (less : c.column + 1 < margin) :
    (free c ⟨ts, margin, outer :: margins⟩ allowed).prepare =
      (free c ⟨ts ++ [.blockEnd], outer, margins⟩ allowed).prepare := by
  rw [prepare_free 0 rfl start, prepare_free 0 rfl start, closeBlocks_free, closeBlocks_free, closeBlocks.go]
  simp only [Cursor.skip, less, if_true, List.push_toArray]

/-- What becomes a key if a colon follows on its line. -/
def candidate (c : Cursor) (f : Frame) (allowed : Bool) : List (Nat × PossibleKey) :=
  if allowed then [(0, ⟨f.tokens.length, f.margin == c.column + 1, c.index, c.line, c.column⟩)] else []

theorem saveKey_free : (free c f allowed).saveKey =
    .ok { free c f allowed with keys := candidate c f allowed } := by
  cases allowed <;> rfl

theorem candidate_not_required {e : Nat × PossibleKey} (h : e ∈ candidate c f allowed) (room : f.margin ≤ c.column) :
    e.2.required = false ∧ e.2.line = c.line := by
  rw [candidate] at h
  split at h
  · rw [List.mem_singleton.1 h]
    exact ⟨by simpa using (by omega : f.margin ≠ c.column + 1), rfl⟩
  · cases h

theorem token_quoted {s : Scanner} {double : Bool} (h : s.cursor.rest = Writing.quoteMark double :: next) :
    s.token = s.quotedText double := by
  cases double <;> simp [token, h, Writing.quoteMark, Cursor.isMark]

theorem token_plain {s : Scanner} {spot : Writing.Spot} {t : Text} {column : Nat} {tail : List Char}
    (plain : Writing.IsPlain t) (depth : s.depth = 0)
    (h : s.cursor.rest = chars (Writing.folded spot false true column (Writing.runs t)) ++ tail)
    (place : s.cursor.column ≠ 0 ∨ s.cursor.isAnyMark = false) : s.token = s.plainText := by
  obtain ⟨d, v, begins, -, inside, common, mark⟩ := plain.written spot column
  have cut : s.cursor.rest = d :: (v ++ tail) := by rw [h, begins]; rfl
  have unmarked : (s.cursor.column == 0 && (s.cursor.isMark '-' || s.cursor.isMark '.')) = false := by
    rcases place with inner | unmarked
    · simp [inner]
    · rw [Cursor.isAnyMark] at unmarked
      rw [unmarked, Bool.and_false]
  have together : d = '-' ∨ d = '?' ∨ d = ':' → s.standsAlone = false := by
    intro is
    have second := mark is
    cases v with
    | nil => cases second
    | cons e v => simpa [standsAlone, Cursor.endsOr, cut] using second
  simp only [Writing.isOpening, Letter.satisfies_scalar, List.contains_eq_mem, decide_eq_false_iff_not] at common
  simp at common
  have dashed : ¬(s.cursor.column = 0 ∧ s.cursor.isMark '-' = true) := fun both => by
    simp [both] at unmarked
  have dotted : ¬(s.cursor.column = 0 ∧ s.cursor.isMark '.' = true) := fun both => by
    simp [both] at unmarked
  have noDash : ¬(d = '-' ∧ s.standsAlone = true) := fun both => by simp [together (.inl both.1)] at both
  have noQuery : ¬(d = '?' ∧ s.standsAlone = true) := fun both => by simp [together (.inr (.inl both.1))] at both
  have noColon : ¬(d = ':' ∧ s.standsAlone = true) := fun both => by simp [together (.inr (.inr both.1))] at both
  have text : s.beginsPlain d = true := by
    by_cases is : d = '-' ∨ d = '?' ∨ d = ':'
    · simp [beginsPlain, together is, depth, is]
    · simp only [not_or] at is
      simp [beginsPlain, inside, isIndicator, common, is]
  rw [token, cut]
  simp [common, dashed, dotted, noDash, noQuery, noColon, depth, text]

/-- The state after a scalar of `n` characters. -/
def scanned (c : Cursor) (f : Frame) (allowed : Bool) (n : Nat) (t : Text) (plain broken : Bool) : Scanner :=
  { free (c.skip n) (f.add [.scalar t plain]) broken with keys := candidate c f allowed }

/-- Characters that are read as one scalar in blocks of at most a margin. A plain one is read on to where it stops. -/
structure IsScalar (margin : Nat) (w : List Char) (t : Text) (plain : Bool) : Prop where
  begins : ∃ d v, w = d :: v ∧ isTokenStart d = true
  token : ∀ {c : Cursor} {f : Frame} {allowed : Bool} {tail : List Char} {n : Nat} {broken : Bool},
    f.margin ≤ margin → Writing.StopsPlain f.margin tail n broken → tail.head? ≠ some '\'' → c.rest = w ++ tail →
    f.margin ≤ c.column + 1 → (c.column ≠ 0 ∨ c.isAnyMark = false) → (free c f allowed).token =
      .ok (scanned c f allowed (w.length + if plain then n else 0) t plain (plain && broken))

theorem isScalar_plain {spot : Writing.Spot} {t : Text} (plain : Writing.IsPlain t) (indented : 0 < spot.indent) :
    IsScalar spot.indent (chars (Writing.folded spot false true spot.column (Writing.runs t))) t true where
  begins := by
    obtain ⟨d, v, eq, -, inside, common, -⟩ := plain.written spot spot.column
    have notComment : d ≠ '#' := by
      rintro rfl
      cases common
    exact ⟨d, v, eq, isTokenStart_of_inside inside notComment⟩
  token {c f allowed tail n broken} deep stops _ h room place := by
    have read := Writing.plainScalar_text plain deep indented stops h room (Nat.lt_succ_self _)
    rw [token_plain plain rfl h place, plainText, saveKey_free]
    simp only [bind, Except.bind, pure, Except.pure, free, bne_self_eq_false, read, push, plain.ofChars_chars,
      Bool.true_and, if_true, List.push_toArray]
    rfl

theorem isScalar_text {spot : Writing.Spot} {t : Text} (legible : Writing.isLegible spot t = true)
    (indented : 0 < spot.indent) :
    IsScalar spot.indent (chars (Writing.text spot t)) t (Writing.canBePlain t) := by
  cases plain : Writing.canBePlain t with
  | true =>
    rw [Writing.text, if_pos plain]
    exact isScalar_plain (Writing.isPlain_of_canBePlain plain) indented
  | false =>
    refine ⟨?_, ?_⟩
    · rw [Writing.text]
      simp only [plain, Bool.false_eq_true, if_false]
      split
      · exact ⟨'\'', _, rfl, rfl⟩
      · exact ⟨'"', _, rfl, rfl⟩
    · intro c f allowed tail n broken _ _ alone h _ _
      obtain ⟨double, v, begins, read⟩ := Writing.quotedScalar_text indented plain legible alone h
        (Nat.le_succ c.rest.length)
      have token : (free c f allowed).token = (free c f allowed).quotedText double := token_quoted begins
      rw [token, quotedText, saveKey_free]
      simp only [bind, Except.bind, pure, Except.pure, free, read, push, Bool.false_and, Bool.false_eq_true, if_false,
        Nat.add_zero, List.push_toArray]
      rfl

/-- From a state a line is reached, at a column and with blocks around it as given. -/
def Reaches (s : Scanner) (next : List Char) (column : Nat) (f : Frame) : Prop :=
  ∃ c : Cursor, c.rest = next ∧ c.column = column ∧ Leads s (free c f true)

theorem Reaches.of_leads {s later : Scanner} {column : Nat} (first : Leads s later) (h : Reaches later next column f) :
    Reaches s next column f := by
  obtain ⟨c, rest, column, leads⟩ := h
  exact ⟨c, rest, column, first.trans leads⟩

theorem reaches_scalar {margin : Nat} {w : List Char} {t : Text} {plain : Bool} (scalar : IsScalar margin w t plain)
    (deep : f.margin ≤ margin) (begins : BeginsLine next) (shallow : k < f.margin)
    (h : c.rest = ' ' :: (w ++ '\n' :: (List.replicate k ' ' ++ next))) (room : f.margin ≤ c.column + 1) :
    Reaches (free c f allowed) next k (f.add [.scalar t plain]) := by
  obtain ⟨d, v, front, start⟩ := scalar.begins
  have cut : c.rest = List.replicate 1 ' ' ++ (w ++ '\n' :: (List.replicate k ' ' ++ next)) := h
  have at' := Cursor.skip_blanks cut
  have ready : (free c f allowed).prepare = .ok (free (c.skip 1) f allowed) := by
    rw [prepare_free 1 cut (by rw [front]; exact start), closeBlocks_of_le]
    simp only [at']
    exact Nat.le_succ_of_le room
  have here : (c.skip 1).rest = w ++ '\n' :: (List.replicate k ' ' ++ next) := by rw [at']
  have token := @IsScalar.token _ _ _ _ scalar (c.skip 1) f allowed _ _ _ deep
    (Writing.stopsPlain_line begins shallow) (by simp) here (by rw [at']; simp; omega) (.inl (by rw [at']; simp))
  have keys : ∀ e ∈ candidate (c.skip 1) f allowed, e.2.required = false ∧ e.2.line = (c.skip 1).line :=
    fun e he => candidate_not_required he (by rw [at']; exact room)
  have rest := Cursor.skip_of_append here
  have line := Cursor.skip_line rest
  refine ⟨(c.skip 1).skip (w.length + (1 + k)), ?_, ?_, ?_⟩
  · rw [Cursor.skip_add, line]
  · rw [Cursor.skip_add, line]
  refine (leads_of_token ready ?_ token ?_).trans (leads_of_prepare ?_ ?_)
  · simp [free, Cursor.atEnd, at', front]
  · simp only [scanned, free, Cursor.skip_rest, List.length_drop, cut, List.length_append, List.length_replicate]
    omega
  -- a plain scalar is read up to the next line, a quoted one leaves the end of its line behind
  · cases plain with
    | true =>
      have later := @prepare_later (scanned (c.skip 1) f allowed (w.length + (1 + k)) t true true) rfl
      refine later ?_ fun e he => ⟨(keys e he).1, ?_⟩
      · simp only [scanned, free, Cursor.skip_add, line]
        exact isTokenStart_of_line begins
      · simp only [scanned, free, Cursor.skip_add, line, (keys e he).2]
        exact Nat.lt_succ_of_le (Cursor.line_le_skip _ _)
    | false =>
      have here := @prepare_line k next (scanned (c.skip 1) f allowed w.length t false false) rfl rest
        (isTokenStart_of_line begins) fun e he => ⟨(keys e he).1, by rw [(keys e he).2]; exact Cursor.line_le_skip _ _⟩
      simpa [Cursor.skip_add, scanned, forget, free] using here
  · simp only [scanned, free, Cursor.skip_rest, List.length_drop]
    split <;> omega

theorem insertIdx_length (l m : List Token) (t : Token) : (l ++ m).insertIdx l.length t = l ++ t :: m := by
  induction l with
  | nil => rfl
  | cons u l ih => exact congrArg (u :: ·) ih

theorem openBlock_free (t : Token) (column : Nat) :
    (free c f allowed).openBlock column t f.tokens.length = free c (f.enter t column) allowed := by
  rw [openBlock, Frame.enter]
  change (if f.margin < column + 1 then _ else _) = _
  split
  · simp [free]
  · rfl

/-- The marks that open a block at their column if it is not open yet. -/
def blockMarks : List (Char × Token × Token) :=
  [('-', .blockSequence, .blockEntry), ('?', .blockMapping, .key), (':', .blockMapping, .value)]

theorem isMark_of_alone {ch m : Char} {tail : List Char} (mark : m ∈ ['-', '.']) (h : c.rest = ch :: tail)
    (alone : tail.head?.all Cursor.isBreakOrBlank = true) : c.isMark m = false := by
  have other : tail.head? ≠ some m := by
    have gapless : ∀ m ∈ ['-', '.'], (Cursor.isBreakOrBlank m == false) = true := List.all_eq_true.1 (by decide)
    intro eq
    rw [eq, Option.all_some, eq_of_beq (gapless m mark)] at alone
    cases alone
  rw [Cursor.isMark, h]
  cases tail with
  | nil => simp
  | cons e tail =>
    have : m ≠ e := fun eq => other (by rw [eq]; rfl)
    simp [this]

theorem leads_mark {ch : Char} {block t : Token} {tail : List Char} (mark : (ch, block, t) ∈ blockMarks)
    (h : c.rest = ch :: tail) (alone : tail.head?.all Cursor.isBreakOrBlank = true) (deep : f.margin ≤ c.column + 1) :
    Leads (free c f true) (free c.advance ((f.enter block c.column).add [t]) true) := by
  have start : c.rest.head?.all isTokenStart = true := by
    have all : ∀ m ∈ blockMarks, isTokenStart m.1 = true := by decide
    rw [h]
    exact all _ mark
  have ready : (free c f true).prepare = .ok (free c f true) := by
    rw [prepare_free 0 rfl start]
    exact congrArg Except.ok (closeBlocks_of_le deep)
  have token : (free c f true).token = .ok (free c.advance ((f.enter block c.column).add [t]) true) := by
    have standsAlone : (free c f true).standsAlone = true := by
      rw [Scanner.standsAlone, Cursor.endsOr]
      simpa [free, h, List.head?_eq_getElem?] using alone
    have unmarked : ∀ m, m ∈ ['-', '.'] → c.isMark m = false := fun m hm => isMark_of_alone hm h alone
    have opened : (free c f true).openByMark block = .ok (free c (f.enter block c.column) true) := by
      rw [openByMark]
      exact congrArg Except.ok (openBlock_free block c.column)
    have forgotten (g : Frame) : (free c g true).removeKey = .ok (free c g true) := rfl
    have here : (free c f true).cursor.rest = ch :: tail := h
    have dashed : (free c f true).cursor.isMark '-' = false := unmarked '-' (by decide)
    have dotted : (free c f true).cursor.isMark '.' = false := unmarked '.' (by decide)
    have simple (g : Frame) : (free c g true).simple 1 t = free c.advance (g.add [t]) true := by
      simp [Scanner.simple, Scanner.skip, push, free, Cursor.skip, Frame.add]
    have noKey : (free c f true).key? = none := rfl
    rw [Scanner.token, here]
    simp only [blockMarks, List.mem_cons, Prod.mk.injEq, List.not_mem_nil, or_false] at mark
    rcases mark with ⟨rfl, rfl, rfl⟩ | ⟨rfl, rfl, rfl⟩ | ⟨rfl, rfl, rfl⟩
    · simp [dashed, dotted, standsAlone, blockEntry, opened, forgotten, bind, Except.bind, pure, Except.pure]
      exact simple _
    · simp [dashed, dotted, standsAlone, keyMark, opened, forgotten, bind, Except.bind, pure, Except.pure]
      exact simple _
    · simp [dashed, dotted, standsAlone, valueMark, noKey, opened, forgotten, bind, Except.bind, pure, Except.pure]
      exact simple _
  exact leads_of_token ready (by simp [free, Cursor.atEnd, h]) token (Cursor.advance_lt h)

def brackets : List (Char × Char × Token × Token) :=
  [('[', ']', .flowSequence, .flowSequenceEnd), ('\x7b', '\x7d', .flowMapping, .flowMappingEnd)]

/-- The state inside the brackets of a collection at `c`, and behind them if it is empty. -/
def bracketOpened (c : Cursor) (f : Frame) (allowed : Bool) (t : Token) : Scanner :=
  { free (c.skip 1) (f.add [t]) true with depth := 1, keys := candidate c f allowed }

def bracketsClosed (c : Cursor) (f : Frame) (allowed : Bool) (t u : Token) : Scanner :=
  { free (c.skip 2) (f.add [t, u]) false with keys := candidate c f allowed }

theorem candidate_index {e : Nat × PossibleKey} (h : e ∈ candidate c f allowed) : e.2.index = c.index := by
  rw [candidate] at h
  split at h
  · rw [List.mem_singleton.1 h]
  · cases h

theorem token_bracketOpened {o e : Char} {t u : Token} {tail : List Char} (pair : (o, e, t, u) ∈ brackets)
    (h : c.rest = o :: tail) : (free c f allowed).token = .ok (bracketOpened c f allowed t) := by
  have here : (free c f allowed).cursor.rest = o :: tail := h
  rw [Scanner.token, here]
  simp only [brackets, List.mem_cons, Prod.mk.injEq, List.not_mem_nil, or_false] at pair
  rcases pair with ⟨rfl, rfl, rfl, rfl⟩ | ⟨rfl, rfl, rfl, rfl⟩
  all_goals
    simp [Cursor.isMark, here, openFlow, saveKey_free, bind, Except.bind, pure, Except.pure, simple, skip, push]
    simp [free, Frame.add, Cursor.skip, bracketOpened]

theorem token_bracketsClosed {o e : Char} {t u : Token} {tail : List Char} (pair : (o, e, t, u) ∈ brackets)
    (h : (c.skip 1).rest = e :: tail) :
    (bracketOpened c f allowed t).token = .ok (bracketsClosed c f allowed t u) := by
  have here : (bracketOpened c f allowed t).cursor.rest = e :: tail := h
  have removed : (bracketOpened c f allowed t).removeKey = .ok (bracketOpened c f allowed t) := by
    cases allowed <;> rfl
  rw [Scanner.token, here]
  simp only [brackets, List.mem_cons, Prod.mk.injEq, List.not_mem_nil, or_false] at pair
  rcases pair with ⟨rfl, rfl, rfl, rfl⟩ | ⟨rfl, rfl, rfl, rfl⟩
  all_goals
    simp [Cursor.isMark, here, closeFlow, removed, bind, Except.bind, pure, Except.pure, simple, skip, push]
    simp [free, Frame.add, Cursor.skip, bracketOpened, bracketsClosed]

theorem reaches_brackets {o e : Char} {t u : Token} (pair : (o, e, t, u) ∈ brackets) (begins : BeginsLine next)
    (h : c.rest = ' ' :: o :: e :: '\n' :: (List.replicate k ' ' ++ next)) (room : f.margin ≤ c.column + 1) :
    Reaches (free c f allowed) next k (f.add [t, u]) := by
  have kinds : o ≠ '\uFEFF' ∧ e ≠ '\uFEFF' ∧ isBreak o = false ∧ isBreak e = false ∧ isTokenStart o = true
      ∧ isTokenStart e = true :=
    (by decide : ∀ p ∈ brackets, p.1 ≠ '\uFEFF' ∧ p.2.1 ≠ '\uFEFF' ∧ isBreak p.1 = false ∧ isBreak p.2.1 = false
      ∧ isTokenStart p.1 = true ∧ isTokenStart p.2.1 = true) _ pair
  have at₀ : c.skip 1 = ⟨o :: e :: '\n' :: (List.replicate k ' ' ++ next), c.index + 1, c.line, c.column + 1⟩ :=
    Cursor.skip_blanks (k := 1) h
  have at₁ := Cursor.skip_oneLine (c := c.skip 1) (w := [o]) (by rw [at₀]; rfl) (by simp [OneLine, kinds])
  have at₂ := Cursor.skip_oneLine (c := c.skip 1) (w := [o, e]) (by rw [at₀]; rfl) (by simp [OneLine, kinds])
  simp only [List.length_cons, List.length_nil, Nat.zero_add, Nat.reduceAdd] at at₁ at₂
  have old : ∀ k ∈ candidate (c.skip 1) f allowed, k.2.required = false ∧ k.2.line = (c.skip 1).line :=
    fun k hk => candidate_not_required hk (by rw [at₀]; exact room)
  have first : Leads (free c f allowed) (bracketOpened (c.skip 1) f allowed t) := by
    have ready : (free c f allowed).prepare = .ok (free (c.skip 1) f allowed) := by
      rw [prepare_free 1 (h : c.rest = List.replicate 1 ' ' ++ _) kinds.2.2.2.2.1, closeBlocks_of_le]
      rw [at₀]
      exact Nat.le_succ_of_le room
    exact leads_of_token ready (by simp [free, Cursor.atEnd, at₀]) (token_bracketOpened pair (by rw [at₀]))
      (by simp [bracketOpened, free, at₁, h])
  have second : Leads (bracketOpened (c.skip 1) f allowed t) (bracketsClosed (c.skip 1) f allowed t u) := by
    have ready : (bracketOpened (c.skip 1) f allowed t).prepare = .ok (bracketOpened (c.skip 1) f allowed t) := by
      refine prepare_of_fresh (by simp [bracketOpened, free, at₁, kinds]) (fun k hk => ?_) (.inl Nat.one_ne_zero)
      simp [isStale, bracketOpened, free, at₁, (old k hk).2, candidate_index hk]
    exact leads_of_token ready (by simp [bracketOpened, free, Cursor.atEnd, at₁])
      (token_bracketsClosed pair (by rw [at₁])) (by simp [bracketOpened, bracketsClosed, free, at₁, at₂])
  have feed : (bracketsClosed (c.skip 1) f allowed t u).cursor.rest = '\n' :: (List.replicate k ' ' ++ next) := by
    simp only [bracketsClosed, free, at₂]
  have line := Cursor.skip_line feed
  refine ⟨(bracketsClosed (c.skip 1) f allowed t u).cursor.skip (1 + k), by rw [line], by rw [line],
    (first.trans second).trans (leads_of_prepare ?_ ?_)⟩
  · have later := prepare_line rfl feed (isTokenStart_of_line begins) fun k hk =>
      ⟨(old k hk).1, by rw [(old k hk).2]; exact Cursor.line_le_skip (c.skip 1) 2⟩
    simpa [bracketsClosed, forget, free] using later
  · simp only [bracketsClosed, free, Cursor.skip_rest, List.length_drop]
    omega

theorem token_colon {n : Nat} {t : Text} {plain : Bool} {g : Char} {tail : List Char}
    (h : (c.skip n).rest = ':' :: g :: tail) (gap : Cursor.isBreakOrBlank g = true) :
    (scanned c f true n t plain false).token = .ok (free (c.skip (n + 1))
      ((f.enter .blockMapping c.column).add [.key, .scalar t plain, .value]) false) := by
  have here : (scanned c f true n t plain false).cursor.rest = ':' :: g :: tail := h
  have alone : (scanned c f true n t plain false).standsAlone = true := by
    simp [standsAlone, Cursor.endsOr, here, gap]
  have key : (scanned c f true n t plain false).key? =
      some ⟨f.tokens.length, f.margin == c.column + 1, c.index, c.line, c.column⟩ := rfl
  have keyed : ({ (scanned c f true n t plain false).forgetKey with
      tokens := (scanned c f true n t plain false).tokens.insertIdxIfInBounds f.tokens.length .key } : Scanner) =
      free (c.skip n) (f.add [.key, .scalar t plain]) false := by
    simp [scanned, free, forgetKey, candidate, Frame.add, insertIdx_length]
  have opened : (free (c.skip n) (f.add [.key, .scalar t plain]) false).openBlock c.column .blockMapping
      f.tokens.length = free (c.skip n) ((f.enter .blockMapping c.column).add [.key, .scalar t plain]) false := by
    rw [openBlock, Frame.enter]
    change (if f.margin < c.column + 1 then _ else _) = _
    split
    · simp [free, Frame.add, insertIdx_length]
    · rfl
  have marked : (scanned c f true n t plain false).token = (scanned c f true n t plain false).valueMark := by
    rw [Scanner.token, here]
    simp [Cursor.isMark, here, alone]
  have last : (free (c.skip n) ((f.enter .blockMapping c.column).add [.key, .scalar t plain]) false).simple 1 .value =
      free ((c.skip n).skip 1) ((f.enter .blockMapping c.column).add [.key, .scalar t plain, .value]) false := by
    simp [Scanner.simple, Scanner.skip, push, free, Frame.add]
  rw [marked, valueMark, key, Cursor.skip_add, ← last]
  change Except.ok (({ Scanner.openBlock _ c.column .blockMapping f.tokens.length with keyAllowed := false } :
    Scanner).simple 1 .value) = _
  rw [keyed, opened]
  rfl

theorem leads_key {margin : Nat} {w : List Char} {t : Text} {plain : Bool} {g : Char} {tail : List Char}
    (scalar : IsScalar margin w t plain) (deep : f.margin ≤ margin) (line : OneLine w) (short : w.length ≤ 1024)
    (h : c.rest = w ++ ':' :: g :: tail) (gap : Cursor.isBreakOrBlank g = true) (room : f.margin ≤ c.column + 1)
    (place : c.column ≠ 0 ∨ c.isAnyMark = false) :
    Leads (free c f true) (free (c.skip (w.length + 1))
      ((f.enter .blockMapping c.column).add [.key, .scalar t plain, .value]) false) := by
  obtain ⟨d, v, front, start⟩ := scalar.begins
  have size : 1 ≤ w.length := by rw [front]; exact Nat.succ_le_succ (Nat.zero_le _)
  have start' : c.rest.head?.all isTokenStart = true := by
    rw [h, front]
    exact start
  have at' := Cursor.skip_oneLine h line
  have first : Leads (free c f true) (scanned c f true w.length t plain false) := by
    have ready : (free c f true).prepare = .ok (free c f true) := by
      rw [prepare_free 0 rfl start']
      exact congrArg Except.ok (closeBlocks_of_le room)
    have token := @IsScalar.token _ _ _ _ scalar c f true _ _ _ deep (Writing.stopsPlain_colon tail gap) (by simp) h
      room place
    rw [Bool.and_false, ite_self, Nat.add_zero] at token
    refine leads_of_token ready (by simp [free, Cursor.atEnd, h]) token ?_
    simp only [scanned, free, Cursor.skip_rest, List.length_drop, h, List.length_append, List.length_cons]
    omega
  have ready : (scanned c f true w.length t plain false).prepare = .ok (scanned c f true w.length t plain false) := by
    refine prepare_of_fresh (by simp [scanned, free, at', isTokenStart]; decide) (fun k hk => ?_) (.inr ?_)
    · obtain rfl : k = _ := List.mem_singleton.1 hk
      simp [isStale, scanned, free, at', short]
    · simp only [scanned, free, at', Frame.add]
      omega
  refine first.trans (leads_of_token ready (by simp [scanned, free, Cursor.atEnd, at']) (token_colon (by rw [at']) gap) ?_)
  simp only [scanned, free, Cursor.skip_rest, List.length_drop, h, List.length_append, List.length_cons]
  omega

end Scanner

end TaskCatalog.Yaml
