import TaskCatalog.Proofs.Layout
import TaskCatalog.Proofs.PlainForm
import TaskCatalog.Proofs.ScalarTexts
import TaskCatalog.Proofs.WrittenLetters

/-!
What is read of plain data that was written, as tokens: what stands behind the indicator of an entry, and the lines
of a block.
-/

namespace TaskCatalog.Yaml

open Text Number

namespace Scanner

variable {c : Cursor} {f : Frame} {k : Nat} {allowed : Bool} {next : List Char}

theorem beginsLine_mark {ch : Char} {block t : Token} {tail : List Char} (mark : (ch, block, t) ∈ blockMarks)
    (alone : tail.head?.all Cursor.isBreakOrBlank = true) : BeginsLine (ch :: tail) where
  solid := (by decide : ∀ m ∈ blockMarks, (m.1 == '#' || Cursor.isBreakOrBlank m.1) = false) _ mark
  unmarked c h := by
    rw [Cursor.isAnyMark, isMark_of_alone (by decide) h alone, isMark_of_alone (by decide) h alone]
    rfl

theorem reaches_newLine (begins : BeginsLine next) (h : c.rest = '\n' :: (List.replicate k ' ' ++ next)) :
    Reaches (free c f allowed) next k f := by
  have line := Cursor.skip_line h
  refine ⟨c.skip (1 + k), by rw [line], by rw [line], leads_of_prepare ?_ ?_⟩
  · exact prepare_line rfl h (isTokenStart_of_line begins) nofun
  · simp only [free, Cursor.skip_rest, List.length_drop]
    omega

theorem leads_blank (begins : BeginsLine next) (h : c.rest = ' ' :: next) :
    Leads (free c f allowed) (free (c.skip 1) f allowed) := by
  have at' : c.skip 1 = ⟨next, c.index + 1, c.line, c.column + 1⟩ := Cursor.skip_blanks (k := 1) h
  have start := isTokenStart_of_line begins
  refine leads_of_prepare ?_ (by simp [free, at', h])
  rw [prepare_free 1 (h : c.rest = List.replicate 1 ' ' ++ _) start,
    @prepare_free (c.skip 1) f allowed next 0 (by rw [at']; rfl) start]
  rfl

theorem Reaches.close {s : Scanner} {ts : List Token} {margin outer : Nat} {margins : List Nat}
    (h : Reaches s next k ⟨ts, margin, outer :: margins⟩) (begins : BeginsLine next) (less : k + 1 < margin) :
    Reaches s next k ⟨ts ++ [.blockEnd], outer, margins⟩ := by
  obtain ⟨c, rest, column, leads⟩ := h
  have start : c.rest.head?.all isTokenStart = true := by
    rw [rest]
    exact isTokenStart_of_line begins
  exact ⟨c, rest, column, leads.trans (leads_of_prepare (prepare_close start (by rw [column]; exact less)) (le_refl _))⟩

theorem enter_margin {t : Token} {column : Nat} (shallow : f.margin ≤ column + 1) :
    (f.enter t column).margin = column + 1 := by
  rcases Nat.lt_or_eq_of_le shallow with less | same
  · rw [Frame.enter_of_lt t less]
  · rw [Frame.enter_of_le t (le_of_eq same.symm), same]

theorem enter_again {t : Token} {ts : List Token} {column : Nat} (shallow : f.margin ≤ column + 1) :
    ((f.enter t column).add ts).enter t column = (f.enter t column).add ts :=
  Frame.enter_of_le t (by rw [Frame.add_margin, enter_margin shallow])

end Scanner

open Yaml.Scanner

/-- What is read behind an indicator whose block is indented by `indent`. It may have no block on the line of
the indicator but where that is a dash or a lone colon. -/
structure ReadsAt (inLine : Bool) (indent : Nat) (w : List Char) (ts : List Token) : Prop where
  gap : w.head?.any Cursor.isBreakOrBlank = true
  reaches : ∀ {c : Cursor} {f : Frame} {allowed : Bool} {k : Nat} {next : List Char}, BeginsLine next → k ≤ indent →
    f.margin = indent + 1 → indent + 1 ≤ c.column → (inLine = true → c.column = indent + 1 ∧ allowed = true) →
    c.rest = w ++ '\n' :: (List.replicate k ' ' ++ next) → Reaches (free c f allowed) next k (f.add ts)

/-- What is read of the lines of a block that is indented by `indent`. -/
structure ReadsLines (block : Token) (indent : Nat) (w : List Char) (ts : List Token) : Prop where
  begins : ∀ tail, BeginsLine (w ++ '\n' :: tail)
  reaches : ∀ {c : Cursor} {f : Frame} {k : Nat} {next : List Char}, BeginsLine next → k ≤ indent →
    f.margin ≤ indent + 1 → c.column = indent → c.rest = w ++ '\n' :: (List.replicate k ' ' ++ next) →
    Reaches (free c f true) next k ((f.enter block indent).add ts)

section

variable {inLine : Bool} {indent : Nat} {w v : List Char} {ts us : List Token} {block : Token}

theorem ReadsAt.scalar {t : Text} {plain : Bool} (scalar : IsScalar (indent + 2) w t plain) :
    ReadsAt inLine indent (' ' :: w) [.scalar t plain] where
  gap := rfl
  reaches begins shallow margin room _ h :=
    reaches_scalar scalar (by omega) begins (by omega) (by simpa using h) (by omega)

theorem ReadsAt.brackets {o e : Char} {t u : Token} (pair : (o, e, t, u) ∈ Scanner.brackets) :
    ReadsAt inLine indent [' ', o, e] [t, u] where
  gap := rfl
  reaches begins _ _ _ _ h := reaches_brackets pair begins (by simpa using h) (by omega)

/-- A sequence in a mapping stands on the column of the keys, in no block of its own. -/
theorem ReadsAt.flat (lines : ReadsLines block indent w ts) :
    ReadsAt false indent ('\n' :: (List.replicate indent ' ' ++ w)) ts where
  gap := rfl
  reaches {c f allowed k next} begins shallow margin _ _ h := by
    obtain ⟨d, rest, column, leads⟩ := @reaches_newLine c f indent allowed _
      (lines.begins (List.replicate k ' ' ++ next)) (by simpa using h)
    have inner := lines.reaches (f := f) begins shallow (by omega) column rest
    rw [Frame.enter_of_le block (by omega)] at inner
    exact inner.of_leads leads

theorem ReadsLines.nested {s : Scanner} {c : Cursor} {f : Frame} {k : Nat} {next : List Char}
    (lines : ReadsLines block (indent + 2) w ts) (begins : BeginsLine next) (shallow : k ≤ indent)
    (margin : f.margin = indent + 1) (column : c.column = indent + 2)
    (h : c.rest = w ++ '\n' :: (List.replicate k ' ' ++ next)) (leads : Leads s (free c f true)) :
    Reaches s next k (f.add (block :: ts ++ [.blockEnd])) := by
  have inner := lines.reaches (f := f) begins (by omega) (by omega) column h
  rw [Frame.enter_of_lt block (by omega)] at inner
  have closed := (inner.of_leads leads).close begins (Nat.succ_lt_succ (by omega : k < indent + 2))
  simpa [Frame.add] using closed

theorem ReadsAt.onLines (lines : ReadsLines block (indent + 2) w ts) :
    ReadsAt false indent ('\n' :: (List.replicate (indent + 2) ' ' ++ w)) (block :: ts ++ [.blockEnd]) where
  gap := rfl
  reaches {c f allowed k next} begins shallow margin _ _ h := by
    obtain ⟨d, rest, column, leads⟩ := @reaches_newLine c f (indent + 2) allowed _
      (lines.begins (List.replicate k ' ' ++ next)) (by simpa using h)
    exact lines.nested begins shallow margin column rest leads

theorem ReadsAt.onLine (lines : ReadsLines block (indent + 2) w ts) :
    ReadsAt true indent (' ' :: w) (block :: ts ++ [.blockEnd]) where
  gap := rfl
  reaches {c f allowed k next} begins shallow margin _ place h := by
    obtain ⟨column, rfl⟩ := place rfl
    have cut : c.rest = ' ' :: (w ++ '\n' :: (List.replicate k ' ' ++ next)) := h
    have at' := @Cursor.skip_blanks c (w ++ '\n' :: (List.replicate k ' ' ++ next)) 1 cut
    exact lines.nested begins shallow margin (by rw [at']; simp [column]) (by rw [at'])
      (leads_blank (lines.begins _) cut)

theorem ReadsLines.more (lines : ReadsLines block indent w ts) (others : ReadsLines block indent v us) :
    ReadsLines block indent (w ++ '\n' :: (List.replicate indent ' ' ++ v)) (ts ++ us) where
  begins tail := by simpa using lines.begins (List.replicate indent ' ' ++ (v ++ '\n' :: tail))
  reaches {c f k next} begins shallow margin column h := by
    obtain ⟨d, rest, column, leads⟩ := lines.reaches (f := f) (k := indent)
      (others.begins (List.replicate k ' ' ++ next)) (le_refl _) margin column (by simpa using h)
    have last := others.reaches (f := (f.enter block indent).add ts) begins shallow
      (by rw [Frame.add_margin, enter_margin margin]) column rest
    rw [enter_again margin, Frame.add_add] at last
    exact last.of_leads leads

theorem ReadsAt.gap_append (behind : ReadsAt inLine indent w ts) (tail : List Char) :
    ∃ g v, w ++ tail = g :: v ∧ Cursor.isBreakOrBlank g = true := by
  have gap := behind.gap
  cases w with
  | nil => cases gap
  | cons g w => exact ⟨g, w ++ tail, rfl, by simpa using gap⟩

theorem ReadsLines.marked {ch : Char} {t : Token} (mark : (ch, block, t) ∈ blockMarks)
    (behind : ReadsAt true indent w ts) : ReadsLines block indent (ch :: w) (t :: ts) where
  begins tail := by
    obtain ⟨g, v, cut, gap⟩ := behind.gap_append ('\n' :: tail)
    rw [List.cons_append, cut]
    exact beginsLine_mark mark (by simpa using gap)
  reaches {c f k next} begins shallow margin column h := by
    obtain ⟨g, v, cut, gap⟩ := behind.gap_append ('\n' :: (List.replicate k ' ' ++ next))
    have inside : isBreak ch = false ∧ ch ≠ '\uFEFF' :=
      (by decide : ∀ m ∈ blockMarks, isBreak m.1 = false ∧ m.1 ≠ '\uFEFF') _ mark
    have at' : c.advance = ⟨w ++ '\n' :: (List.replicate k ' ' ++ next), c.index + 1, c.line, c.column + 1⟩ :=
      Cursor.skip_oneLine (w := [ch]) h (by simpa [OneLine] using inside)
    have leads := leads_mark (f := f) mark (h.trans (congrArg (ch :: ·) cut)) (by simpa using gap) (by omega)
    rw [column] at leads
    have last := @ReadsAt.reaches _ _ _ _ behind c.advance ((f.enter block indent).add [t]) true _ _ begins shallow
      (by rw [Frame.add_margin, enter_margin margin]) (by simp [at', column]) (by simp [at', column]) (by rw [at'])
    rw [Frame.add_add] at last
    exact last.of_leads leads

theorem ReadsLines.key {t : Text} {plain : Bool} (scalar : IsScalar (indent + 2) w t plain) (line : OneLine w)
    (short : w.length ≤ 1024) (front : ∀ tail, BeginsLine (w ++ ':' :: tail)) (behind : ReadsAt false indent v ts) :
    ReadsLines .blockMapping indent (w ++ ':' :: v) (.key :: .scalar t plain :: .value :: ts) where
  begins tail := by simpa using front (v ++ '\n' :: tail)
  reaches {c f k next} begins shallow margin column h := by
    obtain ⟨g, u, cut, gap⟩ := behind.gap_append ('\n' :: (List.replicate k ' ' ++ next))
    have h' : c.rest = w ++ ':' :: g :: u := by rw [h, List.append_assoc, List.cons_append, cut]
    have leads := leads_key (f := f) scalar (by omega) line short h' gap (by omega)
      (.inr ((front (g :: u)).unmarked c h'))
    rw [column] at leads
    have cut' : c.rest = (w ++ [':']) ++ g :: u := by simpa using h'
    have at' := Cursor.skip_oneLine cut' (line.append (by simp [OneLine]; decide))
    rw [List.length_append, List.length_singleton] at at'
    have last := @ReadsAt.reaches _ _ _ _ behind (c.skip (w.length + 1))
      ((f.enter .blockMapping indent).add [.key, .scalar t plain, .value]) false _ _ begins shallow
      (by rw [Frame.add_margin, enter_margin margin]) (by simp [at', column]) (absurd · Bool.false_ne_true) (by rw [at', cut])
    rw [Frame.add_add] at last
    exact last.of_leads leads

end

namespace Writing

mutual

/-- The tokens of a value behind an indicator, which is a dash or a lone colon or the colon of a key. -/
def valueTokens (inLine : Bool) : Plain → List Token
  | .null => [.scalar "null" true]
  | .truth b => [.scalar (if b then "true" else "false") true]
  | .whole n => [.scalar (ofInt n) true]
  | .real x => [.scalar (floatText numberStyle x) true]
  | .text t => [.scalar t (canBePlain t)]
  | .list is =>
    if is.isEmpty then [.flowSequence, .flowSequenceEnd]
    else if inLine then .blockSequence :: itemsTokens is ++ [.blockEnd]
    else itemsTokens is
  | .map es =>
    if es.isEmpty then [.flowMapping, .flowMappingEnd]
    else .blockMapping :: entriesTokens es ++ [.blockEnd]

def itemsTokens : List Plain → List Token
  | [] => []
  | item :: rest => .blockEntry :: valueTokens true item ++ itemsTokens rest

def entriesTokens : List (Text × Plain) → List Token
  | [] => []
  | (key, v) :: rest =>
    .key :: .scalar key (canBePlain key) :: .value :: valueTokens (!isSimpleKey key) v ++ entriesTokens rest

end

/-- A key on one line is read as one if its colon is near enough. -/
def isReadableKey (indent : Nat) (key : Text) : Bool :=
  if isSimpleKey key then
    isLegible ⟨indent, indent + 2, false⟩ key && decide ((text ⟨indent, indent + 2, false⟩ key).length ≤ 1024)
  else isLegible ⟨indent + 2, indent + 2, true⟩ key

mutual

/-- Whether a value reads back where it is written: all its texts and keys do. -/
def isReadable (inLine : Bool) (indent : Nat) : Plain → Bool
  | .text t => isLegible ⟨indent, indent + 2, true⟩ t
  | .list is => areReadable (if inLine then indent + 2 else indent) is
  | .map es => entriesReadable (indent + 2) es
  | _ => true

def areReadable (indent : Nat) : List Plain → Bool
  | [] => true
  | p :: rest => isReadable true indent p && areReadable indent rest

def entriesReadable (indent : Nat) : List (Text × Plain) → Bool
  | [] => true
  | (key, p) :: rest => isReadableKey indent key && isReadable (!isSimpleKey key) indent p && entriesReadable indent rest

end

theorem isWord_of_letters {s : String} (all : s.toList.all Char.isAlphanum = true) (filled : s.toList ≠ []) :
    IsWord s.toList := by
  obtain ⟨c, v, eq⟩ := List.exists_cons_of_ne_nil filled
  refine ⟨fun c hc => ?_, c, v, eq, .inl (List.all_eq_true.1 all c (by rw [eq]; exact List.mem_cons_self))⟩
  simp [isWordChar, List.all_eq_true.1 all c hc]

theorem readsAt_word {inLine : Bool} {indent : Nat} {w : List Char} (word : IsWord w) :
    ReadsAt inLine indent (' ' :: w) [.scalar (ofChars w) true] :=
  .scalar (isScalar_word word (Nat.succ_pos _))

theorem readsLines_entry {indent : Nat} {key : Text} {v : List Char} {ts : List Token}
    (readable : isReadableKey indent key = true) (behind : ReadsAt (!isSimpleKey key) indent v ts) :
    ReadsLines .blockMapping indent (chars (keyText indent key) ++ v)
      (.key :: .scalar key (canBePlain key) :: .value :: ts) := by
  rw [isReadableKey] at readable
  rw [keyText]
  cases simple : isSimpleKey key with
  | true =>
    simp only [simple, if_true, Bool.and_eq_true, decide_eq_true_eq] at readable
    rw [simple] at behind
    have line : isMultiline key = false := by
      simp only [isSimpleKey, Bool.and_eq_true, Bool.not_eq_true'] at simple
      exact simple.2
    have whole := ReadsLines.key (isScalar_text readable.1 (Nat.succ_pos _)) (oneLine_text rfl line)
      (le_trans (List.length_filterMap_le _ _) readable.2) (beginsLine_key rfl key) behind
    simpa using whole
  | false =>
    simp only [simple, Bool.false_eq_true, if_false] at readable ⊢
    rw [simple] at behind
    have query := ReadsLines.marked (by decide : ('?', .blockMapping, .key) ∈ blockMarks)
      (.scalar (isScalar_text readable (Nat.succ_pos _)))
    have colon := ReadsLines.marked (by decide : (':', .blockMapping, .value) ∈ blockMarks) behind
    simpa using query.more colon

mutual

theorem readsAt_value {inLine : Bool} {indent column : Nat} : (p : Plain) → p.Settled →
    isReadable inLine indent p = true →
    ReadsAt inLine indent (chars (value inLine indent column p)) (valueTokens inLine p)
  | .null, _, _ => readsAt_word (isWord_of_letters (s := "null") (by decide) (by decide))
  | .truth b, _, _ => by
    cases b with
    | false => exact readsAt_word (isWord_of_letters (s := "false") (by decide) (by decide))
    | true => exact readsAt_word (isWord_of_letters (s := "true") (by decide) (by decide))
  | .whole n, _, _ => by
    have word := (isUnsigned_digits (areDigits_decimalDigits n.natAbs)).isWord (decide (n < 0))
    rw [value, valueTokens, ofInt_eq]
    simpa using readsAt_word word
  | .real x, settled, _ => by
    cases settled with
    | real finite =>
      obtain ⟨negative, n, text, -⟩ := @exists_spelling numberStyle rfl rfl x finite
      have word : IsWord ((if negative then ['-'] else []) ++ n.chars) := (isUnsigned_numeral n).isWord negative
      rw [value, valueTokens, text]
      simpa using readsAt_word word
  | .text t, _, readable => by
    rw [isReadable] at readable
    rw [value, valueTokens]
    have scalar := @isScalar_text ⟨column + 1, indent + 2, true⟩ t readable (Nat.succ_pos _)
    simpa using ReadsAt.scalar scalar
  | .list [], _, _ => .brackets (by decide : ('[', ']', _, _) ∈ Scanner.brackets)
  | .list (item :: rest), settled, readable => by
    cases settled with
    | list settled =>
      rw [isReadable] at readable
      cases inLine with
      | true =>
        have lines := readsLines_items (item :: rest) (List.cons_ne_nil _ _) settled readable
        simpa [value, valueTokens] using ReadsAt.onLine lines
      | false =>
        have lines := readsLines_items (item :: rest) (List.cons_ne_nil _ _) settled readable
        simpa [value, valueTokens] using ReadsAt.flat lines
  | .map [], _, _ => .brackets (by decide : ('{', '}', _, _) ∈ Scanner.brackets)
  | .map (entry :: rest), settled, readable => by
    cases settled with
    | map _ settled =>
      rw [isReadable] at readable
      have lines := readsLines_entries (entry :: rest) (List.cons_ne_nil _ _) settled readable
      cases inLine with
      | true => simpa [value, valueTokens] using ReadsAt.onLine lines
      | false => simpa [value, valueTokens] using ReadsAt.onLines lines

theorem readsLines_items {indent : Nat} : (is : List Plain) → is ≠ [] → (∀ p ∈ is, p.Settled) →
    areReadable indent is = true →
    ReadsLines .blockSequence indent (chars (join (newLine indent) (items indent is))) (itemsTokens is)
  | [], filled, _, _ => absurd rfl filled
  | [item], _, settled, readable => by
    rw [areReadable, Bool.and_eq_true] at readable
    have here := @readsAt_value _ _ (indent + 1) item (settled item List.mem_cons_self) readable.1
    have line := ReadsLines.marked (by decide : ('-', .blockSequence, .blockEntry) ∈ blockMarks) here
    simpa [items, itemsTokens, join] using line
  | item :: next :: rest, _, settled, readable => by
    rw [areReadable, Bool.and_eq_true] at readable
    have here := @readsAt_value _ _ (indent + 1) item (settled item List.mem_cons_self) readable.1
    have line := ReadsLines.marked (by decide : ('-', .blockSequence, .blockEntry) ∈ blockMarks) here
    have later := readsLines_items (next :: rest) (List.cons_ne_nil _ _)
      (fun p hp => settled p (List.mem_cons_of_mem _ hp)) readable.2
    rw [items, items, join_cons_cons, itemsTokens, ← items]
    simpa using line.more later

theorem readsLines_entries {indent : Nat} : (es : List (Text × Plain)) → es ≠ [] → (∀ e ∈ es, e.2.Settled) →
    entriesReadable indent es = true →
    ReadsLines .blockMapping indent (chars (join (newLine indent) (entries indent es))) (entriesTokens es)
  | [], filled, _, _ => absurd rfl filled
  | [(key, v)], _, settled, readable => by
    simp only [entriesReadable, Bool.and_eq_true] at readable
    have here := @readsAt_value _ _ (keyEnd indent key) v (settled (key, v) List.mem_cons_self) readable.1.2
    simpa [entries, entriesTokens, join] using readsLines_entry readable.1.1 here
  | (key, v) :: next :: rest, _, settled, readable => by
    rw [entriesReadable, Bool.and_eq_true, Bool.and_eq_true] at readable
    have here := @readsAt_value _ _ (keyEnd indent key) v (settled (key, v) List.mem_cons_self) readable.1.2
    have later := readsLines_entries (next :: rest) (List.cons_ne_nil _ _)
      (fun e he => settled e (List.mem_cons_of_mem _ he)) readable.2
    obtain ⟨key', v'⟩ := next
    rw [entries, entries, join_cons_cons, entriesTokens, ← entries]
    simpa using (readsLines_entry readable.1.1 here).more later

end

end Writing

end TaskCatalog.Yaml
