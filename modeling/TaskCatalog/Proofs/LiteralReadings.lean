import TaskCatalog.Code.Evaluation
import TaskCatalog.Proofs.LiteralScans
import TaskCatalog.Proofs.OperandReadings

/-!
The lexemes that spell a value are read as an expression that has the value.
-/

namespace TaskCatalog

open Code Code.Parser Text

/-! Entries under distinct texts. -/

namespace Value

theorem equals_other_text {k t : Text} (h : k ≠ t) : (Value.text k).equals (.text t) = false := by
  simp [Value.equals, Scalar.equals, Scalar.whole?, h]

theorem setEntry_new {entries : List (Value × Value)} {t : Text} (v : Value)
    (keys : ∀ e ∈ entries, ∃ k, e.1 = .text k) (new : Value.text t ∉ entries.map (·.1)) :
    setEntry (.text t) v entries = entries ++ [(.text t, v)] := by
  induction entries with
  | nil => rfl
  | cons e entries ih =>
    obtain ⟨k, v'⟩ := e
    obtain ⟨k, rfl⟩ := keys _ List.mem_cons_self
    simp only [List.map_cons, List.mem_cons, not_or] at new
    have other : k ≠ t := fun same => new.1 (congrArg Value.text same.symm)
    rw [setEntry, equals_other_text other, ih (fun e mem => keys e (List.mem_cons_of_mem _ mem)) new.2]
    rfl

theorem mapOfEntries_distinct {entries : List (Value × Value)} (keys : ∀ e ∈ entries, ∃ k, e.1 = .text k)
    (distinct : (entries.map (·.1)).Nodup) : mapOfEntries entries = entries := by
  suffices h : ∀ done : List (Value × Value), (∀ e ∈ done, ∃ k, e.1 = .text k) →
      ((done ++ entries).map (·.1)).Nodup → entries.foldl (fun done e => setEntry e.1 e.2 done) done = done ++ entries by
    exact h [] (List.forall_mem_nil _) distinct
  clear distinct
  induction entries with
  | nil => exact fun done _ _ => (List.append_nil done).symm
  | cons e entries ih =>
    intro done known distinct
    obtain ⟨k, v⟩ := e
    obtain ⟨k, rfl⟩ := keys _ List.mem_cons_self
    have new : Value.text k ∉ done.map (·.1) := by
      intro mem
      rw [List.map_append, List.map_cons] at distinct
      exact (List.nodup_append.1 distinct).2.2 _ mem _ List.mem_cons_self rfl
    have known' : ∀ e ∈ done ++ [(.text k, v)], ∃ k, e.1 = .text k := by
      intro e mem
      rcases List.mem_append.1 mem with mem | mem
      · exact known e mem
      · exact ⟨k, by rw [List.mem_singleton.1 mem]⟩
    have later := ih (fun e mem => keys e (List.mem_cons_of_mem _ mem)) _ known' (by simpa using distinct)
    change entries.foldl _ (setEntry (.text k) v done) = _
    rw [setEntry_new v known new]
    exact later.trans (by simp)

end Value

namespace Code

/-! What a value's lexemes begin with, and what is behind them. -/

def Lexeme.opensLiteral : Lexeme → Bool
  | .string _ => true
  | .name w => w == "None" || w == "True" || w == "False"
  | .mark m => m == "[" || m == "\x7b"
  | _ => false

theorem SpellsScalar.opens {v : Value} {ls : List Lexeme} (h : SpellsScalar v ls) :
    ∃ l more, ls = l :: more ∧ l.opensLiteral = true := by
  cases h with
  | text pieces filled =>
    obtain ⟨p, ps, rfl⟩ := List.exists_cons_of_ne_nil filled
    exact ⟨_, _, rfl, rfl⟩
  | null => exact ⟨_, _, rfl, rfl⟩
  | truth b => cases b <;> exact ⟨_, _, rfl, rfl⟩

theorem Spells.opens {n : Nat} {v : Value} {ls : List Lexeme} (h : Spells n v ls) :
    ∃ l more, ls = l :: more ∧ l.opensLiteral = true := by
  cases n with
  | zero => exact SpellsScalar.opens h
  | succ n =>
    rcases h with h | ⟨_, _, _, _, rfl⟩ | ⟨_, _, _, _, _, rfl⟩
    · exact h.opens
    · exact ⟨_, _, rfl, rfl⟩
    · exact ⟨_, _, rfl, rfl⟩

theorem opensOperand_of_literal {l : Lexeme} (h : l.opensLiteral = true) : l.opensOperand = true := by
  cases l with
  | string _ => rfl
  | name w =>
    simp only [Lexeme.opensLiteral, Bool.or_eq_true, beq_iff_eq] at h
    obtain (rfl | rfl) | rfl := h <;> rfl
  | mark m =>
    simp only [Lexeme.opensLiteral, Bool.or_eq_true, beq_iff_eq] at h
    obtain rfl | rfl := h <;> rfl
  | _ => cases h

/-- Tokens of a literal, and those behind it. -/
structure IsLiteral (ts rest : List Token) : Prop where
  opens : ∃ t ts', ts = t :: ts' ∧ t.lexeme.opensLiteral = true
  ends : EndsOperand rest

theorem IsLiteral.operand {ts rest : List Token} (h : IsLiteral ts rest) : Operand ts rest := by
  obtain ⟨⟨t, ts', rfl, opens⟩, ends⟩ := h
  exact ⟨⟨t, ts', rfl, opensOperand_of_literal opens⟩, ends⟩

theorem IsLiteral.unbound {ts rest : List Token} (h : IsLiteral ts rest) : Rule.isBinding.Reads ts false ts := by
  obtain ⟨⟨t, ts', rfl, opens⟩, -⟩ := h
  have keyword : ∀ w ∈ ["None", "True", "False"], keywords.contains w = true := by decide
  refine Declines.ahead (Declines.bind (Declines.bind (declines_take ?_ ?_ ts')))
  · exact Lexeme.sound_of_opensOperand (opensOperand_of_literal opens)
  · cases lexeme : t.lexeme with
    | name w =>
      rw [lexeme] at opens
      simp only [Lexeme.opensLiteral, Bool.or_eq_true, beq_iff_eq, or_assoc] at opens
      exact if_pos (keyword w (by simpa using opens))
    | _ => rfl

/-! Texts. -/

/-- A plain string literal by itself stands for a text. -/
structure StandsFor (token : List Char) (t : Text) : Prop where
  isText : (StringLiteral.ofToken token).isBytes = false
  isPlain : (StringLiteral.ofToken token).isFormatted = false
  text : StringLiteral.textOf (StringLiteral.ofToken token).isRaw (StringLiteral.ofToken token).body = some t

theorem standsFor_literalChars (t : Text) : StandsFor (literalChars t) t := by
  refine ⟨?_, ?_, ?_⟩ <;> rw [ofToken_literalChars]
  exact textOf_literalBody t

theorem reads_string {t : Token} {cs : List Char} (h : t.lexeme = .string cs) (ts : List Token) :
    Parser.string.Reads (t :: ts) cs ts :=
  reads_take (by rw [h]; rfl) (by rw [h]) ts

theorem reads_mapM {α β : Type} {f : α → Parser β} {ts : List Token} {as : List α} {bs : List β}
    (each : List.Forall₂ (fun a b => (f a).Reads ts b ts) as bs) : (as.mapM f).Reads ts bs ts := by
  suffices h : ∀ done, (List.mapM.loop f as done).Reads ts (done.reverse ++ bs) ts from h []
  induction each with
  | nil =>
    intro done
    rw [List.append_nil]
    exact reads_pure _ ts
  | @cons a b as bs first _ ih =>
    intro done
    refine first.bind ?_
    simpa using ih (b :: done)

/-- The text of pieces, without their fields. -/
def pieceTexts (ps : List Piece) : Text :=
  ps.flatMap fun
    | .text t => t
    | .field .. => []

theorem pieceTexts_mergePieces (ps : List Piece) : pieceTexts (mergePieces ps) = pieceTexts ps := by
  fun_induction mergePieces ps <;> simp_all [pieceTexts]

theorem pieceTexts_texts (ts : List Text) : pieceTexts (ts.map fun t => [Piece.text t]).flatten = ts.flatten := by
  induction ts with
  | nil => rfl
  | cons t ts ih => exact congrArg (t ++ ·) ih

theorem reads_literalPieces {go : Rules} {next at' : Nat} {token : List Char} {t : Text} (h : StandsFor token t)
    (ts : List Token) : (Rule.literalPieces go next at' token).Reads ts [.text t] ts := by
  unfold Rule.literalPieces
  simp only [h.isPlain, Bool.false_eq_true, if_false, h.text]
  exact reads_pure _ ts

/-- A string literal with the line on which it begins. -/
def placedString : Parser (Nat × List Char) := do
  let at' ← line
  return (at', ← Parser.string)

theorem reads_placedString {t : Token} {token : List Char} (h : t.lexeme = .string token) (ts : List Token) :
    placedString.Reads (t :: ts) (t.line, token) ts :=
  (reads_line (by rw [h]; rfl) ts).bind ((reads_string h ts).bind (reads_pure _ _))

theorem repeats_placedString {ts rest : List Token} {tokens : List (List Char)}
    (lexemes : ts.map (·.lexeme) = tokens.map .string) (behind : placedString.Declines rest) :
    Parser.Repeats placedString (ts ++ rest) (List.zipWith (fun t token => (t.line, token)) ts tokens) rest := by
  induction ts generalizing tokens with
  | nil => exact behind.repeats
  | cons t ts ih =>
    cases tokens with
    | nil => cases lexemes
    | cons token tokens =>
      obtain ⟨lexeme, lexemes⟩ := List.cons.inj lexemes
      exact (reads_placedString lexeme (ts ++ rest)).repeats (Nat.lt_succ_self _) (ih lexemes)

theorem standsFor_zipWith {ts : List Token} {tokens : List (List Char)} {texts : List Text}
    (lexemes : ts.map (·.lexeme) = tokens.map .string) (each : List.Forall₂ StandsFor tokens texts) :
    List.Forall₂ (fun p t => StandsFor p.2 t) (List.zipWith (fun t token => (t.line, token)) ts tokens) texts := by
  induction each generalizing ts with
  | nil =>
    rw [List.zipWith_nil_right]
    exact .nil
  | cons first _ ih =>
    cases ts with
    | nil => cases lexemes
    | cons t ts => exact .cons first (ih (List.cons.inj lexemes).2)

theorem reads_strings {go : Rules} {ts rest : List Token} {tokens : List (List Char)} {texts : List Text}
    (lexemes : ts.map (·.lexeme) = tokens.map .string) (each : List.Forall₂ StandsFor tokens texts) (filled : ts ≠ [])
    (behind : placedString.Declines rest) (sound : ∃ n, line.Reads rest n rest) :
    ∃ marked, (Rule.strings go).Reads (ts ++ rest) (.constant (.text texts.flatten) marked) rest := by
  -- strings in a row are one constant, since none of them holds bytes or is formatted
  have stand := standsFor_zipWith lexemes each
  obtain ⟨first, more, same, read⟩ : ∃ first more, List.zipWith (fun t token => (t.line, token)) ts tokens = first :: more ∧
      (some1 placedString).Reads (ts ++ rest) (first :: more) rest := by
    cases ts with
    | nil => exact absurd rfl filled
    | cons t ts =>
      cases tokens with
      | nil => cases lexemes
      | cons token tokens =>
        obtain ⟨lexeme, lexemes⟩ := List.cons.inj lexemes
        exact ⟨_, _, rfl, (reads_placedString lexeme (ts ++ rest)).some1 (repeats_placedString lexemes behind)⟩
  rw [same] at stand
  have plain : ∀ p ∈ first :: more,
      (StringLiteral.ofToken p.2).isBytes = false ∧ (StringLiteral.ofToken p.2).isFormatted = false := by
    clear same read each lexemes
    generalize first :: more = placed at stand
    induction stand with
    | nil => exact fun _ h => nomatch h
    | cons first _ ih => exact List.forall_mem_cons.2 ⟨⟨first.isText, first.isPlain⟩, ih⟩
  obtain ⟨next, atNext⟩ := sound
  have pieces : ((first :: more).mapM fun p => Rule.literalPieces go next p.1 p.2).Reads rest (texts.map fun t => [.text t]) rest :=
    reads_mapM (List.forall₂_map_right_iff.2 (stand.imp fun _ _ h => reads_literalPieces h rest))
  have merged : pieceTexts (mergePieces (texts.map fun t => [Piece.text t]).flatten) = texts.flatten := by
    rw [pieceTexts_mergePieces, pieceTexts_texts]
  refine ⟨((first :: more).map fun p => StringLiteral.ofToken p.2).head?.any (·.isMarked), ?_⟩
  refine Reads.bind read (atNext.bind ?_)
  have notBytes : ((first :: more).map fun p => StringLiteral.ofToken p.2).all (·.isBytes) = false := by
    simp [(plain first List.mem_cons_self).1]
  have noBytes : ((first :: more).map fun p => StringLiteral.ofToken p.2).any (·.isBytes) = false := by
    rw [List.any_map, List.any_eq_false]
    exact fun p mem => Bool.eq_false_iff.1 (plain p mem).1
  have unformatted : ((first :: more).map fun p => StringLiteral.ofToken p.2).any (·.isFormatted) = false := by
    rw [List.any_map, List.any_eq_false]
    exact fun p mem => Bool.eq_false_iff.1 (plain p mem).2
  dsimp only
  rw [notBytes, if_neg Bool.false_ne_true, noBytes, if_neg Bool.false_ne_true]
  refine pieces.bind ?_
  rw [unformatted, if_neg Bool.false_ne_true]
  rw [← merged]
  exact reads_pure _ rest

/-! Collections. -/

/-- Tokens with the lexemes are read as an expression that has the value. -/
def ReadAs (m : Nat) (v : Value) (ls : List Lexeme) : Prop :=
  ∀ ts rest : List Token, ts.map (·.lexeme) = ls → EndsOperand rest →
    ∃ p, (Rule.atom (rulesWithin m)).Reads (ts ++ rest) p rest ∧ p.expression.value = .ok v

theorem repeats_listed {α β : Type} {R : α → List Lexeme → Prop} {item : Parser β} {good : β → α → Prop}
    (each : ∀ a ls, R a ls → ∀ ts rest : List Token, ts.map (·.lexeme) = ls → EndsOperand rest →
      ∃ b, item.Reads (ts ++ rest) b rest ∧ good b a)
    {a : α} {as : List α} {inner : List Lexeme} (h : Listed R (a :: as) inner) :
    ∃ ls more, inner = ls ++ more ∧ R a ls ∧ ∀ ts rest : List Token, ts.map (·.lexeme) = more → EndsOperand rest →
      comma.Declines rest → EndsOperand (ts ++ rest) ∧
        ∃ bs, Parser.Repeats (do comma; item) (ts ++ rest) bs rest ∧ List.Forall₂ good bs as := by
  induction as generalizing a inner with
  | nil =>
    cases h with
    | one first =>
      refine ⟨inner, [], (List.append_nil _).symm, first, fun ts rest lexemes ends behind => ?_⟩
      rw [List.map_eq_nil_iff.1 lexemes]
      exact ⟨ends, [], behind.bind.repeats, .nil⟩
  | cons b as ih =>
    cases h with
    | @more _ _ _ ls ls' first others =>
      obtain ⟨ls₂, more, rfl, second, rest'⟩ := ih others
      refine ⟨ls, .mark "," :: (ls₂ ++ more), rfl, first, fun ts rest lexemes ends behind => ?_⟩
      obtain ⟨t, ts, rfl, lexeme, lexemes⟩ := List.map_eq_cons_iff.1 lexemes
      obtain ⟨ts₂, ts₃, rfl, lexemes₂, lexemes₃⟩ := List.map_eq_append_iff.1 lexemes
      obtain ⟨ends₃, bs, repeats, goods⟩ := rest' ts₃ rest lexemes₃ ends behind
      obtain ⟨c, reads, isGood⟩ := each b ls₂ second ts₂ (ts₃ ++ rest) lexemes₂ ends₃
      refine ⟨⟨t, _, rfl, by rw [lexeme]; rfl⟩, c :: bs, ?_, .cons isGood goods⟩
      have one : (do comma; item).Reads (t :: (ts₂ ++ (ts₃ ++ rest))) c (ts₃ ++ rest) :=
        (reads_mark lexeme _).bind reads
      have whole := one.repeats (by simp only [List.length_cons, List.length_append]; omega) repeats
      simpa only [List.cons_append, List.append_assoc] using whole

theorem isStarred_of_value {p : Placed} {v : Value} (h : p.expression.value = .ok v) : p.isStarred = false := by
  unfold Placed.isStarred
  split
  · next e same =>
    rw [same] at h
    cases h
  · rfl

theorem values_of_forall₂ {ps : List Placed} {vs : List Value}
    (each : List.Forall₂ (fun p v => p.expression.value = .ok v) ps vs) :
    Expression.values (ps.map (·.expression)) = .ok vs := by
  induction each with
  | nil => rfl
  | cons first _ ih =>
    rw [List.map_cons, Expression.values, first, ih]
    rfl

section Reading

variable {m : Nat}

theorem expression_of_readAs {v : Value} {ls : List Lexeme} {ts rest : List Token} (h : ReadAs m v ls)
    (opens : ∃ l more, ls = l :: more ∧ l.opensLiteral = true) (lexemes : ts.map (·.lexeme) = ls) (ends : EndsOperand rest) :
    IsLiteral (ts ++ rest) rest ∧
      ∃ p, (rulesWithin (m + 4) .expression).Reads (ts ++ rest) p rest ∧ p.expression.value = .ok v := by
  obtain ⟨l, more, rfl, opens⟩ := opens
  have literal : IsLiteral (ts ++ rest) rest := by
    obtain ⟨t, ts', rfl, lexeme, -⟩ := List.map_eq_cons_iff.1 lexemes
    exact ⟨⟨t, _, rfl, lexeme ▸ opens⟩, ends⟩
  obtain ⟨p, reads, evaluated⟩ := h ts rest lexemes ends
  exact ⟨literal, p, literal.operand.expression_of_atom reads, evaluated⟩

theorem starNamed_of_readAs {v : Value} {ls : List Lexeme} {ts rest : List Token} (h : ReadAs m v ls)
    (opens : ∃ l more, ls = l :: more ∧ l.opensLiteral = true) (lexemes : ts.map (·.lexeme) = ls) (ends : EndsOperand rest) :
    ∃ p, (Rule.starNamed (rulesWithin (m + 5))).Reads (ts ++ rest) p rest ∧ p.expression.value = .ok v := by
  obtain ⟨literal, p, reads, evaluated⟩ := expression_of_readAs h opens lexemes ends
  have named : (rulesWithin (m + 5) .named).Reads (ts ++ rest) p rest := literal.operand.named literal.unbound reads
  exact ⟨p, literal.operand.starNamed named, evaluated⟩

/-- The items of a collection are literals, each read as its value by the rules inside the collection's. -/
def ItemsReadAs (m n : Nat) : Prop := ∀ v ls, Spells n v ls → ReadAs m v ls

theorem no_mark_of_literal {t : Token} {k : String} (opens : t.lexeme.opensLiteral = true)
    (other : k ≠ "[" ∧ k ≠ "\x7b") (ts : List Token) : (mark k).Declines (t :: ts) := by
  refine declines_take (Lexeme.sound_of_opensOperand (opensOperand_of_literal opens)) (if_neg ?_) ts
  intro lexeme
  rw [lexeme] at opens
  simp [Lexeme.opensLiteral, other] at opens

theorem atom_of_bracket {t : Token} {ts rest : List Token} {go : Rules} {p : Placed} (lexeme : t.lexeme = .mark "[")
    (reads : (Rule.list go).Reads (t :: ts) p rest) : (Rule.atom go).Reads (t :: ts) p rest := by
  have sound : t.lexeme.isFault = false := by rw [lexeme]; rfl
  refine (reads_line sound ts).bind ((reads_peek sound ts).bind ?_)
  simp only [lexeme]
  exact reads

theorem atom_of_brace {t : Token} {ts rest : List Token} {go : Rules} {p : Placed} (lexeme : t.lexeme = .mark "\x7b")
    (reads : (Rule.braces go).Reads (t :: ts) p rest) : (Rule.atom go).Reads (t :: ts) p rest := by
  have sound : t.lexeme.isFault = false := by rw [lexeme]; rfl
  refine (reads_line sound ts).bind ((reads_peek sound ts).bind ?_)
  simp only [lexeme]
  exact reads

theorem tokens_of_bracketed {ts : List Token} {o c : String} {inner : List Lexeme}
    (h : ts.map (·.lexeme) = .mark o :: (inner ++ [.mark c])) :
    ∃ opener inside closer, ts = opener :: (inside ++ [closer]) ∧ opener.lexeme = .mark o ∧
      inside.map (·.lexeme) = inner ∧ closer.lexeme = .mark c := by
  obtain ⟨opener, ts', rfl, opening, behind⟩ := List.map_eq_cons_iff.1 h
  obtain ⟨inside, last, rfl, spelled, closing⟩ := List.map_eq_append_iff.1 behind
  obtain ⟨closer, none, rfl, closing, empty⟩ := List.map_eq_cons_iff.1 closing
  rw [List.map_eq_nil_iff.1 empty]
  exact ⟨opener, inside, closer, rfl, opening, spelled, closing⟩

/-- A list of some items. -/
theorem reads_list {go : Rules} {o c : Token} {ts mid rest : List Token} {p : Placed} {ps : List Placed}
    (opener : o.lexeme = .mark "[") (closer : c.lexeme = .mark "]") (filled : (mark "]").Declines ts)
    (first : (Rule.starNamed go).Reads ts p mid) (more : Parser.Repeats (do comma; Rule.starNamed go) mid ps (c :: rest)) :
    (Rule.list go).Reads (o :: ts) (.display o.line .list (p :: ps)) rest := by
  have line : line.Reads (o :: ts) o.line (o :: ts) := reads_line (by rw [opener]; rfl) _
  have noComma : comma.Declines (c :: rest) := declines_mark closer (by decide) rest
  have closed : (do mark "]"; return Sum.inl (p :: ps) : Parser (List Placed ⊕ List Clause)).Reads (c :: rest)
      (.inl (p :: ps)) rest := (reads_mark closer rest).bind (reads_pure _ rest)
  refine line.bind ((reads_mark opener _).bind (Declines.orElse filled.bind (Reads.orElse ?_)))
  refine first.bind (Reads.bind (a := .inl (p :: ps)) (Reads.orElse ?_) (reads_pure _ rest))
  refine more.many.bind (noComma.accept.bind ?_)
  split
  · exact (reads_mistake _ _).bind closed
  · exact closed

theorem readAs_list {n : Nat} {items : List Value} {inner : List Lexeme} (h : Listed (Spells n) items inner)
    (each : ItemsReadAs m n) : ReadAs (m + 5) (.list items) (.mark "[" :: (inner ++ [.mark "]"])) := by
  intro ts rest lexemes ends
  obtain ⟨o, inside, c, rfl, opener, spelled, closer⟩ := tokens_of_bracketed lexemes
  rw [List.cons_append, List.append_assoc, List.singleton_append]
  have line : line.Reads (o :: (inside ++ c :: rest)) o.line (o :: (inside ++ c :: rest)) :=
    reads_line (by rw [opener]; rfl) _
  cases items with
  | nil =>
    cases h
    obtain rfl := List.map_eq_nil_iff.1 spelled
    refine ⟨.display o.line .list [], atom_of_bracket opener ?_, rfl⟩
    refine line.bind ((reads_mark opener _).bind (Reads.orElse ?_))
    exact (reads_mark closer rest).bind (reads_pure _ rest)
  | cons v items =>
    have item : ∀ v ls, Spells n v ls → ∀ ts rest : List Token, ts.map (·.lexeme) = ls → EndsOperand rest →
        ∃ p, (Rule.starNamed (rulesWithin (m + 5))).Reads (ts ++ rest) p rest ∧ p.expression.value = .ok v :=
      fun v ls spelled ts rest lexemes ends => starNamed_of_readAs (each v ls spelled) spelled.opens lexemes ends
    obtain ⟨ls, more, rfl, first, others⟩ := repeats_listed item h
    obtain ⟨ts₁, ts₂, rfl, spelled₁, spelled₂⟩ := List.map_eq_append_iff.1 spelled
    have noComma : comma.Declines (c :: rest) := declines_mark closer (by decide) rest
    obtain ⟨ends₂, ps, repeats, evaluated⟩ := others ts₂ (c :: rest) spelled₂ (EndsOperand.of_mark closer (by decide) rest) noComma
    obtain ⟨p, reads, value⟩ := item v ls first ts₁ _ spelled₁ ends₂
    obtain ⟨l, _, rfl, opens⟩ := first.opens
    obtain ⟨t, ts₁, rfl, lexeme, -⟩ := List.map_eq_cons_iff.1 spelled₁
    rw [List.append_assoc] at line ⊢
    exact ⟨.display o.line .list (p :: ps), atom_of_bracket opener (reads_list opener closer
      (no_mark_of_literal (lexeme ▸ opens) (by decide) _) reads repeats), congrArg (Except.map Value.list)
      (values_of_forall₂ (.cons value evaluated))⟩

theorem ends_declines_placedString {rest : List Token} (h : EndsOperand rest) : placedString.Declines rest := by
  obtain ⟨n, line⟩ := h.reads_line
  refine line.bind_declines (Declines.bind (h.declines fun l ends => ?_))
  cases l with
  | string _ => cases ends
  | _ => rfl

/-- The words for values, with the values. -/
def valueWords : List (String × Scalar) := [("None", .null), ("True", .truth true), ("False", .truth false)]

theorem atom_of_word {t : Token} {w : String} {x : Scalar} {go : Rules} (lexeme : t.lexeme = .name w) (known : (w, x) ∈ valueWords)
    (rest : List Token) : (Rule.atom go).Reads (t :: rest) (.value t.line (.constant x false)) rest := by
  have sound : t.lexeme.isFault = false := by rw [lexeme]; rfl
  refine (reads_line sound rest).bind ((reads_peek sound rest).bind ?_)
  have literal : (Rule.literalWord w x).Reads (t :: rest) (.constant x false) rest :=
    (reads_word lexeme rest).bind (reads_pure _ rest)
  simp only [valueWords, List.mem_cons, Prod.mk.injEq, List.not_mem_nil, or_false] at known
  obtain ⟨rfl, rfl⟩ | ⟨rfl, rfl⟩ | ⟨rfl, rfl⟩ := known <;>
  · simp only [lexeme]
    exact literal.bind (reads_pure _ rest)

theorem atom_of_strings {t : Token} {ts rest : List Token} {token : List Char} {go : Rules} {e : Expression}
    (lexeme : t.lexeme = .string token) (reads : (Rule.strings go).Reads (t :: ts) e rest) :
    (Rule.atom go).Reads (t :: ts) (.value t.line e) rest := by
  have sound : t.lexeme.isFault = false := by rw [lexeme]; rfl
  refine (reads_line sound ts).bind ((reads_peek sound ts).bind ?_)
  simp only [lexeme]
  exact reads.bind (reads_pure _ rest)

theorem readAs_scalar {v : Value} {ls : List Lexeme} (h : SpellsScalar v ls) (m : Nat) : ReadAs m v ls := by
  intro ts rest lexemes ends
  cases h with
  | text pieces filled =>
    have tokens : ts.map (·.lexeme) = (pieces.map literalChars).map .string := by
      rw [lexemes, List.map_map]
      rfl
    have stand : List.Forall₂ StandsFor (pieces.map literalChars) pieces := by
      rw [List.forall₂_map_left_iff, List.forall₂_same]
      exact fun p _ => standsFor_literalChars p
    have filled' : ts ≠ [] := by
      rintro rfl
      exact filled (List.map_eq_nil_iff.1 lexemes.symm)
    obtain ⟨marked, reads⟩ : ∃ marked, (Rule.strings (rulesWithin m)).Reads (ts ++ rest)
        (.constant (.text pieces.flatten) marked) rest :=
      reads_strings tokens stand filled' (ends_declines_placedString ends) ends.reads_line
    obtain ⟨t, ts, rfl⟩ := List.exists_cons_of_ne_nil filled'
    obtain ⟨p, ps, rfl⟩ := List.exists_cons_of_ne_nil filled
    have lexeme : t.lexeme = .string (literalChars p) := (List.cons.inj lexemes).1
    exact ⟨.value t.line (.constant (.text (p :: ps).flatten) marked), atom_of_strings lexeme reads, rfl⟩
  | null =>
    obtain ⟨t, rfl, lexeme⟩ := List.map_eq_singleton_iff.1 lexemes
    exact ⟨_, atom_of_word lexeme (x := .null) (by decide) rest, rfl⟩
  | truth b =>
    obtain ⟨t, rfl, lexeme⟩ := List.map_eq_singleton_iff.1 lexemes
    have known : (if b then "True" else "False", Scalar.truth b) ∈ valueWords := by cases b <;> decide
    exact ⟨_, atom_of_word lexeme known rest, rfl⟩

theorem reads_entryValue {v : Value} {ls : List Lexeme} {ts rest : List Token} {t : Token} (h : ReadAs (m + 1) v ls)
    (opens : ∃ l more, ls = l :: more ∧ l.opensLiteral = true) (colon : t.lexeme = .mark ":")
    (lexemes : ts.map (·.lexeme) = ls) (ends : EndsOperand rest) :
    ∃ e, (Rule.entryValue (rulesWithin (m + 5))).Reads (t :: (ts ++ rest)) e rest ∧ e.value = .ok v := by
  obtain ⟨literal, p, reads, evaluated⟩ := expression_of_readAs h opens lexemes ends
  refine ⟨p.expression, ?_, evaluated⟩
  refine (reads_line (by rw [colon]; rfl) _).bind ((reads_mark colon _).bind ?_)
  exact Reads.bind (reads_mistake _ _) (Reads.bind (reads_mistake _ _) (reads.bind (reads_pure _ rest)))

/-- An entry of a dictionary with its values. -/
def HoldsEntry (e : Entry) (entry : Value × Value) : Prop :=
  ∃ key value, e = .pair key value ∧ key.value = .ok entry.1 ∧ value.value = .ok entry.2 ∧ entry.1.isKey = true

theorem entryValues_of_forall₂ {es : List Entry} {entries : List (Value × Value)}
    (each : List.Forall₂ HoldsEntry es entries) : Expression.entryValues es = .ok entries := by
  induction each with
  | nil => rfl
  | cons first _ ih =>
    obtain ⟨key, value, rfl, hk, hv, isKey⟩ := first
    simp only [Expression.entryValues, hk, hv, ih]
    exact if_pos isKey

theorem readAs_key (key : Text) (m : Nat) : ReadAs m (.text key) [literalLexeme key] := by
  have whole := SpellsScalar.text [key] (List.cons_ne_nil _ _)
  rw [List.flatten_singleton] at whole
  exact readAs_scalar whole m

theorem reads_entry {n : Nat} {entry : Value × Value} {ls : List Lexeme} (h : SpellsEntry (Spells n) entry ls)
    (each : ItemsReadAs (m + 1) n) {ts rest : List Token} (lexemes : ts.map (·.lexeme) = ls) (ends : EndsOperand rest) :
    ∃ e, (Rule.entry (rulesWithin (m + 5))).Reads (ts ++ rest) e rest ∧ HoldsEntry e entry := by
  obtain ⟨k, v⟩ := entry
  obtain ⟨key, inner, rfl, spelled, rfl⟩ := h
  obtain ⟨t, ts, rfl, lexeme, behind⟩ := List.map_eq_cons_iff.1 lexemes
  obtain ⟨c, ts, rfl, colon, lexemes⟩ := List.map_eq_cons_iff.1 behind
  have opens : (literalLexeme key).opensLiteral = true := rfl
  have lexemeKey : [t].map (·.lexeme) = [literalLexeme key] := congrArg ([·]) lexeme
  obtain ⟨-, p, reads, evaluated⟩ := expression_of_readAs (readAs_key key (m + 1)) ⟨_, _, rfl, opens⟩ lexemeKey
    (EndsOperand.of_mark colon (by decide) (ts ++ rest))
  obtain ⟨e, reads', evaluated'⟩ := reads_entryValue (each v inner spelled) spelled.opens colon lexemes ends
  refine ⟨.pair p.expression e, Declines.orElse ?_ ?_, p.expression, e, rfl, evaluated, evaluated', rfl⟩
  · exact (no_mark_of_literal (lexeme ▸ opens) (by decide) _).bind
  · exact reads.bind ((reads_mistake _ _).bind (reads'.bind (reads_pure _ rest)))

theorem no_clauses {rest : List Token} (h : EndsOperand rest) (go : Rules) : (Rule.clauses go).Declines rest :=
  ((h.no_word "async").accept.bind_declines (h.no_word "for").bind).some1

theorem exists_of_listed {α : Type} {R : α → List Lexeme → Prop} {as : List α} {ls : List Lexeme} (h : Listed R as ls) :
    ∀ a ∈ as, ∃ ls, R a ls := by
  induction h with
  | nil => exact fun _ h => nomatch h
  | one first => exact List.forall_mem_cons.2 ⟨⟨_, first⟩, fun _ h => nomatch h⟩
  | more first _ ih => exact List.forall_mem_cons.2 ⟨⟨_, first⟩, ih⟩

theorem value_dictionary {n : Nat} {es : List Entry} {entries : List (Value × Value)} {inner : List Lexeme}
    (distinct : (entries.map (·.1)).Nodup) (listed : Listed (SpellsEntry (Spells n)) entries inner)
    (each : List.Forall₂ HoldsEntry es entries) : (Expression.dictionary es).value = .ok (.map entries) := by
  have keys : ∀ e ∈ entries, ∃ k, e.1 = .text k := by
    intro e mem
    obtain ⟨_, key, _, isText, _⟩ := exists_of_listed listed e mem
    exact ⟨key, isText⟩
  rw [Expression.value, entryValues_of_forall₂ each]
  exact congrArg (fun es => Except.ok (Value.map es)) (Value.mapOfEntries_distinct keys distinct)

theorem readAs_map {n : Nat} {entries : List (Value × Value)} {inner : List Lexeme}
    (distinct : (entries.map (·.1)).Nodup) (h : Listed (SpellsEntry (Spells n)) entries inner)
    (each : ItemsReadAs (m + 1) n) :
    ReadAs (m + 5) (.map entries) (.mark "\x7b" :: (inner ++ [.mark "\x7d"])) := by
  intro ts rest lexemes ends
  obtain ⟨o, inside, c, rfl, opener, spelled, closer⟩ := tokens_of_bracketed lexemes
  rw [List.cons_append, List.append_assoc, List.singleton_append]
  have line : line.Reads (o :: (inside ++ c :: rest)) o.line (o :: (inside ++ c :: rest)) :=
    reads_line (by rw [opener]; rfl) _
  cases entries with
  | nil =>
    cases h
    obtain rfl := List.map_eq_nil_iff.1 spelled
    refine ⟨.value o.line (.dictionary []), atom_of_brace opener ?_, rfl⟩
    refine line.bind ((reads_mark opener _).bind (Reads.orElse ?_))
    exact (reads_mark closer rest).bind (reads_pure _ rest)
  | cons entry entries =>
    have item : ∀ e ls, SpellsEntry (Spells n) e ls → ∀ ts rest : List Token, ts.map (·.lexeme) = ls → EndsOperand rest →
        ∃ x, (Rule.entry (rulesWithin (m + 5))).Reads (ts ++ rest) x rest ∧ HoldsEntry x e :=
      fun e ls spelled ts rest lexemes ends => reads_entry spelled each lexemes ends
    obtain ⟨ls, more, rfl, first, others⟩ := repeats_listed item h
    obtain ⟨ts₁, ts₂, rfl, spelled₁, spelled₂⟩ := List.map_eq_append_iff.1 spelled
    have noComma : comma.Declines (c :: rest) := declines_mark closer (by decide) rest
    obtain ⟨ends₂, es, repeats, held⟩ := others ts₂ (c :: rest) spelled₂ (EndsOperand.of_mark closer (by decide) rest) noComma
    obtain ⟨k, v⟩ := entry
    obtain ⟨key, vs, rfl, value, rfl⟩ := first
    obtain ⟨t, ts₁, rfl, lexeme, behind⟩ := List.map_eq_cons_iff.1 spelled₁
    obtain ⟨d, ts₁, rfl, colon, spelled₁⟩ := List.map_eq_cons_iff.1 behind
    -- the first key is read as an item of a set would be, until the colon behind it tells that this is a mapping
    have opens : ∃ l more, [literalLexeme key] = l :: more ∧ l.opensLiteral = true := ⟨_, _, rfl, rfl⟩
    have endsKey : EndsOperand (d :: (ts₁ ++ (ts₂ ++ c :: rest))) := EndsOperand.of_mark colon (by decide) _
    have lexemeKey : [t].map (·.lexeme) = [literalLexeme key] := by simp [lexeme]
    obtain ⟨literal, -⟩ := expression_of_readAs (readAs_key key m) opens lexemeKey endsKey
    obtain ⟨p, readsKey, valueKey⟩ := starNamed_of_readAs (readAs_key key m) opens lexemeKey endsKey
    obtain ⟨e, readsValue, valueValue⟩ := reads_entryValue (each v vs value) value.opens colon spelled₁ ends₂
    have opensKey : t.lexeme.opensLiteral = true := by rw [lexeme]; rfl
    simp only [List.cons_append, List.append_assoc] at line literal readsKey ⊢
    refine ⟨.value o.line (.dictionary (.pair p.expression e :: es)), atom_of_brace opener ?_,
      value_dictionary distinct h (.cons ⟨_, _, rfl, valueKey, valueValue, rfl⟩ held)⟩
    refine line.bind ((reads_mark opener _).bind (Declines.orElse ?_ (Declines.orElse ?_ (Reads.orElse ?_))))
    · exact (no_mark_of_literal opensKey (by decide) _).bind
    · obtain ⟨n, lineKey⟩ := literal.operand.reads_line
      exact lineKey.bind_declines (no_mark_of_literal opensKey (by decide) _).bind
    · refine literal.unbound.bind (readsKey.bind ((reads_mark colon _).ahead.bind ?_))
      rw [if_pos rfl, isStarred_of_value valueKey]
      refine Reads.bind readsValue (Declines.orElse (no_clauses ends₂ _).bind ?_)
      exact repeats.many.bind (noComma.accept.bind ((reads_mark closer rest).bind (reads_pure _ rest)))

theorem readAs_spelled {n : Nat} {v : Value} {ls : List Lexeme} (h : Spells n v ls) (m : Nat) : ReadAs (m + 5 * n) v ls := by
  induction n generalizing v ls m with
  | zero => exact readAs_scalar h m
  | succ n ih =>
    rcases h with h | ⟨items, inner, rfl, listed, rfl⟩ | ⟨entries, inner, rfl, distinct, listed, rfl⟩
    · exact readAs_scalar h _
    · exact readAs_list listed fun v ls spelled => ih spelled m
    · refine readAs_map distinct listed fun v ls spelled => ?_
      have deeper := ih spelled (m + 1)
      rwa [Nat.add_right_comm] at deeper

end Reading

end Code

end TaskCatalog
