import TaskCatalog.Code.ExpressionRule
import TaskCatalog.Code.StatementRule
import TaskCatalog.Proofs.ScanSteps

/-!
What rules make of the tokens in front of them in a lenient reading: which they take, or that they do not fit. How far
a reading has looked does not matter to it. Operands without operators, which stand between marks that end an
expression, are read by all the rules of operators as the one operand that they are.
-/

namespace TaskCatalog.Code

namespace Parser

variable {α β : Type} {p q : Parser α} {f : α → Parser β} {ts mid rest : List Token} {t : Token} {a : α} {b : β}
  {as : List α} {l : Lexeme}

/-- A lenient reading takes the tokens before those that are left. -/
def Reads (p : Parser α) (ts : List Token) (a : α) (rest : List Token) : Prop :=
  ∀ seen, ∃ seen', p false ts seen = .parsed a rest seen'

/-- In a lenient reading the rule does not fit. -/
def Declines (p : Parser α) (ts : List Token) : Prop := ∀ seen, ∃ seen', p false ts seen = .stuck seen'

theorem reads_pure (a : α) (ts : List Token) : (pure a : Parser α).Reads ts a ts := fun seen => ⟨seen, rfl⟩

theorem declines_stuck (ts : List Token) : (stuck : Parser α).Declines ts := fun seen => ⟨seen, rfl⟩

theorem Reads.bind (first : p.Reads ts a mid) (next : (f a).Reads mid b rest) : (p >>= f).Reads ts b rest := by
  intro seen
  obtain ⟨s, hs⟩ := first seen
  obtain ⟨s', hs'⟩ := next s
  exact ⟨s', by simp only [Bind.bind, andThen, hs, hs']⟩

theorem Reads.bind_declines (first : p.Reads ts a mid) (next : (f a).Declines mid) : (p >>= f).Declines ts := by
  intro seen
  obtain ⟨s, hs⟩ := first seen
  obtain ⟨s', hs'⟩ := next s
  exact ⟨s', by simp only [Bind.bind, andThen, hs, hs']⟩

theorem Declines.bind (h : p.Declines ts) : (p >>= f).Declines ts := by
  intro seen
  obtain ⟨s, hs⟩ := h seen
  exact ⟨s, by simp only [Bind.bind, andThen, hs]⟩

theorem Declines.assoc {γ : Type} {k : α → β → Parser γ} (h : (p >>= f).Declines ts) :
    (p >>= fun a => f a >>= k a).Declines ts := by
  intro seen
  obtain ⟨s, hs⟩ := h seen
  simp only [Bind.bind, andThen] at hs ⊢
  cases first : p false ts seen with
  | parsed a rest s' =>
    simp only [first] at hs
    exact ⟨s, by simp only [hs]⟩
  | stuck s' => exact ⟨s', rfl⟩
  | faulty e s' => simp only [first, reduceCtorEq] at hs

theorem Reads.orElse (h : p.Reads ts a rest) : (p <|> q).Reads ts a rest := by
  intro seen
  obtain ⟨s, hs⟩ := h seen
  exact ⟨s, by simp only [HOrElse.hOrElse, OrElse.orElse, Parser.orElse, hs]⟩

theorem Declines.orElse (h : p.Declines ts) (next : q.Reads ts a rest) : (p <|> q).Reads ts a rest := by
  intro seen
  obtain ⟨s, hs⟩ := h seen
  obtain ⟨s', hs'⟩ := next s
  exact ⟨s', by simp only [HOrElse.hOrElse, OrElse.orElse, Parser.orElse, hs, hs']⟩

theorem Declines.orElse_declines (h : p.Declines ts) (next : q.Declines ts) : (p <|> q).Declines ts := by
  intro seen
  obtain ⟨s, hs⟩ := h seen
  obtain ⟨s', hs'⟩ := next s
  exact ⟨s', by simp only [HOrElse.hOrElse, OrElse.orElse, Parser.orElse, hs, hs']⟩

theorem Reads.run (h : p.Reads ts a rest) : p.run ts = .ok a := by
  obtain ⟨s, hs⟩ := h 0
  rw [Parser.run, hs]

/-! What a lenient reading leaves out. -/

theorem reads_strictly (p : Parser α) (ts : List Token) : (strictly p).Reads ts () ts := fun seen => ⟨seen, rfl⟩

theorem reads_mistake (p : Parser Nat) (ts : List Token) : (mistake p).Reads ts () ts := reads_strictly _ ts

/-! Single tokens. -/

theorem reads_left (ts : List Token) : left.Reads ts ts ts := fun seen => ⟨seen, rfl⟩

theorem reads_peek (sound : t.lexeme.isFault = false) (ts : List Token) : peek.Reads (t :: ts) t (t :: ts) := by
  intro seen
  unfold peek
  dsimp only
  split
  · rename_i h
    rw [h] at sound
    cases sound
  · exact ⟨_, rfl⟩

theorem reads_line (sound : t.lexeme.isFault = false) (ts : List Token) : line.Reads (t :: ts) t.line (t :: ts) :=
  (reads_peek sound ts).bind (reads_pure _ _)

theorem reads_take {kind : Lexeme → Option α} (sound : t.lexeme.isFault = false) (fits : kind t.lexeme = some a)
    (ts : List Token) : (take kind).Reads (t :: ts) a ts := by
  refine (reads_peek sound ts).bind fun seen => ⟨seen, ?_⟩
  simp only [fits, advance, List.drop_succ_cons, List.drop_zero]

theorem declines_take {kind : Lexeme → Option α} (sound : t.lexeme.isFault = false) (unfit : kind t.lexeme = none)
    (ts : List Token) : (take kind).Declines (t :: ts) := by
  refine (reads_peek sound ts).bind_declines fun seen => ⟨seen, ?_⟩
  simp only [unfit]
  rfl

theorem reads_mark {m : String} (h : t.lexeme = .mark m) (ts : List Token) : (mark m).Reads (t :: ts) () ts :=
  reads_take (by rw [h]; rfl) (if_pos h) ts

theorem reads_word {w : String} (h : t.lexeme = .name w) (ts : List Token) : (word w).Reads (t :: ts) () ts :=
  reads_take (by rw [h]; rfl) (if_pos h) ts

theorem declines_mark_of_ne {m : String} (sound : t.lexeme.isFault = false) (other : t.lexeme ≠ .mark m)
    (ts : List Token) : (mark m).Declines (t :: ts) := declines_take sound (if_neg other) ts

theorem declines_mark {m k : String} (h : t.lexeme = .mark m) (other : m ≠ k) (ts : List Token) :
    (mark k).Declines (t :: ts) := by
  refine declines_mark_of_ne (by rw [h]; rfl) ?_ ts
  rw [h]
  exact fun same => other (Lexeme.mark.inj same)

theorem declines_mark_of_newline (h : t.lexeme = .newline) (m : String) (ts : List Token) :
    (mark m).Declines (t :: ts) :=
  declines_mark_of_ne (by rw [h]; rfl) (by rw [h]; exact Lexeme.noConfusion) ts

/-! Whether a rule would fit. -/

theorem Reads.ahead (h : p.Reads ts a rest) : (ahead p).Reads ts true ts := by
  intro seen
  obtain ⟨s, hs⟩ := h seen
  exact ⟨s, by simp only [Parser.ahead, Bind.bind, andThen, left, fitsAt, hs]⟩

theorem Declines.ahead (h : p.Declines ts) : (ahead p).Reads ts false ts := by
  intro seen
  obtain ⟨s, hs⟩ := h seen
  exact ⟨s, by simp only [Parser.ahead, Bind.bind, andThen, left, fitsAt, hs]⟩

theorem Declines.without (h : p.Declines ts) : (without p).Reads ts () ts := h.ahead.bind (reads_pure _ _)

theorem Reads.optional (h : p.Reads ts a rest) : (optional p).Reads ts (some a) rest :=
  Reads.orElse (h.bind (f := fun a => pure (some a)) (reads_pure _ _))

theorem Declines.optional (h : p.Declines ts) : (optional p).Reads ts none ts := h.bind.orElse (reads_pure _ _)

theorem Reads.accept {p : Parser Unit} (h : p.Reads ts () rest) : (accept p).Reads ts true rest :=
  Reads.orElse (h.bind (f := fun _ => pure true) (reads_pure _ _))

theorem Declines.accept {p : Parser Unit} (h : p.Declines ts) : (accept p).Reads ts false ts :=
  h.bind.orElse (reads_pure _ _)

/-! Rules that fit several times. -/

/-- The rule fits again and again, and then no more. -/
def Repeats (p : Parser α) (ts : List Token) (as : List α) (rest : List Token) : Prop :=
  ∀ fuel : List Token, ts.length ≤ fuel.length → (manyWithin p fuel).Reads ts as rest

theorem Declines.repeats (h : p.Declines ts) : p.Repeats ts [] ts := by
  intro fuel _
  cases fuel with
  | nil => exact reads_pure _ _
  | cons _ fuel => exact h.bind.orElse (reads_pure _ _)

theorem Reads.repeats (h : p.Reads ts a mid) (shorter : mid.length < ts.length) (more : p.Repeats mid as rest) :
    p.Repeats ts (a :: as) rest := by
  intro fuel enough
  cases fuel with
  | nil => exact absurd shorter (Nat.not_lt.2 (Nat.le_trans enough (Nat.zero_le _)))
  | cons _ fuel =>
    have enough' : mid.length ≤ fuel.length := by
      rw [List.length_cons] at enough
      omega
    refine Reads.orElse (h.bind ?_)
    exact (more fuel enough').bind (f := fun as => pure (a :: as)) (reads_pure _ _)

theorem Repeats.many (h : p.Repeats ts as rest) : (many p).Reads ts as rest :=
  (reads_left ts).bind (h ts (Nat.le_refl _))

theorem Reads.some1 (h : p.Reads ts a mid) (more : p.Repeats mid as rest) : (some1 p).Reads ts (a :: as) rest :=
  h.bind (more.many.bind (reads_pure _ _))

theorem Declines.some1 (h : p.Declines ts) : (some1 p).Declines ts := h.bind

theorem Reads.separated {s : Parser Unit} (h : p.Reads ts a mid)
    (more : Repeats (do s; p) mid as rest) : (separated s p).Reads ts (a :: as) rest :=
  h.bind (more.many.bind (reads_pure _ _))

theorem Reads.commaList {last : Bool} (h : p.Reads ts a mid) {mid' : List Token}
    (more : Repeats (do comma; p) mid as mid') (ended : (Parser.accept comma).Reads mid' last rest) :
    (commaList p).Reads ts (a :: as, last) rest :=
  (h.separated more).bind (ended.bind (reads_pure _ _))

theorem Declines.commaList (h : p.Declines ts) : (commaList p).Declines ts :=
  Declines.bind (Declines.bind h)

end Parser

/-! Operands without operators. -/

open Code.Parser

namespace Lexeme

/-- Words that begin what is more than an operand. -/
def openingWords : List String := ["await", "lambda", "not", "yield"]

def opensOperand : Lexeme → Bool
  | .string _ => true
  | .name w => !openingWords.contains w
  | .mark m => m == "(" || m == "[" || m == "\x7b"
  | _ => false

def endingMarks : List String := [",", ":", ")", "]", "\x7d"]

def endsOperand : Lexeme → Bool
  | .newline => true
  | .mark m => endingMarks.contains m
  | _ => false

variable {l : Lexeme} {α : Type}

theorem sound_of_opensOperand (h : l.opensOperand = true) : l.isFault = false := by
  cases l <;> first | rfl | cases h

theorem sound_of_endsOperand (h : l.endsOperand = true) : l.isFault = false := by
  cases l <;> first | rfl | cases h

end Lexeme

open Lexeme

/-- Tokens behind an operand. -/
def EndsOperand (rest : List Token) : Prop := ∃ t rest', rest = t :: rest' ∧ t.lexeme.endsOperand = true

namespace EndsOperand

variable {rest : List Token} {α : Type}

theorem of_mark {t : Token} {m : String} (lexeme : t.lexeme = .mark m) (ending : m ∈ endingMarks)
    (rest : List Token) : EndsOperand (t :: rest) :=
  ⟨t, rest, rfl, by rw [lexeme]; exact List.contains_iff_mem.2 ending⟩

theorem reads_line (h : EndsOperand rest) : ∃ n, line.Reads rest n rest := by
  obtain ⟨t, rest', rfl, ends⟩ := h
  exact ⟨_, Parser.reads_line (sound_of_endsOperand ends) rest'⟩

theorem declines (h : EndsOperand rest) {kind : Lexeme → Option α} (unfit : ∀ l, l.endsOperand = true → kind l = none) :
    (take kind).Declines rest := by
  obtain ⟨t, rest', rfl, ends⟩ := h
  exact declines_take (sound_of_endsOperand ends) (unfit _ ends) rest'

theorem no_mark {m : String} (h : EndsOperand rest) (other : (Lexeme.mark m).endsOperand = false) :
    (Parser.mark m).Declines rest := by
  refine h.declines fun l ends => if_neg ?_
  rintro rfl
  rw [other] at ends
  cases ends

theorem no_word (h : EndsOperand rest) (w : String) : (word w).Declines rest := by
  refine h.declines fun l ends => if_neg ?_
  rintro rfl
  cases ends

theorem no_oneOf {table : List (String × α)} (h : EndsOperand rest) (other : ∀ m ∈ endingMarks, table.lookup m = none) :
    (oneOf table).Declines rest := by
  refine h.declines fun l ends => ?_
  cases l with
  | mark m => exact other m (List.contains_iff_mem.1 ends)
  | _ => rfl

theorem no_trailer (h : EndsOperand rest) (go : Rules) : (Rule.trailer go).Declines rest := by
  refine (h.no_mark (by decide)).bind.orElse_declines ?_
  refine Declines.orElse_declines (Declines.bind (h.no_mark (by decide)).bind) ?_
  exact Declines.bind (h.no_mark (by decide)).bind

end EndsOperand

/-- Tokens of an operand, and those behind it. -/
structure Operand (ts rest : List Token) : Prop where
  opens : ∃ t ts', ts = t :: ts' ∧ t.lexeme.opensOperand = true
  ends : EndsOperand rest

namespace Operand

variable {ts rest : List Token} {α : Type} {go : Rules} {p : Placed}

theorem reads_line (c : Operand ts rest) : ∃ n, line.Reads ts n ts := by
  obtain ⟨t, ts', rfl, opens⟩ := c.opens
  exact ⟨_, Parser.reads_line (sound_of_opensOperand opens) ts'⟩

theorem declines_front (c : Operand ts rest) {kind : Lexeme → Option α}
    (unfit : ∀ l, l.opensOperand = true → kind l = none) : (take kind).Declines ts := by
  obtain ⟨t, ts', rfl, opens⟩ := c.opens
  exact declines_take (sound_of_opensOperand opens) (unfit _ opens) ts'

theorem no_word {w : String} (opening : w ∈ openingWords) (c : Operand ts rest) : (word w).Declines ts := by
  refine c.declines_front fun l opens => if_neg ?_
  rintro rfl
  simp [opensOperand, opening] at opens

theorem no_mark {m : String} (other : (Lexeme.mark m).opensOperand = false) (c : Operand ts rest) :
    (Parser.mark m).Declines ts := by
  refine c.declines_front fun l opens => if_neg ?_
  rintro rfl
  rw [other] at opens
  cases opens

theorem no_oneOf {table : List (String × α)} (other : ∀ m, (Lexeme.mark m).opensOperand = true → table.lookup m = none)
    (c : Operand ts rest) : (oneOf table).Declines ts := by
  refine c.declines_front fun l opens => ?_
  cases l with
  | mark m => exact other m opens
  | _ => rfl

theorem primary (c : Operand ts rest) (h : (Rule.atom go).Reads ts p rest) : (Rule.primary go).Reads ts p rest := by
  obtain ⟨n, line⟩ := c.reads_line
  exact line.bind (h.bind ((c.ends.no_trailer go).repeats.many.bind (reads_pure _ _)))

theorem power (c : Operand ts rest) (h : (go .primary).Reads ts p rest) : (Rule.power go).Reads ts p rest := by
  obtain ⟨n, line⟩ := c.reads_line
  refine line.bind ((c.no_word (by decide)).accept.bind (h.bind ?_))
  exact (c.ends.no_mark (m := "**") (by decide)).bind.orElse (reads_pure _ _)

theorem factor (c : Operand ts rest) (h : (go .primary).Reads ts p rest) : (Rule.factor go).Reads ts p rest := by
  obtain ⟨n, line⟩ := c.reads_line
  refine Declines.orElse (line.bind_declines (Declines.bind ?_)) (c.power h)
  refine c.no_oneOf fun m opens => ?_
  simp only [opensOperand, Bool.or_eq_true, beq_iff_eq] at opens
  obtain (rfl | rfl) | rfl := opens <;> rfl

theorem chain {table : List (String × BinaryOperator)} {operand : Parser Placed}
    (other : ∀ m ∈ endingMarks, table.lookup m = none) (c : Operand ts rest) (h : operand.Reads ts p rest) :
    (Rule.chain table operand).Reads ts p rest := by
  obtain ⟨n, line⟩ := c.reads_line
  exact line.bind (h.bind ((c.ends.no_oneOf other).bind.repeats.many.bind (reads_pure _ _)))

theorem bitOr (c : Operand ts rest) (h : (go .factor).Reads ts p rest) : (Rule.bitOr go).Reads ts p rest := by
  have product : (Rule.product go).Reads ts p rest := c.chain (by decide) h
  have sum : (Rule.sum go).Reads ts p rest := c.chain (by decide) product
  have shift : (Rule.shift go).Reads ts p rest := c.chain (by decide) sum
  have bitAnd : (Rule.bitAnd go).Reads ts p rest := c.chain (by decide) shift
  have bitXor : (Rule.bitXor go).Reads ts p rest := c.chain (by decide) bitAnd
  exact c.chain (by decide) bitXor

theorem no_relation (c : Operand ts rest) : Rule.relation.Declines rest := by
  refine (c.ends.no_oneOf (by decide)).orElse_declines ?_
  refine (c.ends.no_word "not").bind.orElse_declines ?_
  exact (c.ends.no_word "in").bind.orElse_declines (c.ends.no_word "is").bind

theorem inversion (c : Operand ts rest) (h : (go .factor).Reads ts p rest) : (Rule.inversion go).Reads ts p rest := by
  obtain ⟨n, line⟩ := c.reads_line
  refine Declines.orElse (line.bind_declines (c.no_word (by decide)).bind) ?_
  exact line.bind ((c.bitOr h).bind (c.no_relation.bind.repeats.many.bind (reads_pure _ _)))

theorem connected {by' : Connective} {w : String} {operand : Parser Placed} (c : Operand ts rest)
    (h : operand.Reads ts p rest) : (Rule.connected by' w operand).Reads ts p rest := by
  obtain ⟨n, line⟩ := c.reads_line
  exact line.bind ((h.separated (c.ends.no_word w).bind.repeats).bind (reads_pure _ _))

theorem disjunction (c : Operand ts rest) (h : (go .inversion).Reads ts p rest) :
    (Rule.disjunction go).Reads ts p rest :=
  c.connected (c.connected h)

theorem reads_adjacencyMistakes (go : Rules) (begin_ : List Token) (e : Placed) (ts : List Token) :
    (Rule.adjacencyMistakes go begin_ e).Reads ts () ts := by
  unfold Rule.adjacencyMistakes
  dsimp only
  split
  · exact Reads.bind (f := fun _ => strictly _) (reads_mistake _ ts) (reads_strictly _ ts)
  · exact reads_strictly _ ts

theorem expression (c : Operand ts rest) (h : (go .inversion).Reads ts p rest) :
    (Rule.expression go).Reads ts p rest := by
  obtain ⟨n, line⟩ := c.reads_line
  refine Declines.orElse (line.bind_declines (c.no_word (by decide)).bind) ?_
  refine line.bind ((reads_left ts).bind ((c.disjunction h).bind ((reads_adjacencyMistakes go ts p rest).bind ?_)))
  exact (c.ends.no_word "if").bind.orElse (reads_pure _ _)

theorem named (c : Operand ts rest) (unbound : Rule.isBinding.Reads ts false ts)
    (h : (go .expression).Reads ts p rest) : (Rule.named go).Reads ts p rest := by
  refine unbound.bind ?_
  refine (reads_left ts).bind (h.bind (Reads.bind ((reads_mistake _ rest).bind (reads_mistake _ rest)) ?_))
  exact ((c.ends.no_mark (by decide)).without).bind (reads_pure _ _)

theorem starNamed (c : Operand ts rest) (h : (go .named).Reads ts p rest) : (Rule.starNamed go).Reads ts p rest := by
  obtain ⟨n, line⟩ := c.reads_line
  exact Declines.orElse (line.bind_declines (c.no_mark (by decide)).bind) h

variable {m : Nat}

/-- An operand by itself is an expression, three rules above it. -/
theorem expression_of_primary (c : Operand ts rest) (h : (rulesWithin m .primary).Reads ts p rest) :
    (rulesWithin (m + 3) .expression).Reads ts p rest := by
  have factor : (rulesWithin (m + 1) .factor).Reads ts p rest := c.factor h
  have inversion : (rulesWithin (m + 2) .inversion).Reads ts p rest := c.inversion factor
  exact c.expression inversion

theorem expression_of_atom (c : Operand ts rest) (h : (Rule.atom (rulesWithin m)).Reads ts p rest) :
    (rulesWithin (m + 4) .expression).Reads ts p rest :=
  have primary : (rulesWithin (m + 1) .primary).Reads ts p rest := c.primary h
  c.expression_of_primary primary

end Operand

end TaskCatalog.Code
