import TaskCatalog.Code.StatementRule
import TaskCatalog.Proofs.OperandReadings

/-!
Statements that are read at every depth from some on, whatever stands behind them: simple ones from the
expressions in them, compound ones from the statements in their blocks.
-/

namespace TaskCatalog.Code

open Code.Parser

variable {α : Type}

/-! Tokens that are given by their lexemes. -/

/-- Tokens with the lexemes, which are otherwise like given ones. -/
def placed : List Lexeme → (Nat → Token) → List Token
  | [], _ => []
  | l :: ls, f => { f 0 with lexeme := l } :: placed ls fun n => f (n + 1)

theorem exists_placed {ts : List Token} {ls : List Lexeme} (h : ts.map (·.lexeme) = ls) : ∃ f, ts = placed ls f := by
  subst h
  induction ts with
  | nil => exact ⟨fun _ => ⟨.newline, 0, 0, 0⟩, rfl⟩
  | cons t ts ih =>
    obtain ⟨f, hf⟩ := ih
    exact ⟨Nat.rec (motive := fun _ => Token) t fun n _ => f n, congrArg (t :: ·) hf⟩

/-! Readings at every depth. -/

/-- At any depth from `n` on, the rule reads the lexemes where a token with the lexeme `next` is behind them. -/
def Fits (rule : Rules → Parser α) (n : Nat) (ls : List Lexeme) (next : Lexeme) : Prop :=
  ∀ m (ts : List Token) t rest, ts.map (·.lexeme) = ls → t.lexeme = next →
    ∃ a, (rule (rulesWithin (m + n))).Reads (ts ++ t :: rest) a (t :: rest)

theorem Fits.of_placed {rule : Rules → Parser α} {n : Nat} {ls : List Lexeme} {next : Lexeme}
    (h : ∀ m f (t : Token) rest, ∃ a, (rule (rulesWithin (m + n))).Reads
      (placed ls f ++ { t with lexeme := next } :: rest) a ({ t with lexeme := next } :: rest)) :
    Fits rule n ls next := by
  rintro m ts t rest lexemes rfl
  obtain ⟨f, rfl⟩ := exists_placed lexemes
  exact h m f t rest

theorem Fits.deeper {rule : Rules → Parser α} {n n' : Nat} {ls : List Lexeme} {next : Lexeme}
    (h : Fits rule n ls next) (deeper : n ≤ n') : Fits rule n' ls next := by
  obtain ⟨k, rfl⟩ := Nat.exists_eq_add_of_le' deeper
  intro m ts t rest lexemes lexeme
  rw [← Nat.add_assoc]
  exact h (m + k) ts t rest lexemes lexeme

/-- At any depth from `n` on, the rule does not fit the lexemes where a token with the lexeme `next` is behind
them. -/
def Misfits (rule : Rules → Parser α) (n : Nat) (ls : List Lexeme) (next : Lexeme) : Prop :=
  ∀ m (ts : List Token) t rest, ts.map (·.lexeme) = ls → t.lexeme = next →
    (rule (rulesWithin (m + n))).Declines (ts ++ t :: rest)

theorem Misfits.of_placed {rule : Rules → Parser α} {n : Nat} {ls : List Lexeme} {next : Lexeme}
    (h : ∀ m f (t : Token) rest, (rule (rulesWithin (m + n))).Declines (placed ls f ++ { t with lexeme := next } :: rest)) :
    Misfits rule n ls next := by
  rintro m ts t rest lexemes rfl
  obtain ⟨f, rfl⟩ := exists_placed lexemes
  exact h m f t rest

namespace Lexeme

/-- Words that begin something else than a statement of one line. -/
def blockWords : List String := [
  "async", "class", "def", "elif", "else", "for", "if", "match", "try", "while", "with"]

/-- Whether a statement that begins so is one of one line. -/
def startsSimple : Lexeme → Bool
  | .string _ => true
  | .name w => !blockWords.contains w
  | _ => false

/-- Whether a line that begins so can begin with an expression only. -/
def startsExpression : Lexeme → Bool
  | .string _ => true
  | .name w => !keywords.contains w && w != "match"
  | _ => false

/-- Whether what begins so cannot belong to the statement before it. -/
def isApart : Lexeme → Bool
  | .name w => w != "elif" && w != "else"
  | .fault _ => false
  | _ => true

/-- Whether it is what can be behind the targets of an assignment or of a loop. -/
def endsTarget : Lexeme → Bool
  | .mark m => m == "="
  | .name w => w == "in"
  | _ => false

variable {l : Lexeme}

theorem startsSimple_of_expression (h : l.startsExpression = true) : l.startsSimple = true := by
  cases l with
  | string _ => rfl
  | name w =>
    have known : ∀ w ∈ blockWords, w = "match" ∨ keywords.contains w = true := by decide
    simp only [startsExpression, Bool.and_eq_true, Bool.not_eq_true', bne_iff_ne] at h
    simp only [startsSimple, Bool.not_eq_true', List.contains_eq_mem, decide_eq_false_iff_not]
    intro mem
    rcases known w mem with same | keyword
    · exact h.2 same
    · rw [keyword] at h
      cases h.1
  | _ => cases h

theorem isApart_of_simple (h : l.startsSimple = true) : l.isApart = true := by
  cases l with
  | name w =>
    simp only [isApart, Bool.and_eq_true, bne_iff_ne]
    refine ⟨?_, ?_⟩ <;>
    · rintro rfl
      cases h
  | fault _ => cases h
  | _ => rfl

theorem sound_of_apart (h : l.isApart = true) : l.isFault = false := by
  cases l <;> first | rfl | cases h

end Lexeme

/-! Expressions at the end of a line. -/

section Lines

variable {go : Rules} {ts rest : List Token} {t : Token} {e : Placed}

theorem reads_tupled {p : Parser Placed} (line : ∃ n, line.Reads ts n ts) (reads : p.Reads ts e rest)
    (alone : comma.Declines rest) : (Rule.tupled p).Reads ts e rest := by
  obtain ⟨n, line⟩ := line
  have list : (commaList p).Reads ts ([e], false) rest := reads.commaList alone.bind.repeats alone.accept
  exact line.bind (list.bind (reads_pure _ rest))

theorem Operand.starExpressions (c : Operand ts rest) (alone : comma.Declines rest)
    (h : (go .expression).Reads ts e rest) : (Rule.starExpressions go).Reads ts e rest := by
  obtain ⟨n, line⟩ := c.reads_line
  exact reads_tupled c.reads_line (Declines.orElse (line.bind_declines (c.no_mark (by decide)).bind) h) alone

theorem Operand.yieldOrStar (c : Operand ts rest) (alone : comma.Declines rest)
    (h : (go .expression).Reads ts e rest) : (Rule.yieldOrStar go).Reads ts e rest := by
  obtain ⟨n, line⟩ := c.reads_line
  exact Declines.orElse (line.bind_declines (c.no_word (by decide)).bind) (c.starExpressions alone h)

/-- What ends its line is no target. -/
theorem Operand.no_target (c : Operand ts (t :: rest)) (ending : t.lexeme = .newline)
    (h : (go .primary).Reads ts e (t :: rest)) : (Rule.targetBefore go).Declines ts := by
  obtain ⟨n, line⟩ := c.reads_line
  have starless : (accept (mark "*")).Reads ts false ts := Declines.accept (c.no_mark (by decide))
  cases isTarget : e.isTarget .assign with
  | false =>
    have refused : (Rule.target go).Declines ts := by
      refine line.bind_declines (starless.bind_declines (h.bind_declines ?_))
      rw [isTarget]
      exact (declines_stuck _).bind
    exact Declines.bind (line.bind_declines refused.commaList.bind)
  | true =>
    have taken : (Rule.target go).Reads ts e (t :: rest) := by
      refine line.bind (starless.bind (h.bind ?_))
      rw [isTarget]
      exact reads_pure _ _
    exact (reads_tupled c.reads_line taken (declines_mark_of_newline ending _ rest)).bind_declines
      (declines_mark_of_newline ending _ rest).bind

/-! Names as targets. -/

theorem declines_mark_of_target {k : String} (ends : t.lexeme.endsTarget = true)
    (other : (Lexeme.mark k).endsTarget = false) (ts : List Token) : (mark k).Declines (t :: ts) := by
  have sound : t.lexeme.isFault = false := by
    cases h : t.lexeme <;> first | rfl | (rw [h] at ends; cases ends)
  refine declines_mark_of_ne sound ?_ ts
  intro same
  rw [same, other] at ends
  cases ends

/-- The name of a word that is no keyword. -/
def identifier (w : String) : Expression := .name (Text.ofChars (Text.compatibilityForm w.toList))

theorem reads_name {w : String} (lexeme : t.lexeme = .name w) (free : keywords.contains w = false) (rest : List Token) :
    name.Reads (t :: rest) (Text.ofChars (Text.compatibilityForm w.toList)) rest := by
  refine (reads_take (by rw [lexeme]; rfl) ?_ rest).bind (reads_pure _ rest)
  rw [lexeme]
  exact if_neg (by rw [free]; exact Bool.false_ne_true)

theorem atom_of_name {w : String} (lexeme : t.lexeme = .name w) (free : keywords.contains w = false) (rest : List Token) :
    (Rule.atom go).Reads (t :: rest) (.place t.line (identifier w)) rest := by
  have sound : t.lexeme.isFault = false := by rw [lexeme]; rfl
  refine (reads_line sound rest).bind ((reads_peek sound rest).bind ?_)
  rw [lexeme]
  split
  any_goals contradiction
  iterate 3
    next same =>
      cases same
      cases free
  · exact (reads_name lexeme free rest).bind (reads_pure _ rest)
  · next other _ _ _ _ => exact (other w rfl).elim

variable {m : Nat} {w : String} {x s : Token}

theorem primary_of_name (lexeme : x.lexeme = .name w) (free : keywords.contains w = false)
    (ends : s.lexeme.endsTarget = true) (ts : List Token) :
    (rulesWithin (m + 1) .primary).Reads (x :: s :: ts) (.place x.line (identifier w)) (s :: ts) := by
  have untrailed : (Rule.trailer (rulesWithin m)).Declines (s :: ts) := by
    refine (declines_mark_of_target ends rfl ts).bind.orElse_declines ?_
    refine Declines.orElse_declines (Declines.bind (declines_mark_of_target ends rfl ts).bind) ?_
    exact Declines.bind (declines_mark_of_target ends rfl ts).bind
  refine (reads_line (by rw [lexeme]; rfl) _).bind ((atom_of_name lexeme free _).bind ?_)
  exact untrailed.repeats.many.bind (reads_pure _ _)

theorem targets_of_name (lexeme : x.lexeme = .name w) (free : keywords.contains w = false)
    (ends : s.lexeme.endsTarget = true) (ts : List Token) :
    (Rule.targets (rulesWithin (m + 1))).Reads (x :: s :: ts) (.place x.line (identifier w)) (s :: ts) := by
  have sound : x.lexeme.isFault = false := by rw [lexeme]; rfl
  have starless : (accept (mark "*")).Reads (x :: s :: ts) false (x :: s :: ts) :=
    Declines.accept (declines_take sound (by rw [lexeme]; rfl) _)
  have target : (Rule.target (rulesWithin (m + 1))).Reads (x :: s :: ts) (.place x.line (identifier w)) (s :: ts) := by
    refine (reads_line sound _).bind (starless.bind ((primary_of_name lexeme free ends ts).bind ?_))
    exact reads_pure _ _
  exact reads_tupled ⟨_, reads_line sound _⟩ target (declines_mark_of_target ends rfl ts)

theorem targetBefore_of_name (lexeme : x.lexeme = .name w) (free : keywords.contains w = false)
    (equals : s.lexeme = .mark "=") (ts : List Token) :
    (Rule.targetBefore (rulesWithin (m + 1))).Reads (x :: s :: ts) (identifier w) ts :=
  (targets_of_name lexeme free (by rw [equals]; rfl) ts).bind ((reads_mark equals ts).bind (reads_pure _ ts))

theorem loopTargets_of_name (lexeme : x.lexeme = .name w) (free : keywords.contains w = false)
    (within : s.lexeme = .name "in") (ts : List Token) :
    (Rule.loopTargets (rulesWithin (m + 1))).Reads (x :: s :: ts) (identifier w) ts := by
  have found : Parser.Reads (do let t ← Rule.targets (rulesWithin (m + 1)); word "in"; return t) (x :: s :: ts)
      (.place x.line (identifier w)) ts :=
    (targets_of_name lexeme free (by rw [within]; rfl) ts).bind ((reads_word within ts).bind (reads_pure _ ts))
  exact found.optional.bind (reads_pure _ ts)

/-- A name gets a value. -/
theorem reads_assignment (lexeme : x.lexeme = .name w) (free : keywords.contains w = false) (equals : s.lexeme = .mark "=")
    (value : (Rule.yieldOrStar (rulesWithin (m + 1))).Reads ts e (t :: rest))
    (noTarget : (Rule.targetBefore (rulesWithin (m + 1))).Declines ts) (ending : t.lexeme = .newline) :
    (Rule.assignment (rulesWithin (m + 1))).Reads (x :: s :: ts) (.assignment x.line [identifier w]) (t :: rest) := by
  have line : line.Reads (x :: s :: ts) x.line (x :: s :: ts) := reads_line (by rw [lexeme]; rfl) _
  have place : (Rule.place (rulesWithin (m + 1))).Reads (x :: s :: ts) (.place x.line (identifier w)) (s :: ts) :=
    (primary_of_name lexeme free (by rw [equals]; rfl) ts).bind (reads_pure _ _)
  have plain : (Rule.annotation (rulesWithin (m + 1))).Declines (x :: s :: ts) :=
    line.bind_declines (place.bind_declines (declines_mark equals (by decide) ts).bind)
  have targets : (some1 (Rule.targetBefore (rulesWithin (m + 1)))).Reads (x :: s :: ts) [identifier w] ts :=
    (targetBefore_of_name lexeme free equals ts).some1 noTarget.repeats
  refine plain.orElse (Reads.orElse (line.bind (targets.bind (value.bind ?_))))
  exact (declines_mark_of_newline ending _ rest).without.bind (reads_pure _ _)

/-- An expression by itself. -/
theorem Operand.assignment {p : Placed} (c : Operand ts (t :: rest)) (ending : t.lexeme = .newline)
    (primary : (go .primary).Reads ts p (t :: rest)) (value : (Rule.yieldOrStar go).Reads ts e (t :: rest)) :
    (Rule.assignment go).Reads ts (.expression e.expression) (t :: rest) := by
  obtain ⟨n, line⟩ := c.reads_line
  have changed {β : Type} {f : Placed → Parser β} (h : (f p).Declines (t :: rest)) : (Rule.place go >>= f).Declines ts := by
    cases isPlace : p.isPlace with
    | false =>
      refine Declines.bind (primary.bind_declines ?_)
      rw [isPlace]
      exact declines_stuck _
    | true =>
      refine Reads.bind_declines (primary.bind ?_) h
      rw [isPlace]
      exact reads_pure _ _
  have unannotated : (Rule.annotation go).Declines ts :=
    line.bind_declines (changed (declines_mark_of_newline ending _ rest).bind)
  have unassigned : (Rule.plainAssignment go).Declines ts :=
    line.bind_declines (c.no_target ending primary).some1.bind
  have unchanged : (Rule.augmentedAssignment go).Declines ts :=
    changed (declines_take (by rw [ending]; rfl) (by rw [ending]) rest).bind
  have correct : (Rule.assignmentMistakes go).Reads ts () ts := by
    refine (reads_mistake _ ts).bind (Reads.bind (reads_mistake _ ts) (Reads.bind (reads_mistake _ ts) ?_))
    exact (reads_mistake _ ts).bind (Reads.bind (reads_mistake _ ts) (reads_mistake _ ts))
  exact unannotated.orElse (unassigned.orElse (unchanged.orElse (correct.bind (value.bind (reads_pure _ _)))))

/-! Statements of one line. -/

theorem plainStatement_free (free : keywords.contains w = false) : Rule.plainStatement go w = none := by
  unfold Rule.plainStatement
  split <;> first | rfl | cases free

theorem simpleStatement_of_assignment {o : Statement} (starts : t.lexeme.startsExpression = true)
    (h : (Rule.assignment go).Reads (t :: ts) o rest) : (Rule.simpleStatement go).Reads (t :: ts) o rest := by
  cases lexeme : t.lexeme with
  | string _ =>
    refine (reads_peek (by rw [lexeme]; rfl) ts).bind ?_
    rw [lexeme]
    exact h
  | name w =>
    refine (reads_peek (by rw [lexeme]; rfl) ts).bind ?_
    rw [lexeme] at starts ⊢
    simp only [Lexeme.startsExpression, Bool.and_eq_true, Bool.not_eq_true'] at starts
    dsimp only
    rw [plainStatement_free starts.1]
    exact h
  | _ =>
    rw [lexeme] at starts
    cases starts

theorem simpleStatement_of_word {p : Parser Unit} (lexeme : t.lexeme = .name w) (plain : Rule.plainStatement go w = some p)
    (h : p.Reads ts () rest) : (Rule.simpleStatement go).Reads (t :: ts) (.compound []) rest := by
  refine (reads_peek (by rw [lexeme]; rfl) ts).bind ?_
  rw [lexeme]
  dsimp only
  rw [plain]
  exact (reads_word lexeme ts).bind (h.bind (reads_pure _ rest))

/-- One statement by itself on its line. -/
theorem reads_simpleStatements {o : Statement} (h : (Rule.simpleStatement go).Reads ts o (t :: rest))
    (ending : t.lexeme = .newline) : (Rule.simpleStatements go).Reads ts [o] rest := by
  have noMore : (mark ";").Declines (t :: rest) := declines_mark_of_newline ending _ rest
  refine (h.separated noMore.bind.repeats).bind (noMore.accept.bind ?_)
  exact (reads_take (by rw [ending]; rfl) (if_pos ending) rest).bind (reads_pure _ rest)

theorem compoundRest_simple (simple : (Lexeme.name w).startsSimple = true) : Rule.compoundRest go w = none := by
  unfold Rule.compoundRest
  split <;> first | rfl | cases simple

theorem statement_of_simple {os : List Statement} (simple : t.lexeme.startsSimple = true)
    (h : (Rule.simpleStatements go).Reads (t :: ts) os rest) : (Rule.statement go).Reads (t :: ts) os rest := by
  cases lexeme : t.lexeme with
  | string _ =>
    refine (reads_peek (by rw [lexeme]; rfl) ts).bind ?_
    rw [lexeme]
    exact h
  | name w =>
    refine (reads_peek (by rw [lexeme]; rfl) ts).bind ?_
    rw [lexeme] at simple ⊢
    split
    any_goals contradiction
    iterate 4
      next same =>
        cases same
        cases simple
    · next same =>
      cases same
      rw [compoundRest_simple simple]
      exact h
    · exact h
  | _ =>
    rw [lexeme] at simple
    cases simple

end Lines

/-! Statements at every depth. -/

/-- Lexemes of an operand that is read where a token with the lexeme `next` is behind it. -/
structure IsPrimary (n : Nat) (ls : List Lexeme) (next : Lexeme) : Prop where
  opens : ∃ l more, ls = l :: more ∧ l.opensOperand = true
  reads : Fits (fun go => go .primary) n ls next

/-- Lexemes of an expression that is read at the end of a line and that is no target. -/
structure IsValue (n : Nat) (ls : List Lexeme) : Prop where
  reads : Fits Rule.yieldOrStar n ls .newline
  no_target : Misfits Rule.targetBefore n ls .newline

/-- Lexemes of a statement of one line, without the line's end. -/
structure IsSimple (n : Nat) (ls : List Lexeme) : Prop where
  starts : ∃ l more, ls = l :: more ∧ l.startsSimple = true
  reads : Fits Rule.simpleStatement n ls .newline

/-- Lexemes of a statement, with what ends it, that is read where another one or nothing more can be behind it. -/
structure IsStatement (n : Nat) (ls : List Lexeme) : Prop where
  apart : ∃ l more, ls = l :: more ∧ l.isApart = true
  reads : ∀ m (ts : List Token) t rest, ts.map (·.lexeme) = ls → t.lexeme.isApart = true →
    ∃ os, (Rule.statement (rulesWithin (m + n))).Reads (ts ++ t :: rest) os (t :: rest)

variable {n : Nat} {ls : List Lexeme} {next : Lexeme} {w : String}

namespace IsPrimary

variable {ts rest : List Token} {t : Token}

theorem operand (h : IsPrimary n ls next) (ending : next.endsOperand = true) (lexemes : ts.map (·.lexeme) = ls)
    (lexeme : t.lexeme = next) : Operand (ts ++ t :: rest) (t :: rest) := by
  obtain ⟨l, more, rfl, opens⟩ := h.opens
  obtain ⟨o, ts, rfl, rfl, -⟩ := List.map_eq_cons_iff.1 lexemes
  exact ⟨⟨o, _, rfl, opens⟩, t, rest, rfl, lexeme ▸ ending⟩

theorem expression (h : IsPrimary n ls next) (ending : next.endsOperand = true) :
    Fits (fun go => go .expression) (n + 3) ls next := by
  intro m ts t rest lexemes lexeme
  obtain ⟨e, primary⟩ := h.reads m ts t rest lexemes lexeme
  exact ⟨e, (h.operand ending lexemes lexeme).expression_of_primary primary⟩

theorem starExpressions (h : IsPrimary n ls next) (ending : next.endsOperand = true) (alone : next ≠ .mark ",") :
    Fits Rule.starExpressions (n + 3) ls next := by
  intro m ts t rest lexemes lexeme
  obtain ⟨e, reads⟩ := h.expression ending m ts t rest lexemes lexeme
  have sound : t.lexeme.isFault = false := lexeme ▸ Lexeme.sound_of_endsOperand ending
  have noComma : comma.Declines (t :: rest) := declines_mark_of_ne sound (lexeme ▸ alone) rest
  exact ⟨e, (h.operand ending lexemes lexeme).starExpressions noComma reads⟩

theorem value (h : IsPrimary n ls .newline) : IsValue (n + 3) ls where
  reads m ts t rest lexemes ending := by
    obtain ⟨e, reads⟩ := h.expression rfl m ts t rest lexemes ending
    exact ⟨e, (h.operand rfl lexemes ending).yieldOrStar (declines_mark_of_newline ending _ rest) reads⟩
  no_target m ts t rest lexemes ending := by
    obtain ⟨e, reads⟩ := h.reads (m + 3) ts t rest lexemes ending
    rw [Nat.add_right_comm] at reads
    exact (h.operand rfl lexemes ending).no_target ending reads

theorem simple (h : IsPrimary n ls .newline) (starts : ∃ l more, ls = l :: more ∧ l.startsExpression = true) :
    IsSimple (n + 3) ls where
  starts := by
    obtain ⟨l, more, rfl, starts⟩ := starts
    exact ⟨l, more, rfl, Lexeme.startsSimple_of_expression starts⟩
  reads m ts t rest lexemes ending := by
    have c : Operand (ts ++ t :: rest) (t :: rest) := h.operand rfl lexemes ending
    obtain ⟨p, primary⟩ := h.reads (m + 3) ts t rest lexemes ending
    rw [Nat.add_right_comm] at primary
    obtain ⟨e, value⟩ := h.value.reads m ts t rest lexemes ending
    obtain ⟨l, more, rfl, starts⟩ := starts
    obtain ⟨o, ts, rfl, rfl, -⟩ := List.map_eq_cons_iff.1 lexemes
    exact ⟨_, simpleStatement_of_assignment starts (c.assignment ending primary value)⟩

end IsPrimary

namespace IsSimple

theorem assigned (free : (Lexeme.name w).startsExpression = true) (value : IsValue n ls) :
    IsSimple (n + 1) (.name w :: .mark "=" :: ls) where
  starts := ⟨_, _, rfl, Lexeme.startsSimple_of_expression free⟩
  reads m ts t rest lexemes ending := by
    obtain ⟨x, ts, rfl, name, lexemes⟩ := List.map_eq_cons_iff.1 lexemes
    obtain ⟨s, ts, rfl, equals, lexemes⟩ := List.map_eq_cons_iff.1 lexemes
    obtain ⟨e, reads⟩ := value.reads (m + 1) ts t rest lexemes ending
    have noTarget := value.no_target (m + 1) ts t rest lexemes ending
    rw [Nat.add_right_comm] at reads noTarget
    have keyless : keywords.contains w = false := by
      simp only [Lexeme.startsExpression, Bool.and_eq_true, Bool.not_eq_true'] at free
      exact free.1
    exact ⟨_, simpleStatement_of_assignment (name ▸ free) (reads_assignment name keyless equals reads noTarget ending)⟩

/-- A statement of a word with what the word asks for behind it. -/
theorem of_word {rule : Rules → Parser Unit} (simple : (Lexeme.name w).startsSimple = true)
    (plain : ∀ go, Rule.plainStatement go w = some (rule go)) (fits : Fits rule n ls .newline) :
    IsSimple n (.name w :: ls) where
  starts := ⟨_, _, rfl, simple⟩
  reads m ts t rest lexemes ending := by
    obtain ⟨x, ts, rfl, word, lexemes⟩ := List.map_eq_cons_iff.1 lexemes
    obtain ⟨_, reads⟩ := fits m ts t rest lexemes ending
    exact ⟨_, simpleStatement_of_word word (plain _) reads⟩

theorem returned (h : IsPrimary n ls .newline) : IsSimple (n + 3) (.name "return" :: ls) := by
  refine of_word rfl (fun _ => rfl) fun m ts t rest lexemes ending => ?_
  obtain ⟨e, reads⟩ := h.starExpressions rfl (by decide) m ts t rest lexemes ending
  exact ⟨(), reads.optional.bind (reads_pure _ _)⟩

theorem raised (h : IsPrimary n ls .newline) : IsSimple (n + 3) (.name "raise" :: ls) := by
  refine of_word rfl (fun _ => rfl) fun m ts t rest lexemes ending => ?_
  obtain ⟨e, reads⟩ := h.expression rfl m ts t rest lexemes ending
  have noCause : (word "from").Declines (t :: rest) :=
    declines_take (by rw [ending]; rfl) (if_neg (by rw [ending]; exact Lexeme.noConfusion)) rest
  exact ⟨(), reads.optional.bind (noCause.bind.optional.bind (reads_pure _ _))⟩

theorem statement (h : IsSimple n ls) : IsStatement n (ls ++ [.newline]) where
  apart := by
    obtain ⟨l, more, rfl, starts⟩ := h.starts
    exact ⟨l, _, rfl, Lexeme.isApart_of_simple starts⟩
  reads m ts t rest lexemes _ := by
    obtain ⟨line, last, rfl, spelled, ended⟩ := List.map_eq_append_iff.1 lexemes
    obtain ⟨e, rfl, ending⟩ := List.map_eq_singleton_iff.1 ended
    obtain ⟨o, reads⟩ := h.reads m line e (t :: rest) spelled ending
    obtain ⟨l, more, rfl, starts⟩ := h.starts
    obtain ⟨first, line, rfl, rfl, -⟩ := List.map_eq_cons_iff.1 spelled
    rw [List.append_assoc]
    exact ⟨[o], statement_of_simple starts (reads_simpleStatements reads ending)⟩

end IsSimple

theorem IsStatement.deeper {n' : Nat} (h : IsStatement n ls) (deeper : n ≤ n') : IsStatement n' ls where
  apart := h.apart
  reads m ts t rest lexemes apart := by
    obtain ⟨k, rfl⟩ := Nat.exists_eq_add_of_le' deeper
    rw [← Nat.add_assoc]
    exact h.reads (m + k) ts t rest lexemes apart

/-! Blocks. -/

/-- What ends the statements of a block or of a file. -/
def endsStatements : List Lexeme := [.dedent, .endOfFile]

theorem declines_statement {m : Nat} {t : Token} (ending : t.lexeme ∈ endsStatements) (rest : List Token) :
    (Rule.statement (rulesWithin (m + 5))).Declines (t :: rest) := by
  obtain ⟨l, line, depth, index⟩ := t
  simp only [endsStatements, List.mem_cons, List.not_mem_nil, or_false] at ending
  obtain rfl | rfl := ending <;> exact fun _ => ⟨_, rfl⟩

theorem apart_of_ends {l : Lexeme} (h : l ∈ endsStatements) : l.isApart = true := by
  simp only [endsStatements, List.mem_cons, List.not_mem_nil, or_false] at h
  obtain rfl | rfl := h <;> rfl

section Blocks

variable {lss : List (List Lexeme)} {m : Nat} {ts rest : List Token} {t : Token}

/-- What is behind a statement is the next one or the end of the statements. -/
theorem apart_behind (each : ∀ ls ∈ lss, IsStatement n ls) (lexemes : ts.map (·.lexeme) = lss.flatten)
    (ending : t.lexeme ∈ endsStatements) (rest : List Token) :
    ∃ next behind, ts ++ t :: rest = next :: behind ∧ next.lexeme.isApart = true := by
  cases lss with
  | nil =>
    obtain rfl := List.map_eq_nil_iff.1 lexemes
    exact ⟨t, rest, rfl, apart_of_ends ending⟩
  | cons ls lss =>
    obtain ⟨l, _, rfl, apart⟩ := (each ls List.mem_cons_self).apart
    obtain ⟨o, ts, rfl, rfl, -⟩ := List.map_eq_cons_iff.1 lexemes
    exact ⟨o, _, rfl, apart⟩

/-- The first of some statements is read, which leaves the others. -/
theorem reads_first (each : ∀ ls' ∈ ls :: lss, IsStatement n ls') (lexemes : ts.map (·.lexeme) = (ls :: lss).flatten)
    (ending : t.lexeme ∈ endsStatements) (rest : List Token) :
    ∃ os others, (Rule.statement (rulesWithin (m + n))).Reads (ts ++ t :: rest) os (others ++ t :: rest) ∧
      others.map (·.lexeme) = lss.flatten ∧ others.length < ts.length := by
  obtain ⟨first, others, rfl, spelled, lexemes⟩ := List.map_eq_append_iff.1 lexemes
  obtain ⟨isFirst, more⟩ := List.forall_mem_cons.1 each
  obtain ⟨next, behind, same, apart⟩ := apart_behind more lexemes ending rest
  obtain ⟨os, reads⟩ := isFirst.reads m first next behind spelled apart
  rw [← same, ← List.append_assoc] at reads
  refine ⟨os, others, reads, lexemes, ?_⟩
  obtain ⟨l, _, rfl, -⟩ := isFirst.apart
  obtain ⟨o, first, rfl, -⟩ := List.map_eq_cons_iff.1 spelled
  simp only [List.cons_append, List.length_cons, List.length_append]
  omega

/-- Statements one after another, up to the end of their block. -/
theorem repeats_statements (each : ∀ ls ∈ lss, IsStatement (n + 5) ls) (lexemes : ts.map (·.lexeme) = lss.flatten)
    (ending : t.lexeme ∈ endsStatements) (rest : List Token) :
    ∃ oss, Parser.Repeats (Rule.statement (rulesWithin (m + (n + 5)))) (ts ++ t :: rest) oss (t :: rest) := by
  induction lss generalizing ts with
  | nil =>
    obtain rfl := List.map_eq_nil_iff.1 lexemes
    exact ⟨[], (declines_statement ending rest).repeats⟩
  | cons ls lss ih =>
    obtain ⟨os, others, reads, lexemes, shorter⟩ := reads_first (m := m) each lexemes ending rest
    obtain ⟨oss, repeats⟩ := ih (fun ls mem => each ls (List.mem_cons_of_mem _ mem)) lexemes
    exact ⟨os :: oss, reads.repeats (by simpa using shorter) repeats⟩

theorem reads_statements (each : ∀ ls ∈ lss, IsStatement (n + 5) ls) (filled : lss ≠ [])
    (lexemes : ts.map (·.lexeme) = lss.flatten) (ending : t.lexeme ∈ endsStatements) (rest : List Token) :
    ∃ os, (Rule.statements (rulesWithin (m + (n + 5)))).Reads (ts ++ t :: rest) os (t :: rest) := by
  obtain ⟨ls, lss, rfl⟩ := List.exists_cons_of_ne_nil filled
  obtain ⟨os, others, reads, lexemes, -⟩ := reads_first (m := m) each lexemes ending rest
  obtain ⟨oss, repeats⟩ := repeats_statements (m := m) (List.forall_mem_cons.1 each).2 lexemes ending rest
  exact ⟨_, (reads.some1 repeats).bind (reads_pure _ _)⟩

/-- The lexemes of a block of statements, from the colon before it to its end. -/
def blockOf (lss : List (List Lexeme)) : List Lexeme :=
  .mark ":" :: .newline :: .indent :: (lss.flatten ++ [.dedent])

/-- Lexemes of a block, whatever is behind it. -/
def IsBlock (n : Nat) (ls : List Lexeme) : Prop :=
  ∃ more, ls = .mark ":" :: more ∧ ∀ m (ts rest : List Token), ts.map (·.lexeme) = more →
    ∃ os, (Rule.suite (rulesWithin (m + n))).Reads (ts ++ rest) os rest

theorem isBlock (each : ∀ ls ∈ lss, IsStatement (n + 5) ls) (filled : lss ≠ []) : IsBlock (n + 6) (blockOf lss) := by
  refine ⟨_, rfl, fun m ts rest lexemes => ?_⟩
  obtain ⟨lineEnd, ts, rfl, isEnd, lexemes⟩ := List.map_eq_cons_iff.1 lexemes
  obtain ⟨margin, ts, rfl, isMargin, lexemes⟩ := List.map_eq_cons_iff.1 lexemes
  obtain ⟨body, ts, rfl, spelled, lexemes⟩ := List.map_eq_append_iff.1 lexemes
  obtain ⟨last, rfl, isLast⟩ := List.map_eq_singleton_iff.1 lexemes
  obtain ⟨os, reads⟩ := reads_statements (m := m) each filled spelled (t := last) (by rw [isLast]; decide) rest
  have inside : (rulesWithin (m + (n + 6)) .statements).Reads (body ++ last :: rest) os (last :: rest) := reads
  have atEnd : newline.Reads (lineEnd :: margin :: (body ++ last :: rest)) () (margin :: (body ++ last :: rest)) :=
    reads_take (by rw [isEnd]; rfl) (if_pos isEnd) _
  have atMargin : indent.Reads (margin :: (body ++ last :: rest)) () (body ++ last :: rest) :=
    reads_take (by rw [isMargin]; rfl) (if_pos isMargin) _
  have atLast : dedent.Reads (last :: rest) () rest := reads_take (by rw [isLast]; rfl) (if_pos isLast) _
  refine ⟨os, ?_⟩
  simp only [List.cons_append, List.append_assoc, List.nil_append]
  refine Reads.orElse (atEnd.bind ((reads_strictly _ _).bind (atMargin.bind ?_)))
  exact inside.bind (atLast.bind (reads_pure os rest))

namespace IsBlock

theorem block (h : IsBlock n ls) (lexemes : ts.map (·.lexeme) = ls) (rest : List Token) :
    ∃ os, (Rule.block (rulesWithin (m + n))).Reads (ts ++ rest) os rest := by
  obtain ⟨more, rfl, suite⟩ := h
  obtain ⟨colon, ts, rfl, isColon, lexemes⟩ := List.map_eq_cons_iff.1 lexemes
  obtain ⟨os, reads⟩ := suite m ts rest lexemes
  exact ⟨os, (reads_mark isColon _).bind reads⟩

theorem expectedBlock (h : IsBlock n ls) (lexemes : ts.map (·.lexeme) = ls) (rest : List Token) :
    ∃ os, (Rule.expectedBlock (rulesWithin (m + n))).Reads (ts ++ rest) os rest := by
  obtain ⟨more, rfl, suite⟩ := h
  obtain ⟨colon, ts, rfl, isColon, lexemes⟩ := List.map_eq_cons_iff.1 lexemes
  obtain ⟨os, reads⟩ := suite m ts rest lexemes
  exact ⟨os, Reads.bind (reads_mark isColon _).orElse reads⟩

/-- What is read where the lexeme before a block is behind it is read before the block. -/
theorem reads_before {rule : Rules → Parser α} {c b : List Lexeme} (h : IsBlock n b) (fits : Fits rule n c (.mark ":"))
    (lexemes : ts.map (·.lexeme) = c ++ b) (rest : List Token) :
    ∃ a ts', (rule (rulesWithin (m + n))).Reads (ts ++ rest) a (ts' ++ rest) ∧ ts'.map (·.lexeme) = b := by
  obtain ⟨more, rfl, -⟩ := h
  obtain ⟨head, ts, rfl, spelled, lexemes⟩ := List.map_eq_append_iff.1 lexemes
  obtain ⟨colon, ts, rfl, isColon, -⟩ := List.map_eq_cons_iff.1 lexemes
  obtain ⟨a, reads⟩ := fits m head colon (ts ++ rest) spelled isColon
  rw [List.append_assoc]
  exact ⟨a, colon :: ts, reads, lexemes⟩

end IsBlock

/-! Statements of several lines. -/

theorem declines_word_of_apart {w : String} (apart : t.lexeme.isApart = true) (belongs : (Lexeme.name w).isApart = false)
    (rest : List Token) : (word w).Declines (t :: rest) := by
  refine declines_take (Lexeme.sound_of_apart apart) (if_neg ?_) rest
  intro same
  rw [same, belongs] at apart
  cases apart

theorem no_orElse (apart : t.lexeme.isApart = true) (go : Rules) (rest : List Token) :
    (Rule.orElse go).Reads (t :: rest) [] (t :: rest) :=
  (declines_word_of_apart apart rfl rest).bind.optional.bind (reads_pure _ _)

/-- What can be done otherwise behind a condition with its block. -/
def otherwise (go : Rules) (fuel : List Token) : Parser (List Statement) :=
  (do
    word "elif"
    return [Statement.compound (← Rule.branches go fuel)])
  <|> Rule.orElse go

theorem reads_branches {c b : List Lexeme} {x : Token} {fuel mid : List Token} {os : List Statement}
    (condition : Fits (fun go => go .named) n c (.mark ":")) (block : IsBlock n b) (lexemes : ts.map (·.lexeme) = c ++ b)
    (other : (otherwise (rulesWithin (m + n)) fuel).Reads mid os rest) :
    ∃ os, (Rule.branches (rulesWithin (m + n)) (x :: fuel)).Reads (ts ++ mid) os rest := by
  obtain ⟨e, ts', before, spelled⟩ := block.reads_before (m := m) condition lexemes mid
  obtain ⟨body, inside⟩ := block.block (m := m) spelled mid
  exact ⟨body ++ os, before.bind (inside.bind (other.bind (reads_pure _ _)))⟩

/-- Lexemes of a condition with its block and of what is done otherwise. -/
def IsBranches (n : Nat) (ls : List Lexeme) : Prop :=
  ∀ m (ts fuel : List Token) t rest, ts.map (·.lexeme) = ls → t.lexeme.isApart = true → ts.length < fuel.length →
    ∃ os, (Rule.branches (rulesWithin (m + n)) fuel).Reads (ts ++ t :: rest) os (t :: rest)

namespace IsBranches

variable {c b : List Lexeme}

theorem one (condition : Fits (fun go => go .named) n c (.mark ":")) (block : IsBlock n b) : IsBranches n (c ++ b) := by
  intro m ts fuel t rest lexemes apart enough
  obtain ⟨x, fuel, rfl⟩ := List.exists_cons_of_length_pos (Nat.lt_of_le_of_lt (Nat.zero_le _) enough)
  have other : (otherwise (rulesWithin (m + n)) fuel).Reads (t :: rest) [] (t :: rest) :=
    (declines_word_of_apart apart rfl rest).bind.orElse (no_orElse apart _ rest)
  exact reads_branches condition block lexemes other

theorem orElse {b' : List Lexeme} (condition : Fits (fun go => go .named) n c (.mark ":")) (block : IsBlock n b)
    (last : IsBlock n b') : IsBranches n (c ++ b ++ .name "else" :: b') := by
  intro m ts fuel t rest lexemes _ enough
  obtain ⟨x, fuel, rfl⟩ := List.exists_cons_of_length_pos (Nat.lt_of_le_of_lt (Nat.zero_le _) enough)
  obtain ⟨front, others, rfl, spelled, lexemes⟩ := List.map_eq_append_iff.1 lexemes
  obtain ⟨word, others, rfl, isElse, lexemes⟩ := List.map_eq_cons_iff.1 lexemes
  obtain ⟨os, inside⟩ := last.expectedBlock (m := m) lexemes (t :: rest)
  have other : (otherwise (rulesWithin (m + n)) fuel).Reads (word :: (others ++ t :: rest)) os (t :: rest) := by
    refine Declines.orElse (Declines.bind (declines_take (by rw [isElse]; rfl) (by rw [isElse]; rfl) _)) ?_
    exact ((reads_word isElse _).bind inside).optional.bind (reads_pure _ _)
  rw [List.append_assoc]
  exact reads_branches condition block spelled other

theorem elseIf {bs : List Lexeme} (condition : Fits (fun go => go .named) n c (.mark ":")) (block : IsBlock n b)
    (more : IsBranches n bs) : IsBranches n (c ++ b ++ .name "elif" :: bs) := by
  intro m ts fuel t rest lexemes apart enough
  obtain ⟨x, fuel, rfl⟩ := List.exists_cons_of_length_pos (Nat.lt_of_le_of_lt (Nat.zero_le _) enough)
  obtain ⟨front, others, rfl, spelled, lexemes⟩ := List.map_eq_append_iff.1 lexemes
  obtain ⟨word, others, rfl, isElif, lexemes⟩ := List.map_eq_cons_iff.1 lexemes
  have enough' : others.length < fuel.length := by
    simp only [List.length_append, List.length_cons] at enough
    omega
  obtain ⟨os, inside⟩ := more m others fuel t rest lexemes apart enough'
  have other : (otherwise (rulesWithin (m + n)) fuel).Reads (word :: (others ++ t :: rest)) [.compound os] (t :: rest) :=
    Reads.orElse ((reads_word isElif _).bind (inside.bind (reads_pure _ _)))
  rw [List.append_assoc]
  exact reads_branches condition block spelled other

end IsBranches

end Blocks

section Definitions

variable {go : Rules} {x y o c : Token} {inside body rest : List Token} {s : Signature} {os : List Statement}

theorem reads_definition (word : x.lexeme = .name "def") (called : y.lexeme = .name w)
    (free : keywords.contains w = false) (opener : o.lexeme = .mark "(") (closer : c.lexeme = .mark ")")
    (parameters : (Rule.signature go true).Reads (inside ++ c :: body) s (c :: body))
    (unhinted : (mark "->").Declines body) (block : (Rule.expectedBlock go).Reads body os rest) :
    (Rule.definition go []).Reads (x :: y :: o :: (inside ++ c :: body))
      (.functionDefinition x.line (Text.ofChars (Text.compatibilityForm w.toList)) [] s os) rest := by
  have sound : x.lexeme.isFault = false := by rw [word]; rfl
  have function : (Rule.functionBlock go x.line []).Reads (y :: o :: (inside ++ c :: body))
      (.functionDefinition x.line (Text.ofChars (Text.compatibilityForm w.toList)) [] s os) rest := by
    refine (reads_name called free _).bind (Reads.bind (reads_mark opener _).orElse (parameters.bind ?_))
    exact (reads_mark closer _).bind (unhinted.bind.optional.bind (block.bind (reads_pure _ _)))
  have noClass : (Parser.word "class").Declines (x :: y :: o :: (inside ++ c :: body)) :=
    declines_take sound (by rw [word]; rfl) _
  have atOnce : (Parser.word "async").Declines (x :: y :: o :: (inside ++ c :: body)) :=
    declines_take sound (by rw [word]; rfl) _
  refine (reads_line sound _).bind (noClass.bind.orElse (atOnce.accept.bind ?_))
  exact (reads_word word _).bind function

theorem statement_of_definition {o : Statement} {ts : List Token} (word : x.lexeme = .name "def")
    (h : (Rule.definition go []).Reads (x :: ts) o rest) : (Rule.statement go).Reads (x :: ts) [o] rest := by
  refine (reads_peek (by rw [word]; rfl) _).bind ?_
  rw [word]
  exact h.bind (reads_pure _ _)

end Definitions

namespace IsStatement

theorem conditional (h : IsBranches n ls) : IsStatement n (.name "if" :: ls) where
  apart := ⟨_, _, rfl, rfl⟩
  reads m ts t rest lexemes apart := by
    obtain ⟨x, ts, rfl, word, lexemes⟩ := List.map_eq_cons_iff.1 lexemes
    obtain ⟨os, reads⟩ := h m ts (ts ++ t :: rest) t rest lexemes apart (by simp)
    have compound : (Rule.compound (rulesWithin (m + n)) "if").Reads (x :: (ts ++ t :: rest)) (.compound os) (t :: rest) :=
      (reads_word word _).bind (Reads.bind ((reads_left _).bind reads) (reads_pure _ _))
    refine ⟨[.compound os], (reads_peek (by rw [word]; rfl) _).bind ?_⟩
    rw [word]
    exact compound.bind (reads_pure _ _)

/-- A loop over the items of what is behind its word. -/
theorem loop {c b : List Lexeme} (free : keywords.contains w = false)
    (source : Fits Rule.starExpressions (n + 1) c (.mark ":")) (block : IsBlock (n + 1) b) :
    IsStatement (n + 1) (.name "for" :: .name w :: .name "in" :: (c ++ b)) where
  apart := ⟨_, _, rfl, rfl⟩
  reads m ts t rest lexemes apart := by
    obtain ⟨x, ts, rfl, word, lexemes⟩ := List.map_eq_cons_iff.1 lexemes
    obtain ⟨y, ts, rfl, target, lexemes⟩ := List.map_eq_cons_iff.1 lexemes
    obtain ⟨z, ts, rfl, within, lexemes⟩ := List.map_eq_cons_iff.1 lexemes
    obtain ⟨e, ts', items, spelled⟩ := block.reads_before (m := m) source lexemes (t :: rest)
    obtain ⟨os, inside⟩ := block.block (m := m) spelled (t :: rest)
    have targets := loopTargets_of_name (m := m + n) target free within (ts ++ t :: rest)
    have whole : (Rule.loop (rulesWithin (m + (n + 1)))).Reads (ts' ++ t :: rest) (os ++ []) (t :: rest) :=
      inside.bind ((no_orElse apart _ rest).bind (reads_pure _ _))
    have compound : (Rule.compound (rulesWithin (m + (n + 1))) "for").Reads (x :: y :: z :: (ts ++ t :: rest))
        (.compound (os ++ [])) (t :: rest) :=
      (reads_word word _).bind (Reads.bind (targets.bind (items.bind whole)) (reads_pure _ _))
    refine ⟨[.compound (os ++ [])], (reads_peek (by rw [word]; rfl) _).bind ?_⟩
    rw [word]
    exact compound.bind (reads_pure _ _)

theorem function {c b : List Lexeme} (free : keywords.contains w = false)
    (parameters : Fits (fun go => Rule.signature go true) n c (.mark ")")) (block : IsBlock n b) :
    IsStatement n (.name "def" :: .name w :: .mark "(" :: (c ++ .mark ")" :: b)) where
  apart := ⟨_, _, rfl, rfl⟩
  reads m ts t rest lexemes apart := by
    obtain ⟨x, ts, rfl, word, lexemes⟩ := List.map_eq_cons_iff.1 lexemes
    obtain ⟨y, ts, rfl, function, lexemes⟩ := List.map_eq_cons_iff.1 lexemes
    obtain ⟨o, ts, rfl, opener, lexemes⟩ := List.map_eq_cons_iff.1 lexemes
    obtain ⟨inside, ts, rfl, spelled, lexemes⟩ := List.map_eq_append_iff.1 lexemes
    obtain ⟨c, ts, rfl, closer, lexemes⟩ := List.map_eq_cons_iff.1 lexemes
    obtain ⟨s, signature⟩ := parameters m inside c (ts ++ t :: rest) spelled closer
    obtain ⟨os, body⟩ := block.expectedBlock (m := m) lexemes (t :: rest)
    have unhinted : (mark "->").Declines (ts ++ t :: rest) := by
      obtain ⟨more, rfl, -⟩ := block
      obtain ⟨colon, ts, rfl, isColon, -⟩ := List.map_eq_cons_iff.1 lexemes
      exact declines_mark isColon (by decide) _
    have definition := reads_definition word function free opener closer signature unhinted body
    simp only [List.cons_append, List.append_assoc]
    exact ⟨_, statement_of_definition word definition⟩

end IsStatement

end TaskCatalog.Code
