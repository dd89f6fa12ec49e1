import TaskCatalog.Proofs.LiteralReadings
import TaskCatalog.Proofs.StatementReadings

/-!
What reaches into a name, groups in parentheses, and formatted texts: the expressions in the fields are read
like any others, and on whatever line a field stands, it is read the same.
-/

namespace TaskCatalog.Code

open Code.Parser

/-! Arguments. -/

/-- No argument that begins here is given by a name. -/
def Unnamed (ts : List Token) : Prop := ∀ m ∈ ["=", ":="], Parser.Declines (do let _ ← name; mark m) ts

theorem unnamed_of_string {t : Token} {token : List Char} (lexeme : t.lexeme = .string token) (ts : List Token) :
    Unnamed (t :: ts) := fun _ _ =>
  Declines.bind (Declines.bind (declines_take (by rw [lexeme]; rfl) (by rw [lexeme]) ts))

theorem unnamed_of_name {t s : Token} {w : String} (lexeme : t.lexeme = .name w) (free : keywords.contains w = false)
    (sound : s.lexeme.isFault = false) (other : ∀ m ∈ ["=", ":="], s.lexeme ≠ .mark m) (ts : List Token) :
    Unnamed (t :: s :: ts) := fun m mem =>
  (reads_name lexeme free (s :: ts)).bind_declines (declines_mark_of_ne sound (other m mem) ts)

/-- Tokens of an expression without a name or a star of its own, and those behind it. -/
structure IsArgument (go : Rules) (ts rest : List Token) (p : Placed) : Prop where
  operand : Operand ts rest
  unnamed : Unnamed ts
  reads : (go .expression).Reads ts p rest
  plain : p.isStarred = false

namespace IsArgument

variable {go : Rules} {o c : Token} {ts rest : List Token} {p : Placed}

theorem unbound (h : IsArgument go ts rest p) : Rule.isBinding.Reads ts false ts := (h.unnamed ":=" (by decide)).ahead

theorem starNamed {m : Nat} (h : IsArgument (rulesWithin m) ts rest p) :
    (Rule.starNamed (rulesWithin (m + 1))).Reads ts p rest :=
  have named : (rulesWithin (m + 1) .named).Reads ts p rest := h.operand.named h.unbound h.reads
  h.operand.starNamed named

theorem plainArgument (h : IsArgument go ts rest p) : (Rule.plainArgument go).Reads ts p rest := by
  have keyless : Rule.isKeyword.Reads ts false ts := (h.unnamed "=" (by decide)).ahead
  have apart : (without (mark "=" <|> mark ":=")).Reads rest () rest :=
    ((h.operand.ends.no_mark (by decide)).orElse_declines (h.operand.ends.no_mark (by decide))).without
  refine h.unbound.bind ?_
  refine keyless.bind (h.reads.bind ?_)
  exact Reads.bind (reads_mistake _ rest) (apart.bind (reads_pure _ rest))

theorem argument (h : IsArgument go ts rest p) :
    (Rule.argument go .positional).Reads ts (.positional p, .positional) rest := by
  obtain ⟨n, line⟩ := h.operand.reads_line
  have starless : (Rule.starArgument go .positional).Declines ts :=
    Declines.bind (line.bind_declines (h.operand.no_mark (by decide)).bind)
  have spreadless : (Rule.spreadArgument go).Declines ts := (h.operand.no_mark (by decide)).bind
  have nameless : (Rule.keywordArgument go .positional).Declines ts :=
    line.bind_declines (h.unnamed "=" (by decide)).assoc
  refine Declines.orElse starless (Declines.orElse spreadless (Declines.orElse nameless ?_))
  exact h.plainArgument.bind (reads_pure _ _)

theorem arguments (h : IsArgument go ts (c :: rest) p) (closer : c.lexeme = .mark ")") :
    (Rule.arguments go true).Reads ts [.positional p] (c :: rest) := by
  have noComma : comma.Declines (c :: rest) := declines_mark closer (by decide) rest
  have noClauses : (Rule.argumentClauses go true).Reads (c :: rest) none (c :: rest) :=
    (no_clauses h.operand.ends go).optional
  refine h.unbound.bind (Reads.bind h.argument ?_)
  simp only [h.plain, Bool.false_eq_true, if_false]
  refine Reads.bind noClauses ?_
  refine Reads.bind (noComma.bind.orElse (reads_pure _ _)) ?_
  refine Reads.bind (reads_pure () _) ?_
  refine (noComma.accept).bind (reads_pure _ _)

/-- A call with the argument. -/
theorem call (h : IsArgument go ts (c :: rest) p) (opener : o.lexeme = .mark "(") (closer : c.lexeme = .mark ")") :
    (Rule.trailer go).Reads (o :: ts) (fun e => (.call e [p.expression] [], false)) rest := by
  have filled : (mark ")").Declines ts := h.operand.no_mark (by decide)
  have call : (Rule.callArguments go true).Reads (o :: ts) [.positional p] rest := by
    refine (reads_mark opener ts).bind (filled.bind.orElse ?_)
    exact (h.arguments closer).bind ((reads_mark closer rest).bind (reads_pure _ rest))
  refine (declines_mark opener (by decide) ts).bind.orElse (Reads.orElse ?_)
  exact Reads.bind call (reads_pure _ rest)

theorem sliceItem (h : IsArgument go ts rest p) (whole : (mark ":").Declines rest) : (Rule.sliceItem go).Reads ts p rest := by
  obtain ⟨n, line⟩ := h.operand.reads_line
  have starless : (Rule.spread go).Declines ts := line.bind_declines (h.operand.no_mark (by decide)).bind
  have apart : (without (mark ":=")).Reads rest () rest := (h.operand.ends.no_mark (by decide)).without
  refine h.unbound.bind (starless.orElse ?_)
  refine line.bind ((reads_left ts).bind (h.reads.optional.bind (whole.accept.bind ?_)))
  exact Reads.bind ((reads_mistake _ rest).bind (reads_mistake _ rest)) (apart.bind (reads_pure _ rest))

/-- What the argument is the index of. -/
theorem item (h : IsArgument go ts (c :: rest) p) (opener : o.lexeme = .mark "[") (closer : c.lexeme = .mark "]") :
    (Rule.trailer go).Reads (o :: ts) (fun e => (.item e p.expression, true)) rest := by
  have noComma : comma.Declines (c :: rest) := declines_mark closer (by decide) rest
  have one : (commaList (Rule.sliceItem go)).Reads ts ([p], false) (c :: rest) :=
    (h.sliceItem (declines_mark closer (by decide) rest)).commaList noComma.bind.repeats noComma.accept
  have index : (Rule.index go).Reads (o :: ts) p.expression rest := by
    refine (reads_mark opener ts).bind (one.bind ((reads_mark closer rest).bind ?_))
    simp only [h.plain, Bool.false_eq_true, if_false]
    exact reads_pure _ rest
  have noCall : (Rule.callArguments go true).Declines (o :: ts) := (declines_mark opener (by decide) ts).bind
  refine (declines_mark opener (by decide) ts).bind.orElse (noCall.bind.orElse ?_)
  exact Reads.bind index (reads_pure _ rest)

end IsArgument

variable {go : Rules} {x d o c : Token} {ts rest : List Token} {p : Placed} {w : String}

theorem reads_member (go : Rules) (dot : d.lexeme = .mark ".") (lexeme : x.lexeme = .name w) (free : keywords.contains w = false)
    (ts : List Token) : (Rule.trailer go).Reads (d :: x :: ts)
      (fun e => (.member e (Text.ofChars (Text.compatibilityForm w.toList)), true)) ts :=
  Reads.orElse ((reads_mark dot _).bind ((reads_name lexeme free ts).bind (reads_pure _ ts)))

/-- A name with what reaches into it. -/
theorem primary_of_trailers {rs : List (Expression → Expression × Bool)} (lexeme : x.lexeme = .name w)
    (free : keywords.contains w = false) (reaches : Parser.Repeats (Rule.trailer go) ts rs rest) :
    (Rule.primary go).Reads (x :: ts) (rs.foldl (Rule.reachInto x.line) (.place x.line (identifier w))) rest :=
  (reads_line (by rw [lexeme]; rfl) _).bind ((atom_of_name lexeme free _).bind (reaches.many.bind (reads_pure _ _)))

/-! Groups. -/

theorem atom_of_group (opener : o.lexeme = .mark "(") (closer : c.lexeme = .mark ")") (operand : Operand ts (c :: rest))
    (reads : (go .named).Reads ts p (c :: rest)) (plain : p.isStarred = false) :
    (Rule.atom go).Reads (o :: ts) p rest := by
  obtain ⟨n, line⟩ := operand.reads_line
  have sound : o.lexeme.isFault = false := by rw [opener]; rfl
  have noTuple : (mark ",").Declines (c :: rest) := declines_mark closer (by decide) rest
  have group : (Rule.parenthesesRest go o.line p).Reads (c :: rest) (p, .group) rest := by
    refine noTuple.bind.orElse (Reads.orElse ?_)
    rw [plain]
    exact (reads_mark closer rest).bind (reads_pure _ rest)
  have noYield : (Rule.yield go).Declines ts := line.bind_declines (operand.no_word (by decide)).bind
  have parentheses : (Rule.parentheses go).Reads (o :: ts) (p, .group) rest := by
    refine (reads_line sound ts).bind ((reads_mark opener ts).bind ?_)
    refine (operand.no_mark (by decide)).bind.orElse (Declines.orElse noYield.bind (Reads.orElse ?_))
    exact (operand.starNamed reads).bind group
  refine (reads_line sound ts).bind ((reads_peek sound ts).bind ?_)
  rw [opener]
  exact parentheses.bind (reads_pure _ rest)

/-- Lexemes of such an expression at any depth from `n` on, where a token with the lexeme `next` is behind them. -/
def FitsArgument (n : Nat) (ls : List Lexeme) (next : Lexeme) : Prop :=
  ∀ m (ts : List Token) t rest, ts.map (·.lexeme) = ls → t.lexeme = next →
    ∃ p, IsArgument (rulesWithin (m + n)) (ts ++ t :: rest) (t :: rest) p

theorem FitsArgument.deeper {n n' : Nat} {ls : List Lexeme} {next : Lexeme} (h : FitsArgument n ls next)
    (deeper : n ≤ n') : FitsArgument n' ls next := by
  obtain ⟨k, rfl⟩ := Nat.exists_eq_add_of_le' deeper
  intro m ts t rest lexemes lexeme
  rw [← Nat.add_assoc]
  exact h (m + k) ts t rest lexemes lexeme

/-! Formatted texts. -/

theorem operand_of_string {token : List Char} (lexeme : x.lexeme = .string token) (ends : EndsOperand rest) :
    Operand (x :: ts) rest :=
  ⟨⟨x, ts, rfl, by rw [lexeme]; rfl⟩, ends⟩

/-- The expressions in the fields of a formatted text that has no doubled braces, and whose fields have neither
labels nor conversions nor formats. -/
def Draft.fieldSources (isRaw : Bool) : Nat → List Char → Option (List (List Char))
  | 0, _ => none
  | fuel + 1, cs => do
    let (body, twice, rest) ← Draft.plain isRaw false false cs
    let _ ← StringLiteral.textOf isRaw body
    if twice then none
    match rest with
    | [] => some []
    | '\x7b' :: rest =>
      let (source, rest) ← Draft.expression 0 none [] rest
      if source.all Draft.isSpace then none
      match rest with
      | '\x7d' :: rest => (Draft.fieldSources isRaw fuel rest).map (source :: ·)
      | _ => none
    | _ => none

/-- A part of a formatted text that is a text or a plain field with one of the expressions. -/
def Draft.IsAmong (sources : List (List Char)) : Draft → Prop
  | .text _ => True
  | .field source _ _ format => source ∈ sources ∧ format = none

theorem Draft.IsAmong.mono {sources sources' : List (List Char)} {d : Draft} (h : d.IsAmong sources)
    (more : sources ⊆ sources') : d.IsAmong sources' := by
  cases d with
  | text _ => trivial
  | field source _ _ _ => exact ⟨more h.1, h.2⟩

section Drafts

variable {isRaw : Bool} {last fuel : Nat} {cs body : List Char} {t : Text}

theorem read_text (plain : Draft.plain isRaw false false cs = some (body, false, []))
    (text : StringLiteral.textOf isRaw body = some t) : Draft.read isRaw last (fuel + 1) 0 cs = some ([.text t], []) := by
  simp [Draft.read, plain, text]

theorem read_field {inner source rest after : List Char} {drafts : List Draft}
    (plain : Draft.plain isRaw false false cs = some (body, false, '\x7b' :: inner))
    (text : StringLiteral.textOf isRaw body = some t)
    (expression : Draft.expression 0 none [] inner = some (source, '\x7d' :: rest))
    (filled : source.all Draft.isSpace = false) (more : Draft.read isRaw last fuel 0 rest = some (drafts, after)) :
    Draft.read isRaw last (fuel + 1) 0 cs =
      some (.text t :: .text [] :: .field source (last - Draft.lineBreaks inner) none none :: drafts, after) := by
  have unlabelled : Draft.label source ('\x7d' :: rest) = ([], '\x7d' :: rest) := rfl
  have unconverted : Draft.conversion ('\x7d' :: rest) = some (none, '\x7d' :: rest) := rfl
  simp only [Draft.read, Option.bind_eq_bind, Option.bind_some, plain, text, expression, filled, unlabelled,
    unconverted, bne_self_eq_false, Bool.false_eq_true, if_false]
  change (Draft.read isRaw last fuel 0 rest).bind (fun a => some (.text t :: .text [] ::
    .field source (last - Draft.lineBreaks inner) none none :: a.1, a.2)) = _
  rw [more]
  rfl

theorem read_of_fieldSources {sources : List (List Char)} (h : Draft.fieldSources isRaw fuel cs = some sources)
    (last : Nat) :
    ∃ drafts, Draft.read isRaw last fuel 0 cs = some (drafts, []) ∧ ∀ d ∈ drafts, d.IsAmong sources := by
  induction fuel generalizing cs sources with
  | zero => cases h
  | succ fuel ih =>
    simp only [Draft.fieldSources, Option.bind_eq_bind, Option.bind_eq_some_iff, Prod.exists] at h
    obtain ⟨body, twice, rest, plain, t, text, h⟩ := h
    cases twice with
    | true => simp at h
    | false =>
    simp only [Bool.false_eq_true, if_false] at h
    split at h
    · exact ⟨[.text t], read_text plain text, by simp [Draft.IsAmong]⟩
    · next inner =>
      simp only [Option.bind_eq_some_iff, Prod.exists] at h
      obtain ⟨source, behind, expression, h⟩ := h
      cases filled : source.all Draft.isSpace with
      | true => simp [filled] at h
      | false =>
      simp only [filled, Bool.false_eq_true, if_false] at h
      split at h
      · next rest =>
        obtain ⟨others, later, rfl⟩ := Option.map_eq_some_iff.1 h
        obtain ⟨drafts, more, among⟩ := ih later
        refine ⟨_, read_field plain text expression filled more, ?_⟩
        have among' : ∀ d ∈ drafts, d.IsAmong (source :: others) := fun d mem => (among d mem).mono (List.subset_cons_self _ _)
        exact List.forall_mem_cons.2 ⟨trivial, List.forall_mem_cons.2 ⟨trivial, List.forall_mem_cons.2
          ⟨⟨List.mem_cons_self, rfl⟩, among'⟩⟩⟩
      · cases h
    · cases h

end Drafts

/-- Fields whose expressions are read wherever they stand. -/
theorem readDrafts_ok {read : Nat → List Char → Except Nat Expression} {sources : List (List Char)}
    (each : ∀ source ∈ sources, ∀ line, ∃ e, read line source = .ok e) {drafts : List Draft}
    (among : ∀ d ∈ drafts, d.IsAmong sources) : ∃ pieces, readDrafts read drafts = .ok pieces := by
  induction drafts with
  | nil => exact ⟨[], by rw [readDrafts]⟩
  | cons d drafts ih =>
    obtain ⟨first, others⟩ := List.forall_mem_cons.1 among
    obtain ⟨pieces, later⟩ := ih others
    cases d with
    | text t => exact ⟨.text t :: pieces, by rw [readDrafts, later]; rfl⟩
    | field source line conversion format =>
      obtain ⟨mem, rfl⟩ := first
      obtain ⟨e, here⟩ := each source mem line
      exact ⟨.field e conversion none :: pieces, by rw [readDrafts, here, readFormat, later]; rfl⟩

/-- The characters of a field are read as an expression, on whatever line the field stands. -/
theorem fieldExpression_ok {source : List Char} {n : Nat} {ls : List Lexeme} (fits : FitsArgument n ls (.mark ")"))
    (sound : ∀ l ∈ ls, l.isFault = false)
    (scanned : (tokensOf 0 ('(' :: source ++ [')'])).map (·.lexeme) = .mark "(" :: (ls ++ [.mark ")", .newline, .endOfFile]))
    (m line : Nat) : ∃ e, Rule.fieldExpression (rulesWithin (m + n + 5)) line source = .ok e := by
  have sound' : ∀ l ∈ Lexeme.mark "(" :: (ls ++ [.mark ")", .newline, .endOfFile]), l.isFault = false := by
    simp only [List.forall_mem_cons, List.forall_mem_append]
    exact ⟨rfl, sound, rfl, rfl, rfl, fun _ h => nomatch h⟩
  obtain ⟨o, ts, same, opener, lexemes⟩ := List.map_eq_cons_iff.1 (map_lexeme_tokensOf_alike 0 line scanned sound')
  obtain ⟨inside, behind, rfl, spelled, lexemes⟩ := List.map_eq_append_iff.1 lexemes
  obtain ⟨c, behind, rfl, closer, lexemes⟩ := List.map_eq_cons_iff.1 lexemes
  obtain ⟨e, behind, rfl, ending, -⟩ := List.map_eq_cons_iff.1 lexemes
  obtain ⟨p, argument⟩ := fits m inside c (e :: behind) spelled closer
  have named : (rulesWithin (m + n + 1) .named).Reads (inside ++ c :: e :: behind) p (c :: e :: behind) :=
    argument.operand.named argument.unbound argument.reads
  have operand : Operand (o :: (inside ++ c :: e :: behind)) (e :: behind) :=
    ⟨⟨o, _, rfl, by rw [opener]; rfl⟩, e, behind, rfl, by rw [ending]; rfl⟩
  have atom : (Rule.atom (rulesWithin (m + n + 1))).Reads (o :: (inside ++ c :: e :: behind)) p (e :: behind) :=
    atom_of_group opener closer argument.operand named argument.plain
  have whole : Parser.Reads (do return (← Rule.starExpressions (rulesWithin (m + n + 5))).expression) _ p.expression _ :=
    (operand.starExpressions (declines_mark_of_newline ending _ _) (operand.expression_of_atom atom)).bind (reads_pure _ _)
  rw [← same] at whole
  exact ⟨p.expression, whole.run⟩

/-- A formatted literal whose fields are read at any depth from `n` on. -/
structure IsFormatted (n : Nat) (token : List Char) : Prop where
  isText : (StringLiteral.ofToken token).isBytes = false
  isFormatted : (StringLiteral.ofToken token).isFormatted = true
  fields : ∃ sources, Draft.fieldSources (StringLiteral.ofToken token).isRaw
    ((StringLiteral.ofToken token).body.length + 2) (StringLiteral.ofToken token).body = some sources ∧
    ∀ source ∈ sources, ∀ m line, ∃ e, Rule.fieldExpression (rulesWithin (m + n)) line source = .ok e

theorem IsFormatted.reads {n m : Nat} {t : Token} {token : List Char} (h : IsFormatted n token)
    (lexeme : t.lexeme = .string token) (ends : EndsOperand rest) :
    ∃ pieces, (Rule.strings (rulesWithin (m + n))).Reads (t :: rest) (.formatted pieces) rest := by
  obtain ⟨sources, found, each⟩ := h.fields
  obtain ⟨drafts, drafted, among⟩ := read_of_fieldSources found (t.line + token.count '\n')
  obtain ⟨pieces, read⟩ := readDrafts_ok (fun source mem => each source mem m) among
  have ofBody : Draft.ofBody (StringLiteral.ofToken token).isRaw (t.line + token.count '\n')
      (StringLiteral.ofToken token).body = some drafts := by
    rw [Draft.ofBody, drafted]
    rfl
  obtain ⟨next, atNext⟩ := ends.reads_line
  have one : (some1 placedString).Reads (t :: rest) [(t.line, token)] rest :=
    (reads_placedString lexeme rest).some1 (ends_declines_placedString ends).repeats
  have literal : (Rule.literalPieces (rulesWithin (m + n)) next t.line token).Reads rest pieces rest := by
    unfold Rule.literalPieces
    simp only [h.isFormatted, if_true, ofBody, read]
    exact reads_pure _ rest
  have all : ([(t.line, token)].mapM fun p => Rule.literalPieces (rulesWithin (m + n)) next p.1 p.2).Reads rest [pieces] rest :=
    reads_mapM (.cons literal .nil)
  refine ⟨mergePieces [pieces].flatten, Reads.bind one (atNext.bind ?_)⟩
  dsimp only
  rw [if_neg (by simp [h.isText]), if_neg (by simp [h.isText])]
  refine all.bind ?_
  rw [if_pos (by simp [h.isFormatted])]
  exact reads_pure _ rest

theorem IsFormatted.argument {n : Nat} {token : List Char} {next : Lexeme} (h : IsFormatted n token)
    (ending : next.endsOperand = true) : FitsArgument (n + 4) [.string token] next := by
  intro m ts t rest lexemes lexeme
  obtain ⟨s, rfl, isString⟩ := List.map_eq_singleton_iff.1 lexemes
  have ends : EndsOperand (t :: rest) := ⟨t, rest, rfl, lexeme ▸ ending⟩
  have operand : Operand (s :: t :: rest) (t :: rest) := operand_of_string isString ends
  obtain ⟨pieces, reads⟩ := h.reads (m := m) isString ends
  exact ⟨_, operand, unnamed_of_string isString _, operand.expression_of_atom (atom_of_strings isString reads), rfl⟩

/-! Names with what reaches into them. -/

theorem opensOperand_of_free (free : keywords.contains w = false) : (Lexeme.name w).opensOperand = true := by
  have known : ∀ w ∈ Lexeme.openingWords, keywords.contains w = true := by decide
  simp only [Lexeme.opensOperand, Bool.not_eq_true', List.contains_eq_mem, decide_eq_false_iff_not]
  intro mem
  rw [known w mem] at free
  cases free

theorem operand_of_name {t : Token} {ts : List Token} (lexeme : t.lexeme = .name w) (free : keywords.contains w = false)
    (ends : EndsOperand rest) : Operand (t :: ts) rest :=
  ⟨⟨t, ts, rfl, by rw [lexeme]; exact opensOperand_of_free free⟩, ends⟩

theorem atom_of_string (go : Rules) {token : List Char} {t : Text} (lexeme : x.lexeme = .string token)
    (h : StandsFor token t) (ends : EndsOperand rest) :
    ∃ marked, (Rule.atom go).Reads (x :: rest) (.value x.line (.constant (.text t) marked)) rest := by
  have lexemes : [x].map (·.lexeme) = [token].map .string := congrArg ([·]) lexeme
  obtain ⟨marked, reads⟩ : ∃ marked, (Rule.strings go).Reads (x :: rest) (.constant (.text [t].flatten) marked) rest :=
    reads_strings lexemes (.cons h .nil) (List.cons_ne_nil _ _) (ends_declines_placedString ends) ends.reads_line
  rw [List.flatten_singleton] at reads
  exact ⟨marked, atom_of_strings lexeme reads⟩

section Reaching

variable {n : Nat} {ls : List Lexeme} {next : Lexeme}

theorem fitsArgument_name (free : keywords.contains w = false) (ending : next.endsOperand = true) :
    FitsArgument 4 [.name w] next := by
  intro m ts t rest lexemes lexeme
  obtain ⟨x, rfl, isName⟩ := List.map_eq_singleton_iff.1 lexemes
  have sound : t.lexeme.isFault = false := lexeme ▸ Lexeme.sound_of_endsOperand ending
  have other : ∀ m ∈ ["=", ":="], t.lexeme ≠ .mark m := by
    have apart : ∀ m ∈ ["=", ":="], (Lexeme.mark m).endsOperand = false := by decide
    intro m mem same
    rw [lexeme.symm.trans same, apart m mem] at ending
    cases ending
  have operand : Operand (x :: t :: rest) (t :: rest) := operand_of_name isName free ⟨t, rest, rfl, lexeme ▸ ending⟩
  exact ⟨_, operand, unnamed_of_name isName free sound other rest, operand.expression_of_atom (atom_of_name isName free _), rfl⟩

theorem fitsArgument_string {token : List Char} {t : Text} (h : StandsFor token t) (ending : next.endsOperand = true) :
    FitsArgument 4 [.string token] next := by
  intro m ts e rest lexemes lexeme
  obtain ⟨s, rfl, isString⟩ := List.map_eq_singleton_iff.1 lexemes
  have ends : EndsOperand (e :: rest) := ⟨e, rest, rfl, lexeme ▸ ending⟩
  obtain ⟨marked, atom⟩ := atom_of_string (rulesWithin m) isString h ends
  have operand : Operand (s :: e :: rest) (e :: rest) := operand_of_string isString ends
  exact ⟨_, operand, unnamed_of_string isString _, operand.expression_of_atom atom, rfl⟩

theorem isPrimary_string {token : List Char} {t : Text} (h : StandsFor token t) (ending : next.endsOperand = true) :
    IsPrimary 1 [.string token] next where
  opens := ⟨_, _, rfl, rfl⟩
  reads m ts e rest lexemes lexeme := by
    obtain ⟨s, rfl, isString⟩ := List.map_eq_singleton_iff.1 lexemes
    have ends : EndsOperand (e :: rest) := ⟨e, rest, rfl, lexeme ▸ ending⟩
    obtain ⟨marked, atom⟩ := atom_of_string (rulesWithin m) isString h ends
    exact ⟨_, (operand_of_string isString ends).primary atom⟩

theorem reads_item {m : Nat} (isName : x.lexeme = .name w) (free : keywords.contains w = false)
    (opener : o.lexeme = .mark "[") (closer : c.lexeme = .mark "]") (ends : EndsOperand rest)
    (index : IsArgument (rulesWithin m) ts (c :: rest) p) (shorter : rest.length < ts.length) :
    (rulesWithin (m + 1) .primary).Reads (x :: o :: ts) (.place x.line (.item (identifier w) p.expression)) rest := by
  have reaches : Parser.Repeats (Rule.trailer (rulesWithin m)) (o :: ts) [_] rest :=
    (index.item opener closer).repeats (Nat.lt_succ_of_lt shorter) (ends.no_trailer _).repeats
  exact primary_of_trailers isName free reaches

/-- What a name holds under an index. -/
theorem fitsArgument_item (free : keywords.contains w = false) (index : FitsArgument n ls (.mark "]"))
    (ending : next.endsOperand = true) : FitsArgument (n + 4) (.name w :: .mark "[" :: (ls ++ [.mark "]"])) next := by
  intro m ts t rest lexemes lexeme
  obtain ⟨x, ts, rfl, isName, lexemes⟩ := List.map_eq_cons_iff.1 lexemes
  obtain ⟨o, inside, c, rfl, opener, spelled, closer⟩ := tokens_of_bracketed lexemes
  have ends : EndsOperand (t :: rest) := ⟨t, rest, rfl, lexeme ▸ ending⟩
  obtain ⟨p, isIndex⟩ := index m inside c (t :: rest) spelled closer
  have primary := reads_item isName free opener closer ends isIndex (by simp; omega)
  have operand : Operand (x :: o :: (inside ++ c :: t :: rest)) (t :: rest) := operand_of_name isName free ends
  have unnamed : Unnamed (x :: o :: (inside ++ c :: t :: rest)) :=
    unnamed_of_name isName free (by rw [opener]; rfl) (by rw [opener]; decide) _
  simp only [List.cons_append, List.append_assoc, List.nil_append]
  exact ⟨_, operand, unnamed, operand.expression_of_primary primary, rfl⟩

theorem isPrimary_item (free : keywords.contains w = false) (index : FitsArgument n ls (.mark "]"))
    (ending : next.endsOperand = true) : IsPrimary (n + 1) (.name w :: .mark "[" :: (ls ++ [.mark "]"])) next where
  opens := ⟨_, _, rfl, opensOperand_of_free free⟩
  reads m ts t rest lexemes lexeme := by
    obtain ⟨x, ts, rfl, isName, lexemes⟩ := List.map_eq_cons_iff.1 lexemes
    obtain ⟨o, inside, c, rfl, opener, spelled, closer⟩ := tokens_of_bracketed lexemes
    obtain ⟨p, isIndex⟩ := index m inside c (t :: rest) spelled closer
    simp only [List.cons_append, List.append_assoc, List.nil_append]
    have ends : EndsOperand (t :: rest) := ⟨t, rest, rfl, lexeme ▸ ending⟩
    exact ⟨_, reads_item isName free opener closer ends isIndex (by simp; omega)⟩

variable {f : String}

/-- A function is called with an argument. -/
theorem isPrimary_call (free : keywords.contains w = false) (argument : FitsArgument n ls (.mark ")"))
    (ending : next.endsOperand = true) : IsPrimary (n + 1) (.name w :: .mark "(" :: (ls ++ [.mark ")"])) next where
  opens := ⟨_, _, rfl, opensOperand_of_free free⟩
  reads m ts t rest lexemes lexeme := by
    obtain ⟨x, ts, rfl, isName, lexemes⟩ := List.map_eq_cons_iff.1 lexemes
    obtain ⟨o, inside, c, rfl, opener, spelled, closer⟩ := tokens_of_bracketed lexemes
    obtain ⟨p, isArgument⟩ := argument m inside c (t :: rest) spelled closer
    have ends : EndsOperand (t :: rest) := ⟨t, rest, rfl, lexeme ▸ ending⟩
    have reaches : Parser.Repeats (Rule.trailer (rulesWithin (m + n))) (o :: (inside ++ c :: t :: rest)) [_] (t :: rest) :=
      (isArgument.call opener closer).repeats (by simp; omega) (ends.no_trailer _).repeats
    simp only [List.cons_append, List.append_assoc, List.nil_append]
    exact ⟨_, primary_of_trailers isName free reaches⟩

/-- A function of an object is called with an argument. -/
theorem isPrimary_methodCall (free : keywords.contains w = false) (free' : keywords.contains f = false)
    (argument : FitsArgument n ls (.mark ")")) (ending : next.endsOperand = true) :
    IsPrimary (n + 1) (.name w :: .mark "." :: .name f :: .mark "(" :: (ls ++ [.mark ")"])) next where
  opens := ⟨_, _, rfl, opensOperand_of_free free⟩
  reads m ts t rest lexemes lexeme := by
    obtain ⟨x, ts, rfl, isName, lexemes⟩ := List.map_eq_cons_iff.1 lexemes
    obtain ⟨d, ts, rfl, dot, lexemes⟩ := List.map_eq_cons_iff.1 lexemes
    obtain ⟨y, ts, rfl, isMember, lexemes⟩ := List.map_eq_cons_iff.1 lexemes
    obtain ⟨o, inside, c, rfl, opener, spelled, closer⟩ := tokens_of_bracketed lexemes
    obtain ⟨p, isArgument⟩ := argument m inside c (t :: rest) spelled closer
    have ends : EndsOperand (t :: rest) := ⟨t, rest, rfl, lexeme ▸ ending⟩
    have called : Parser.Repeats (Rule.trailer (rulesWithin (m + n))) (o :: (inside ++ c :: t :: rest)) [_] (t :: rest) :=
      (isArgument.call opener closer).repeats (by simp; omega) (ends.no_trailer _).repeats
    have reaches := (reads_member (rulesWithin (m + n)) dot isMember free' _).repeats (by simp) called
    simp only [List.cons_append, List.append_assoc, List.nil_append]
    exact ⟨_, primary_of_trailers isName free reaches⟩

/-- A list of two items. -/
theorem isPrimary_pair {ls' : List Lexeme} (first : FitsArgument n ls (.mark ",")) (second : FitsArgument n ls' (.mark "]"))
    (ending : next.endsOperand = true) :
    IsPrimary (n + 2) (.mark "[" :: (ls ++ .mark "," :: (ls' ++ [.mark "]"]))) next where
  opens := ⟨_, _, rfl, rfl⟩
  reads m ts t rest lexemes lexeme := by
    obtain ⟨o, ts, rfl, opener, lexemes⟩ := List.map_eq_cons_iff.1 lexemes
    obtain ⟨front, ts, rfl, spelled, lexemes⟩ := List.map_eq_append_iff.1 lexemes
    obtain ⟨s, ts, rfl, separator, lexemes⟩ := List.map_eq_cons_iff.1 lexemes
    obtain ⟨back, ts, rfl, spelled', lexemes⟩ := List.map_eq_append_iff.1 lexemes
    obtain ⟨c, rfl, closer⟩ := List.map_eq_singleton_iff.1 lexemes
    obtain ⟨p, isFirst⟩ := first m front s (back ++ c :: t :: rest) spelled separator
    obtain ⟨q, isSecond⟩ := second m back c (t :: rest) spelled' closer
    have noMore : comma.Declines (c :: t :: rest) := declines_mark closer (by decide) _
    have others : Parser.Repeats (do comma; Rule.starNamed (rulesWithin (m + n + 1))) (s :: (back ++ c :: t :: rest)) [q]
        (c :: t :: rest) :=
      ((reads_mark separator _).bind isSecond.starNamed).repeats (by simp only [List.length_cons, List.length_append]; omega)
        noMore.bind.repeats
    have list := reads_list opener closer (isFirst.operand.no_mark (by decide)) isFirst.starNamed others
    have operand : Operand (o :: (front ++ s :: (back ++ c :: t :: rest))) (t :: rest) :=
      ⟨⟨o, _, rfl, by rw [opener]; rfl⟩, t, rest, rfl, lexeme ▸ ending⟩
    simp only [List.cons_append, List.append_assoc, List.nil_append]
    exact ⟨_, operand.primary (atom_of_bracket opener list)⟩

end Reaching

end TaskCatalog.Code
