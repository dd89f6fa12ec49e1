import TaskCatalog.Code.StatementRule
import TaskCatalog.Proofs.NameLetters

/-!
The names of the classes and functions in a source file that was read: they have the letters of names, whatever else the
file holds.
-/

namespace TaskCatalog.Code

/-- A text made of the letters of names. -/
def HasNameLetters (t : Text) : Prop := ∀ l ∈ t, l.satisfies Scan.isNamePart = true

/-- A statement in which every class and function, at any depth, has a name made of the letters of names. -/
inductive Statement.Named : Statement → Prop
  | classDefinition {line : Nat} {name : Text} {decorators : List Expression} {body : List Statement}
    (spelled : HasNameLetters name) (inside : ∀ s ∈ body, s.Named) : Named (.classDefinition line name decorators body)
  | functionDefinition {line : Nat} {name : Text} {decorators : List Expression} {signature : Signature}
    {body : List Statement} (spelled : HasNameLetters name) (inside : ∀ s ∈ body, s.Named) :
    Named (.functionDefinition line name decorators signature body)
  | assignment {line : Nat} {targets : List Expression} : Named (.assignment line targets)
  | annotated {line : Nat} {target hint : Expression} : Named (.annotated line target hint)
  | expression {e : Expression} : Named (.expression e)
  | compound {inner : List Statement} (inside : ∀ s ∈ inner, s.Named) : Named (.compound inner)

def AllNamed (ss : List Statement) : Prop := ∀ s ∈ ss, s.Named

namespace Parser

variable {α β : Type} {p q : Parser α} {f : α → Parser β} {P : α → Prop} {R : β → Prop} {a : α}

/-- Where all names among the tokens are names, the rule comes to nothing but what has a property. -/
def Gives (p : Parser α) (P : α → Prop) : Prop :=
  ∀ strict tokens seen a rest last, (∀ t ∈ tokens, t.lexeme.IsNamed) →
    p strict tokens seen = .parsed a rest last → P a

theorem gives_any (p : Parser α) : p.Gives fun _ => True := fun _ _ _ _ _ _ _ _ => trivial

theorem gives_pure (holds : P a) : (pure a : Parser α).Gives P := by
  intro _ _ _ _ _ _ _ given
  cases given
  exact holds

theorem gives_stuck : (stuck : Parser α).Gives P := by
  intro _ _ _ _ _ _ _ given
  cases given

theorem Gives.mono {Q : α → Prop} (h : p.Gives P) (imp : ∀ a, P a → Q a) : p.Gives Q :=
  fun strict tokens seen a rest last named given => imp a (h strict tokens seen a rest last named given)

theorem Gives.bind (first : p.Gives P) (next : ∀ a, P a → (f a).Gives R) : (p >>= f).Gives R := by
  intro strict tokens seen b rest last named given
  cases before : p strict tokens seen with
  | parsed a mid seen' =>
    have given : f a strict mid seen' = .parsed b rest last := by
      simpa only [Bind.bind, andThen, before] using given
    have later : ∀ t ∈ mid, t.lexeme.IsNamed := fun t member => named t ((p.leaves before).subset member)
    exact next a (first strict tokens seen a mid seen' named before) strict mid seen' b rest last later given
  | stuck seen' =>
    simp only [Bind.bind, andThen, before] at given
    cases given
  | faulty e seen' =>
    simp only [Bind.bind, andThen, before] at given
    cases given

theorem gives_bind (next : ∀ a, (f a).Gives R) : (p >>= f).Gives R := (gives_any p).bind fun a _ => next a

theorem Gives.orElse (first : p.Gives P) (second : q.Gives P) : (p <|> q).Gives P := by
  intro strict tokens seen a rest last named given
  cases before : p strict tokens seen with
  | parsed b mid seen' =>
    simp only [HOrElse.hOrElse, OrElse.orElse, Parser.orElse, before] at given
    exact first strict tokens seen a rest last named (before.trans given)
  | stuck seen' =>
    simp only [HOrElse.hOrElse, OrElse.orElse, Parser.orElse, before] at given
    exact second strict tokens seen' a rest last named given
  | faulty e seen' =>
    simp only [HOrElse.hOrElse, OrElse.orElse, Parser.orElse, before] at given
    cases given

theorem Gives.manyWithin (h : p.Gives P) (fuel : List Token) : (manyWithin p fuel).Gives (∀ a ∈ ·, P a) := by
  induction fuel with
  | nil => exact gives_pure (List.forall_mem_nil _)
  | cons _ fuel ih =>
    refine Gives.orElse (h.bind fun a here => ih.bind fun as later => ?_) (gives_pure (List.forall_mem_nil _))
    exact gives_pure (List.forall_mem_cons.2 ⟨here, later⟩)

theorem Gives.many (h : p.Gives P) : (many p).Gives (∀ a ∈ ·, P a) := gives_bind fun fuel => h.manyWithin fuel

theorem Gives.some1 (h : p.Gives P) : (some1 p).Gives (∀ a ∈ ·, P a) :=
  h.bind fun _ here => h.many.bind fun _ later => gives_pure (List.forall_mem_cons.2 ⟨here, later⟩)

theorem Gives.separated {separator : Parser Unit} (h : p.Gives P) : (separated separator p).Gives (∀ a ∈ ·, P a) :=
  h.bind fun _ here => (Gives.many (gives_bind fun _ => h)).bind fun _ later =>
    gives_pure (List.forall_mem_cons.2 ⟨here, later⟩)

theorem Gives.optional (h : p.Gives P) : (optional p).Gives (∀ a ∈ ·, P a) := by
  refine Gives.orElse (h.bind fun a here => gives_pure ?_) (gives_pure nofun)
  rintro b ⟨⟩
  exact here

theorem gives_peek : peek.Gives fun t => t.lexeme.IsNamed := by
  intro strict tokens seen t rest last named given
  unfold peek at given
  dsimp only at given
  split at given
  · cases given
  · split at given
    · cases given
    · cases given
      exact named _ List.mem_cons_self

theorem gives_take {kind : Lexeme → Option α} (each : ∀ l a, l.IsNamed → kind l = some a → P a) :
    (take kind).Gives P := by
  refine gives_peek.bind fun t named => ?_
  split
  · next a fits =>
    intro _ _ _ _ _ _ _ given
    cases given
    exact each t.lexeme a named fits
  · exact gives_stuck

theorem gives_rawName : rawName.Gives fun text => ∀ c ∈ text.toList, Scan.isNamePart c = true := by
  refine gives_take fun l text named fits => ?_
  split at fits
  · split at fits
    · cases fits
    · cases fits
      exact named text rfl
  · cases fits

theorem gives_name : name.Gives HasNameLetters := by
  refine gives_rawName.bind fun text named => gives_pure fun l member => ?_
  obtain ⟨c, inside, rfl⟩ := List.mem_map.1 member
  exact Text.names_compatibilityForm named c inside

end Parser

namespace Rule

open TaskCatalog.Code.Parser

variable {go : Rules}

/-! Statements of one line declare nothing. -/

theorem gives_assignment : (assignment go).Gives Statement.Named := by
  refine Gives.orElse ?_ (Gives.orElse ?_ (Gives.orElse ?_ ?_))
  · exact gives_bind fun _ => gives_bind fun _ => gives_bind fun _ => gives_bind fun _ => gives_bind fun _ =>
      gives_pure .annotated
  · exact gives_bind fun _ => gives_bind fun _ => gives_bind fun _ => gives_bind fun _ => gives_pure .assignment
  · exact gives_bind fun _ => gives_bind fun _ => gives_bind fun _ => gives_pure (.compound nofun)
  · exact gives_bind fun _ => gives_bind fun _ => gives_pure .expression

theorem gives_simpleStatement : (simpleStatement go).Gives Statement.Named := by
  refine gives_bind fun t => ?_
  split
  · split
    · exact gives_bind fun _ => gives_bind fun _ => gives_pure (.compound nofun)
    · exact gives_assignment
  · exact gives_assignment

theorem gives_simpleStatements : (simpleStatements go).Gives AllNamed :=
  gives_simpleStatement.separated.bind fun _ named => gives_bind fun _ => gives_bind fun _ => gives_pure named

/-! Compound statements hold what stands in their blocks. -/

theorem allNamed_append {ss ss' : List Statement} (first : AllNamed ss) (second : AllNamed ss') :
    AllNamed (ss ++ ss') :=
  List.forall_mem_append.2 ⟨first, second⟩

theorem allNamed_getD {found : Option (List Statement)} (h : ∀ ss ∈ found, AllNamed ss) : AllNamed (found.getD []) := by
  cases found with
  | none => exact List.forall_mem_nil _
  | some ss => exact h ss rfl

theorem gives_indented {α : Type} {p : Parser α} {P : α → Prop} (h : p.Gives P) : (indented p).Gives P :=
  gives_bind fun _ => gives_bind fun _ => gives_bind fun _ => h.bind fun _ holds => gives_bind fun _ =>
    gives_pure holds

variable (inner : (go .statements).Gives AllNamed)

include inner

theorem gives_suite : (suite go).Gives AllNamed := (gives_indented inner).orElse gives_simpleStatements

theorem gives_block : (block go).Gives AllNamed := gives_bind fun _ => gives_suite inner

theorem gives_expectedBlock : (expectedBlock go).Gives AllNamed := gives_bind fun _ => gives_suite inner

theorem gives_orElse : (Rule.orElse go).Gives AllNamed :=
  (Gives.optional (gives_bind fun _ => gives_expectedBlock inner)).bind fun _ named => gives_pure (allNamed_getD named)

theorem gives_branches (fuel : List Token) : (branches go fuel).Gives AllNamed := by
  induction fuel with
  | nil => exact gives_stuck
  | cons _ fuel ih =>
    refine gives_bind fun _ => (gives_block inner).bind fun body named => ?_
    refine (Gives.orElse (gives_bind fun _ => ih.bind fun ss inside => ?_) (gives_orElse inner)).bind
      fun other later => gives_pure (allNamed_append named later)
    exact gives_pure (List.forall_mem_singleton.2 (.compound inside))

theorem gives_loop : (loop go).Gives AllNamed :=
  (gives_block inner).bind fun _ named => (gives_orElse inner).bind fun _ later =>
    gives_pure (allNamed_append named later)

theorem gives_withBlock : (withBlock go).Gives AllNamed :=
  Gives.orElse (gives_bind fun _ => gives_bind fun _ => gives_bind fun _ => gives_block inner)
    (gives_bind fun _ => gives_block inner)

theorem gives_handler (isGroup : Bool) : (handler go isGroup).Gives Statement.Named := by
  refine gives_bind fun _ => Gives.orElse ?_ (gives_bind fun _ => gives_stuck)
  have caught : Gives (do return .compound (← block go)) Statement.Named :=
    (gives_block inner).bind fun _ inside => gives_pure (.compound inside)
  split
  · exact gives_bind fun _ => gives_bind fun _ => caught
  · exact gives_bind fun _ => caught

theorem gives_handlers (isGroup : Bool) : (handlers go isGroup).Gives AllNamed :=
  (gives_handler inner isGroup).some1.bind fun _ named => gives_bind fun _ => gives_pure named

theorem gives_finalBlock : (finalBlock go).Gives AllNamed := gives_bind fun _ => gives_expectedBlock inner

theorem gives_tryBlock : (tryBlock go).Gives AllNamed := by
  refine (gives_expectedBlock inner).bind fun body named => gives_bind fun _ => Gives.orElse ?_ ?_
  · exact (gives_finalBlock inner).bind fun _ later => gives_pure (allNamed_append named later)
  · refine ((gives_handlers inner false).orElse (gives_handlers inner true)).bind fun hs caught => ?_
    refine (gives_orElse inner).bind fun other later => (gives_finalBlock inner).optional.bind fun final last => ?_
    exact gives_pure (allNamed_append (allNamed_append (allNamed_append named caught) later) (allNamed_getD last))

theorem gives_definition (decorators : List Expression) : (definition go decorators).Gives Statement.Named := by
  refine gives_bind fun line => Gives.orElse (gives_bind fun _ => ?_) (gives_bind fun _ => gives_bind fun _ => ?_)
  · exact gives_name.bind fun _ named => gives_bind fun _ => (gives_block inner).bind fun _ inside =>
      gives_pure (.classDefinition named inside)
  · exact gives_name.bind fun _ named => gives_bind fun _ => gives_bind fun _ => gives_bind fun _ =>
      gives_bind fun _ => (gives_expectedBlock inner).bind fun _ inside => gives_pure (.functionDefinition named inside)

theorem gives_decorated : (decorated go).Gives Statement.Named := gives_bind fun _ => gives_definition inner _

theorem gives_matchBlock : (matchBlock go).Gives Statement.Named := by
  have case : (caseBlock go).Gives Statement.Named :=
    gives_bind fun _ => gives_bind fun _ => gives_bind fun _ => (gives_block inner).bind fun _ inside =>
      gives_pure (.compound inside)
  have held : Gives (do
      mark ":"
      return .compound (← indented (some1 (caseBlock go)))) Statement.Named :=
    gives_bind fun _ => (gives_indented case.some1).bind fun _ inside => gives_pure (.compound inside)
  refine gives_bind fun _ => gives_bind fun _ => ?_
  split
  · split
    · exact gives_bind fun _ => held
    · exact held
  · exact held

theorem gives_compoundRest {w : String} {rest : Parser (List Statement)} (h : compoundRest go w = some rest) :
    rest.Gives AllNamed := by
  unfold compoundRest at h
  split at h
  · cases h
    exact gives_bind fun fuel => gives_branches inner fuel
  · cases h
    exact gives_bind fun _ => gives_loop inner
  · cases h
    exact gives_bind fun _ => gives_bind fun _ => gives_loop inner
  · cases h
    exact gives_withBlock inner
  · cases h
    exact gives_tryBlock inner
  · cases h

theorem gives_compound (w : String) : (compound go w).Gives Statement.Named := by
  unfold compound
  split
  · next rest h =>
    exact gives_bind fun _ => (gives_compoundRest inner h).bind fun _ inside => gives_pure (.compound inside)
  · exact gives_stuck

theorem gives_statement : (statement go).Gives AllNamed := by
  have one {p : Parser Statement} (h : p.Gives Statement.Named) : Gives (do return [← p]) AllNamed :=
    h.bind fun _ named => gives_pure (List.forall_mem_singleton.2 named)
  refine gives_bind fun t => ?_
  split
  · exact one (gives_decorated inner)
  · exact one (gives_definition inner [])
  · exact one (gives_definition inner [])
  · exact (one (gives_definition inner [])).orElse (gives_bind fun _ =>
      one ((gives_compound inner "for").orElse (gives_compound inner "with")))
  · exact (one (gives_matchBlock inner)).orElse gives_simpleStatements
  · split
    · exact one (gives_compound inner _)
    · exact gives_simpleStatements
  · exact gives_simpleStatements

theorem gives_statements : (statements go).Gives AllNamed :=
  (gives_statement inner).some1.bind fun _ each => gives_pure fun s member => by
    obtain ⟨ss, listed, member⟩ := List.mem_flatten.1 member
    exact each ss listed s member

end Rule

open TaskCatalog.Code.Parser

theorem gives_rulesWithin (depth : Nat) : (rulesWithin depth .statements).Gives AllNamed := by
  induction depth with
  | zero => exact gives_stuck
  | succ depth ih => exact Rule.gives_statements ih

theorem named_of_parse {source : List Char} {ss : List Statement} (h : parse source = .ok ss) : AllNamed ss := by
  unfold parse at h
  split at h
  · cases h
  · rw [TaskCatalog.Outcome.mapError_eq_ok] at h
    have whole : (wholeFile (rulesWithin (8 * source.length + 8))).Gives AllNamed :=
      (gives_rulesWithin _).optional.bind fun _ named => gives_bind fun _ => gives_pure (Rule.allNamed_getD named)
    unfold Parser.run at h
    split at h
    · next given =>
      cases h
      exact whole _ _ _ _ _ _ (isNamed_tokensOf 1 source) given
    · cases h
    · split at h <;> cases h

end TaskCatalog.Code
