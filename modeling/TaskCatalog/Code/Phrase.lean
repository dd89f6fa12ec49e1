import TaskCatalog.Code.Parser
import TaskCatalog.Code.Tree

/-!
The phrases that can contain themselves. Every rule is given the rules for these phrases, so that a
rule by itself ends; the rules are tied together by a depth that no text exceeds. Expressions are kept
as they were read, with what it takes to tell a fault: the line on which one begins, and the line of
its first part that cannot be a target.
-/

namespace TaskCatalog.Code

/-- What is done with a target. -/
inductive TargetUse where
  | assign
  | delete
  /-- It gets a value in every turn of a loop. -/
  | loop
  deriving DecidableEq, Repr

structure Placed where
  expression : Expression
  /-- The line on which it begins; parentheses around it do not count. -/
  line : Nat
  /-- The line of the first part that cannot be a target. -/
  refused : TargetUse → Option Nat

instance : Inhabited Placed := ⟨⟨default, 0, fun _ => none⟩⟩

namespace Placed

def value (line : Nat) (e : Expression) : Placed := ⟨e, line, fun _ => some line⟩

def place (line : Nat) (e : Expression) : Placed := ⟨e, line, fun _ => none⟩

def display (line : Nat) (build : List Expression → Expression) (items : List Placed) : Placed :=
  ⟨build (items.map (·.expression)), line, fun use => items.findSome? (·.refused use)⟩

def starred (line : Nat) (p : Placed) : Placed :=
  ⟨.starred p.expression, line, fun use => if use = .delete then some line else p.refused use⟩

/-- What looks like a comparison can be the head of a loop, with the targets before the first `in`. -/
def comparison (line : Nat) (first : Placed) (links : List Link) : Placed :=
  ⟨.comparison first.expression links, line, fun use =>
    match use, links with
    | .loop, .mk .within _ :: _ => first.refused .loop
    | .loop, _ => none
    | _, _ => some line⟩

def isTarget (p : Placed) (use : TargetUse) : Bool := (p.refused use).isNone

@[simp] theorem isTarget_value (line : Nat) (e : Expression) (use : TargetUse) :
    (value line e).isTarget use = false := rfl

@[simp] theorem isTarget_place (line : Nat) (e : Expression) (use : TargetUse) :
    (place line e).isTarget use = true := rfl

theorem isTarget_display (line : Nat) (build : List Expression → Expression) (items : List Placed)
    (use : TargetUse) : (display line build items).isTarget use = items.all (·.isTarget use) := by
  induction items with
  | nil => rfl
  | cons p ps ih =>
    simp only [isTarget, display, List.findSome?_cons, List.all_cons] at ih ⊢
    cases h : p.refused use <;> simp_all

def isStarred (p : Placed) : Bool :=
  match p.expression with
  | .starred _ => true
  | _ => false

/-- Whether it is one place, which can be annotated or changed. -/
def isPlace (p : Placed) : Bool :=
  match p.expression with
  | .name _ | .member .. | .item .. => true
  | _ => false

end Placed

inductive Phrase where
  /-- An expression that may get a name on the way. -/
  | named
  | expression
  | inversion
  | factor
  | primary
  | pattern
  | statements
  deriving DecidableEq, Repr

/-- What a rule gives; of a pattern only the line on which it begins is kept. -/
abbrev Phrase.Result : Phrase → Type
  | pattern => Nat
  | statements => List Statement
  | named | expression | inversion | factor | primary => Placed

abbrev Rules := (p : Phrase) → Parser p.Result

end TaskCatalog.Code
