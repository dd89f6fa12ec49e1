import TaskCatalog.Text.Blank

/-!
The prefix under which a plugin's goals are invoked. By convention it is the artifact id without the
tokens that mark a plugin; a project may override it.
-/

namespace TaskCatalog

open Text

namespace GoalPrefix

/-- The length of a token at the front of a text, with a dash before it and a dash after it. -/
def tokenLength? (token t : Text) : Option Nat :=
  let bare? (t : Text) : Option Nat :=
    if token.isPrefixOf t then
      some (token.length + if (t.drop token.length).head? = some (.scalar '-') then 1 else 0)
    else none
  match t with
  | .scalar '-' :: rest => (bare? rest).map (· + 1)
  | _ => bare? t

/-- Leaves out `skip` letters, then every token with its dashes, from left to right. -/
def strip (token : Text) : Nat → Text → Text
  | _, [] => []
  | skip + 1, _ :: rest => strip token skip rest
  | 0, l :: rest =>
    match tokenLength? token (l :: rest) with
    | some n => strip token (n - 1) rest
    | none => l :: strip token 0 rest

def pluginPlugin : Text := "maven-plugin-plugin"

def derive (artifactId : Text) : Text :=
  if artifactId = pluginPlugin then "plugin"
  else strip "plugin" 0 (strip "maven" 0 artifactId)

inductive Fault where
  | empty
  | separator
  | whitespace
  deriving DecidableEq, Repr

def Fault.message (goalPrefix : Text) : Fault → Text
  | empty => "goal prefix must not be empty"
  | separator => "goal prefix '" ++ goalPrefix ++ "' must not contain path separators"
  | whitespace => "goal prefix '" ++ goalPrefix ++ "' must not contain whitespace"

def isSeparator (l : Letter) : Bool := l == .scalar '/' || l == .scalar '\\'

def fault? (t : Text) : Option Fault :=
  if t.isEmpty then some .empty
  else if t.any isSeparator then some .separator
  else if t.any isBlank then some .whitespace
  else none

theorem fault?_eq_none_iff {t : Text} :
    fault? t = none ↔ t ≠ [] ∧ ∀ l ∈ t, isSeparator l = false ∧ isBlank l = false := by
  cases t with
  | nil => simp [fault?]
  | cons l t =>
    simp only [fault?, List.isEmpty_cons, Bool.false_eq_true, if_false]
    grind

end GoalPrefix

/-- The prefix of a run, what it would be by convention, and a warning where the two differ. -/
structure GoalPrefix where
  value : Text
  default : Text
  warning : Option Text
  deriving DecidableEq

namespace GoalPrefix

def overridden (p : GoalPrefix) : Bool := p.value != p.default

def mismatch (override default : Text) : Text :=
  "Goal prefix is specified as: '" ++ override ++ "'. Expected it to be '" ++ default ++ "'."

def resolve (artifactId override : Option Text) : Except (Fault × Text) GoalPrefix :=
  let default := derive (artifactId.getD [])
  match override with
  | none => .ok ⟨default, default, none⟩
  | some value =>
    match fault? value with
    | some fault => .error (fault, value)
    | none =>
      if value = default then .ok ⟨value, default, none⟩
      else .ok ⟨value, default, some (mismatch value default)⟩

end GoalPrefix

end TaskCatalog
