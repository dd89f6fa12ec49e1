import TaskCatalog.Text.Blank
import TaskCatalog.Text.Word

/-!
Goal names. A goal name also names a file, so it is a plain token: it begins with a letter or digit
of ASCII, goes on with word characters, dots and dashes, and holds no two dots in a row.
-/

namespace TaskCatalog

open Text

namespace GoalName

inductive Fault where
  | blank
  | whitespace
  | characters
  deriving DecidableEq, Repr

def Fault.message (name : Text) : Fault → Text
  | blank => "task name must not be blank"
  | whitespace => "task name '" ++ name ++ "' must not contain whitespace"
  | characters =>
    "task name '" ++ name ++ "' may only contain letters, digits, '_', '-' and '.'"

def isPart (l : Letter) : Bool := l.satisfies fun c => isWord c || c == '.' || c == '-'

def hasShape : Text → Bool
  | [] => false
  | l :: rest => l.satisfies Char.isAlphanum && rest.all isPart

def fault? (t : Text) : Option Fault :=
  if isAllBlank t then some .blank
  else if t.any isBlank then some .whitespace
  else if hasShape t && !includes ".." t then none
  else some .characters

end GoalName

structure GoalName where
  text : Text
  valid : GoalName.fault? text = none
  deriving DecidableEq, Repr

namespace GoalName

theorem hasShape_of_fault? {t : Text} (h : fault? t = none) : hasShape t := by
  simp only [fault?] at h
  split at h <;> try simp at h
  split at h <;> try simp at h
  exact h.1

theorem not_includes_of_fault? {t : Text} (h : fault? t = none) : includes ".." t = false := by
  simp only [fault?] at h
  split at h <;> try simp at h
  split at h <;> try simp at h
  exact h.2

theorem ne_nil (n : GoalName) : n.text ≠ [] := by
  intro h
  have := hasShape_of_fault? n.valid
  simp [h, hasShape] at this

end GoalName

end TaskCatalog
