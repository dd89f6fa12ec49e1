import TaskCatalog.Text.Basic

/-!
Paths as lists of parts. Empty parts and single dots vanish on reading; a double dot stays, since
what it means depends on links.
-/

namespace TaskCatalog

open Text

structure Path where
  absolute : Bool
  parts : List Text
  deriving DecidableEq, Repr, Inhabited

namespace Path

def dot : Text := "."

def dotDot : Text := ".."

def partsOf (t : Text) : List Text :=
  (splitOn (.scalar '/') t).filter fun part => !part.isEmpty && part != dot

def ofText (t : Text) : Path := ⟨t.head? = some (.scalar '/'), partsOf t⟩

/-- The names that a link leads along. A target with a slash or a single dot at its end leads to a directory or to
nothing, and the dot stays to say so. -/
def linkNames (target : Text) : List Text :=
  let closed := (splitOn (.scalar '/') target).getLast?.any fun last => last.isEmpty || last == dot
  if closed then partsOf target ++ [dot] else partsOf target

def text (p : Path) : Text :=
  if p.absolute then .scalar '/' :: join "/" p.parts
  else if p.parts.isEmpty then dot
  else join "/" p.parts

/-- A path below another; an absolute one stands for itself. -/
def append (p q : Path) : Path := if q.absolute then q else ⟨p.absolute, p.parts ++ q.parts⟩

instance : Append Path := ⟨append⟩

def parent (p : Path) : Path := ⟨p.absolute, p.parts.dropLast⟩

def name? (p : Path) : Option Text := p.parts.getLast?

def relativeTo? (p base : Path) : Option (List Text) :=
  if p.absolute = base.absolute then
    if base.parts.isPrefixOf p.parts then some (p.parts.drop base.parts.length) else none
  else none

theorem relativeTo?_append (p : Path) (parts : List Text) :
    relativeTo? ⟨p.absolute, p.parts ++ parts⟩ p = some parts := by
  simp [relativeTo?]

/-- A file name without its last suffix; a dot at either end of the name begins no suffix. -/
def dropSuffix (name : Text) : Text :=
  let suffix := name.reverse.takeWhile (· ≠ .scalar '.')
  let stem := name.take (name.length - suffix.length - 1)
  if suffix.isEmpty || suffix.length = name.length || stem.isEmpty then name else stem

/-- Ascending order of the parts, one after the other. -/
def le (p q : Path) : Bool :=
  match p.absolute, q.absolute with
  | true, true | false, false => decide (p.parts ≤ q.parts)
  | true, false => true
  | false, true => false

end Path

end TaskCatalog
