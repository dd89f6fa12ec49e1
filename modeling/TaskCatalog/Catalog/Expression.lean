import TaskCatalog.Text.Blank
import TaskCatalog.Text.Word

/-!
Expressions of parameters: any text with references in it. A reference stands between a dollar sign
with an opening brace and the next closing brace, and names a dotted path.
-/

namespace TaskCatalog

open Text

namespace Expression

def reference? : Text → Option Text
  | .scalar '$' :: .scalar '\x7b' :: rest =>
    let path := rest.takeWhile (· ≠ .scalar '\x7d')
    if path.length < rest.length then some path else none
  | _ => none

/-- The texts of the references, from left to right, after `skip` letters. -/
def references (skip : Nat) : Text → List Text
  | [] => []
  | l :: rest =>
    match skip with
    | skip + 1 => references skip rest
    | 0 =>
      match reference? (l :: rest) with
      | some path => path :: references (path.length + 2) rest
      | none => references 0 rest

def remainder (skip : Nat) : Text → Text
  | [] => []
  | l :: rest =>
    match skip with
    | skip + 1 => remainder skip rest
    | 0 =>
      match reference? (l :: rest) with
      | some path => remainder (path.length + 2) rest
      | none => l :: remainder 0 rest

def isNameStart (l : Letter) : Bool := l.satisfies fun c => c.isAlpha || c == '_'

def isNamePart (l : Letter) : Bool := l.satisfies fun c => isWord c || c == '-'

def isName : Text → Bool
  | [] => false
  | l :: rest => isNameStart l && rest.all isNamePart

def isPath (t : Text) : Bool := (splitOn (.scalar '.') t).all isName

inductive Fault where
  | blank
  | emptyReference
  | malformedReference (path : Text)
  | unclosed
  deriving DecidableEq, Repr

def Fault.message (expression : Text) : Fault → Text
  | blank => "expression is blank"
  | emptyReference => "empty reference in expression '" ++ expression ++ "'"
  | malformedReference path =>
    "malformed reference '$\x7b" ++ path ++ "\x7d' in expression '" ++ expression ++ "'"
  | unclosed => "unclosed reference in expression '" ++ expression ++ "'"

def pathFault? (reference : Text) : Option Fault :=
  let path := trim reference
  if path.isEmpty then some .emptyReference
  else if isPath path then none
  else some (.malformedReference path)

def fault? (t : Text) : Option Fault :=
  if isAllBlank t then some .blank
  else match (references 0 t).findSome? pathFault? with
    | some fault => some fault
    | none => if includes "$\x7b" (remainder 0 t) then some .unclosed else none

end Expression

end TaskCatalog
