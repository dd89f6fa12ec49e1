import TaskCatalog.Code.Print
import TaskCatalog.Code.StatementRule
import TaskCatalog.Log
import TaskCatalog.Sources.Conventions
import TaskCatalog.Sources.Naming
import TaskCatalog.Sources.Site

/-!
The source files of a plugin as modules: what they declare, under which name, and with what
documentation.
-/

namespace TaskCatalog

open Text

/-- A source file that was read. -/
structure Module where
  file : Path
  name : Text
  statements : List Code.Statement

namespace Module

def suffix : Text := ".py"

/-- The module of a file; none if a mark that every declaration has does not occur in it. -/
def read? (s : Sources) (strategy mark : Text) (root file : Path) : Except Failure (Option Module) :=
  let site : Site := ⟨strategy, file.text⟩
  match Sources.readText s.fs s.conventions.sourceEncoding file with
  | .error (.read cause) => site.fail (.unreadableSource cause)
  | .error (.breakdown b) => .error (.breakdown b)
  | .ok chars =>
    if includes mark (ofChars chars) then
      match Code.parse chars with
      | .ok statements => .ok (some ⟨file, (moduleName? root file).getD [], statements⟩)
      | .error (.line n) => site.fail (.syntaxError n)
      | .error .zeroCharacter => .error (.breakdown .badValue)
    else .ok none

/-- The text of a statement that is nothing but a text. -/
def textOf? : Code.Statement → Option Text
  | .expression (.constant (.text t) _) => some t
  | _ => none

/-- The documentation of a class or function, without its margin. -/
def documentation? (body : List Code.Statement) : Option Text :=
  (body.head?.bind textOf?).map dedent

def annotationText (e : Code.Expression) : Except Failure Text :=
  match e.text? with
  | some t => .ok t
  | none => .error (.breakdown .badValue)

end Module

end TaskCatalog
