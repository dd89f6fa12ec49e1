import TaskCatalog.FileSystem.Path
import TaskCatalog.Text.Lines
import TaskCatalog.Text.LowerCase

/-!
Names and texts that a declaration leaves to be derived: the goal name from an identifier, the
module name from a path, the description from a documentation text.
-/

namespace TaskCatalog

open Text

/-- A dash between a small letter or digit and the capital after it. -/
def partWords : Text → Text
  | [] => []
  | l :: rest =>
    let isEnd := l.satisfies fun c => c.isLower || c.isDigit
    match rest with
    | next :: _ =>
      if isEnd && next.satisfies Char.isUpper then l :: .scalar '-' :: partWords rest
      else l :: partWords rest
    | [] => [l]

def isDash (l : Letter) : Bool := l == .scalar '-'

def squeezeDashes : Text → Text
  | [] => []
  | l :: rest =>
    if isDash l && (rest.head?.any isDash) then squeezeDashes rest else l :: squeezeDashes rest

def trimDashes (t : Text) : Text := ((t.dropWhile isDash).reverse.dropWhile isDash).reverse

def taskEnding : Text := "-task"

/-- The goal name of a class or function: its words in lower case, joined by dashes, without a last word `task`. -/
def defaultGoalName (identifier : Text) : Text :=
  let words := trimDashes (squeezeDashes
    (lower ((partWords identifier).map fun l => if l = .scalar '_' then .scalar '-' else l)))
  let name := if taskEnding.isSuffixOf words then words.take (words.length - taskEnding.length) else words
  if name.isEmpty then lower identifier else name

def packageMarker : Text := "__init__"

/-- The dotted name of the module in a file below a root; none if the file is not below it. -/
def moduleName? (root path : Path) : Option Text := do
  let relative ← path.relativeTo? root
  let last ← relative.getLast?
  let parts := relative.dropLast ++ [Path.dropSuffix last]
  return join "." (if parts.getLast? = some packageMarker then parts.dropLast else parts)

/-- The lines of the first paragraph, without the blanks around them; a tag ends it. -/
def paragraphLines : List Text → List Text
  | [] => []
  | line :: rest =>
    match trim line with
    | [] => []
    | .scalar '@' :: _ => []
    | stripped => stripped :: paragraphLines rest

/-- The first paragraph of a documentation text in one line. -/
def firstParagraph (t : Text) : Option Text :=
  match paragraphLines (lines (trim t)) with
  | [] => none
  | ls => some (join " " ls)

end TaskCatalog
