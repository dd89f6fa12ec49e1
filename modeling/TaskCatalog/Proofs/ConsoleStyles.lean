import TaskCatalog.Console.Markup
import TaskCatalog.Proofs.Outcome
import TaskCatalog.Proofs.TextLines

/-!
Which texts with markup are shown on the console: those in which every closing tag closes a style that is on. The tags
of texts that are put together are those of the parts, unless a tag is begun in one part and completed in the next.
-/

namespace TaskCatalog.Markup

open Text

def Piece.content? : Piece → Option Text
  | .tag content => some content
  | .shown _ => none

/-- What stands between the brackets of the tags in a text, one after the other. -/
def tags (t : Text) : List Text := (pieces t).filterMap Piece.content?

/-- What stands before the first equals sign. -/
def label (t : Text) : Text := t.takeWhile (· != .scalar '=')

variable {on after between : List Text} {content t u rest : Text} {l : Letter} {n : Nat} {contents more : List Text}

end TaskCatalog.Markup
