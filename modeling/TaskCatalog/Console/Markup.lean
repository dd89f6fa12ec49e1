import TaskCatalog.Console.Emoji
import TaskCatalog.Failure

/-!
Markup for the console. Tags in brackets switch styles on and off and are not shown; backslashes
before the bracket keep one as it stands. Names of emoji between colons become the emoji. What is shown
has no styles here.
-/

namespace TaskCatalog.Markup

open Text

/-- A piece of a text with markup. -/
inductive Piece where
  | shown (t : Text)
  /-- What stands between the brackets of a tag. -/
  | tag (content : Text)
  deriving DecidableEq

def backslash : Letter := .scalar '\\'

def isBackslash (l : Letter) : Bool := l == backslash

def isBracket (l : Letter) : Bool := l == .scalar '[' || l == .scalar ']'

/-- Small letters of ASCII, and the signs of a closing tag, a colour and an action. -/
def startsTag (l : Letter) : Bool :=
  l.satisfies fun c => c.isLower || c == '#' || c == '/' || c == '@'

/-- The content of the tag at the front, and the rest. -/
def tag? : Text → Option (Text × Text)
  | .scalar '[' :: l :: rest =>
    match rest.dropWhile (!isBracket ·) with
    | .scalar ']' :: after =>
      if startsTag l then some (l :: rest.takeWhile (!isBracket ·), after) else none
    | _ => none
  | _ => none

theorem tag?_rest_length {t content rest : Text} (h : tag? t = some (content, rest)) :
    rest.length < t.length := by
  unfold tag? at h
  split at h
  · rename_i _ _ tail
    split at h
    · rename_i _ _ h₁
      split at h
      · have s := (List.dropWhile_sublist (!isBracket ·) (l := tail)).length_le
        simp only [Option.some.injEq, Prod.mk.injEq] at h
        rw [h₁] at s
        simp only [List.length_cons] at s ⊢
        rw [← h.2]
        omega
      · simp at h
    · simp at h
  · simp at h

/-- Backslashes and the tag behind them, at the front: how many, the tag's content, and the rest. -/
def marked? (t : Text) : Option (Nat × Text × Text) :=
  (tag? (t.dropWhile isBackslash)).map fun (content, rest) =>
    ((t.takeWhile isBackslash).length, content, rest)

theorem marked?_rest_length {t content rest : Text} {n : Nat} (h : marked? t = some (n, content, rest)) :
    rest.length < t.length := by
  simp only [marked?, Option.map_eq_some_iff, Prod.exists, Prod.mk.injEq] at h
  obtain ⟨_, _, h, _, _, rfl⟩ := h
  have := (List.dropWhile_sublist isBackslash (l := t)).length_le
  have := tag?_rest_length h
  omega

def bracketed (content : Text) : Text := "[" ++ content ++ "]"

/-- Two backslashes stand for one; an odd one before a tag keeps the tag. -/
def markedPieces (slashes : Nat) (content : Text) : List Piece :=
  [.shown (List.replicate (slashes / 2) backslash),
    if slashes % 2 = 1 then .shown (bracketed content) else .tag content]

/-- The pieces of a text after letters that are shown, which are in reverse. -/
def piecesAfter (run t : Text) : List Piece :=
  match h : marked? t with
  | some (slashes, content, rest) =>
    have := marked?_rest_length h
    .shown run.reverse :: (markedPieces slashes content ++ piecesAfter [] rest)
  | none =>
    match t with
    | [] => [.shown run.reverse]
    | l :: rest => piecesAfter (l :: run) rest
termination_by t.length

def pieces (t : Text) : List Piece := piecesAfter [] t

/-- A text whose tags are kept, so that it is shown as it stands. -/
def escape (t : Text) : Text :=
  let kept := go t
  match kept.reverse with
  | .scalar '\\' :: .scalar '\\' :: _ => kept
  | .scalar '\\' :: _ => kept ++ [backslash]
  | _ => kept
where
  go (t : Text) : Text :=
    match h : marked? t with
    | some (slashes, content, rest) =>
      have := marked?_rest_length h
      List.replicate (2 * slashes + 1) backslash ++ bracketed content ++ go rest
    | none =>
      match t with
      | [] => []
      | l :: rest => l :: go rest
  termination_by t.length

def abbreviations : List (Text × Text) := [
  ("b", "bold"), ("c", "conceal"), ("d", "dim"), ("i", "italic"), ("o", "overline"), ("r", "reverse"),
  ("s", "strike"), ("u", "underline"), ("uu", "underline2")]

def styleName (name : Text) : Text :=
  let name := lower (trim name)
  (abbreviations.lookup name).getD name

/-- The styles that are on after a tag, the last one first; none if it closes a style that is not on. -/
def switch? (on : List Text) (content : Text) : Option (List Text) :=
  match content.takeWhile (· != .scalar '=') with
  | .scalar '/' :: name =>
    match trim name, on with
    | [], [] => none
    | [], _ :: others => some others
    | name, on => if on.contains (styleName name) then some (on.erase (styleName name)) else none
  | name => some (styleName name :: on)

/-- A backslash before a bracket that opens no tag is not shown. -/
def unescape : Text → Text
  | .scalar '\\' :: .scalar '[' :: rest => .scalar '[' :: unescape rest
  | l :: rest => l :: unescape rest
  | [] => []

/-- Controls that would ring, step back or return are not shown. -/
def isControl (l : Letter) : Bool :=
  l.satisfies fun c => c.toNat == 7 || c.toNat == 8 || (11 ≤ c.toNat && c.toNat ≤ 13)

def shownText (t : Text) : Text := (withEmoji (unescape t)).filter (!isControl ·)

def shown? (on : List Text) : List Piece → Option Text
  | [] => some []
  | .shown t :: rest => (shown? on rest).map (shownText t ++ ·)
  | .tag content :: rest => (switch? on content).bind fun on => shown? on rest

def plain (t : Text) : Except Failure Text :=
  match shown? [] (pieces t) with
  | some shown => .ok shown
  | none => .error (.breakdown .badMarkup)

end TaskCatalog.Markup
