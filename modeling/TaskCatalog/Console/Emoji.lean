import TaskCatalog.Console.EmojiTable
import TaskCatalog.Text.Blank
import TaskCatalog.Text.CodeRange
import TaskCatalog.Text.LowerCase

/-!
Emoji by their short names: a name between two colons is shown as its emoji, and every other text as
it stands.
-/

namespace TaskCatalog.Markup

open Text

structure Emoji where
  name : Text
  codes : List Nat
  /-- Whether there is a form of it in each skin tone. -/
  hasTones : Bool
  deriving DecidableEq, Repr

def Emoji.ofWord (cs : List Char) : Emoji :=
  let (name, codes) := cutAt '=' cs
  { name := ofChars (name.filter (· != '~')), codes := codeList 0 codes, hasTones := name.contains '~' }

def emojis : List Emoji := (tableWords [] emojiTable.toList).map Emoji.ofWord

/-- The endings of the names in a skin tone, and the code of the tone. -/
def skinTones : List (Text × Nat) := [
  ("_light_skin_tone", 0x1F3FB), ("_medium-light_skin_tone", 0x1F3FC), ("_medium_skin_tone", 0x1F3FD),
  ("_medium-dark_skin_tone", 0x1F3FE), ("_dark_skin_tone", 0x1F3FF)]

/-- The endings behind a name that ask for a way to show it, and the code that does. -/
def presentations : List (Text × Nat) := [("-emoji", 0xFE0F), ("-text", 0xFE0E)]

def before? (ending t : Text) : Option Text :=
  if ending.isSuffixOf t then some (t.take (t.length - ending.length)) else none

/-- The first ending of a text that a list knows: what stands in front of it, and its code. -/
def ending? (endings : List (Text × Nat)) (t : Text) : Option (Text × Nat) :=
  endings.findSome? fun (ending, code) => (before? ending t).map fun front => (front, code)

/-- A skin tone follows the first code, in place of a request to show it as an emoji. -/
def inTone (tone : Nat) : List Nat → List Nat
  | [] => []
  | code :: 0xFE0F :: rest => code :: tone :: rest
  | code :: rest => code :: tone :: rest

def emojiCodes? (name : Text) : Option (List Nat) :=
  match emojis.find? (·.name == name) with
  | some emoji => some emoji.codes
  | none =>
    (ending? skinTones name).bind fun (front, tone) =>
      (emojis.find? fun emoji => emoji.hasTones && emoji.name == front).map fun emoji =>
        inTone tone emoji.codes

/-- The emoji of what stands between two colons: a name in any case and a way to show it. -/
def emoji? (content : Text) : Option Text :=
  let (name, presentation) := match ending? presentations content with
    | some (name, code) => (name, [code])
    | none => (content, [])
  (emojiCodes? (lower name)).map fun codes => (codes ++ presentation).filterMap Letter.ofCode?

def colon : Letter := .scalar ':'

/-- What is in a name: letters up to a colon or a blank. -/
def isInName (l : Letter) : Bool := l != colon && !isBlank l

/-- What stands between two colons at the front of a text, and what follows them. -/
def named? : Text → Option (Text × Text)
  | [] => none
  | l :: rest =>
    let after := rest.dropWhile isInName
    if l = colon ∧ after.head? = some colon then some (rest.takeWhile isInName, after.drop 1) else none

theorem named?_rest_length {t content rest : Text} (h : named? t = some (content, rest)) :
    rest.length < t.length := by
  cases t with
  | nil => simp [named?] at h
  | cons l tail =>
    have s := (List.dropWhile_sublist isInName (l := tail)).length_le
    simp only [named?, Option.ite_none_right_eq_some, Option.some.injEq, Prod.mk.injEq] at h
    rw [← h.2.2, List.length_drop, List.length_cons]
    omega

theorem named?_cons_of_ne {l : Letter} (h : l ≠ colon) (t : Text) : named? (l :: t) = none := by
  simp [named?, h]

def withEmoji (t : Text) : Text :=
  match t with
  | [] => []
  | l :: rest =>
    match h : named? (l :: rest) with
    | some (content, after) =>
      have := named?_rest_length h
      (emoji? content).getD (colon :: content ++ [colon]) ++ withEmoji after
    | none => l :: withEmoji rest
termination_by t.length
decreasing_by
  · exact this
  · exact Nat.lt_succ_self rest.length

/-- A text without colons has no names in it. -/
theorem withEmoji_of_not_mem {t : Text} (h : colon ∉ t) : withEmoji t = t := by
  induction t with
  | nil => rw [withEmoji]
  | cons l t ih =>
    simp only [List.mem_cons, not_or] at h
    unfold withEmoji
    split
    · rename_i h₁
      rw [named?_cons_of_ne (Ne.symm h.1)] at h₁
      simp at h₁
    · rw [ih h.2]

end TaskCatalog.Markup
