import TaskCatalog.Sources.Site
import TaskCatalog.Text.Lines
import TaskCatalog.Text.LowerCase
import TaskCatalog.Text.Word

/-!
Tags of a documentation text: lines that start with a name behind an `@`, with a value after it.
-/

namespace TaskCatalog

open Text

/-- The names of tags with their values. -/
abbrev Tags := List (Text × Text)

namespace Tags

def get? (tags : Tags) (name : Text) : Option Text := tags.lookup name

def isNameLetter (l : Letter) : Bool := l.satisfies fun c => isWord c || c == '-'

def startsName (t : Text) : Bool := t.head?.any (·.satisfies Char.isAlpha)

/-- The tag of a line, which starts with an `@` and has no blanks around it. -/
def ofLine? (line : Text) : Option (Text × Text) :=
  let t := line.drop 1
  let after := t.dropWhile isNameLetter
  if startsName t && after.head?.all isBlank then some (t.takeWhile isNameLetter, trim after) else none

def add (s : Site) (tags : Tags) : List Text → Except Failure Tags
  | [] => .ok tags
  | line :: rest =>
    match ofLine? line with
    | none => s.fail (.malformedTag line)
    | some (name, value) =>
      if (tags.get? name).isSome then s.fail (.repeatedTag name) else add s (tags ++ [(name, value)]) rest

/-- The tags of a documentation text, each of them given once. -/
def ofText (s : Site) (documentation : Text) : Except Failure Tags :=
  add s [] (((lines documentation).map trim).filter fun line => line.head? == some (.scalar '@'))

/-- The names that are not among the known ones, in order. -/
def unknown (known : List Text) (tags : Tags) : List Text :=
  Text.sort ((tags.map (·.1)).filter fun n => !known.contains n)

/-- The value of a tag that says yes or no; a tag without a value says yes. -/
def flag (s : Site) (tags : Tags) (name : Text) (absent : Bool) : Except Failure Bool :=
  match tags.get? name with
  | none => .ok absent
  | some value =>
    let word := lower value
    if word = [] ∨ word = "true" then .ok true
    else if word = "false" then .ok false
    else s.fail (.unclearFlag name value)

/-- Whether a tag of this name starts a line, be it malformed or longer; `fresh` tells if nothing but
blanks has come since the line began. -/
def occursFrom (name : Text) (fresh : Bool) : Text → Bool
  | [] => false
  | l :: rest =>
    (fresh && l == .scalar '@' && name.isPrefixOf rest
        && !((rest.drop name.length).head?.any (·.satisfies isWord)))
      || occursFrom name (l == .scalar '\n' || (fresh && isBlank l)) rest

def occurs (name documentation : Text) : Bool := occursFrom name true documentation

end Tags

/-! Attributes of a tag's value: names with quoted values. -/

namespace Attributes

def take? (t : Text) : Option ((Text × Text) × Text) :=
  if Tags.startsName t then
    match t.dropWhile Tags.isNameLetter with
    | .scalar '=' :: .scalar '"' :: rest =>
      match rest.dropWhile (· != .scalar '"') with
      | _ :: after => some ((t.takeWhile Tags.isNameLetter, rest.takeWhile (· != .scalar '"')), after)
      | [] => none
    | _ => none
  else none

theorem take?_rest_length {t rest : Text} {a : Text × Text} (h : take? t = some (a, rest)) :
    rest.length < t.length := by
  unfold take? at h
  split at h
  · split at h
    · rename_i _ after h₁
      split at h
      · rename_i _ _ _ h₂
        have s₁ := (List.dropWhile_sublist Tags.isNameLetter (l := t)).length_le
        have s₂ := (List.dropWhile_sublist (· != .scalar '"') (l := after)).length_le
        simp only [Option.some.injEq, Prod.mk.injEq] at h
        rw [h₁] at s₁
        rw [h₂] at s₂
        simp only [List.length_cons] at s₁ s₂
        rw [← h.2]
        omega
      · simp at h
    · simp at h
  · simp at h

/-- The attributes in a text, and what is left of it without them. -/
def split (t : Text) : Tags × Text :=
  match h : take? t with
  | some (a, rest) =>
    have := take?_rest_length h
    let (more, leftover) := split rest
    (a :: more, leftover)
  | none =>
    match t with
    | [] => ([], [])
    | l :: rest =>
      let (more, leftover) := split rest
      (more, l :: leftover)
termination_by t.length

/-- The attributes in a text that holds nothing else; of one name only the last counts. -/
def ofText (s : Site) (known : List Text) (t : Text) : Except Failure Tags :=
  let (attributes, leftover) := split t
  match trim leftover with
  | [] =>
    match (Tags.unknown known attributes).eraseDups with
    | [] => .ok attributes.reverse
    | names => s.fail (.unknownAttributes names)
  | leftover => s.fail (.malformedAttributes leftover)

end Attributes

end TaskCatalog
