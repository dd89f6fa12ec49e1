import TaskCatalog.Text.Blank
import TaskCatalog.Text.Width

/-!
Paragraphs in a number of columns. Words that do not fit go to the next line, and a word that fits
on no line is folded or cut.
-/

namespace TaskCatalog.Paragraph

open Text

/-- A word with the blanks around it that belong to it: those after it, and at the front also those before. -/
def wordsAfter (front : Text) : Text → List Text
  | [] => if front.all isBlank then [] else [front.reverse]
  | l :: rest =>
    if !isBlank l && front.any (!isBlank ·) && front.head?.any isBlank then
      front.reverse :: wordsAfter [l] rest
    else wordsAfter (l :: front) rest

/-- The words of a line, which put together are the line; a blank line has none. -/
def words (line : Text) : List Text := wordsAfter [] line

/-- Pieces of a word that fit in `limit` columns; `piece` is the one begun, in reverse. -/
def chopAfter (limit : Nat) (piece : Text) : Text → List Text
  | [] => [piece.reverse]
  | l :: rest =>
    if limit < width piece + letterWidth l then piece.reverse :: chopAfter limit [l] rest
    else chopAfter limit (l :: piece) rest

def chop (limit : Nat) (word : Text) : List Text := chopAfter limit [] word

/-- Adds words to the lines; the line begun comes last. -/
def fillAfter (limit : Nat) (line : Text) : List Text → List Text
  | [] => [line]
  | word :: rest =>
    let needed := width (trimRight word)
    if width line + needed ≤ limit then fillAfter limit (line ++ word) rest
    else if limit < needed then
      let folded := chop limit word
      let before := if line.isEmpty then [] else [line]
      before ++ folded.dropLast ++ fillAfter limit (folded.getLast?.getD []) rest
    else line :: fillAfter limit word rest

/-- Blanks at the end that are too many for the line are dropped. -/
def dropExcess (limit : Nat) (line : Text) : Text :=
  let blanks := line.length - (trimRight line).length
  line.take (line.length - min blanks (line.length - limit))

/-- The longest front of a text that fits in some columns. -/
def fitting (limit : Nat) : Text → Text
  | [] => []
  | l :: rest => if letterWidth l ≤ limit then l :: fitting (limit - letterWidth l) rest else []

def padTo (columns : Nat) (t : Text) : Text :=
  t ++ List.replicate (columns - width t) (.scalar ' ')

def cut (limit : Nat) (t : Text) : Text :=
  if width t ≤ limit then t else padTo limit (fitting limit t)

def cutMarked (limit : Nat) (t : Text) : Text :=
  if width t ≤ limit then t else padTo (limit - 1) (fitting (limit - 1) t) ++ "…"

/-- The tabs of a line as blanks up to the next column that is a multiple of eight. -/
def spreadTabs (column : Nat) : Text → Text
  | [] => []
  | l :: rest =>
    if l = .scalar '\t' then
      List.replicate (8 - column % 8) (.scalar ' ') ++ spreadTabs (column + (8 - column % 8)) rest
    else l :: spreadTabs (column + letterWidth l) rest

def wrapLine (limit : Nat) (line : Text) : List Text :=
  let line := spreadTabs 0 line
  match words line with
  | [] => [cut limit (dropExcess limit line)]
  | ws => (fillAfter limit [] ws).map fun l => cut limit (dropExcess limit l)

def wrap (limit : Nat) (t : Text) : List Text := (splitOn (.scalar '\n') t).flatMap (wrapLine limit)

def centred (columns : Nat) (line : Text) : Text :=
  let line := trimRight line
  padTo columns (List.replicate ((columns - width line) / 2) (.scalar ' ') ++ line)

theorem letterWidth_blank : letterWidth (.scalar ' ') = 1 := by decide

theorem width_replicate_blank (n : Nat) : width (List.replicate n (.scalar ' ')) = n := by
  induction n with
  | zero => rfl
  | succ n ih => simp [List.replicate_succ, ih, letterWidth_blank, Nat.add_comm]

theorem width_padTo {columns : Nat} {t : Text} (h : width t ≤ columns) : width (padTo columns t) = columns := by
  simp only [padTo, width_append, width_replicate_blank]
  omega

theorem width_fitting_le (limit : Nat) (t : Text) : width (fitting limit t) ≤ limit := by
  induction t generalizing limit with
  | nil => simp [fitting]
  | cons l t ih =>
    unfold fitting
    split
    · have := ih (limit - letterWidth l)
      simp only [width_cons]
      omega
    · simp

theorem width_cut_le (limit : Nat) (t : Text) : width (cut limit t) ≤ limit := by
  unfold cut
  split
  · assumption
  · exact Nat.le_of_eq (width_padTo (width_fitting_le limit t))

/-- No line of a wrapped text is wider than the columns allow. -/
theorem width_le_of_mem_wrap {limit : Nat} {t line : Text} (h : line ∈ wrap limit t) :
    width line ≤ limit := by
  simp only [wrap, List.mem_flatMap, wrapLine] at h
  obtain ⟨_, _, h⟩ := h
  split at h
  · simp only [List.mem_singleton] at h
    exact h ▸ width_cut_le _ _
  · simp only [List.mem_map] at h
    obtain ⟨_, _, rfl⟩ := h
    exact width_cut_le _ _

end TaskCatalog.Paragraph
