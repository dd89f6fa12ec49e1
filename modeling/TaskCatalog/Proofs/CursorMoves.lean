import TaskCatalog.Yaml.ScalarText
import Mathlib.Data.List.Basic

/-!
How a place in a metadata document moves over what is written there: over characters of one line,
over a line feed and the blanks after it, and over runs of one class.
-/

namespace TaskCatalog.Yaml

/-- Characters that take one column each. -/
def OneLine (w : List Char) : Prop := ∀ ch ∈ w, isBreak ch = false ∧ ch ≠ '\uFEFF'

theorem OneLine.append {u w : List Char} (hu : OneLine u) (hw : OneLine w) : OneLine (u ++ w) :=
  fun ch h => (List.mem_append.1 h).elim (hu ch) (hw ch)

theorem oneLine_blanks (n : Nat) : OneLine (List.replicate n ' ') := by
  intro ch h
  obtain rfl := List.eq_of_mem_replicate h
  decide

/-- What a line begins with after its indentation: neither a comment nor a mark between documents. -/
structure BeginsLine (next : List Char) : Prop where
  solid : next.head?.any (fun ch => ch == '#' || Cursor.isBreakOrBlank ch) = false
  unmarked : ∀ c : Cursor, c.rest = next → c.isAnyMark = false

theorem beginsLine_nil : BeginsLine [] where
  solid := rfl
  unmarked c h := by simp [Cursor.isAnyMark, Cursor.isMark, h]

namespace BeginsLine

variable {next : List Char}

theorem not_blank (h : BeginsLine next) : next.head?.any (· == ' ') = false := by
  cases next with
  | nil => rfl
  | cons ch rest => simpa using fun eq => by simpa [eq, Cursor.isBreakOrBlank, isSpaceOrTab] using h.solid

theorem not_break (h : BeginsLine next) : next.head?.any isBreak = false := by
  cases next with
  | nil => rfl
  | cons ch rest =>
    have solid := h.solid
    simp only [List.head?_cons, Option.any_some, Cursor.isBreakOrBlank, Bool.or_eq_false_iff] at solid ⊢
    exact solid.2.2

end BeginsLine

namespace Cursor

variable {c : Cursor} {w tail next : List Char} {ch : Char} {p : Char → Bool} {k : Nat}

theorem skip_add (c : Cursor) (m n : Nat) : c.skip (m + n) = (c.skip m).skip n := by
  induction m generalizing c with
  | zero => rw [Nat.zero_add]; rfl
  | succ m ih => rw [Nat.succ_add]; exact ih c.advance

theorem skip_of_append (h : c.rest = w ++ tail) : (c.skip w.length).rest = tail := by
  rw [skip_rest, h, List.drop_left]

theorem advance_of_cons (h : c.rest = ch :: tail) : c.advance.rest = tail := by
  rw [advance_rest, h]; rfl

theorem skip_oneLine (h : c.rest = w ++ tail) (one : OneLine w) :
    c.skip w.length = ⟨tail, c.index + w.length, c.line, c.column + w.length⟩ := by
  induction w generalizing c with
  | nil => cases c; simp_all [skip]
  | cons ch w ih =>
    obtain ⟨notBreak, notMark⟩ := one ch List.mem_cons_self
    have step : c.advance = ⟨w ++ tail, c.index + 1, c.line, c.column + 1⟩ := by
      rw [advance, h]
      simp [notBreak, notMark]
    rw [List.length_cons, skip, ih (by rw [step]) fun x hx => one x (List.mem_cons_of_mem _ hx), step]
    simp only [Cursor.mk.injEq, true_and]
    omega

theorem advance_break (h : c.rest = ch :: tail) (breaks : isBreak ch = true) :
    c.advance = ⟨tail, c.index + 1, c.line + 1, 0⟩ := by
  rw [advance, h]
  simp [breaks]

theorem skip_blanks (h : c.rest = List.replicate k ' ' ++ tail) :
    c.skip k = ⟨tail, c.index + k, c.line, c.column + k⟩ := by
  simpa using skip_oneLine h (oneLine_blanks k)

theorem skip_line (h : c.rest = '\n' :: (List.replicate k ' ' ++ tail)) :
    c.skip (1 + k) = ⟨tail, c.index + 1 + k, c.line + 1, k⟩ := by
  have feed := advance_break h rfl
  rw [skip_add]
  refine (skip_blanks (c := c.advance) (by rw [feed])).trans ?_
  rw [feed]
  simp

theorem line_le_advance (c : Cursor) : c.line ≤ c.advance.line := by
  rw [advance]
  split
  · exact Nat.le_refl _
  · split <;> simp

theorem line_le_skip (c : Cursor) (n : Nat) : c.line ≤ (c.skip n).line := by
  induction n generalizing c with
  | zero => exact Nat.le_refl _
  | succ n ih => exact Nat.le_trans (line_le_advance c) (ih c.advance)

theorem takeWhile_append (all : ∀ ch ∈ w, p ch = true) (stop : tail.head?.any p = false) :
    (w ++ tail).takeWhile p = w := by
  rw [List.takeWhile_append_of_pos all]
  cases tail with
  | nil => simp
  | cons ch rest => rw [List.takeWhile_cons_of_neg (by simpa using stop), List.append_nil]

theorem span_of_append (h : c.rest = w ++ tail) (all : ∀ ch ∈ w, p ch = true)
    (stop : tail.head?.any p = false) : c.span p = (w, c.skip w.length) := by
  rw [span, h, takeWhile_append all stop]

theorem span_of_stop (stop : c.rest.head?.any p = false) : c.span p = ([], c) :=
  span_of_append (w := []) rfl (by simp) stop

theorem skipWhile_of_append (h : c.rest = w ++ tail) (all : ∀ ch ∈ w, p ch = true)
    (stop : tail.head?.any p = false) : c.skipWhile p = c.skip w.length := by
  rw [skipWhile, span_of_append h all stop]

theorem skipWhile_of_stop (stop : c.rest.head?.any p = false) : c.skipWhile p = c := by
  rw [skipWhile, span_of_stop stop]

theorem skipWhile_blanks (h : c.rest = List.replicate k ' ' ++ tail) (blank : p ' ' = true)
    (stop : tail.head?.any p = false) : c.skipWhile p = c.skip k := by
  have all : ∀ ch ∈ List.replicate k ' ', p ch = true := fun ch hm => by
    rwa [List.eq_of_mem_replicate hm]
  simpa using skipWhile_of_append h all stop

theorem lineBreak_of_stop (stop : c.rest.head?.any isBreak = false) : c.lineBreak = ([], c) := by
  unfold lineBreak
  split
  · next h => simp_all
  · rfl

/-- Every break but the next-line control stands for itself. -/
theorem lineBreak_of_break (h : c.rest = ch :: tail) (breaks : isBreak ch = true) (kept : ch ≠ '\u0085') :
    c.lineBreak = ([ch], c.advance) := by
  have cases : ch = '\n' ∨ ch = '\u2028' ∨ ch = '\u2029' := by
    simp only [isBreak, Bool.or_eq_true, beq_iff_eq] at breaks
    tauto
  unfold lineBreak
  rw [h]
  rcases cases with rfl | rfl | rfl <;> rfl

theorem isAnyMark_of_blank (h : c.rest = ' ' :: tail) : c.isAnyMark = false := by
  simp [isAnyMark, isMark, h]

theorem isAnyMark_of_break (h : c.rest = ch :: tail) (breaks : isBreak ch = true) : c.isAnyMark = false := by
  have notDash : ch ≠ '-' := by rintro rfl; cases breaks
  have notDot : ch ≠ '.' := by rintro rfl; cases breaks
  simp [isAnyMark, isMark, h, notDash.symm, notDot.symm]

theorem isAnyMark_of_line (begins : BeginsLine next) (h : c.rest = List.replicate k ' ' ++ next) :
    c.isAnyMark = false := by
  cases k with
  | zero => exact begins.unmarked c h
  | succ k => exact isAnyMark_of_blank h

end Cursor

end TaskCatalog.Yaml
