import TaskCatalog.Text.Basic

/-!
Blanks: the characters that trimming removes and that part words.
-/

namespace TaskCatalog.Text

/-- Separators of every script, the layout controls and the four information separators. -/
def isBlankChar (c : Char) : Bool :=
  c == ' ' || (9 ≤ c.toNat && c.toNat ≤ 13) || (0x1c ≤ c.toNat && c.toNat ≤ 0x1f)
    || c.toNat == 0x85 || c.toNat == 0xa0 || c.toNat == 0x1680
    || (0x2000 ≤ c.toNat && c.toNat ≤ 0x200a)
    || c.toNat == 0x2028 || c.toNat == 0x2029 || c.toNat == 0x202f || c.toNat == 0x205f
    || c.toNat == 0x3000

def isBlank (l : Letter) : Bool := l.satisfies isBlankChar

theorem isBlankChar_of_isWhitespace {c : Char} (h : c.isWhitespace) : isBlankChar c := by
  simp only [Char.isWhitespace, Bool.or_eq_true, decide_eq_true_eq] at h
  rcases h with ((rfl | rfl) | rfl) | rfl <;> decide

def trimLeft (t : Text) : Text := t.dropWhile isBlank

def trimRight (t : Text) : Text := (t.reverse.dropWhile isBlank).reverse

def trim (t : Text) : Text := trimRight (trimLeft t)

def isAllBlank (t : Text) : Bool := t.all isBlank

theorem dropWhile_eq_nil_iff (p : Letter → Bool) (t : Text) : t.dropWhile p = [] ↔ t.all p := by
  induction t with
  | nil => simp
  | cons l t ih =>
    rw [List.dropWhile_cons, List.all_cons]
    by_cases h : p l
    · rw [if_pos h, ih, h, Bool.true_and]
    · rw [if_neg h]
      simp [h]

theorem trim_eq_nil_iff (t : Text) : trim t = [] ↔ isAllBlank t := by
  constructor
  · intro h
    simp only [trim, trimRight, List.reverse_eq_nil_iff, dropWhile_eq_nil_iff, List.all_reverse] at h
    unfold trimLeft at h
    have hl := (dropWhile_eq_nil_iff isBlank t)
    by_cases ht : t.all isBlank
    · exact ht
    · exfalso
      cases hd : t.dropWhile isBlank with
      | nil => exact ht (hl.1 hd)
      | cons l r =>
        have hl' : isBlank l = false := by
          have := List.head_dropWhile_not isBlank (l := t) (by simp [hd])
          simpa [hd] using this
        simp [hd, hl'] at h
  · intro h
    have : trimLeft t = [] := (dropWhile_eq_nil_iff isBlank t).2 h
    simp [trim, this, trimRight]

def words (t : Text) : List Text := go t []
where
  go : Text → Text → List Text
    | [], word => if word.isEmpty then [] else [word.reverse]
    | l :: rest, word =>
      if isBlank l then
        if word.isEmpty then go rest [] else word.reverse :: go rest []
      else go rest (l :: word)

end TaskCatalog.Text
