import TaskCatalog.Sources.Naming
import Mathlib.Data.List.Basic
import Mathlib.Data.List.TakeWhile

/-!
Texts made of lines. Lines without breaks in them are read back as they were put together, and a text
without blanks around it is what trimming leaves.
-/

namespace TaskCatalog.Text

def Unbroken (t : Text) : Prop := ∀ l ∈ t, isLineBreak l = false

/-- A text without blanks around it. -/
structure Trimmed (t : Text) : Prop where
  front : ∀ l, t.head? = some l → isBlank l = false
  back : ∀ l, t.getLast? = some l → isBlank l = false

instance (t : Text) : Decidable (Unbroken t) := inferInstanceAs (Decidable (∀ l ∈ t, isLineBreak l = false))

instance (t : Text) : Decidable (Trimmed t) :=
  decidable_of_iff ((∀ l ∈ t.head?, isBlank l = false) ∧ ∀ l ∈ t.getLast?, isBlank l = false)
    ⟨fun ⟨front, back⟩ => ⟨front, back⟩, fun h => ⟨h.front, h.back⟩⟩

variable {t u rest : Text} {l : Letter} {ls ms : List Text}

theorem isBlank_of_isLineBreak (h : isLineBreak l = true) : isBlank l = true := by
  cases l with
  | scalar c => exact isBlankChar_of_isLineBreakChar h
  | half n => cases h

theorem Unbroken.append (h : Unbroken t) (h' : Unbroken u) : Unbroken (t ++ u) := fun l hl =>
  (List.mem_append.1 hl).elim (h l) (h' l)

theorem unbroken_of_solid (h : ∀ l ∈ t, isBlank l = false) : Unbroken t := by
  intro l hl
  refine Bool.eq_false_iff.2 fun broken => ?_
  have blank := isBlank_of_isLineBreak broken
  rw [h l hl] at blank
  cases blank

theorem lines_cons_unbroken (h : isLineBreak l = false) (rest : Text) :
    lines (l :: rest) = match lines rest with
      | [] => [[l]]
      | line :: more => (l :: line) :: more := by
  rw [lines]
  · refine (if_neg (by simp [h])).trans ?_
    cases lines rest <;> rfl
  · intro more feed
    cases feed
    cases h

theorem lines_append_break (h : Unbroken t) (rest : Text) :
    lines (t ++ .scalar '\n' :: rest) = t :: lines rest := by
  induction t with
  | nil =>
    rw [List.nil_append, lines]
    · rfl
    · intro more feed
      cases feed
  | cons l t ih =>
    rw [List.cons_append, lines_cons_unbroken (h l List.mem_cons_self),
      ih fun l hl => h l (List.mem_cons_of_mem _ hl)]

theorem lines_unbroken (h : Unbroken t) (stated : t ≠ []) : lines t = [t] := by
  induction t with
  | nil => exact absurd rfl stated
  | cons l t ih =>
    rw [lines_cons_unbroken (h l List.mem_cons_self)]
    cases t with
    | nil => rfl
    | cons m t => rw [ih (fun l hl => h l (List.mem_cons_of_mem _ hl)) (List.cons_ne_nil _ _)]

theorem join_cons_cons (separator t u : Text) (ls : List Text) :
    join separator (t :: u :: ls) = t ++ separator ++ join separator (u :: ls) := rfl

theorem lines_join (h : ∀ t ∈ ls, Unbroken t) (last : ls.getLast? ≠ some []) : lines (join "\n" ls) = ls := by
  induction ls with
  | nil => rfl
  | cons t ls ih =>
    cases ls with
    | nil => exact lines_unbroken (h t List.mem_cons_self) fun empty => last (congrArg some empty)
    | cons u ls =>
      rw [join_cons_cons, List.append_assoc]
      refine (lines_append_break (h t List.mem_cons_self) _).trans (congrArg (t :: ·) ?_)
      exact ih (fun t ht => h t (List.mem_cons_of_mem _ ht)) last

theorem trimLeft_of_head (front : ∀ l, t.head? = some l → isBlank l = false) : trimLeft t = t := by
  cases t with
  | nil => rfl
  | cons l t => rw [trimLeft, List.dropWhile_cons_of_neg (by simp [front l rfl])]

theorem Trimmed.trim_eq (h : Trimmed t) : trim t = t := by
  have last : trimLeft t.reverse = t.reverse :=
    trimLeft_of_head fun l hl => h.back l (by rw [← hl, List.head?_reverse])
  rw [trim, trimLeft_of_head h.front, trimRight, ← trimLeft, last, List.reverse_reverse]

theorem trimmed_trim (t : Text) : Trimmed (trim t) := by
  have kept {u : Text} {l : Letter} (h : (u.dropWhile isBlank).head? = some l) : isBlank l = false := by
    have last := List.head?_dropWhile_not isBlank u
    rw [h] at last
    exact last
  constructor
  · intro l hl
    -- trimming at the back leaves the first letter, unless nothing is left
    have front : trim t <+: trimLeft t := by
      rw [← List.reverse_suffix, trim, trimRight, List.reverse_reverse]
      exact List.dropWhile_suffix _
    obtain ⟨rest, h⟩ := front
    have same : (trimLeft t).head? = some l := by rw [← h, List.head?_append, hl, Option.some_or]
    exact kept same
  · intro l hl
    rw [trim, trimRight, List.getLast?_reverse] at hl
    exact kept hl

theorem trimmed_of_solid (h : ∀ l ∈ t, isBlank l = false) : Trimmed t :=
  ⟨fun l hl => h l (List.mem_of_mem_head? hl), fun l hl => h l (List.mem_of_getLast? hl)⟩

theorem trim_cons_blank (blank : isBlank l = true) (t : Text) : trim (l :: t) = trim t := by
  rw [trim, trim, trimLeft, trimLeft, List.dropWhile_cons_of_pos blank]

theorem head?_join (separator : Text) (stated : t ≠ []) : (join separator (t :: ls)).head? = t.head? := by
  cases ls with
  | nil => rfl
  | cons u ls => rw [join_cons_cons, List.append_assoc, List.head?_append_of_ne_nil _ stated]

theorem getLast?_join (separator : Text) (stated : t ≠ []) (ls : List Text) :
    (join separator (ls ++ [t])).getLast? = t.getLast? := by
  induction ls with
  | nil => rfl
  | cons u ls ih =>
    obtain ⟨v, more, h⟩ := List.exists_cons_of_ne_nil (List.concat_ne_nil t ls)
    have filled : join separator (ls ++ [t]) ≠ [] := by
      intro empty
      rw [empty] at ih
      exact stated (List.getLast?_eq_none_iff.1 ih.symm)
    rw [List.cons_append, h, join_cons_cons, ← h, List.getLast?_append_of_ne_nil _ filled, ih]

theorem forall_mem_join {p : Letter → Prop} {separator : Text} (apart : ∀ l ∈ separator, p l)
    (h : ∀ t ∈ ls, ∀ l ∈ t, p l) : ∀ l ∈ join separator ls, p l := by
  induction ls with
  | nil => exact nofun
  | cons t ls ih =>
    cases ls with
    | nil => exact h t List.mem_cons_self
    | cons u ls =>
      rw [join_cons_cons, List.forall_mem_append, List.forall_mem_append]
      exact ⟨⟨h t List.mem_cons_self, apart⟩, ih fun t ht => h t (List.mem_cons_of_mem _ ht)⟩

theorem forall_mem_join_iff {p : Letter → Prop} {separator : Text} (apart : ∀ l ∈ separator, p l) :
    (∀ l ∈ join separator ls, p l) ↔ ∀ t ∈ ls, ∀ l ∈ t, p l := by
  refine ⟨fun h => ?_, forall_mem_join apart⟩
  induction ls with
  | nil => exact nofun
  | cons t ls ih =>
    cases ls with
    | nil => exact List.forall_mem_singleton.2 h
    | cons u ls =>
      rw [join_cons_cons, List.forall_mem_append, List.forall_mem_append] at h
      exact List.forall_mem_cons.2 ⟨h.1.1, ih h.2⟩

theorem unbroken_join {separator : Text} (apart : Unbroken separator) (h : ∀ t ∈ ls, Unbroken t) :
    Unbroken (join separator ls) := forall_mem_join apart h

theorem lines_cons_break (broken : isLineBreak l = true) (lone : l = .scalar '\r' → t.head? ≠ some (.scalar '\n')) :
    lines (l :: t) = [] :: lines t := by
  rw [lines]
  · exact if_pos broken
  · rintro rest rfl rfl
    exact lone rfl rfl

theorem lines_return_feed (t : Text) : lines (.scalar '\r' :: .scalar '\n' :: t) = [] :: lines t := by
  rw [lines]

theorem lines_ne_nil (stated : t ≠ []) : lines t ≠ [] := by
  obtain ⟨l, t, rfl⟩ := List.exists_cons_of_ne_nil stated
  cases broken : isLineBreak l with
  | false =>
    rw [lines_cons_unbroken broken]
    cases lines t <;> exact List.cons_ne_nil _ _
  | true =>
    by_cases both : l = .scalar '\r' ∧ t.head? = some (.scalar '\n')
    · obtain ⟨rfl, feed⟩ := both
      obtain ⟨t, rfl⟩ := List.head?_eq_some_iff.1 feed
      rw [lines_return_feed]
      exact List.cons_ne_nil _ _
    · rw [lines_cons_break broken fun first feed => both ⟨first, feed⟩]
      exact List.cons_ne_nil _ _

theorem lines_cons_append (whole : isLineBreak l = false) (stated : t ≠ []) (parted : lines u = lines t ++ ls) :
    lines (l :: u) = lines (l :: t) ++ ls := by
  rw [lines_cons_unbroken whole, lines_cons_unbroken whole, parted]
  cases read : lines t with
  | nil => exact absurd read (lines_ne_nil stated)
  | cons line more => rfl

/-- A line feed ends a line, whatever stands before it. -/
theorem lines_append_feed (t rest : Text) :
    lines (t ++ .scalar '\n' :: rest) = lines (t ++ [.scalar '\n']) ++ lines rest := by
  cases t with
  | nil => exact lines_append_break (fun _ none => absurd none List.not_mem_nil) rest
  | cons l t =>
    cases broken : isLineBreak l with
    | false => exact lines_cons_append broken (by simp) (lines_append_feed t rest)
    | true =>
      by_cases both : l = .scalar '\r' ∧ (t ++ [Letter.scalar '\n']).head? = some (.scalar '\n')
      · -- a return goes with the feed behind it, which may be the one that ends the line
        obtain ⟨rfl, feed⟩ := both
        cases t with
        | nil => exact lines_return_feed rest
        | cons m t =>
          cases feed
          simp only [List.cons_append, lines_return_feed, lines_append_feed t rest]
      · have lone : l = .scalar '\r' → (t ++ .scalar '\n' :: rest).head? ≠ some (.scalar '\n') := by
          intro first feed
          refine both ⟨first, ?_⟩
          cases t with
          | nil => rfl
          | cons m t => exact feed
        rw [List.cons_append, List.cons_append, lines_cons_break broken lone,
          lines_cons_break broken fun first feed => both ⟨first, feed⟩, lines_append_feed t rest]
        rfl
termination_by t.length

theorem join_append (separator : Text) (hl : ls ≠ []) (hm : ms ≠ []) :
    join separator (ls ++ ms) = join separator ls ++ separator ++ join separator ms := by
  induction ls with
  | nil => exact absurd rfl hl
  | cons t ls ih =>
    cases ls with
    | nil =>
      obtain ⟨u, ms, rfl⟩ := List.exists_cons_of_ne_nil hm
      rfl
    | cons u ls =>
      have next := ih (List.cons_ne_nil _ _)
      rw [List.cons_append] at next
      rw [List.cons_append, List.cons_append, join_cons_cons, next, join_cons_cons]
      simp only [List.append_assoc]

theorem lines_join_append (h : ∀ t ∈ ls, Unbroken t) (hm : ms ≠ []) :
    lines (join "\n" (ls ++ ms)) = ls ++ lines (join "\n" ms) := by
  induction ls with
  | nil => rfl
  | cons t ls ih =>
    obtain ⟨u, more, some⟩ := List.exists_cons_of_ne_nil (List.append_ne_nil_of_right_ne_nil ls hm)
    have next := ih fun t ht => h t (List.mem_cons_of_mem _ ht)
    rw [some] at next
    rw [List.cons_append, some, join_cons_cons, List.append_assoc]
    exact (lines_append_break (h t List.mem_cons_self) _).trans (congrArg (t :: ·) next)

end TaskCatalog.Text
