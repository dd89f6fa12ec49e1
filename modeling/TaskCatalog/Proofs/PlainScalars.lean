import TaskCatalog.Proofs.CursorMoves
import TaskCatalog.Yaml.Writing

/-!
A text that is written plain reads back as that text: its words are runs of a plain scalar, and the
blanks between them stand as they are or are folded into the break and the indentation of a line.
-/

namespace TaskCatalog

/-- The character of a letter; a half has none. -/
def Letter.char? : Letter → Option Char
  | scalar c => some c
  | half _ => none

namespace Text

/-- The characters of a text, its halves left out. -/
def chars (t : Text) : List Char := t.filterMap Letter.char?

@[simp] theorem chars_nil : chars [] = [] := rfl

@[simp] theorem chars_scalar (c : Char) (t : Text) : chars (.scalar c :: t) = c :: chars t := rfl

@[simp] theorem chars_append (t u : Text) : chars (t ++ u) = chars t ++ chars u := List.filterMap_append

@[simp] theorem chars_ofChars (cs : List Char) : chars (ofChars cs) = cs := by
  induction cs with
  | nil => rfl
  | cons c cs ih => exact congrArg (c :: ·) ih

@[simp] theorem chars_ofString (s : String) : chars (ofString s) = s.toList := chars_ofChars s.toList

theorem ofChars_chars {t : Text} (scalar : ∀ l ∈ t, l.isHalf = false) : ofChars (chars t) = t := by
  induction t with
  | nil => rfl
  | cons l t ih =>
    have rest := ih fun m h => scalar m (List.mem_cons_of_mem _ h)
    cases l with
    | scalar c => exact congrArg (Letter.scalar c :: ·) rest
    | half n => cases scalar (.half n) List.mem_cons_self

end Text

namespace Yaml

open Text

namespace Cursor

/-- A plain scalar outside of brackets from blanks or a break on. -/
def plainRest (margin fuel : Nat) (blanks : List Char) (broken : Bool) (c : Cursor) : PlainScalar :=
  if blanks.isEmpty || c.at? (· == '#') || decide (c.column < margin) then ⟨[], c, broken⟩
  else
    let more := plainScalar false margin fuel blanks c
    if more.text.isEmpty then ⟨[], more.stop, broken⟩ else more

/-- A plain scalar outside of brackets from the end of a run on. -/
def plainTail (margin fuel : Nat) (c : Cursor) : PlainScalar :=
  let (blanks, c) := c.span (· == ' ')
  match c.lineBreak with
  | ([], _) => plainRest margin fuel blanks false c
  | (first, next) =>
    match plainBreaks (fuel + 1) next with
    | (some more, last) => plainRest margin fuel (fold first more) true last
    | (none, last) => ⟨[], last, true⟩

theorem plainScalar_succ (margin fuel : Nat) (before : List Char) {c : Cursor} {run tail : List Char}
    (h : c.rest = run ++ tail) (runs : plainRun false c.rest = run) (filled : run ≠ [])
    (noComment : run.head? ≠ some '#') :
    plainScalar false margin (fuel + 1) before c =
      { plainTail margin fuel (c.skip run.length) with
        text := before ++ run ++ (plainTail margin fuel (c.skip run.length)).text } := by
  have here : c.at? (· == '#') = false := by
    cases run with
    | nil => exact absurd rfl filled
    | cons ch run => simpa [at?, h] using noComment
  have nonempty : run.isEmpty = false := by simpa using filled
  rw [plainScalar]
  simp only [here, runs, Bool.false_eq_true, if_false, nonempty]
  rfl

variable {c : Cursor} {ch : Char} {next : List Char} {margin fuel k : Nat} {before : List Char}

theorem plainBreaks_indent (fuel : Nat) (unmarked : c.isAnyMark = false) (h : c.rest = List.replicate k ' ' ++ next)
    (noBlank : next.head?.any (· == ' ') = false) (noBreak : next.head?.any isBreak = false) :
    plainBreaks (fuel + 1) c = (some [], c.skip k) := by
  have at' : (c.skip k).rest = next := by
    simpa using skip_of_append (w := List.replicate k ' ') h
  rw [plainBreaks, unmarked]
  simp only [Bool.false_eq_true, if_false, skipWhile_blanks h (by rfl) noBlank,
    lineBreak_of_stop (c := c.skip k) (by rwa [at'])]

theorem plainTail_blanks (margin fuel : Nat) (h : c.rest = List.replicate k ' ' ++ next) (noBlank : next.head?.any (· == ' ') = false)
    (noBreak : next.head?.any isBreak = false) :
    plainTail margin fuel c = plainRest margin fuel (List.replicate k ' ') false (c.skip k) := by
  have at' : (c.skip k).rest = next := by
    simpa using skip_of_append (w := List.replicate k ' ') h
  have spanned : c.span (· == ' ') = (List.replicate k ' ', c.skip k) := by
    have all : ∀ ch ∈ List.replicate k ' ', (ch == ' ') = true := fun ch hm => by
      rw [List.eq_of_mem_replicate hm]; rfl
    simpa using span_of_append h all noBlank
  rw [plainTail, spanned]
  simp only [lineBreak_of_stop (c := c.skip k) (by rwa [at'])]

theorem plainTail_line (margin fuel : Nat) (unmarked : c.advance.isAnyMark = false)
    (h : c.rest = '\n' :: (List.replicate k ' ' ++ next)) (noBlank : next.head?.any (· == ' ') = false)
    (noBreak : next.head?.any isBreak = false) :
    plainTail margin fuel c = plainRest margin fuel [' '] true (c.skip (1 + k)) := by
  have feed : c.lineBreak = (['\n'], c.advance) := lineBreak_of_break h rfl (by decide)
  have indented := plainBreaks_indent fuel unmarked (advance_of_cons h) noBlank noBreak
  rw [plainTail, span_of_stop (by rw [h]; rfl)]
  simp only [feed, indented, skip_add]
  rfl

theorem plainRest_of_more {p : PlainScalar} {broken : Bool} (filled : before ≠ [])
    (noComment : c.at? (· == '#') = false) (deep : margin ≤ c.column)
    (h : plainScalar false margin fuel before c = p) (text : p.text ≠ []) :
    plainRest margin fuel before broken c = p := by
  have shallow : decide (c.column < margin) = false := by simpa using deep
  rw [plainRest]
  simp [filled, noComment, shallow, h, text]

end Cursor

namespace Writing

def Run.letters : Run → Text
  | word t => t
  | blanks n => spaces n
  | breaks t => t

def letters (rs : List Run) : Text := rs.flatMap Run.letters

@[simp] theorem letters_nil : letters [] = [] := rfl

@[simp] theorem letters_cons (r : Run) (rs : List Run) : letters (r :: rs) = r.letters ++ letters rs := rfl

@[simp] theorem chars_spaces (n : Nat) : chars (spaces n) = List.replicate n ' ' := by
  induction n with
  | zero => rfl
  | succ n ih => exact congrArg (' ' :: ·) ih

@[simp] theorem chars_blank (t : Text) : chars (blank :: t) = ' ' :: chars t := rfl

@[simp] theorem chars_newLine (indent : Nat) : chars (newLine indent) = '\n' :: List.replicate indent ' ' :=
  congrArg ('\n' :: ·) (chars_spaces indent)

theorem letters_runs (t : Text) : letters (runs t) = t := by
  induction t with
  | nil => rfl
  | cons l t ih =>
    unfold runs
    split
    · rename_i isBlank
      obtain rfl : l = blank := by simpa [isBlankLetter] using isBlank
      split
      · next n more eq =>
        rw [eq] at ih
        simpa [Run.letters, spaces, List.replicate_succ] using ih
      · simpa [Run.letters, spaces] using ih
    · split
      · split
        · next u more eq =>
          rw [eq] at ih
          simpa [Run.letters] using ih
        · simpa [Run.letters] using ih
      · split
        · next u more eq =>
          rw [eq] at ih
          simpa [Run.letters] using ih
        · simpa [Run.letters] using ih

/-- A letter of a word: a character that takes a column, and no blank. -/
def IsSolid (l : Letter) : Prop := ∃ c, l = .scalar c ∧ Cursor.isBreakOrBlank c = false ∧ c ≠ '\uFEFF'

/-- Words with blanks between them, and none before the first or after the last. -/
inductive Words : List Run → Prop
  | last {t} : t ≠ [] → (∀ l ∈ t, isEdge l = false) → Words [.word t]
  | more {t n rs} : t ≠ [] → (∀ l ∈ t, isEdge l = false) → 0 < n → Words rs →
      Words (.word t :: .blanks n :: rs)

theorem Words.cons {l : Letter} {rs : List Run} (solid : isEdge l = false) {t : Text}
    (h : Words (.word t :: rs)) : Words (.word (l :: t) :: rs) := by
  have all : (∀ m ∈ t, isEdge m = false) → ∀ m ∈ l :: t, isEdge m = false := fun h m hm => by
    rcases List.mem_cons.1 hm with rfl | hm
    · exact solid
    · exact h m hm
  cases h with
  | last _ edge => exact .last (List.cons_ne_nil _ _) (all edge)
  | more _ edge pos rest => exact .more (List.cons_ne_nil _ _) (all edge) pos rest

theorem Words.exists_word {rs : List Run} (h : Words rs) : ∃ t more, rs = .word t :: more := by
  cases h with
  | last => exact ⟨_, _, rfl⟩
  | more => exact ⟨_, _, rfl⟩

/-- The runs of a text of one line that ends in no blank: words, with blanks before them if it begins so. -/
theorem words_runs {t : Text} (filled : t ≠ []) (line : ∀ l ∈ t, isBreakLetter l = false)
    (last : t.getLast?.any isBlankLetter = false) :
    (t.head?.any isBlankLetter = false → Words (runs t)) ∧
      (t.head?.any isBlankLetter = true → ∃ n rs, runs t = .blanks (n + 1) :: rs ∧ Words rs) := by
  -- both at once: a letter lengthens the first run of what follows it, of whichever kind that is
  induction t with
  | nil => exact absurd rfl filled
  | cons l t ih =>
    have notBreak := line l List.mem_cons_self
    cases t with
    | nil =>
      have notBlank : isBlankLetter l = false := by simpa using last
      refine ⟨fun _ => ?_, fun h => ?_⟩
      · simp only [runs, notBlank, notBreak]
        exact .last (List.cons_ne_nil _ _) (by simp [isEdge, notBlank, notBreak])
      · simp [notBlank] at h
    | cons m t =>
      obtain ⟨fromWord, fromBlank⟩ := ih (List.cons_ne_nil _ _)
        (fun k hk => line k (List.mem_cons_of_mem _ hk)) (by rwa [List.getLast?_cons_cons] at last)
      simp only [List.head?_cons, Option.any_some] at fromWord fromBlank ⊢
      refine ⟨fun notBlank => ?_, fun isBlank => ?_⟩
      · have solid : isEdge l = false := by simp [isEdge, notBlank, notBreak]
        have one : ∀ k ∈ [l], isEdge k = false := fun k hk => by rwa [List.mem_singleton.1 hk]
        unfold runs
        simp only [notBlank, notBreak]
        cases hm : isBlankLetter m with
        | false =>
          have words := fromWord hm
          obtain ⟨u, more, eq⟩ := words.exists_word
          rw [eq] at words ⊢
          exact words.cons solid
        | true =>
          obtain ⟨n, rs, eq, words⟩ := fromBlank hm
          rw [eq]
          exact .more (List.cons_ne_nil _ _) one (Nat.succ_pos n) words
      · unfold runs
        simp only [isBlank, if_true]
        cases hm : isBlankLetter m with
        | false =>
          have words := fromWord hm
          obtain ⟨u, more, eq⟩ := words.exists_word
          exact ⟨0, runs (m :: t), by rw [eq], words⟩
        | true =>
          obtain ⟨n, rs, eq, words⟩ := fromBlank hm
          exact ⟨n + 1, rs, by rw [eq], words⟩

theorem hasIndicator_cons {previous : Option Letter} {l : Letter} {t : Text}
    (clean : hasIndicator previous (l :: t) = false) :
    (t.head?.all isGap = true → l ≠ .scalar ':') ∧ hasIndicator (some l) t = false := by
  unfold hasIndicator at clean
  obtain ⟨here, later⟩ := Bool.or_eq_false_iff.1 clean
  refine ⟨fun alone eq => ?_, later⟩
  subst eq
  cases previous <;> simp [alone] at here

theorem hasIndicator_append {previous : Option Letter} {u t : Text} {l : Letter}
    (clean : hasIndicator previous (u ++ l :: t) = false) : hasIndicator (some l) t = false := by
  induction u generalizing previous with
  | nil => exact (hasIndicator_cons clean).2
  | cons m u ih => exact ih (hasIndicator_cons clean).2

theorem not_comment_of_gap {l : Letter} {t : Text} (clean : hasIndicator (some l) t = false)
    (gap : isGap l = true) : t.head? ≠ some (.scalar '#') := by
  cases t with
  | nil => simp
  | cons m t =>
    intro eq
    obtain rfl : m = .scalar '#' := by simpa using eq
    simp [hasIndicator, gap] at clean

/-- What stops a plain scalar and leads on from it: `n` characters on, after a break or not. -/
def StopsPlain (margin : Nat) (tail : List Char) (n : Nat) (broken : Bool) : Prop :=
  Cursor.plainRun false tail = [] ∧ ∀ (fuel : Nat) (c : Cursor), c.rest = tail →
    Cursor.plainTail margin fuel c = ⟨[], c.skip n, broken⟩

theorem plainRun_word {previous : Option Letter} {w rest : Text} (solid : ∀ l ∈ w, IsSolid l)
    (clean : hasIndicator previous (w ++ rest) = false) (gap : rest.head?.all isGap = true)
    (tail : List Char) :
    Cursor.plainRun false (chars w ++ tail) = chars w ++ Cursor.plainRun false tail := by
  induction w generalizing previous with
  | nil => rfl
  | cons l w ih =>
    obtain ⟨c, rfl, inside, -⟩ := solid l List.mem_cons_self
    have solidRest : ∀ m ∈ w, IsSolid m := fun m h => solid m (List.mem_cons_of_mem _ h)
    obtain ⟨colon, later⟩ := hasIndicator_cons clean
    have goesOn : Cursor.plainEnds false c (chars w ++ tail).head? = false := by
      simp only [Cursor.plainEnds, inside, Bool.false_and, Bool.or_false, Bool.false_or]
      by_cases isColon : c = ':'
      · subst isColon
        -- A colon inside a word is not the last letter of it, as a gap or the end follows the word.
        cases w with
        | nil => exact absurd rfl (colon gap)
        | cons m w =>
          obtain ⟨d, rfl, next, -⟩ := solidRest m List.mem_cons_self
          simp [next]
      · simp [isColon]
    rw [chars_scalar, List.cons_append, Cursor.plainRun, goesOn, ih solidRest later]
    rfl

theorem oneLine_of_solid {t : Text} (solid : ∀ l ∈ t, IsSolid l) : OneLine (chars t) := by
  intro ch h
  obtain ⟨l, hl, eq⟩ := List.mem_filterMap.1 h
  obtain ⟨d, rfl, inside, notMark⟩ := solid l hl
  obtain rfl : d = ch := by simpa [Letter.char?] using eq
  exact ⟨(Bool.or_eq_false_iff.1 inside).2, notMark⟩

theorem exists_head {t : Text} (filled : t ≠ []) (solid : ∀ l ∈ t, IsSolid l) :
    ∃ d u, t = .scalar d :: u ∧ Cursor.isBreakOrBlank d = false := by
  cases t with
  | nil => exact absurd rfl filled
  | cons l u =>
    obtain ⟨d, rfl, inside, -⟩ := solid l List.mem_cons_self
    exact ⟨d, u, rfl, inside⟩

theorem plainScalar_word {previous : Option Letter} {t : Text} (rest : Text) {tail before : List Char} {margin fuel : Nat}
    {c : Cursor} (filled : t ≠ []) (solid : ∀ l ∈ t, IsSolid l) (clean : hasIndicator previous (t ++ rest) = false)
    (gap : rest.head?.all isGap = true) (noComment : t.head? ≠ some (.scalar '#'))
    (h : c.rest = chars t ++ tail) (stop : Cursor.plainRun false tail = []) :
    Cursor.plainScalar false margin (fuel + 1) before c =
      { Cursor.plainTail margin fuel (c.skip (chars t).length) with
        text := before ++ chars t ++ (Cursor.plainTail margin fuel (c.skip (chars t).length)).text } := by
  obtain ⟨d, u, rfl, -⟩ := exists_head filled solid
  refine Cursor.plainScalar_succ margin fuel before h ?_ (by simp) fun eq => noComment ?_
  · rw [h, plainRun_word solid clean gap, stop, List.append_nil]
  · simpa using eq

theorem head_folded {rs : List Run} (words : Words rs) (s : Spot) (first : Bool) (column : Nat) :
    (folded s false first column rs).head? = (letters rs).head? := by
  cases words with
  | last filled => simp [folded, Run.letters]
  | more filled =>
    obtain ⟨l, u, rfl⟩ := List.exists_cons_of_ne_nil filled
    simp [folded, Run.letters]

theorem Words.head {rs : List Run} (words : Words rs) (solid : ∀ l ∈ letters rs, isEdge l = false → IsSolid l) :
    ∃ d u, letters rs = .scalar d :: u ∧ Cursor.isBreakOrBlank d = false := by
  cases words with
  | last filled edges =>
    exact exists_head (by simpa [Run.letters] using filled)
      fun l h => solid l h (edges l (by simpa [Run.letters] using h))
  | @more t n rs filled edges =>
    obtain ⟨d, u, rfl, inside⟩ := exists_head filled fun l h =>
      solid l (by simp [Run.letters, h]) (edges l h)
    exact ⟨d, u ++ letters (.blanks n :: rs), by simp [Run.letters], inside⟩

/-- The character at which words go on behind a gap. -/
structure GoesOn (s : Spot) (tail : List Char) (rs : List Run) (d : Char) : Prop where
  inside : Cursor.isBreakOrBlank d = false
  notComment : d ≠ '#'
  begins : ∀ column, ∃ v, chars (folded s false false column rs) ++ tail = d :: v

/-- Runs that are read as their letters wherever they are written before a stop. -/
def ReadsPlain (s : Spot) (margin n : Nat) (tail : List Char) (broken : Bool) (rs : List Run) : Prop :=
  ∀ ⦃first : Bool⦄ ⦃column fuel : Nat⦄ ⦃before : List Char⦄ ⦃c : Cursor⦄,
    c.rest = chars (folded s false first column rs) ++ tail → margin ≤ c.column + 1 → c.rest.length < fuel →
    Cursor.plainScalar false margin fuel before c =
      ⟨before ++ chars (letters rs), c.skip ((chars (folded s false first column rs)).length + n), broken⟩

section

variable {s : Spot} {margin n m fuel column : Nat} {tail before : List Char} {broken : Bool} {rs : List Run} {t : Text}
  {previous : Option Letter} {c : Cursor} {d : Char}

theorem GoesOn.not_break (h : GoesOn s tail rs d) : isBreak d = false := (Bool.or_eq_false_iff.1 h.inside).2

theorem GoesOn.not_blank (h : GoesOn s tail rs d) : (d == ' ') = false :=
  (Bool.or_eq_false_iff.1 (Bool.or_eq_false_iff.1 h.inside).1).1

theorem Words.goesOn (words : Words rs) (solid : ∀ l ∈ letters rs, isEdge l = false → IsSolid l)
    (noComment : (letters rs).head? ≠ some (.scalar '#')) (s : Spot) (tail : List Char) : ∃ d, GoesOn s tail rs d := by
  obtain ⟨d, u, begins, inside⟩ := words.head solid
  refine ⟨d, inside, fun eq => noComment (by rw [begins, eq]; rfl), fun column => ?_⟩
  have head := head_folded words s false column
  rw [begins] at head
  obtain ⟨v, eq⟩ := List.head?_eq_some_iff.1 head
  exact ⟨chars v ++ tail, by rw [eq]; rfl⟩

theorem plainRest_words (reads : ReadsPlain s margin n tail broken rs) (goesOn : GoesOn s tail rs d) {blanks : List Char}
    (some : blanks ≠ []) (broken' : Bool) (h : c.rest = chars (folded s false false column rs) ++ tail)
    (room : margin ≤ c.column) (enough : c.rest.length < fuel) :
    Cursor.plainRest margin fuel blanks broken' c = ⟨blanks ++ chars (letters rs),
      c.skip ((chars (folded s false false column rs)).length + n), broken⟩ := by
  obtain ⟨v, eq⟩ := goesOn.begins column
  refine Cursor.plainRest_of_more some ?_ room (reads h (Nat.le_succ_of_le room) enough) (by simp [some])
  simpa [Cursor.at?, h, eq] using goesOn.notComment

theorem readsPlain_word (filled : t ≠ []) (solid : ∀ l ∈ t, IsSolid l) (clean : hasIndicator previous t = false)
    (noComment : t.head? ≠ some (.scalar '#')) (stops : StopsPlain margin tail n broken) :
    ReadsPlain s margin n tail broken [.word t] := by
  intro first column fuel before c h room enough
  obtain ⟨fuel, rfl⟩ := Nat.exists_eq_succ_of_ne_zero (Nat.ne_of_gt (Nat.zero_lt_of_lt enough))
  have written : folded s false first column [.word t] = t := by simp [folded]
  rw [written] at h ⊢
  rw [plainScalar_word [] filled solid (by simpa using clean) rfl noComment h stops.1,
    stops.2 fuel _ (Cursor.skip_of_append h), Cursor.skip_add]
  simp [Run.letters]

theorem plainScalar_line (reads : ReadsPlain s margin n tail broken rs) (goesOn : GoesOn s tail rs d)
    (deep : margin ≤ s.indent) (indented : 0 < s.indent) (filled : t ≠ []) (solid : ∀ l ∈ t, IsSolid l)
    (clean : hasIndicator previous (t ++ (spaces 1 ++ letters rs)) = false) (noComment : t.head? ≠ some (.scalar '#'))
    (h : c.rest = chars t ++ '\n' :: (List.replicate s.indent ' ' ++ (chars (folded s false false s.indent rs) ++ tail)))
    (enough : c.rest.length < fuel + 1) : Cursor.plainScalar false margin (fuel + 1) before c =
      ⟨before ++ (chars t ++ ' ' :: chars (letters rs)),
        c.skip ((chars t).length + (1 + s.indent + ((chars (folded s false false s.indent rs)).length + n))), broken⟩ := by
  have here := Cursor.skip_of_append h
  have next := Cursor.skip_line here
  obtain ⟨v, eq⟩ := goesOn.begins s.indent
  obtain ⟨k, indent⟩ := Nat.exists_eq_succ_of_ne_zero (Nat.ne_of_gt indented)
  have unmarked : (c.skip (chars t).length).advance.isAnyMark = false := by
    have blank : (c.skip (chars t).length).advance.rest = ' ' :: (List.replicate k ' ' ++ d :: v) := by
      rw [Cursor.advance_of_cons here, eq, indent, List.replicate_succ, List.cons_append]
    exact Cursor.isAnyMark_of_blank blank
  have broke := Cursor.plainTail_line margin fuel unmarked here (by rw [eq]; exact goesOn.not_blank)
    (by rw [eq]; exact goesOn.not_break)
  have size : 0 < (chars t).length := by
    obtain ⟨e, v, rfl, -⟩ := exists_head filled solid
    simp
  have rest := @plainRest_words s margin n fuel s.indent tail broken rs
    ((c.skip (chars t).length).skip (1 + s.indent)) d reads goesOn [' '] (by simp) true (by rw [next])
    (by rw [next]; exact deep) (by rw [next]; simp [h] at enough ⊢; omega)
  rw [plainScalar_word (spaces 1 ++ letters rs) filled solid clean rfl noComment h rfl, broke, rest]
  simp [Cursor.skip_add]

theorem plainScalar_blanks (reads : ReadsPlain s margin n tail broken rs) (goesOn : GoesOn s tail rs d)
    (filled : t ≠ []) (solid : ∀ l ∈ t, IsSolid l)
    (clean : hasIndicator previous (t ++ (spaces (m + 1) ++ letters rs)) = false) (noComment : t.head? ≠ some (.scalar '#'))
    (h : c.rest = chars t ++ (List.replicate (m + 1) ' ' ++ (chars (folded s false false column rs) ++ tail)))
    (room : margin ≤ c.column + 1) (enough : c.rest.length < fuel + 1) :
    Cursor.plainScalar false margin (fuel + 1) before c =
      ⟨before ++ (chars t ++ (List.replicate (m + 1) ' ' ++ chars (letters rs))),
        c.skip ((chars t).length + (m + 1 + ((chars (folded s false false column rs)).length + n))), broken⟩ := by
  have here := Cursor.skip_of_append h
  have next := Cursor.skip_blanks here
  have word := Cursor.skip_oneLine h (oneLine_of_solid solid)
  obtain ⟨v, eq⟩ := goesOn.begins column
  have blanks := Cursor.plainTail_blanks margin fuel here (by rw [eq]; exact goesOn.not_blank)
    (by rw [eq]; exact goesOn.not_break)
  have size : 0 < (chars t).length := by
    obtain ⟨e, v, rfl, -⟩ := exists_head filled solid
    simp
  have rest := @plainRest_words s margin n fuel column tail broken rs ((c.skip (chars t).length).skip (m + 1)) d reads
    goesOn (List.replicate (m + 1) ' ') (by simp) false (by rw [next]) (by rw [next, word]; simp; omega)
    (by rw [next]; simp [h] at enough ⊢; omega)
  rw [plainScalar_word (spaces (m + 1) ++ letters rs) filled solid clean rfl noComment h rfl, blanks, rest]
  simp [Cursor.skip_add]

theorem readsPlain_words (deep : margin ≤ s.indent) (indented : 0 < s.indent) (stops : StopsPlain margin tail n broken)
    (words : Words rs) : ∀ {previous : Option Letter}, hasIndicator previous (letters rs) = false →
      (∀ l ∈ letters rs, isEdge l = false → IsSolid l) → (letters rs).head? ≠ some (.scalar '#') →
      ReadsPlain s margin n tail broken rs := by
  induction words with
  | @last t filled edges =>
    intro previous clean solid noComment
    simp only [letters_cons, letters_nil, Run.letters, List.append_nil] at clean solid noComment
    exact readsPlain_word filled (fun l hl => solid l hl (edges l hl)) clean noComment stops
  | @more t m rs filled edges pos words ih =>
    intro previous clean solid noComment first column fuel before c h room enough
    obtain ⟨fuel, rfl⟩ := Nat.exists_eq_succ_of_ne_zero (Nat.ne_of_gt (Nat.zero_lt_of_lt enough))
    obtain ⟨m, rfl⟩ := Nat.exists_eq_succ_of_ne_zero (Nat.ne_of_gt pos)
    simp only [letters_cons, Run.letters] at clean solid noComment ⊢
    have all : ∀ l ∈ t, IsSolid l := fun l hl => solid l (List.mem_append_left _ hl) (edges l hl)
    have solidRest : ∀ l ∈ letters rs, isEdge l = false → IsSolid l := fun l hl =>
      solid l (List.mem_append_right _ (List.mem_append_right _ hl))
    have cleanRest : hasIndicator (some blank) (letters rs) = false := by
      refine @hasIndicator_append previous (t ++ spaces m) _ _ ?_
      simpa [spaces, List.replicate_succ'] using clean
    have noCommentWord : t.head? ≠ some (.scalar '#') := by
      obtain ⟨l, v, rfl⟩ := List.exists_cons_of_ne_nil filled
      simpa using noComment
    have noCommentRest := not_comment_of_gap cleanRest rfl
    have reads := ih cleanRest solidRest noCommentRest
    obtain ⟨d, goesOn⟩ := words.goesOn solidRest noCommentRest s tail
    simp only [folded, Bool.false_eq_true, if_false] at h ⊢
    split at h
    · next fold =>
      rw [if_pos fold]
      obtain rfl : m = 0 := Nat.succ.inj fold.1
      rw [plainScalar_line reads goesOn deep indented filled all clean noCommentWord (by simpa using h) enough]
      simp [Nat.add_assoc, Nat.add_comm 1, spaces]
    · next fold =>
      rw [if_neg fold]
      have read := @plainScalar_blanks s margin n m fuel (column + t.length + (m + 1)) tail before broken rs t previous c d
        reads goesOn filled all clean noCommentWord (by simpa using h) room enough
      rw [read]
      simp [Nat.add_assoc]

end

theorem stopsPlain_line {margin k : Nat} {next : List Char} (begins : BeginsLine next) (shallow : k < margin) :
    StopsPlain margin ('\n' :: (List.replicate k ' ' ++ next)) (1 + k) true := by
  refine ⟨rfl, fun fuel c h => ?_⟩
  have unmarked := Cursor.isAnyMark_of_line (c := c.advance) begins (Cursor.advance_of_cons h)
  rw [Cursor.plainTail_line margin fuel unmarked h begins.not_blank begins.not_break, Cursor.plainRest,
    Cursor.skip_line h]
  simp [shallow]

theorem stopsPlain_colon {margin : Nat} {ch : Char} (tail : List Char) (gap : Cursor.isBreakOrBlank ch = true) :
    StopsPlain margin (':' :: ch :: tail) 0 false := by
  refine ⟨?_, fun fuel c h => ?_⟩
  · rw [Cursor.plainRun, if_pos]
    simp [Cursor.plainEnds, gap]
  · rw [Cursor.plainTail, Cursor.span_of_stop (by rw [h]; rfl)]
    simp only [Cursor.lineBreak_of_stop (c := c) (by rw [h]; rfl), Cursor.plainRest]
    rfl

theorem isSolid_of_plain {l : Letter} (common : isSpecial l = false) (inner : isEdge l = false) : IsSolid l := by
  cases l with
  | half n => cases common
  | scalar c =>
    simp only [isSpecial, Letter.satisfies_scalar, Bool.not_eq_false', isEdge, isBlankLetter, isBreakLetter,
      Bool.or_eq_false_iff, beq_eq_false_iff_ne, blank] at common inner
    have notBlank : c ≠ ' ' := fun eq => inner.1 (congrArg Letter.scalar eq)
    refine ⟨c, rfl, ?_, ?_⟩
    · have notTab : c ≠ '\t' := by rintro rfl; cases common
      simp [Cursor.isBreakOrBlank, isSpaceOrTab, notBlank, notTab, inner.2]
    · rintro rfl
      cases common

/-- What it takes for a text to be read as a plain scalar. -/
structure IsPlain (t : Text) : Prop where
  words : Words (runs t)
  solid : ∀ l ∈ t, isEdge l = false → IsSolid l
  unmarked : isMarked t = false

theorem isPlain_of_canBePlain {t : Text} (h : canBePlain t = true) : IsPlain t := by
  simp only [canBePlain, Bool.and_eq_true, beq_iff_eq, Bool.not_eq_true', isMultiline, List.any_eq_false,
    Bool.not_eq_true] at h
  obtain ⟨⟨⟨⟨⟨⟨-, filled⟩, line⟩, common⟩, head⟩, last⟩, unmarked⟩ := h
  have noBlank : ∀ {o : Option Letter}, o.any isEdge = false → o.any isBlankLetter = false := by
    rintro (_ | l) edge
    · rfl
    · exact (Bool.or_eq_false_iff.1 edge).1
  refine ⟨(words_runs (by simpa using filled) line (noBlank last)).1 (noBlank head), ?_, unmarked⟩
  exact fun l hl => isSolid_of_plain (common l hl)

theorem IsPlain.clean {t : Text} (h : IsPlain t) : hasIndicator none t = false :=
  (Bool.or_eq_false_iff.1 h.unmarked).2

theorem IsPlain.head {t : Text} (h : IsPlain t) :
    ∃ d u, t = .scalar d :: u ∧ Cursor.isBreakOrBlank d = false := by
  have head := h.words.head (by rw [letters_runs]; exact h.solid)
  rwa [letters_runs] at head

theorem IsPlain.ofChars_chars {t : Text} (h : IsPlain t) : ofChars (chars t) = t := by
  refine Text.ofChars_chars fun l hl => ?_
  cases l with
  | scalar c => rfl
  | half n =>
    obtain ⟨c, eq, -⟩ := h.solid _ hl rfl
    cases eq

theorem Words.exists_gap {rs : List Run} (words : Words rs) :
    ∃ w rest, letters rs = w ++ rest ∧ w ≠ [] ∧ (∀ l ∈ w, isEdge l = false) ∧ rest.head?.all isGap = true ∧
      ∀ s first column, ∃ v, folded s false first column rs = w ++ v := by
  cases words with
  | @last w filled edges =>
    exact ⟨w, [], by simp [Run.letters], filled, edges, rfl, fun _ _ _ => ⟨[], by simp [folded]⟩⟩
  | @more w n rs filled edges pos =>
    obtain ⟨n, rfl⟩ := Nat.exists_eq_succ_of_ne_zero (Nat.ne_of_gt pos)
    exact ⟨w, spaces (n + 1) ++ letters rs, by simp [Run.letters], filled, edges, rfl,
      fun s first column => ⟨_, by rw [folded]; rfl⟩⟩

/-- A mark that opens a block does not stand alone at the front of a text that is written plain. -/
theorem IsPlain.written {t : Text} (h : IsPlain t) (s : Spot) (column : Nat) : ∃ d v,
    chars (folded s false true column (runs t)) = d :: v ∧ t.head? = some (.scalar d) ∧
      Cursor.isBreakOrBlank d = false ∧ isOpening (.scalar d) = false ∧
      (d = '-' ∨ d = '?' ∨ d = ':' → v.head?.any (fun e => !Cursor.isBreakOrBlank e) = true) := by
  obtain ⟨w, rest, cut, filled, edges, gap, begins⟩ := h.words.exists_gap
  rw [letters_runs] at cut
  subst cut
  have solid : ∀ l ∈ w, IsSolid l := fun l hl => h.solid l (List.mem_append_left _ hl) (edges l hl)
  obtain ⟨d, u, rfl, inside⟩ := exists_head filled solid
  obtain ⟨v, eq⟩ := begins s true column
  have clean := h.clean
  simp only [List.cons_append, hasIndicator, Bool.or_eq_false_iff] at clean
  refine ⟨d, chars (u ++ v), by rw [eq]; rfl, rfl, inside, clean.1.1, fun mark => ?_⟩
  cases u with
  | nil =>
    have alone := clean.1.2
    simp only [List.nil_append, gap, Bool.true_and] at alone
    rcases mark with rfl | rfl | rfl <;> cases alone
  | cons l u =>
    obtain ⟨e, rfl, inside, -⟩ := solid l (by simp)
    simp [inside]

theorem plainScalar_text {s : Spot} {margin n fuel column : Nat} {tail : List Char} {broken : Bool} {t : Text}
    {c : Cursor} (plain : IsPlain t) (deep : margin ≤ s.indent) (indented : 0 < s.indent)
    (stops : StopsPlain margin tail n broken)
    (h : c.rest = chars (folded s false true column (runs t)) ++ tail) (room : margin ≤ c.column + 1)
    (enough : c.rest.length < fuel) :
    Cursor.plainScalar false margin fuel [] c =
      ⟨chars t, c.skip ((chars (folded s false true column (runs t))).length + n), broken⟩ := by
  have written := letters_runs t
  have noComment : t.head? ≠ some (.scalar '#') := by
    intro eq
    obtain ⟨u, rfl⟩ := List.head?_eq_some_iff.1 eq
    have clean := plain.clean
    unfold hasIndicator at clean
    simp [isOpening] at clean
  have clean : hasIndicator none (letters (runs t)) = false := by rw [written]; exact plain.clean
  have reads := readsPlain_words deep indented stops plain.words clean (by rw [written]; exact plain.solid)
    (by rw [written]; exact noComment)
  have read := @reads true column fuel [] c h room enough
  rwa [written] at read

end Writing

end Yaml

end TaskCatalog
