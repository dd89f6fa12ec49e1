import TaskCatalog.Artifact.Markdown
import TaskCatalog.Proofs.Forms
import TaskCatalog.Proofs.TextLines
import Mathlib.Algebra.Ring.Nat

/-!
Rows of the tables on the pages. Bars part the cells of a row, unless an odd number of backslashes stands before them.
Descriptions are made into cells that keep to one line and guard their bars, other texts stand in a row as they are, so
that each row has its cells just if these texts hold no bar and no line break.
-/

namespace TaskCatalog

open Text

namespace Text

variable {t : Text}

theorem solid_of_mem_words {word : Text} (h : word ∈ words t) : ∀ l ∈ word, isBlank l = false := by
  have solid (t started : Text) (front : ∀ l ∈ started, isBlank l = false) :
      ∀ word ∈ words.go t started, ∀ l ∈ word, isBlank l = false := by
    fun_induction words.go t started with
    | case1 => exact nofun
    | case2 started filled => simpa using front
    | case3 l rest started blank empty ih => exact ih nofun
    | case4 l rest started blank filled ih =>
      exact List.forall_mem_cons.2 ⟨by simpa using front, ih nofun⟩
    | case5 l rest started solid ih =>
      exact ih (List.forall_mem_cons.2 ⟨by simpa using solid, front⟩)
  exact solid t [] nofun word h

end Text

namespace Markdown

def slash : Letter := .scalar '\\'

/-- How many bars of a text have an odd number of backslashes before them, or how many an even number; `odd` tells of
the backslashes that stand before the text. -/
def bars (guarded odd : Bool) : Text → Nat
  | [] => 0
  | l :: rest =>
    if l = slash then bars guarded (!odd) rest
    else (if l = bar ∧ odd = guarded then 1 else 0) + bars guarded false rest

/-- The bars that part cells. -/
def openBars (t : Text) : Nat := bars false false t

/-- The bars that stand for themselves. -/
def guardedBars (t : Text) : Nat := bars true false t

variable {t u rest : Text} {l : Letter} {ts : List Text} {guarded odd : Bool}

theorem bars_cons_plain (notSlash : l ≠ slash) (notBar : l ≠ bar) (rest : Text) :
    bars guarded odd (l :: rest) = bars guarded false rest := by
  simp [bars, notSlash, notBar]

theorem bars_append_plain (notSlash : l ≠ slash) (notBar : l ≠ bar) (t rest : Text) :
    bars guarded odd (t ++ l :: rest) = bars guarded odd t + bars guarded false rest := by
  induction t generalizing odd with
  | nil => rw [List.nil_append, bars_cons_plain notSlash notBar, bars, Nat.zero_add]
  | cons m t ih =>
    rw [List.cons_append, bars, bars, ih, ih]
    split
    · rfl
    · rw [Nat.add_assoc]

theorem bars_of_not_mem (h : bar ∉ t) : bars guarded odd t = 0 := by
  induction t generalizing odd with
  | nil => rfl
  | cons l t ih =>
    rw [List.mem_cons, not_or] at h
    simp [bars, ih h.2, Ne.symm h.1]

theorem bars_join (ts : List Text) :
    bars guarded false (join " " ts) = (ts.map (bars guarded false)).sum := by
  induction ts with
  | nil => rfl
  | cons t ts ih =>
    cases ts with
    | nil => rw [join_singleton, List.map_singleton, List.sum_singleton]
    | cons u ts =>
      rw [join_cons_cons, List.append_assoc, List.map_cons, List.sum_cons, ← ih]
      exact bars_append_plain (by decide) (by decide) t _

theorem ne_of_isBlank (h : isBlank l = true) : l ≠ slash ∧ l ≠ bar := by
  constructor <;> rintro rfl <;> revert h <;> decide

theorem bars_words (t : Text) : ((words t).map (bars guarded false)).sum = bars guarded false t := by
  have counted (t started : Text) :
      ((words.go t started).map (bars guarded false)).sum = bars guarded false (started.reverse ++ t) := by
    fun_induction words.go t started with
    | case1 started empty => rw [List.isEmpty_iff.1 empty]; rfl
    | case2 started filled => rw [List.map_singleton, List.sum_singleton, List.append_nil]
    | case3 l rest started blank empty ih =>
      have plain := ne_of_isBlank blank
      rw [ih, List.isEmpty_iff.1 empty, List.reverse_nil, List.nil_append, List.nil_append,
        bars_cons_plain plain.1 plain.2]
    | case4 l rest started blank filled ih =>
      -- the count of backslashes starts anew behind a blank, as it does in the next word
      have plain := ne_of_isBlank blank
      rw [List.map_cons, List.sum_cons, ih, bars_append_plain plain.1 plain.2]
      rfl
    | case5 l rest started solid ih =>
      rw [ih, List.reverse_cons, List.append_assoc]
      rfl
  exact counted t []

theorem bars_replace (t : Text) : bars false odd (replace bar "\\|" t) = bars true odd t := by
  induction t generalizing odd with
  | nil => rfl
  | cons l t ih =>
    rw [replace, List.flatMap_cons, ← replace]
    by_cases isBar : l = bar
    · have stays : bar ≠ slash := by decide
      rw [if_pos isBar, isBar]
      change bars false odd (slash :: bar :: replace bar "\\|" t) = _
      rw [bars, if_pos rfl, bars, bars, if_neg stays, if_neg stays, ih]
      -- the backslash that is put there guards the bar, or is guarded itself by the one before it
      cases odd <;> rfl
    · rw [if_neg isBar, List.singleton_append, bars, bars, ih, ih]
      simp [isBar]

theorem openBars_cell (t : Option Text) : openBars (cell t) = guardedBars (t.getD []) := by
  rw [openBars, cell, bars_replace, bars_join, bars_words, guardedBars]

theorem unbroken_replace (h : Unbroken t) : Unbroken (replace bar "\\|" t) := by
  intro l hl
  obtain ⟨m, hm, hl⟩ := List.mem_flatMap.1 hl
  split at hl
  · exact (by decide : Unbroken ("\\|" : Text)) l hl
  · exact List.mem_singleton.1 hl ▸ h m hm

theorem unbroken_cell (t : Option Text) : Unbroken (cell t) :=
  unbroken_replace (unbroken_join (by decide) fun _ member => unbroken_of_solid (solid_of_mem_words member))

theorem openBars_cellOr {other : Text} (t : Option Text) (barless : bar ∉ other) :
    openBars (cellOr other t) = guardedBars (t.getD []) := by
  rw [cellOr, ← openBars_cell]
  split
  · next empty => rw [List.isEmpty_iff.1 empty, openBars, bars_of_not_mem barless]; rfl
  · rfl

theorem unbroken_cellOr {other : Text} (t : Option Text) (whole : Unbroken other) : Unbroken (cellOr other t) := by
  rw [cellOr]
  split
  · exact whole
  · exact unbroken_cell t

theorem openBars_code (t : Text) : openBars (code t) = openBars t := by
  have front : openBars (code t) = bars false false (t ++ ("`" : Text)) :=
    bars_cons_plain (by decide) (by decide) _
  rw [front]
  exact bars_append_plain (by decide) (by decide) t []

theorem unbroken_code : Unbroken (code t) ↔ Unbroken t := by
  have mark : Unbroken ("`" : Text) := by decide
  rw [code, Unbroken, List.forall_mem_append, List.forall_mem_append]
  exact ⟨fun h => h.1.2, fun h => ⟨⟨mark, h⟩, mark⟩⟩

theorem openBars_codeCell (t : Option Text) : openBars (codeCell t) = openBars (t.getD []) := by
  rcases t with _ | ⟨_ | ⟨l, t⟩⟩
  · rfl
  · rfl
  · exact openBars_code (l :: t)

theorem unbroken_codeCell {t : Option Text} : Unbroken (codeCell t) ↔ Unbroken (t.getD []) := by
  rcases t with _ | ⟨_ | ⟨l, t⟩⟩
  · decide
  · decide
  · exact unbroken_code

/-- A row with some number of cells, in one line. -/
def IsRow (cells : Nat) (row : Text) : Prop := Unbroken row ∧ openBars row = cells + 1

instance (cells : Nat) (row : Text) : Decidable (IsRow cells row) := inferInstanceAs (Decidable (_ ∧ _))

/-- A text that can stand in a row as it is. -/
structure IsPlain (t : Text) : Prop where
  unbroken : Unbroken t
  barless : openBars t = 0

instance (t : Text) : Decidable (IsPlain t) :=
  decidable_of_iff (Unbroken t ∧ openBars t = 0) ⟨fun h => ⟨h.1, h.2⟩, fun h => ⟨h.unbroken, h.barless⟩⟩

end Markdown

open Markdown

/-- A parameter whose texts keep to their cells. -/
structure Parameter.IsTabular (p : Parameter) : Prop where
  name : IsPlain p.name
  type : IsPlain p.type
  defaultValue : IsPlain (p.defaultValue.getD [])
  expression : IsPlain (p.expression.getD [])
  description : guardedBars (p.description.getD []) = 0
  deprecated : guardedBars (p.deprecated.getD []) = 0

namespace Markdown

def readOnlyRemark (p : Parameter) : List Text := if p.editable then [] else ["(read-only)"]

def deprecationRemark (p : Parameter) : List Text :=
  match nonempty? p.deprecated with
  | some t => [("Deprecated:" : Text), cell (some t)]
  | none => []

/-- The bars of a row and what stands between them, with a blank between any two. -/
def rowPieces (p : Parameter) : List Text :=
  [[bar], code p.name, [bar], code p.type, [bar], codeCell p.defaultValue, [bar], codeCell p.expression, [bar],
    cellOr "-" p.description] ++ (readOnlyRemark p ++ (deprecationRemark p ++ [[bar]]))

def overviewLink (d : Descriptor) (t : Task) : Text := "[" ++ d.qualifiedGoal t.name.text ++ "](" ++ page t ++ ")"

def overviewPieces (d : Descriptor) (t : Task) : List Text :=
  [[bar], overviewLink d t, [bar], cellOr noDescription t.description, [bar]]

theorem opening_eq : ("| " : Text) = [bar] ++ (" " : Text) := by decide

theorem parting_eq : (" | " : Text) = " " ++ ([bar] ++ (" " : Text)) := by decide

theorem closing_eq : (" |" : Text) = " " ++ [bar] := by decide

theorem parameterRow_eq (p : Parameter) : parameterRow p = join " " (rowPieces p) := by
  have readOnly : (" (read-only)" : Text) = " " ++ ("(read-only)" : Text) := by decide
  have deprecated : (" Deprecated: " : Text) = " " ++ (("Deprecated:" : Text) ++ (" " : Text)) := by decide
  rw [parameterRow, rowPieces, readOnlyRemark, deprecationRemark]
  cases p.editable <;> cases nonempty? p.deprecated <;>
    simp only [opening_eq, parting_eq, closing_eq, readOnly, deprecated, join_cons_cons, join_singleton,
      List.append_assoc, List.cons_append, List.nil_append, if_true, Bool.false_eq_true, if_false]

theorem overviewRow_eq (d : Descriptor) (t : Task) : overviewRow d t = join " " (overviewPieces d t) := by
  have opening : ("| [" : Text) = [bar] ++ ((" " : Text) ++ ("[" : Text)) := by decide
  have parting : (") | " : Text) = ")" ++ ((" " : Text) ++ ([bar] ++ (" " : Text))) := by decide
  simp only [overviewRow, overviewPieces, overviewLink, opening, parting, closing_eq, join_cons_cons, join_singleton,
    List.append_assoc, List.cons_append, List.nil_append]

theorem openBars_parameterRow (p : Parameter) : openBars (parameterRow p) = 6 + (openBars p.name + openBars p.type +
    openBars (p.defaultValue.getD []) + openBars (p.expression.getD []) + guardedBars (p.description.getD []) +
    guardedBars (p.deprecated.getD [])) := by
  have single : openBars [bar] = 1 := by decide
  have dash : bar ∉ ("-" : Text) := by decide
  have readOnly : ((readOnlyRemark p).map openBars).sum = 0 := by
    rw [readOnlyRemark]
    cases p.editable <;> decide
  have deprecated : ((deprecationRemark p).map openBars).sum = guardedBars (p.deprecated.getD []) := by
    rw [deprecationRemark]
    rcases p.deprecated with _ | ⟨_ | ⟨l, t⟩⟩
    · rfl
    · rfl
    · have title : openBars ("Deprecated:" : Text) = 0 := by decide
      simp only [nonempty?, List.map_cons, List.map_nil, List.sum_cons, List.sum_nil, title, openBars_cell,
        Nat.zero_add, Nat.add_zero]
  have counted : openBars (parameterRow p) = ((rowPieces p).map openBars).sum := by
    rw [parameterRow_eq, openBars, bars_join]
    rfl
  rw [counted, rowPieces, List.map_append, List.sum_append, List.map_append, List.sum_append, List.map_append,
    List.sum_append, readOnly, deprecated]
  simp only [List.map_cons, List.map_nil, List.sum_cons, List.sum_nil, single, openBars_code, openBars_codeCell,
    openBars_cellOr _ dash]
  omega

theorem unbroken_parameterRow {p : Parameter} : Unbroken (parameterRow p) ↔
    Unbroken p.name ∧ Unbroken p.type ∧ Unbroken (p.defaultValue.getD []) ∧ Unbroken (p.expression.getD []) := by
  have blank : Unbroken (" " : Text) := by decide
  have single : Unbroken [bar] := by decide
  have readOnly : ∀ t ∈ readOnlyRemark p, Unbroken t := by
    rw [readOnlyRemark]
    cases p.editable <;> decide
  have deprecated : ∀ t ∈ deprecationRemark p, Unbroken t := by
    rw [deprecationRemark]
    cases nonempty? p.deprecated with
    | none => exact nofun
    | some t =>
      have title : Unbroken ("Deprecated:" : Text) := by decide
      exact List.forall_mem_cons.2 ⟨title, List.forall_mem_singleton.2 (unbroken_cell (some t))⟩
  have described : Unbroken (cellOr "-" p.description) := unbroken_cellOr p.description (by decide)
  have whole : Unbroken (parameterRow p) ↔ ∀ t ∈ rowPieces p, Unbroken t := by
    rw [parameterRow_eq]
    exact forall_mem_join_iff blank
  rw [whole, rowPieces, List.forall_mem_append, List.forall_mem_append, List.forall_mem_append]
  simp only [List.forall_mem_cons, List.not_mem_nil, false_imp_iff, implies_true, and_true, true_and, single,
    described, unbroken_code, unbroken_codeCell]
  exact ⟨fun h => h.1, fun h => ⟨h, readOnly, deprecated⟩⟩

theorem isRow_parameterRow (p : Parameter) : IsRow 5 (parameterRow p) ↔ p.IsTabular := by
  rw [IsRow, unbroken_parameterRow, openBars_parameterRow]
  constructor
  · rintro ⟨⟨name, type, value, expression⟩, count⟩
    exact ⟨⟨name, by omega⟩, ⟨type, by omega⟩, ⟨value, by omega⟩, ⟨expression, by omega⟩, by omega, by omega⟩
  · intro h
    refine ⟨⟨h.name.unbroken, h.type.unbroken, h.defaultValue.unbroken, h.expression.unbroken⟩, ?_⟩
    rw [h.name.barless, h.type.barless, h.defaultValue.barless, h.expression.barless, h.description, h.deprecated]

instance (p : Parameter) : Decidable p.IsTabular := decidable_of_iff _ (isRow_parameterRow p)

theorem solid_of_goalName (n : GoalName) : ∀ l ∈ n.text, isBlank l = false := by
  intro l hl
  cases blank : isBlank l with
  | false => rfl
  | true =>
    have faultless := n.valid
    have blanks : n.text.any isBlank = true := List.any_eq_true.2 ⟨l, hl, blank⟩
    rw [GoalName.fault?, blanks] at faultless
    split at faultless <;> cases faultless

theorem bar_not_mem_goalName (n : GoalName) : bar ∉ n.text := by
  intro member
  obtain ⟨c, same, part⟩ := n.form.parts bar member
  cases same
  revert part
  decide

theorem openBars_overviewLink (d : Descriptor) (t : Task) : openBars (overviewLink d t) = openBars d.goalPrefix := by
  let rest : Text := t.name.text ++ (("](" : Text) ++ (t.name.text ++ (("-task.md" : Text) ++ (")" : Text))))
  have ending : bar ∉ rest := by
    have named := bar_not_mem_goalName t.name
    have literals : bar ∉ ("](" : Text) ∧ bar ∉ ("-task.md" : Text) ∧ bar ∉ (")" : Text) := by decide
    simpa only [rest, List.mem_append, not_or] using ⟨named, literals.1, named, literals.2⟩
  have shape : overviewLink d t = .scalar '[' :: (d.goalPrefix ++ .scalar ':' :: rest) := by
    simp only [overviewLink, Descriptor.qualifiedGoal, page, List.append_assoc]
    rfl
  rw [shape, openBars, bars_cons_plain (by decide) (by decide), bars_append_plain (by decide) (by decide),
    bars_of_not_mem ending]
  rfl

theorem unbroken_overviewLink {d : Descriptor} {t : Task} : Unbroken (overviewLink d t) ↔ Unbroken d.goalPrefix := by
  have named : Unbroken t.name.text := unbroken_of_solid (solid_of_goalName t.name)
  have literals : Unbroken ("[" : Text) ∧ Unbroken (":" : Text) ∧ Unbroken ("](" : Text) ∧
      Unbroken ("-task.md" : Text) ∧ Unbroken (")" : Text) := by
    decide
  obtain ⟨opening, colon, middle, suffix, closing⟩ := literals
  simp only [Unbroken, overviewLink, Descriptor.qualifiedGoal, page, List.forall_mem_append] at *
  exact ⟨fun h => h.1.1.1.2.1.1, fun h => ⟨⟨⟨⟨opening, ⟨h, colon⟩, named⟩, middle⟩, named, suffix⟩, closing⟩⟩

theorem openBars_overviewRow (d : Descriptor) (t : Task) :
    openBars (overviewRow d t) = 3 + (openBars d.goalPrefix + guardedBars (t.description.getD [])) := by
  have single : openBars [bar] = 1 := by decide
  have summary : bar ∉ noDescription := by decide
  have counted : openBars (overviewRow d t) = ((overviewPieces d t).map openBars).sum := by
    rw [overviewRow_eq, openBars, bars_join]
    rfl
  rw [counted, overviewPieces]
  simp only [List.map_cons, List.map_nil, List.sum_cons, List.sum_nil, single, openBars_overviewLink,
    openBars_cellOr _ summary]
  omega

theorem unbroken_overviewRow {d : Descriptor} {t : Task} : Unbroken (overviewRow d t) ↔ Unbroken d.goalPrefix := by
  have blank : Unbroken (" " : Text) := by decide
  have single : Unbroken [bar] := by decide
  have summary : Unbroken (cellOr noDescription t.description) := unbroken_cellOr t.description (by decide)
  have whole : Unbroken (overviewRow d t) ↔ ∀ piece ∈ overviewPieces d t, Unbroken piece := by
    rw [overviewRow_eq]
    exact forall_mem_join_iff blank
  rw [whole, overviewPieces]
  simp only [List.forall_mem_cons, List.not_mem_nil, false_imp_iff, implies_true, and_true, true_and, single,
    unbroken_overviewLink, summary]

theorem isRow_overviewRow (d : Descriptor) (t : Task) :
    IsRow 2 (overviewRow d t) ↔ IsPlain d.goalPrefix ∧ guardedBars (t.description.getD []) = 0 := by
  rw [IsRow, unbroken_overviewRow, openBars_overviewRow]
  constructor
  · rintro ⟨whole, count⟩
    exact ⟨⟨whole, by omega⟩, by omega⟩
  · rintro ⟨plain, described⟩
    exact ⟨plain.unbroken, by rw [plain.barless, described]⟩

end Markdown

end TaskCatalog
