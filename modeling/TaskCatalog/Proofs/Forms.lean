import TaskCatalog.Catalog.Expression
import TaskCatalog.Catalog.GoalName

/-!
The forms of goal names and of expressions, told without the checks that enforce them.
-/

namespace TaskCatalog

open Text

namespace Text

theorem includes_eq_true {part t : Text} : includes part t = true ↔ part <:+: t := by
  induction t with
  | nil => simp [includes]
  | cons l rest ih =>
    rw [includes, Bool.or_eq_true, ih, List.isPrefixOf_iff_prefix, List.infix_cons_iff]

theorem splitOn_cases (l : Letter) (t : Text) :
    splitOn l t = [t] ∨ ∃ piece rest, t = piece ++ l :: rest ∧ splitOn l t = piece :: splitOn l rest := by
  induction t with
  | nil => exact .inl rfl
  | cons c rest ih =>
    by_cases hc : c = l
    · exact .inr ⟨[], rest, by rw [hc]; rfl, by rw [splitOn, if_pos hc]⟩
    · rcases ih with one | ⟨piece, more, hrest, hsplit⟩
      · exact .inl (by simp [splitOn, hc, one])
      · exact .inr ⟨c :: piece, more, by rw [hrest]; rfl, by simp [splitOn, hc, hsplit]⟩

theorem splitOn_of_not_mem {l : Letter} {t : Text} (h : l ∉ t) : splitOn l t = [t] := by
  rcases splitOn_cases l t with one | ⟨piece, rest, ht, -⟩
  · exact one
  · exact absurd (ht ▸ List.mem_append_right piece List.mem_cons_self) h

theorem splitOn_append {l : Letter} {t : Text} (h : l ∉ t) (rest : Text) : splitOn l (t ++ l :: rest) = t :: splitOn l rest := by
  induction t with
  | nil => rw [List.nil_append, splitOn, if_pos rfl]
  | cons c t ih =>
    rw [List.mem_cons, not_or] at h
    rw [List.cons_append, splitOn, if_neg (Ne.symm h.1), ih h.2]

theorem splitOn_join {l : Letter} {ts : List Text} (some : ts ≠ []) (undivided : ∀ t ∈ ts, l ∉ t) :
    splitOn l (join [l] ts) = ts := by
  induction ts with
  | nil => exact absurd rfl some
  | cons t ts ih =>
    obtain ⟨here, later⟩ := List.forall_mem_cons.1 undivided
    cases ts with
    | nil => exact splitOn_of_not_mem here
    | cons u ts =>
      have joined : join [l] (t :: u :: ts) = t ++ l :: join [l] (u :: ts) := by simp [join]
      rw [joined, splitOn_append here, ih (List.cons_ne_nil u ts) later]

end Text

structure GoalName.Form (t : Text) : Prop where
  front : ∃ c rest, t = .scalar c :: rest ∧ c.isAlphanum = true
  parts : ∀ l ∈ t, ∃ c, l = .scalar c ∧ (isWord c = true ∨ c = '.' ∨ c = '-')
  dots : ¬ (".." : Text) <:+: t

theorem Letter.satisfies_iff {p : Char → Bool} {l : Letter} :
    l.satisfies p = true ↔ ∃ c, l = .scalar c ∧ p c = true := by
  cases l <;> simp

theorem GoalName.form (n : GoalName) : Form n.text := by
  have shape := hasShape_of_fault? n.valid
  have dots : ¬ (".." : Text) <:+: n.text := by
    rw [← includes_eq_true, not_includes_of_fault? n.valid]
    exact Bool.false_ne_true
  cases h : n.text with
  | nil => exact absurd h n.ne_nil
  | cons l rest =>
    rw [h] at shape dots
    rw [hasShape, Bool.and_eq_true] at shape
    obtain ⟨c, rfl, hc⟩ := Letter.satisfies_iff.1 shape.1
    refine ⟨⟨c, rest, rfl, hc⟩, ?_, dots⟩
    intro l hl
    rcases List.mem_cons.1 hl with rfl | hl
    · exact ⟨c, rfl, .inl (isWord_of_isAlphanum hc)⟩
    · obtain ⟨d, rfl, hd⟩ := Letter.satisfies_iff.1 (List.all_eq_true.1 shape.2 l hl)
      exact ⟨d, rfl, by simpa [or_assoc] using hd⟩

namespace Expression

def opener : Text := "$\x7b"

def closer : Letter := .scalar '\x7d'

theorem opener_eq : opener = [.scalar '$', .scalar '\x7b'] := by decide

inductive Identifier : Text → Prop
  | intro {c rest} (front : c.isAlpha = true ∨ c = '_')
      (parts : ∀ l ∈ rest, ∃ d, l = .scalar d ∧ (isWord d = true ∨ d = '-')) :
      Identifier (.scalar c :: rest)

inductive DottedPath : Text → Prop
  | last {t} : Identifier t → DottedPath t
  | dot {t rest} : Identifier t → DottedPath rest → DottedPath (t ++ .scalar '.' :: rest)

/-- Read from the left: an opener begins a reference up to the next closer, and what stands in it,
once trimmed, is a dotted path; no other letter begins an opener. -/
inductive WellReferenced : Text → Prop
  | nil : WellReferenced []
  | letter {l rest} : ¬ opener <+: l :: rest → WellReferenced rest → WellReferenced (l :: rest)
  | reference {path rest} : closer ∉ path → DottedPath (trim path) → WellReferenced rest →
      WellReferenced (opener ++ path ++ closer :: rest)

structure Form (t : Text) : Prop where
  stated : ∃ l ∈ t, isBlank l = false
  referenced : WellReferenced t

variable {t path rest : Text} {l : Letter}

theorem identifier_of_isName (h : isName t = true) : Identifier t := by
  cases t with
  | nil => simp [isName] at h
  | cons l rest =>
    rw [isName, Bool.and_eq_true] at h
    obtain ⟨c, rfl, hc⟩ := Letter.satisfies_iff.1 h.1
    refine .intro (by simpa using hc) ?_
    intro l hl
    obtain ⟨d, rfl, hd⟩ := Letter.satisfies_iff.1 (List.all_eq_true.1 h.2 l hl)
    exact ⟨d, rfl, by simpa using hd⟩

theorem dottedPath_of_isPath {t : Text} (h : isPath t = true) : DottedPath t := by
  rw [isPath] at h
  rcases splitOn_cases (.scalar '.') t with one | ⟨piece, rest, ht, hsplit⟩
  · rw [one, List.all_cons, List.all_nil, Bool.and_true] at h
    exact .last (identifier_of_isName h)
  · rw [hsplit, List.all_cons, Bool.and_eq_true] at h
    have shorter : rest.length < t.length := by
      rw [ht, List.length_append, List.length_cons]
      omega
    rw [ht]
    exact .dot (identifier_of_isName h.1) (dottedPath_of_isPath h.2)
termination_by t.length

theorem dottedPath_of_pathFault? (h : pathFault? path = none) : DottedPath (trim path) := by
  simp only [pathFault?] at h
  split at h
  · simp at h
  · split at h
    · rename_i hpath
      exact dottedPath_of_isPath hpath
    · simp at h

theorem split_at_closer (h : (t.takeWhile (· ≠ closer)).length < t.length) :
    ∃ rest, t = t.takeWhile (· ≠ closer) ++ closer :: rest := by
  induction t with
  | nil => simp at h
  | cons c rest ih =>
    by_cases hc : c = closer
    · exact ⟨rest, by simp [hc]⟩
    · simp only [List.takeWhile_cons, hc, ne_eq, not_false_eq_true, decide_true, if_true,
        List.length_cons, Nat.add_lt_add_iff_right] at h ⊢
      obtain ⟨more, hmore⟩ := ih h
      exact ⟨more, congrArg (c :: ·) hmore⟩

theorem closer_not_mem_takeWhile (t : Text) : closer ∉ t.takeWhile (· ≠ closer) := by
  intro h
  simpa using List.all_eq_true.1 List.all_takeWhile closer h

theorem reference?_eq_some (h : reference? t = some path) :
    ∃ rest, t = opener ++ path ++ closer :: rest ∧ closer ∉ path := by
  unfold reference? at h
  split at h
  · rename_i more
    simp only at h
    split at h
    · rename_i shorter
      obtain ⟨rest, hrest⟩ := split_at_closer shorter
      cases h
      exact ⟨rest, congrArg (opener ++ ·) hrest, closer_not_mem_takeWhile more⟩
    · simp at h
  · simp at h

theorem references_skip (n : Nat) (t : Text) : references n t = references 0 (t.drop n) := by
  induction t generalizing n with
  | nil => simp [references]
  | cons l rest ih =>
    cases n with
    | zero => rfl
    | succ n => exact ih n

theorem remainder_skip (n : Nat) (t : Text) : remainder n t = remainder 0 (t.drop n) := by
  induction t generalizing n with
  | nil => simp [remainder]
  | cons l rest ih =>
    cases n with
    | zero => rfl
    | succ n => exact ih n

theorem opener_prefix_remainder (h : opener <+: t) (hr : reference? t = none) :
    opener <+: remainder 0 t := by
  obtain ⟨rest, rfl⟩ := h
  rw [opener_eq] at hr ⊢
  change reference? (.scalar '$' :: .scalar '\x7b' :: rest) = none at hr
  -- a brace begins no reference by itself, so both letters of the opener stay
  have hbrace : reference? (.scalar '\x7b' :: rest) = none := rfl
  exact ⟨remainder 0 rest, by simp [remainder, hr, hbrace]⟩

theorem drop_reference (path rest : Text) :
    (opener ++ path ++ closer :: rest).drop (path.length + 3) = rest := by
  rw [opener_eq]
  simp [List.drop_append]

theorem wellReferenced_of_clean {t : Text} (paths : (references 0 t).findSome? pathFault? = none)
    (closed : includes opener (remainder 0 t) = false) : WellReferenced t := by
  cases t with
  | nil => exact .nil
  | cons l rest =>
    cases hr : reference? (l :: rest) with
    | none =>
      have kept (h : opener <+: l :: rest) : False := by
        have := includes_eq_true.2 (opener_prefix_remainder h hr).isInfix
        rw [closed] at this
        exact Bool.false_ne_true this
      rw [references] at paths
      rw [remainder] at closed
      simp only [hr] at paths closed
      rw [includes, Bool.or_eq_false_iff] at closed
      exact .letter kept (wellReferenced_of_clean paths closed.2)
    | some path =>
      obtain ⟨after, ht, hpath⟩ := reference?_eq_some hr
      have hdrop : rest.drop (path.length + 2) = after := by
        rw [← drop_reference path after, ← ht]
        rfl
      have shorter : after.length < rest.length + 1 := by
        rw [← hdrop, List.length_drop]
        omega
      rw [references] at paths
      rw [remainder] at closed
      simp only [hr] at paths closed
      rw [references_skip, hdrop, List.findSome?_cons] at paths
      rw [remainder_skip, hdrop] at closed
      cases hp : pathFault? path with
      | some fault => simp [hp] at paths
      | none =>
        rw [hp] at paths
        rw [ht]
        exact .reference hpath (dottedPath_of_pathFault? hp) (wellReferenced_of_clean paths closed)
termination_by t.length

theorem form_of_fault? (h : fault? t = none) : Form t := by
  simp only [fault?] at h
  split at h
  · simp at h
  · rename_i blank
    split at h
    · simp at h
    · rename_i paths
      split at h
      · simp at h
      · rename_i closed
        exact ⟨by simpa [isAllBlank] using blank,
          wellReferenced_of_clean paths (Bool.eq_false_iff.2 closed)⟩

end Expression

end TaskCatalog
