import TaskCatalog.Proofs.Outcome
import TaskCatalog.Proofs.ScanSteps
import TaskCatalog.Text.CompatibilityForm

/-!
The letters of names. A name that is scanned consists of letters, digits and underscores or of characters beyond ASCII,
and so does its composed form.
-/

namespace TaskCatalog

namespace Text

open Code.Scan (isNamePart isNameStart)

variable {n a b code : Nat} {codes marks rest images : List Nat}

theorem isNameCode_toNat (c : Char) : isNameCode c.toNat = isNamePart c := by
  simp only [isNameCode, isNamePart, isNameStart, Char.ofNat_toNat, Char.isAlphanum]
  cases c.isAlpha <;> cases c.isDigit <;> simp

theorem isNamePart_ofNat (n : Nat) : isNamePart (Char.ofNat n) = isNameCode n := by
  simp only [isNameCode, isNamePart, isNameStart, Char.isAlphanum]
  cases (Char.ofNat n).isAlpha <;> cases (Char.ofNat n).isDigit <;> simp

theorem isNameCode_of_beyond (beyond : 127 < n) (whole : n < 0xD800) : isNameCode n = true := by
  have valid : n.isValidChar := .inl whole
  have same : (Char.ofNat n).toNat = n := by
    rw [Char.ofNat, dif_pos valid]
    rfl
  simp [isNameCode, same, beyond]

theorem names_of_lookup? {table : List CodeMapping} (stays : ∀ m ∈ table, m.staysInNames = true)
    (found : CodeMapping.lookup? table n = some images) : ∀ code ∈ images, isNameCode code = true := by
  obtain ⟨m, first, rfl⟩ := Option.map_eq_some_iff.1 found
  have covered := List.find?_some first
  rw [CodeRange.covers, Bool.and_eq_true, decide_eq_true_iff, decide_eq_true_iff] at covered
  have each := stays m (List.mem_of_find?_eq_some first)
  simp only [CodeMapping.staysInNames, List.all_eq_true, List.mem_range] at each
  split
  · next image single =>
    intro code member
    rw [List.mem_singleton.1 member]
    exact each (n - m.first) (by omega) image (by simp [single])
  · exact fun code member => each 0 (by omega) code member

theorem names_decompose (named : isNameCode n = true) : ∀ code ∈ decompose n, isNameCode code = true := by
  unfold decompose
  split
  · exact List.forall_mem_singleton.2 named
  · split
    · next hangul =>
      rw [isHangulSyllable, Bool.and_eq_true, decide_eq_true_iff, decide_eq_true_iff] at hangul
      refine List.forall_mem_append.2 ⟨List.forall_mem_cons.2 ⟨?_, List.forall_mem_singleton.2 ?_⟩, ?_⟩
      · exact isNameCode_of_beyond (by omega) (by omega)
      · exact isNameCode_of_beyond (by omega) (by omega)
      · split
        · exact List.forall_mem_nil _
        · exact List.forall_mem_singleton.2 (isNameCode_of_beyond (by omega) (by omega))
    · cases found : CodeMapping.lookup? decompositions n with
      | none => exact List.forall_mem_singleton.2 named
      | some images => exact names_of_lookup? (fun m member => (List.mem_filter.1 member).2) found

theorem mem_insertMark : code ∈ insertMark n codes ↔ code = n ∨ code ∈ codes := by
  induction codes with
  | nil => simp [insertMark]
  | cons p before ih =>
    rw [insertMark]
    split
    · rw [List.mem_cons, ih, List.mem_cons, or_left_comm]
    · exact List.mem_cons

theorem names_orderMarks (named : ∀ code ∈ codes, isNameCode code = true) :
    ∀ code ∈ orderMarks codes, isNameCode code = true := by
  let place (done : List Nat) (n : Nat) : List Nat :=
    if combiningClass n = 0 then n :: done else insertMark n done
  have placed : ∀ code ∈ codes.foldl place [], isNameCode code = true := by
    refine List.foldlRecOn (motive := fun done => ∀ code ∈ done, isNameCode code = true) codes place
      (List.forall_mem_nil _) fun done kept n here code member => ?_
    unfold place at member
    split at member
    · rcases List.mem_cons.1 member with rfl | member
      · exact named code here
      · exact kept code member
    · rcases mem_insertMark.1 member with rfl | member
      · exact named code here
      · exact kept code member
  exact fun code member => placed code (List.mem_reverse.1 member)

theorem name_composePair? (composed : composePair? a b = some code) : isNameCode code = true := by
  unfold composePair? at composed
  split at composed
  · next syllable =>
    simp only [Bool.and_eq_true, decide_eq_true_iff] at syllable
    obtain rfl := Option.some.inj composed
    exact isNameCode_of_beyond (by omega) (by omega)
  · split at composed
    · next syllable =>
      simp only [isHangulSyllable, Bool.and_eq_true, decide_eq_true_iff] at syllable
      obtain rfl := Option.some.inj composed
      exact isNameCode_of_beyond (by omega) (by omega)
    · obtain ⟨m, found, rfl⟩ := Option.map_eq_some_iff.1 composed
      exact (List.mem_filter.1 (List.mem_of_find?_eq_some found)).2

theorem names_composeFrom (first : isNameCode a = true) (named : ∀ code ∈ marks, isNameCode code = true)
    (later : ∀ code ∈ rest, isNameCode code = true) : ∀ code ∈ composeFrom a marks rest, isNameCode code = true := by
  induction rest generalizing a marks with
  | nil =>
    intro code member
    rcases List.mem_cons.1 member with rfl | member
    · exact first
    · exact named code (List.mem_reverse.1 member)
  | cons n rest ih =>
    obtain ⟨here, later⟩ := List.forall_mem_cons.1 later
    unfold composeFrom
    dsimp only
    split
    · next composite composed =>
      exact ih (name_composePair? (Option.ite_none_right_eq_some.1 composed).2) named later
    · split
      · intro code member
        rcases List.mem_append.1 member with member | member
        · rcases List.mem_cons.1 member with rfl | member
          · exact first
          · exact named code (List.mem_reverse.1 member)
        · exact ih here (List.forall_mem_nil _) later code member
      · exact ih first (List.forall_mem_cons.2 ⟨here, named⟩) later

theorem names_compose (named : ∀ code ∈ codes, isNameCode code = true) :
    ∀ code ∈ compose codes, isNameCode code = true := by
  cases codes with
  | nil => exact List.forall_mem_nil _
  | cons n rest =>
    obtain ⟨here, later⟩ := List.forall_mem_cons.1 named
    exact names_composeFrom here (List.forall_mem_nil _) later

/-- The composed form of a name is a name. -/
theorem names_compatibilityForm {cs : List Char} (named : ∀ c ∈ cs, isNamePart c = true) :
    ∀ c ∈ compatibilityForm cs, isNamePart c = true := by
  unfold compatibilityForm
  split
  · exact named
  · have decomposed : ∀ code ∈ cs.flatMap fun c => decompose c.toNat, isNameCode code = true := by
      intro code member
      obtain ⟨c, here, member⟩ := List.mem_flatMap.1 member
      exact names_decompose ((isNameCode_toNat c).trans (named c here)) code member
    intro c member
    obtain ⟨code, inside, rfl⟩ := List.mem_map.1 member
    rw [isNamePart_ofNat]
    exact names_compose (names_orderMarks decomposed) code inside

end Text

namespace Code

/-- A lexeme that is no name, or one whose characters are those of names. -/
def Lexeme.IsNamed (l : Lexeme) : Prop := ∀ text, l = .name text → ∀ c ∈ text.toList, Scan.isNamePart c = true

theorem Lexeme.isNamed_of_ne {l : Lexeme} (other : ∀ text, l ≠ .name text) : l.IsNamed :=
  fun text same => absurd same (other text)

theorem Lexeme.isNamed_fault (f : ScanFault) : (Lexeme.fault f).IsNamed := isNamed_of_ne nofun

namespace Scan

variable {c : Cursor} {l : Lexeme} {front : Bool} {cs : List Char}

namespace Cursor

theorem isNamed_margin {m : Margin} {joined line : Nat} (failed : c.margin m joined line cs = .error l) :
    l.IsNamed := by
  fun_induction c.margin m joined line cs with
  | case1 _ _ _ _ ih | case2 _ _ _ _ ih | case3 _ _ _ _ ih => exact ih failed
  | case4 =>
    cases failed
    exact Lexeme.isNamed_fault _
  | case5 _ _ _ _ _ ih => exact ih failed
  | case6 =>
    cases failed
    exact Lexeme.isNamed_fault _
  | case7 => cases failed

theorem isNamed_enter (c : Cursor) (m : Margin) :
    TaskCatalog.Outcome.Ends Lexeme.IsNamed (fun entered => ∀ l ∈ entered.1, l.IsNamed) (c.enter m) := by
  have fault : (c.faultAt c.line false).IsNamed := Lexeme.isNamed_fault _
  have opened : ∀ l ∈ [Lexeme.indent], l.IsNamed := List.forall_mem_singleton.2 (Lexeme.isNamed_of_ne nofun)
  unfold enter
  dsimp only
  split
  · exact fault
  · refine .ite (.ite (List.forall_mem_nil _) fault) (.ite (.ite fault opened) (.ite (fun l member => ?_) fault))
    rw [(List.mem_replicate.1 member).2]
    exact Lexeme.isNamed_of_ne nofun

theorem isNamed_name (c : Cursor) : c.name.1.IsNamed := by
  unfold name
  dsimp only
  split
  · intro text same ch member
    obtain rfl := Lexeme.name.inj same
    rw [String.toList_ofList] at member
    exact List.all_eq_true.1 List.all_takeWhile ch member
  · exact Lexeme.isNamed_of_ne nofun

theorem isNamed_mark (c : Cursor) : c.mark.1.IsNamed := by
  unfold mark
  dsimp only
  repeat' split
  all_goals exact Lexeme.isNamed_of_ne nofun

theorem isNamed_lexeme (c : Cursor) : c.lexeme.1.IsNamed := by
  unfold lexeme
  split
  · unfold string
    split <;> exact Lexeme.isNamed_of_ne nofun
  · split
    · exact c.isNamed_name
    · split
      · unfold number
        split <;> exact Lexeme.isNamed_of_ne nofun
      · exact c.isNamed_mark
  · exact c.isNamed_mark

end Cursor

theorem isNamed_step (front : Bool) (c : Cursor) : ∀ t ∈ (step front c).1, t.1.IsNamed := by
  unfold step
  split
  · split
    · next fault failed => exact List.forall_mem_singleton.2 (Cursor.isNamed_margin failed)
    · dsimp only
      split
      · exact List.forall_mem_nil _
      · split
        · split
          · next fault failed => exact List.forall_mem_singleton.2 ((Cursor.isNamed_enter _ _).of_error failed)
          · next marks margins given =>
            exact List.forall_mem_map.2 fun l member => (Cursor.isNamed_enter _ _).of_ok given l member
        · exact List.forall_mem_nil _
  · have other {l : Lexeme} {line : Nat} {c : Cursor} (other : ∀ text, l ≠ .name text) :
        ∀ t ∈ [located l line c], t.1.IsNamed := List.forall_mem_singleton.2 (Lexeme.isNamed_of_ne other)
    split
    · split
      · exact other nofun
      · exact other nofun
    · exact List.forall_mem_nil _
    · split
      · exact other nofun
      · exact List.forall_mem_nil _
    · exact other nofun
    · exact List.forall_mem_nil _
    · exact other nofun
    · split
      · exact other nofun
      · next l next _ given =>
        have named := Cursor.isNamed_lexeme { c with rest := c.rest.dropWhile Cursor.isGap }
        rw [given] at named
        exact List.forall_mem_singleton.2 named

theorem isNamed_tokens (fuel : Nat) (front : Bool) (c : Cursor) : ∀ t ∈ tokens fuel front c, t.1.IsNamed := by
  induction fuel generalizing front c with
  | zero => exact List.forall_mem_nil _
  | succ fuel ih =>
    rw [tokens_succ]
    refine List.forall_mem_append.2 ⟨isNamed_step front c, ?_⟩
    cases (step front c).2 with
    | none => exact List.forall_mem_nil _
    | some next => exact ih next.1 next.2

end Scan

theorem isNamed_tokensOf (line : Nat) (cs : List Char) : ∀ t ∈ tokensOf line cs, t.lexeme.IsNamed := by
  intro t member
  obtain ⟨numbered, inside, rfl⟩ := List.mem_map.1 member
  exact Scan.isNamed_tokens _ _ _ _ (List.fst_mem_of_mem_zipIdx inside)

end Code

end TaskCatalog
