import TaskCatalog.Code.Token
import TaskCatalog.Proofs.Outcome

/-!
Scanning step by step. Which lexemes come of a text does not depend on the lines on which they stand.
-/

namespace TaskCatalog.Code

def Lexeme.isFault : Lexeme → Bool
  | .fault _ => true
  | _ => false

namespace Scan

/-- What one step of a scan gives, and where the next one begins; there is none at the end or at a fault. -/
def step (atFront : Bool) (c : Cursor) : List Located × Option (Bool × Cursor) :=
  if atFront then
    match c.margin ⟨0, 0⟩ 0 c.line c.rest with
    | .error fault => ([located fault c.line c], none)
    | .ok (m, line, rest) =>
      let c := { c with rest, line }
      if rest.head? = some '#' || rest.head? = some '\n' then
        ([], some (true, { c with rest := (rest.dropWhile (· ≠ '\n')).drop 1, line := line + 1 }))
      else if c.brackets.isEmpty then
        let here := if rest.isEmpty then line - 1 else line
        match { c with line := here }.enter m with
        | .error fault => ([located fault here c], none)
        | .ok (marks, margins) => (marks.map (located · here c), some (false, { c with margins }))
      else ([], some (false, c))
  else
    match c.rest.dropWhile Cursor.isGap with
    | [] =>
      if c.brackets.isEmpty then ([located .endOfFile (c.line - 1) c], none)
      else ([located (c.endFault c.line) (c.line - 1) c], none)
    | '#' :: rest => ([], some (false, { c with rest := rest.dropWhile (· ≠ '\n') }))
    | '\n' :: rest =>
      let next := { c with rest, line := c.line + 1 }
      if c.brackets.isEmpty then ([located .newline c.line c], some (true, next)) else ([], some (true, next))
    | ['\\', '\n'] => ([located (c.endFault c.line) c.line c], none)
    | '\\' :: '\n' :: rest => ([], some (false, { c with rest, line := c.line + 1 }))
    | '\\' :: _ => ([located (c.faultAt c.line false) c.line c], none)
    | rest =>
      match { c with rest }.lexeme with
      | (.fault f, _) => ([located (.fault f) c.line c], none)
      | (l, next) => ([located l c.line next], some (false, next))

theorem tokens_succ (fuel : Nat) (atFront : Bool) (c : Cursor) :
    tokens (fuel + 1) atFront c =
      (step atFront c).1 ++ (step atFront c).2.elim [] fun (front, next) => tokens fuel front next := by
  cases atFront with
  | true =>
    simp only [tokens, step, if_true]
    cases c.margin ⟨0, 0⟩ 0 c.line c.rest with
    | error fault => rfl
    | ok found =>
      obtain ⟨m, line, rest⟩ := found
      dsimp only
      split
      · rfl
      split
      · cases Cursor.enter _ m <;> rfl
      · rfl
  | false =>
    simp only [tokens, step, Bool.false_eq_true, if_false]
    generalize c.rest.dropWhile Cursor.isGap = cs
    split
    · split <;> rfl
    · rfl
    · split <;> rfl
    · rfl
    · simp
    · simp
    · split <;> simp_all

/-! What does not depend on lines. -/

/-- A lexeme without the lines that a fault tells. -/
def unplaced : Lexeme → Lexeme
  | .fault _ => .fault ⟨0, false, none⟩
  | l => l

namespace Cursor

/-- Where a scan is, without the lines. -/
def state (c : Cursor) : List Char × List Margin × List Char := (c.rest, c.margins, c.brackets.map (·.1))

variable {c c' : Cursor}

@[simp] theorem unplaced_faultAt (c : Cursor) (line : Nat) (stated : Bool) :
    unplaced (c.faultAt line stated) = .fault ⟨0, false, none⟩ := rfl

@[simp] theorem unplaced_endFault (c : Cursor) (line : Nat) :
    unplaced (c.endFault line) = .fault ⟨0, false, none⟩ := rfl

/-- A measured margin and what follows it, without lines. -/
def measured : Except Lexeme (Margin × Nat × List Char) → Except Lexeme (Margin × List Char)
  | .error l => .error (unplaced l)
  | .ok (m, _, rest) => .ok (m, rest)

theorem measured_margin (c c' : Cursor) (m : Margin) (joined line line' : Nat) (cs : List Char) :
    measured (c.margin m joined line cs) = measured (c'.margin m joined line' cs) := by
  fun_induction c.margin m joined line cs generalizing line' with
  | case1 _ _ _ _ ih | case2 _ _ _ _ ih | case3 _ _ _ _ ih =>
    rw [margin]
    exact ih line'
  | case4 => rfl
  | case5 m joined line rest more ih =>
    rw [margin]
    · exact ih (line' + 1)
    · exact more
  | case6 m joined line rest _ _ =>
    rw [margin]
    · rfl
    · assumption
    · assumption
  | case7 =>
    rw [margin]
    · rfl
    all_goals assumption

theorem measured_cases {x x' : Except Lexeme (Margin × Nat × List Char)} (alike : measured x = measured x') :
    (∃ l l', x = .error l ∧ x' = .error l' ∧ unplaced l = unplaced l') ∨
      ∃ m line line' rest, x = .ok (m, line, rest) ∧ x' = .ok (m, line', rest) := by
  cases x with
  | error l =>
    cases x' with
    | error l' => exact .inl ⟨l, l', rfl, rfl, Except.error.inj alike⟩
    | ok f' => cases alike
  | ok f =>
    cases x' with
    | error l' => cases alike
    | ok f' =>
      obtain ⟨m, line, rest⟩ := f
      obtain ⟨m', line', rest'⟩ := f'
      obtain ⟨rfl, rfl⟩ := Prod.mk.inj (Except.ok.inj alike)
      exact .inr ⟨m, line, line', rest, rfl, rfl⟩

theorem enter_unplaced (same : c.state = c'.state) (m : Margin) :
    (c.enter m).mapError unplaced = (c'.enter m).mapError unplaced := by
  obtain ⟨rest, line, margins, brackets⟩ := c
  obtain ⟨rest', line', margins', brackets'⟩ := c'
  simp only [state, Prod.mk.injEq] at same
  obtain ⟨rfl, rfl, _⟩ := same
  unfold enter
  dsimp only
  split
  · rfl
  · split
    · split <;> rfl
    · split
      · split <;> rfl
      · split <;> rfl

/-- A lexeme and where a scan goes on behind it, without lines. -/
def outline (found : Lexeme × Cursor) : Lexeme × (List Char × List Margin × List Char) :=
  (unplaced found.1, found.2.state)

theorem mark_unplaced (same : c.state = c'.state) : outline c.mark = outline c'.mark := by
  obtain ⟨rest, line, margins, brackets⟩ := c
  obtain ⟨rest', line', margins', brackets'⟩ := c'
  simp only [state, Prod.mk.injEq] at same
  obtain ⟨rfl, rfl, alike⟩ := same
  have length : brackets.length = brackets'.length := by simpa using congrArg List.length alike
  simp only [mark]
  split
  · simp [outline, state, alike]
  · split
    · cases brackets with
      | nil =>
        cases brackets' with
        | nil => rfl
        | cons b' bs' => cases alike
      | cons b bs =>
        cases brackets' with
        | nil => cases alike
        | cons b' bs' =>
          obtain ⟨close, at₁⟩ := b
          obtain ⟨close', at₂⟩ := b'
          obtain ⟨rfl, alike⟩ := List.cons.inj alike
          dsimp only
          split <;> simp_all [outline, state]
    · split
      · rw [length]
        split
        · simp [outline, state, alike]
        · simp [outline, state, alike]
      · split <;> simp [outline, state, alike]

theorem lexeme_unplaced (same : c.state = c'.state) : outline c.lexeme = outline c'.lexeme := by
  have atMark := mark_unplaced same
  obtain ⟨rest, line, margins, brackets⟩ := c
  obtain ⟨rest', line', margins', brackets'⟩ := c'
  simp only [state, Prod.mk.injEq] at same
  obtain ⟨rfl, rfl, alike⟩ := same
  simp only [lexeme]
  split
  · simp only [string]
    split <;> simp [outline, state, alike]
  · split
    · simp only [name]
      split <;> simp [outline, state, alike]
    split
    · simp only [number]
      split <;> simp [outline, state, alike]
    · exact atMark
  · exact atMark

end Cursor

/-- What a step gives and where the next one begins, without lines. -/
def stepOutline (s : List Located × Option (Bool × Cursor)) :
    List Lexeme × Option (Bool × (List Char × List Margin × List Char)) :=
  (s.1.map fun t => unplaced t.1, s.2.map fun (atFront, c) => (atFront, c.state))

theorem step_front_alike {c c' : Cursor} (same : c.state = c'.state) :
    stepOutline (step true c) = stepOutline (step true c') := by
  have measured := c.measured_margin c' ⟨0, 0⟩ 0 c.line c'.line c.rest
  obtain ⟨rest, line, margins, brackets⟩ := c
  obtain ⟨rest', line', margins', brackets'⟩ := c'
  simp only [Cursor.state, Prod.mk.injEq] at same
  obtain ⟨rfl, rfl, alike⟩ := same
  have empty : brackets.isEmpty = brackets'.isEmpty := by
    simpa using congrArg List.isEmpty alike
  simp only [step, if_true]
  rcases Cursor.measured_cases measured with ⟨l, l', stuck, stuck', alikeFaults⟩ | ⟨m, line₁, line₂, after, found, found'⟩
  · rw [stuck, stuck']
    exact congrArg (fun l => ([l], none)) alikeFaults
  rw [found, found']
  dsimp only
  split
  · simp [stepOutline, Cursor.state, alike]
  rw [empty]
  split
  · have same : (⟨after, if after.isEmpty then line₁ - 1 else line₁, margins, brackets⟩ : Cursor).state =
        (⟨after, if after.isEmpty then line₂ - 1 else line₂, margins, brackets'⟩ : Cursor).state := by
      simp [Cursor.state, alike]
    rcases Outcome.alike_of_mapError (Cursor.enter_unplaced same m) with
      ⟨l, l', stuck, stuck', alikeFaults⟩ | ⟨marks, entered, entered'⟩
    · rw [stuck, stuck']
      exact congrArg (fun l => ([l], none)) alikeFaults
    · rw [entered, entered']
      simp [stepOutline, Cursor.state, alike, located]
  · simp [stepOutline, Cursor.state, alike]

theorem step_within_alike {c c' : Cursor} (same : c.state = c'.state) :
    stepOutline (step false c) = stepOutline (step false c') := by
  obtain ⟨rest, line, margins, brackets⟩ := c
  obtain ⟨rest', line', margins', brackets'⟩ := c'
  simp only [Cursor.state, Prod.mk.injEq] at same
  obtain ⟨rfl, rfl, alike⟩ := same
  have empty : brackets.isEmpty = brackets'.isEmpty := by
    simpa using congrArg List.isEmpty alike
  simp only [step, Bool.false_eq_true, if_false, empty]
  generalize rest.dropWhile Cursor.isGap = after
  split
  · split <;> rfl
  · simp [stepOutline, Cursor.state, alike]
  · split <;> simp [stepOutline, Cursor.state, alike, located]
  · rfl
  · simp [stepOutline, Cursor.state, alike]
  · rfl
  · have same : (⟨after, line, margins, brackets⟩ : Cursor).state =
        (⟨after, line', margins, brackets'⟩ : Cursor).state := by
      simp [Cursor.state, alike]
    have found := Cursor.lexeme_unplaced same
    generalize Cursor.lexeme _ = l at found ⊢
    generalize Cursor.lexeme _ = l' at found ⊢
    obtain ⟨l, next⟩ := l
    obtain ⟨l', next'⟩ := l'
    obtain ⟨lexeme, goesOn⟩ := Prod.mk.inj found
    dsimp only at goesOn
    -- only two faults may differ, and they differ in their lines alone
    cases l <;> cases l' <;> cases lexeme <;> simp [stepOutline, located, unplaced, goesOn]

theorem step_alike {c c' : Cursor} (same : c.state = c'.state) (atFront : Bool) :
    stepOutline (step atFront c) = stepOutline (step atFront c') := by
  cases atFront with
  | true => exact step_front_alike same
  | false => exact step_within_alike same

/-- The lexemes of a scan. -/
def lexemes (fuel : Nat) (atFront : Bool) (c : Cursor) : List Lexeme := (tokens fuel atFront c).map (·.1)

theorem map_unplaced_lexemes {c c' : Cursor} (same : c.state = c'.state) (fuel : Nat) (atFront : Bool) :
    (lexemes fuel atFront c).map unplaced = (lexemes fuel atFront c').map unplaced := by
  induction fuel generalizing atFront c c' with
  | zero => rfl
  | succ fuel ih =>
    obtain ⟨given, goesOn⟩ := Prod.mk.inj (step_alike same atFront)
    simp only [lexemes, tokens_succ, List.map_append, List.map_map, Function.comp_def] at ih ⊢
    rw [given]
    congr 1
    generalize (step atFront c).2 = next at goesOn ⊢
    generalize (step atFront c').2 = next' at goesOn ⊢
    cases next with
    | none =>
      cases next' with
      | none => rfl
      | some _ => cases goesOn
    | some n =>
      cases next' with
      | none => cases goesOn
      | some n' =>
        obtain ⟨front, state⟩ := Prod.mk.inj (Option.some.inj goesOn)
        simp only [Option.elim, front]
        exact ih state n'.1

theorem unplaced_of_sound {l : Lexeme} (sound : l.isFault = false) : unplaced l = l := by
  cases l <;> first | rfl | cases sound

theorem eq_of_unplaced {l l' : Lexeme} (sound : l.isFault = false) (same : unplaced l' = l) : l' = l := by
  cases l' with
  | fault f =>
    subst same
    cases sound
  | _ => exact same

/-- A scan without faults gives the same lexemes on whatever line it begins. -/
theorem lexemes_alike {c c' : Cursor} (same : c.state = c'.state) {fuel : Nat} {atFront : Bool}
    (sound : ∀ l ∈ lexemes fuel atFront c, l.isFault = false) : lexemes fuel atFront c' = lexemes fuel atFront c := by
  have alike := map_unplaced_lexemes same fuel atFront
  generalize lexemes fuel atFront c = ls at sound alike ⊢
  generalize lexemes fuel atFront c' = ls' at alike ⊢
  induction ls generalizing ls' with
  | nil => exact List.map_eq_nil_iff.1 alike.symm
  | cons l ls ih =>
    cases ls' with
    | nil => cases alike
    | cons l' ls' =>
      obtain ⟨head, tail⟩ := List.cons.inj alike
      rw [unplaced_of_sound (sound l List.mem_cons_self)] at head
      rw [eq_of_unplaced (sound l List.mem_cons_self) head.symm, ih (fun m h => sound m (List.mem_cons_of_mem _ h)) ls' tail]

/-! Several steps. -/

/-- The lexemes of several steps, and where the next one begins. -/
def run : Nat → Bool → Cursor → List Lexeme × Option (Bool × Cursor)
  | 0, atFront, c => ([], some (atFront, c))
  | n + 1, atFront, c =>
    let (given, next) := step atFront c
    match next with
    | none => (given.map (·.1), none)
    | some (front, c) =>
      let (more, next) := run n front c
      (given.map (·.1) ++ more, next)

theorem lexemes_run (fuel n : Nat) (atFront : Bool) (c : Cursor) :
    lexemes (fuel + n) atFront c =
      (run n atFront c).1 ++ (run n atFront c).2.elim [] fun (front, next) => lexemes fuel front next := by
  induction n generalizing atFront c with
  | zero => rfl
  | succ n ih =>
    rw [← Nat.add_assoc, lexemes, tokens_succ, List.map_append, run]
    obtain ⟨given, next⟩ := step atFront c
    cases next with
    | none => rfl
    | some next =>
      simp only [Option.elim, List.append_assoc]
      exact congrArg _ (ih next.1 next.2)

/-- The number of steps that are enough from a place on, but for the last. -/
def stepsLeft (atFront : Bool) (c : Cursor) : Nat := 2 * c.rest.length + atFront.toNat

/-- Some steps give the lexemes and lead from one place to another. -/
def Moves (atFront : Bool) (c : Cursor) (ls : List Lexeme) (front : Bool) (next : Cursor) : Prop :=
  ∃ n, n + stepsLeft front next ≤ stepsLeft atFront c ∧
    ∀ fuel, lexemes (fuel + n) atFront c = ls ++ lexemes fuel front next

namespace Moves

variable {f f' f'' : Bool} {c c' c'' : Cursor} {ls ls' : List Lexeme}

theorem trans (h : Moves f c ls f' c') (h' : Moves f' c' ls' f'' c'') : Moves f c (ls ++ ls') f'' c'' := by
  obtain ⟨n, fewer, scan⟩ := h
  obtain ⟨n', fewer', scan'⟩ := h'
  refine ⟨n' + n, by omega, fun fuel => ?_⟩
  rw [← Nat.add_assoc, scan, scan', List.append_assoc]

theorem of_step {given : List Located} (h : step f c = (given, some (f', c'))) (shorter : stepsLeft f' c' < stepsLeft f c) :
    Moves f c (given.map (·.1)) f' c' := by
  refine ⟨1, by omega, fun fuel => ?_⟩
  rw [lexemes, tokens_succ, h, List.map_append]
  rfl

theorem lexemes_eq (h : Moves f c ls f' c') {fuel : Nat} (enough : stepsLeft f c < fuel) :
    ∃ fuel', stepsLeft f' c' < fuel' ∧ lexemes fuel f c = ls ++ lexemes fuel' f' c' := by
  obtain ⟨n, fewer, scan⟩ := h
  refine ⟨fuel - n, by omega, ?_⟩
  rw [← scan, Nat.sub_add_cancel (by omega)]

end Moves

end Scan

theorem map_lexeme_tokensOf (firstLine : Nat) (cs : List Char) :
    (tokensOf firstLine cs).map (·.lexeme) =
      Scan.lexemes (2 * (withLastBreak cs).length + 2) true ⟨withLastBreak cs, firstLine, [⟨0, 0⟩], []⟩ := by
  rw [tokensOf, List.map_map, Scan.lexemes]
  conv => rhs; rw [← List.zipIdx_map_fst 0 (Scan.tokens _ _ _), List.map_map]
  rfl

/-- The lexemes of a text are the same on whatever line it begins, if there is no fault in it. -/
theorem map_lexeme_tokensOf_alike (line firstLine : Nat) {cs : List Char} {ls : List Lexeme}
    (scanned : (tokensOf line cs).map (·.lexeme) = ls) (sound : ∀ l ∈ ls, l.isFault = false) :
    (tokensOf firstLine cs).map (·.lexeme) = ls := by
  rw [map_lexeme_tokensOf] at scanned ⊢
  rw [← scanned] at sound ⊢
  have same : (⟨withLastBreak cs, line, [⟨0, 0⟩], []⟩ : Scan.Cursor).state =
    (⟨withLastBreak cs, firstLine, [⟨0, 0⟩], []⟩ : Scan.Cursor).state := rfl
  exact Scan.lexemes_alike same sound

end TaskCatalog.Code
