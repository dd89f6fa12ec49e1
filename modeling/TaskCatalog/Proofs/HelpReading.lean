import TaskCatalog.Proofs.HelpScan
import TaskCatalog.Proofs.TaskOrder

/-!
The help module is a source file that tells what the descriptor tells: it is read without a fault, and the
literals in it have the values of the plugin's data and of its goals.
-/

namespace TaskCatalog

open Text Code Code.Parser Code.Scan

/-! The assignments of a module. -/

namespace Code

/-- An assignment on a line of its own, with the expression that is assigned. -/
def Rule.assigned (go : Rules) : Parser (List Expression × Expression) := do
  let targets ← some1 (targetBefore go)
  let value ← yieldOrStar go
  newline
  return (targets, value.expression)

/-- An assignment with its value, or none of another statement. -/
def Rule.assignedOrOther (go : Rules) : Parser (Option (List Expression × Expression)) :=
  (do return some (← assigned go)) <|> (do let _ ← statement go; return none)

/-- The assignments of a file that stand on lines of their own and in no block. -/
def assignments (go : Rules) : Parser (List (List Expression × Expression)) := do
  let found ← many (Rule.assignedOrOther go)
  endOfFile
  return found.filterMap id

/-- What a file assigns on lines of their own and in no block, in order. -/
def assignedIn (source : List Char) : Except Nat (List (List Expression × Expression)) :=
  (assignments (rulesWithin (8 * source.length + 8))).run (tokensOf 1 source)

section Values

variable {k : Nat} {v : Value} {ls : List Lexeme} {ts rest : List Token} {t : Token}

/-- The lexemes of a value are read as an expression that has it, at the end of a line. -/
theorem reads_spelled (h : Spells k v ls) (m : Nat) (lexemes : ts.map (·.lexeme) = ls) (ending : t.lexeme = .newline)
    (rest : List Token) : ∃ e, (Rule.yieldOrStar (rulesWithin (m + (5 * k + 4)))).Reads (ts ++ t :: rest) e (t :: rest) ∧
      e.expression.value = .ok v := by
  have ends : EndsOperand (t :: rest) := ⟨t, rest, rfl, by rw [ending]; rfl⟩
  obtain ⟨literal, e, reads, value⟩ := expression_of_readAs (readAs_spelled h m) h.opens lexemes ends
  exact ⟨e, literal.operand.yieldOrStar (declines_mark_of_newline ending _ rest) reads, value⟩

theorem isValue_spelled (h : Spells k v ls) : IsValue (5 * k + 4) ls where
  reads m ts t rest lexemes ending := by
    obtain ⟨e, reads, -⟩ := reads_spelled h m lexemes ending rest
    exact ⟨e, reads⟩
  no_target m ts t rest lexemes ending := by
    have ends : EndsOperand (t :: rest) := ⟨t, rest, rfl, by rw [ending]; rfl⟩
    obtain ⟨literal, -⟩ := expression_of_readAs (readAs_spelled h m) h.opens lexemes ends
    obtain ⟨p, atom, -⟩ := readAs_spelled h (m + 3) ts (t :: rest) lexemes ends
    have primary : (rulesWithin (m + 3 + 5 * k + 1) .primary).Reads (ts ++ t :: rest) p (t :: rest) :=
      literal.operand.primary atom
    have same : m + 3 + 5 * k + 1 = m + (5 * k + 4) := by omega
    rw [same] at primary
    exact literal.operand.no_target ending primary

/-- A value is assigned to a name. -/
theorem reads_assigned {w : String} (h : Spells k v ls) (free : keywords.contains w = false) (m : Nat)
    (lexemes : ts.map (·.lexeme) = HelpModule.assigned w ls) (rest : List Token) :
    ∃ e, (Rule.assigned (rulesWithin (m + (5 * k + 4)))).Reads (ts ++ rest) ([identifier w], e) rest ∧ e.value = .ok v := by
  obtain ⟨front, last, rfl, spelled, ended⟩ := List.map_eq_append_iff.1 lexemes
  obtain ⟨t, rfl, ending⟩ := List.map_eq_singleton_iff.1 ended
  obtain ⟨x, ts, rfl, name, spelled⟩ := List.map_eq_cons_iff.1 spelled
  obtain ⟨s, ts, rfl, equals, spelled⟩ := List.map_eq_cons_iff.1 spelled
  obtain ⟨e, reads, value⟩ := reads_spelled h m spelled ending rest
  have target : (Rule.targetBefore (rulesWithin (m + (5 * k + 4)))).Reads (x :: s :: (ts ++ t :: rest)) (identifier w)
      (ts ++ t :: rest) := targetBefore_of_name (m := m + (5 * k + 3)) name free equals _
  have targets := target.some1 ((isValue_spelled h).no_target m ts t rest spelled ending).repeats
  have lineEnd : newline.Reads (t :: rest) () rest := reads_take (by rw [ending]; rfl) (if_pos ending) rest
  refine ⟨e.expression, ?_, value⟩
  simp only [List.cons_append, List.append_assoc, List.nil_append]
  exact targets.bind (reads.bind (lineEnd.bind (reads_pure _ rest)))

/-- What begins with a keyword for a statement is no assignment. -/
theorem no_assigned_of_word {w : String} (known : w ∈ ["def", "if"]) (lexeme : t.lexeme = .name w) (m : Nat)
    (rest : List Token) : (Rule.assigned (rulesWithin (m + 1))).Declines (t :: rest) := by
  obtain ⟨l, line, depth, index⟩ := t
  obtain rfl : l = .name w := lexeme
  simp only [List.mem_cons, List.not_mem_nil, or_false] at known
  obtain rfl | rfl := known <;> exact fun _ => ⟨_, rfl⟩

theorem no_assigned_at_end (ended : t.lexeme = .endOfFile) (m : Nat) (rest : List Token) :
    (Rule.assigned (rulesWithin (m + 1))).Declines (t :: rest) := by
  obtain ⟨l, line, depth, index⟩ := t
  obtain rfl : l = .endOfFile := ended
  exact fun _ => ⟨_, rfl⟩

end Values

end Code

namespace HelpModule

/-! The module is read. -/

/-- The lexemes of the statements of a module. -/
def statements (documentation : List Char) (plugin goals : List Lexeme) : List (List Lexeme) := [
  [.string documentation, .newline], assigned "PLUGIN" plugin, assigned "GOALS" goals, describing, calling]

theorem moduleLexemes_eq (documentation : List Char) (plugin goals : List Lexeme) :
    moduleLexemes documentation plugin goals = (statements documentation plugin goals).flatten ++ [.endOfFile] := by
  simp [moduleLexemes, statements, assigned, closingLexemes]

section Reading

variable {plugin goals : Value} {pluginLexemes goalLexemes : List Lexeme} {name : List Char}

theorem isStatement_documented (name : List Char) : IsStatement 5 [.string (rawChars (documented name)), .newline] :=
  ((isPrimary_string (standsFor_rawChars _) rfl).simple ⟨_, _, rfl, rfl⟩).statement.deeper (by decide)

theorem isStatement_assigned {w : String} {k : Nat} {v : Value} {ls : List Lexeme} (h : Spells k v ls)
    (free : (Lexeme.name w).startsExpression = true) : IsStatement (5 * k + 5) (assigned w ls) :=
  (IsSimple.assigned free (isValue_spelled h)).statement

theorem isStatement_module (isPlugin : Spells 1 plugin pluginLexemes) (areGoals : Spells 4 goals goalLexemes)
    (name : List Char) : ∀ ls ∈ statements (rawChars (documented name)) pluginLexemes goalLexemes, IsStatement (23 + 5) ls := by
  simp only [statements, List.forall_mem_cons]
  exact ⟨(isStatement_documented name).deeper (by decide), (isStatement_assigned isPlugin (by decide)).deeper (by decide),
    (isStatement_assigned areGoals (by decide)).deeper (by decide), statement_describing, statement_calling,
    fun _ h => nomatch h⟩

theorem wholeFile_module (isPlugin : Spells 1 plugin pluginLexemes) (areGoals : Spells 4 goals goalLexemes) {m : Nat}
    {ts : List Token}
    (lexemes : ts.map (·.lexeme) = moduleLexemes (rawChars (documented name)) pluginLexemes goalLexemes) :
    ∃ os, (wholeFile (rulesWithin (m + 29))).run ts = .ok os := by
  rw [moduleLexemes_eq] at lexemes
  obtain ⟨ts, last, rfl, spelled, lexemes⟩ := List.map_eq_append_iff.1 lexemes
  obtain ⟨e, rfl, ended⟩ := List.map_eq_singleton_iff.1 lexemes
  obtain ⟨os, reads⟩ := reads_statements (m := m) (isStatement_module isPlugin areGoals name) (List.cons_ne_nil _ _) spelled
    (t := e) (by rw [ended]; decide) []
  have inside : (rulesWithin (m + 29) .statements).Reads (ts ++ [e]) os [e] := reads
  have atEnd : endOfFile.Reads [e] () [] := reads_take (by rw [ended]; rfl) (if_pos ended) []
  have whole : (wholeFile (rulesWithin (m + 29))).Reads (ts ++ [e]) os [] :=
    inside.optional.bind (atEnd.bind (reads_pure os []))
  exact ⟨os, whole.run⟩

theorem reads_other {m n : Nat} {ls : List Lexeme} {ts rest : List Token} (h : IsStatement n ls)
    (lexemes : ts.map (·.lexeme) = ls) (behind : ∃ t rest', rest = t :: rest' ∧ t.lexeme.isApart = true)
    (other : (Rule.assigned (rulesWithin (m + n))).Declines (ts ++ rest)) :
    (Rule.assignedOrOther (rulesWithin (m + n))).Reads (ts ++ rest) none rest := by
  obtain ⟨t, rest, rfl, apart⟩ := behind
  obtain ⟨os, reads⟩ := h.reads m ts t rest lexemes apart
  exact other.bind.orElse (reads.bind (reads_pure none _))

theorem reads_some {k : Nat} {v : Value} {ls : List Lexeme} {ts : List Token} {w : String} (h : Spells k v ls)
    (free : keywords.contains w = false) (m : Nat) (lexemes : ts.map (·.lexeme) = assigned w ls) (rest : List Token) :
    ∃ e, (Rule.assignedOrOther (rulesWithin (m + (5 * k + 4)))).Reads (ts ++ rest) (some ([identifier w], e)) rest ∧ e.value = .ok v := by
  obtain ⟨e, reads, value⟩ := reads_assigned h free m lexemes rest
  exact ⟨e, Reads.orElse (reads.bind (reads_pure _ _)), value⟩

theorem reads_documented {ts rest : List Token}
    (lexemes : ts.map (·.lexeme) = [.string (rawChars (documented name)), .newline]) (m : Nat)
    (behind : ∃ t rest', rest = t :: rest' ∧ t.lexeme.isApart = true) :
    (Rule.assignedOrOther (rulesWithin (m + 5))).Reads (ts ++ rest) none rest := by
  refine reads_other (isStatement_documented name) lexemes behind ?_
  obtain ⟨s, ts, rfl, isString, ended⟩ := List.map_eq_cons_iff.1 lexemes
  obtain ⟨t, rfl, ending⟩ := List.map_eq_singleton_iff.1 ended
  have string : IsValue 4 [.string (rawChars (documented name))] := (isPrimary_string (standsFor_rawChars _) rfl).value
  exact (string.no_target (m + 1) [s] t rest (by rw [← isString]; rfl) ending).some1.bind

/-- Tokens begin as the first of their lexemes, whatever is behind them. -/
theorem begins {ts : List Token} {l : Lexeme} {ls : List Lexeme} (spelled : ts.map (·.lexeme) = l :: ls)
    (apart : l.isApart = true) (rest : List Token) : ∃ t rest', ts ++ rest = t :: rest' ∧ t.lexeme.isApart = true := by
  obtain ⟨t, ts, rfl, rfl, -⟩ := List.map_eq_cons_iff.1 spelled
  exact ⟨t, _, rfl, apart⟩

theorem shorter {ts : List Token} {l : Lexeme} {ls : List Lexeme} (spelled : ts.map (·.lexeme) = l :: ls)
    (rest : List Token) : rest.length < (ts ++ rest).length := by
  obtain ⟨t, ts, rfl, -⟩ := List.map_eq_cons_iff.1 spelled
  simp only [List.cons_append, List.length_cons, List.length_append]
  omega

theorem assignments_module (isPlugin : Spells 1 plugin pluginLexemes) (areGoals : Spells 4 goals goalLexemes) {m : Nat}
    {ts : List Token}
    (lexemes : ts.map (·.lexeme) = moduleLexemes (rawChars (documented name)) pluginLexemes goalLexemes) :
    ∃ p g, (assignments (rulesWithin (m + 28))).run ts = .ok [([identifier "PLUGIN"], p), ([identifier "GOALS"], g)] ∧
      p.value = .ok plugin ∧ g.value = .ok goals := by
  rw [moduleLexemes_eq] at lexemes
  obtain ⟨ts, last, rfl, spelled, lexemes⟩ := List.map_eq_append_iff.1 lexemes
  obtain ⟨e, rfl, ended⟩ := List.map_eq_singleton_iff.1 lexemes
  obtain ⟨ts₁, ts, rfl, spelled₁, spelled⟩ := List.map_eq_append_iff.1 spelled
  obtain ⟨ts₂, ts, rfl, spelled₂, spelled⟩ := List.map_eq_append_iff.1 spelled
  obtain ⟨ts₃, ts, rfl, spelled₃, spelled⟩ := List.map_eq_append_iff.1 spelled
  obtain ⟨ts₄, ts, rfl, spelled₄, spelled⟩ := List.map_eq_append_iff.1 spelled
  obtain ⟨ts₅, none, rfl, spelled₅, spelled⟩ := List.map_eq_append_iff.1 spelled
  obtain rfl := List.map_eq_nil_iff.1 spelled
  simp only [List.append_assoc, List.append_nil]
  have atEnd : (Rule.assignedOrOther (rulesWithin (m + 28))).Declines [e] :=
    (no_assigned_at_end ended (m + 27) []).bind.orElse_declines (declines_statement (by rw [ended]; decide) []).bind
  have call : (Rule.assignedOrOther (rulesWithin (m + 28))).Reads (ts₅ ++ [e]) none [e] := by
    refine reads_other statement_calling spelled₅ ⟨e, [], rfl, by rw [ended]; rfl⟩ ?_
    obtain ⟨t, ts₅, rfl, word, -⟩ := List.map_eq_cons_iff.1 spelled₅
    exact no_assigned_of_word (by decide) word (m + 27) _
  have function : (Rule.assignedOrOther (rulesWithin (m + 28))).Reads (ts₄ ++ (ts₅ ++ [e])) none (ts₅ ++ [e]) := by
    refine reads_other statement_describing spelled₄ (begins spelled₅ rfl _) ?_
    obtain ⟨t, ts₄, rfl, word, -⟩ := List.map_eq_cons_iff.1 spelled₄
    exact no_assigned_of_word (by decide) word (m + 27) _
  obtain ⟨g, goalsRead, goalsValue⟩ := reads_some areGoals (by decide) (m + 4) spelled₃ (ts₄ ++ (ts₅ ++ [e]))
  obtain ⟨p, pluginRead, pluginValue⟩ := reads_some isPlugin (by decide) (m + 19) spelled₂ (ts₃ ++ (ts₄ ++ (ts₅ ++ [e])))
  have documentation := reads_documented spelled₁ (m + 23) (begins spelled₂ rfl (ts₃ ++ (ts₄ ++ (ts₅ ++ [e]))))
  have all : Parser.Repeats (Rule.assignedOrOther (rulesWithin (m + 28))) _ [none, some ([identifier "PLUGIN"], p),
      some ([identifier "GOALS"], g), none, none] [e] :=
    documentation.repeats (shorter spelled₁ _) (pluginRead.repeats (shorter spelled₂ _) (goalsRead.repeats
      (shorter spelled₃ _) (function.repeats (shorter spelled₄ _) (call.repeats (shorter spelled₅ _) atEnd.repeats))))
  have last : endOfFile.Reads [e] () [] := reads_take (by rw [ended]; rfl) (if_pos ended) []
  have whole : (assignments (rulesWithin (m + 28))).Reads _ [([identifier "PLUGIN"], p), ([identifier "GOALS"], g)] [] :=
    all.many.bind (last.bind (reads_pure _ []))
  exact ⟨p, g, whole.run, pluginValue, goalsValue⟩

end Reading

/-! What the module tells. -/

theorem eq_ofChars_of_chars? {t : Text} {cs : List Char} (h : chars? t = some cs) : t = ofChars cs := by
  induction t generalizing cs with
  | nil =>
    cases h
    rfl
  | cons l t ih =>
    cases l with
    | half n => cases h
    | scalar c =>
      obtain ⟨cs, rest, rfl⟩ := Option.map_eq_some_iff.1 h
      exact congrArg (Letter.scalar c :: ·) (ih rest)

theorem isData_optional (t : Option Text) (n : Nat) : (optional t).IsData n := by
  cases t with
  | none => exact .null
  | some t => exact .text t

theorem isData_parameter (p : Parameter) : (parameterData p).IsData 1 := by
  refine .map ?_ (by simp [ofString, ofChars]) ?_
  · simp
  · simp only [List.forall_mem_cons]
    exact ⟨.text _, .truth _, .text _, List.forall_mem_nil _⟩

theorem isData_task (t : Task) : (taskData t).IsData 3 := by
  refine .map ?_ (by simp [ofString, ofChars]) ?_
  · simp
  · simp only [List.forall_mem_cons]
    refine ⟨isData_optional _ 2, .list fun v mem => ?_, isData_optional _ 2, List.forall_mem_nil _⟩
    obtain ⟨p, -, rfl⟩ := List.mem_map.1 mem
    exact isData_parameter p

theorem scans_plugin (d : Descriptor) :
    ∃ ls, Spells 1 (pluginData d) ls ∧ Scans 1 false (pluginData d).laidOut ls := by
  refine scans_laidOut ?_ (by simp [ofString, ofChars]) ?_
  · simp
  · simp only [List.forall_mem_cons]
    exact ⟨.text _, .text _, .text _, List.forall_mem_nil _⟩

theorem scans_goals (d : Descriptor) : ∃ ls, Spells 4 (goalData d) ls ∧ Scans 4 false (goalData d).laidOut ls := by
  rw [goalData_eq]
  refine scans_laidOut (List.forall_mem_map.2 fun t _ => ⟨t.name.text, rfl⟩) ?_
    (List.forall_mem_map.2 fun t _ => isData_task t)
  have names : ((Markdown.sortedTasks d).map fun t => t.name.text).Nodup :=
    ((Markdown.sortedTasks_perm d).map _).nodup_iff.2 d.distinct
  have keys := names.map fun a b (same : Value.text a = .text b) => Scalar.text.inj (Value.scalar.inj same)
  rwa [List.map_map] at keys ⊢

theorem null_not_mem_module {name plugin goals : List Char} (clean : '\x00' ∉ name) (cleanPlugin : '\x00' ∉ plugin)
    (cleanGoals : '\x00' ∉ goals) : '\x00' ∉ moduleChars name plugin goals := by
  have constant : '\x00' ∉ titleStart.1 ∧ '\x00' ∉ titleEnd.1 ∧ '\x00' ∉ pluginStart.1 ∧ '\x00' ∉ goalsStart.1 := by
    decide +kernel
  simp [moduleChars, rawChars, documented, constant, clean, cleanPlugin, cleanGoals, closingChars_clean.1]

/-- A module whose documentation has no quote and no null character is read, and its assignments give its data. -/
theorem module_read {plugin goals : Value} {name pluginChars goalChars : List Char} {pluginLexemes goalLexemes : List Lexeme}
    (unquoted : '"' ∉ name) (clean : '\x00' ∉ name) (isPlugin : Spells 1 plugin pluginLexemes)
    (areGoals : Spells 4 goals goalLexemes) (scanPlugin : ScansAs 1 false pluginChars pluginLexemes)
    (scanGoals : ScansAs 4 false goalChars goalLexemes) :
    (∃ statements, parse (moduleChars name pluginChars goalChars) = .ok statements) ∧
      ∃ p g, assignedIn (moduleChars name pluginChars goalChars) =
        .ok [([identifier "PLUGIN"], p), ([identifier "GOALS"], g)] ∧ p.value = .ok plugin ∧ g.value = .ok goals := by
  have lexemes := lexemes_module unquoted scanPlugin (by decide) scanGoals (by decide)
  have noNull : '\x00' ∉ moduleChars name pluginChars goalChars :=
    null_not_mem_module clean (fun mem => (scanPlugin.clean _ mem).1 rfl) (fun mem => (scanGoals.clean _ mem).1 rfl)
  have long : 7 ≤ (moduleChars name pluginChars goalChars).length := by simp [moduleChars, rawChars]; omega
  generalize moduleChars name pluginChars goalChars = source at lexemes noNull long ⊢
  obtain ⟨m, deep⟩ := Nat.exists_eq_add_of_le' (by omega : 29 ≤ 8 * source.length + 8)
  obtain ⟨os, whole⟩ := wholeFile_module isPlugin areGoals (m := m) lexemes
  refine ⟨⟨os, ?_⟩, ?_⟩
  · rw [parse, if_neg (by simpa using noNull), deep, whole]
    rfl
  · rw [assignedIn, deep]
    exact assignments_module isPlugin areGoals (m := m + 1) lexemes

/-- Unless there is a null character in the plugin's name, or half a character, the help module is a source file. In
it `PLUGIN` is the plugin's name, coordinates and prefix, and `GOALS` has one entry for each task. -/
theorem text_read (d : Descriptor) {name : List Char} (named : chars? d.name = some name) (clean : '\x00' ∉ name) :
    ∃ source, chars? (text d) = some source ∧ (∃ statements, parse (unifyLineBreaks source) = .ok statements) ∧
      ∃ plugin goals, assignedIn (unifyLineBreaks source) =
          .ok [([.name "PLUGIN"], plugin), ([.name "GOALS"], goals)] ∧
        plugin.value = .ok (.map [(.text "coordinates", .text d.coordinates), (.text "goal_prefix", .text d.goalPrefix),
          (.text "name", .text d.name)]) ∧
        ∃ entries, goals.value = .ok (.map entries) ∧
          entries.Perm (d.tasks.map fun t => (.text t.name.text, taskData t)) := by
  obtain ⟨pluginLexemes, isPlugin, plugin, pluginChars, scanPlugin⟩ := scans_plugin d
  obtain ⟨goalLexemes, areGoals, goals, goalChars, scanGoals⟩ := scans_goals d
  refine ⟨_, by rw [text_eq (eq_ofChars_of_chars? named) pluginChars goalChars, chars?_ofChars], ?_⟩
  rw [unifyLineBreaks_module (fun mem => (scanPlugin.clean _ mem).2 rfl) (fun mem => (scanGoals.clean _ mem).2 rfl)]
  have unquoted' : '"' ∉ unifyLineBreaks (unquoted name) := by
    intro mem
    rcases mem_unifyLineBreaks mem with same | mem
    · cases same
    · obtain ⟨c, -, same⟩ := List.mem_map.1 mem
      split at same <;> simp_all
  have clean' : '\x00' ∉ unifyLineBreaks (unquoted name) := by
    intro mem
    rcases mem_unifyLineBreaks mem with same | mem
    · cases same
    · obtain ⟨c, mem, same⟩ := List.mem_map.1 mem
      split at same
      · cases same
      · exact clean (same ▸ mem)
  have words : identifier "PLUGIN" = .name "PLUGIN" ∧ identifier "GOALS" = .name "GOALS" :=
    ⟨congrArg Expression.name (by decide +kernel), congrArg Expression.name (by decide +kernel)⟩
  obtain ⟨parsed, p, g, assigned, pluginValue, goalsValue⟩ :=
    module_read unquoted' clean' isPlugin areGoals scanPlugin scanGoals
  rw [words.1, words.2] at assigned
  refine ⟨parsed, p, g, assigned, pluginValue, _, goalsValue, ?_⟩
  exact (Markdown.sortedTasks_perm d).map _

/-- No source file holds the null character, and the name is the place where the module can have one. -/
theorem text_unread (d : Descriptor) {name : List Char} (named : chars? d.name = some name) (broken : '\x00' ∈ name) :
    ∃ source, chars? (text d) = some source ∧ parse (unifyLineBreaks source) = .error .zeroCharacter := by
  obtain ⟨-, -, plugin, pluginChars, -⟩ := scans_plugin d
  obtain ⟨-, -, goals, goalChars, -⟩ := scans_goals d
  have source := text_eq (eq_ofChars_of_chars? named) pluginChars goalChars
  refine ⟨_, by rw [source, chars?_ofChars], ?_⟩
  have inside : '\x00' ∈ moduleChars (unquoted name) plugin goals := by
    have kept : '\x00' ∈ unquoted name := List.mem_map.2 ⟨_, broken, rfl⟩
    simp [moduleChars, rawChars, documented, kept]
  rw [parse, if_pos (List.contains_iff_mem.2 (mem_unifyLineBreaks_of_mem inside (by decide) (by decide)))]

end HelpModule

/-! A plugin with one task. -/

namespace TitledPlugin

theorem name_valid : GoalName.fault? "clean" = none := by decide

theorem place_ne_nil : ("clean.sh" : Text) ≠ [] := by decide

def clean : Task where
  name := ⟨"clean", name_valid⟩
  implementation := ⟨"clean.sh", place_ne_nil⟩
  description := some "Removes \"it\"."
  parameters := [⟨⟨"all", by decide⟩, "bool", true, true, none, none, none, none, none⟩]
  phase := some "clean"
  requirements := {}
  configuration := []
  since := none
  deprecated := none
  language := some "script"
  distinct := by decide

def descriptor (name : Text) : Descriptor where
  groupId := "org.example"
  artifactId := "titled-maven-plugin"
  version := "1.0"
  name := name
  description := none
  goalPrefix := "titled"
  dependencies := []
  tasks := [clean]
  distinct := by decide

/-- Quotes, a backslash, braces and a line break. -/
def title : List Char := ['"', '"', '"', '\\', '\x7b', '\r', '\'', '\\']

theorem read : chars? (descriptor (ofChars title)).name = some title ∧ '\x00' ∉ title ∧
    ∃ source, chars? (HelpModule.text (descriptor (ofChars title))) = some source ∧
      (∃ statements, parse (unifyLineBreaks source) = .ok statements) ∧
      ∃ plugin goals, assignedIn (unifyLineBreaks source) =
          .ok [([.name "PLUGIN"], plugin), ([.name "GOALS"], goals)] ∧
        plugin.value = .ok (.map [(.text "coordinates", .text (descriptor (ofChars title)).coordinates),
          (.text "goal_prefix", .text "titled"), (.text "name", .text (ofChars title))]) ∧
        ∃ entries, goals.value = .ok (.map entries) ∧
          entries.Perm [(.text "clean", HelpModule.taskData clean)] :=
  ⟨chars?_ofChars title, by decide, HelpModule.text_read (descriptor (ofChars title)) (chars?_ofChars title) (by decide)⟩

theorem unread : ∃ source, chars? (HelpModule.text (descriptor (ofChars ['a', '\x00', 'b']))) = some source ∧
    parse (unifyLineBreaks source) = .error .zeroCharacter :=
  HelpModule.text_unread (descriptor (ofChars ['a', '\x00', 'b'])) (chars?_ofChars _) (by decide)

end TitledPlugin

end TaskCatalog
