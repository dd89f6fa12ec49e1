import TaskCatalog.Proofs.EncodedTexts
import TaskCatalog.Proofs.HelpStatements

/-!
The lexemes of the help module: its documentation is one literal whatever the plugin's name, the data of the
plugin and of its goals are spelled by theirs, and the rest is the same for every plugin.
-/

namespace TaskCatalog

open Text Code Code.Scan

/-! Line breaks. -/

namespace Text

theorem unifyLineBreaks_append {cs cs' : List Char} (none : '\r' ∉ cs') (apart : cs'.head? ≠ some '\n') :
    unifyLineBreaks (cs ++ cs') = unifyLineBreaks cs ++ cs' := by
  fun_induction unifyLineBreaks cs with
  | case1 => exact unifyLineBreaks_of_not_mem none
  | case2 rest ih => exact congrArg ('\n' :: ·) ih
  | case3 c rest single ih =>
    have single' : ∀ rest', c = '\r' → rest ++ cs' = '\n' :: rest' → False := by
      intro rest' isReturn same
      cases rest with
      | nil => exact apart (by rw [show cs' = '\n' :: rest' from same]; rfl)
      | cons d rest =>
        cases (List.cons.inj same).1
        exact single rest isReturn rfl
    rw [List.cons_append, unifyLineBreaks, ih, List.cons_append]
    exact single'

theorem unifyLineBreaks_prefix {cs : List Char} (none : '\r' ∉ cs) (cs' : List Char) :
    unifyLineBreaks (cs ++ cs') = cs ++ unifyLineBreaks cs' := by
  induction cs with
  | nil => rfl
  | cons c cs ih =>
    rw [List.mem_cons, not_or] at none
    have other : c ≠ '\r' := Ne.symm none.1
    rw [List.cons_append, unifyLineBreaks, if_neg other, ih none.2, List.cons_append]
    exact fun _ same _ => other same

theorem mem_unifyLineBreaks {cs : List Char} {c : Char} (mem : c ∈ unifyLineBreaks cs) : c = '\n' ∨ c ∈ cs := by
  fun_induction unifyLineBreaks cs with
  | case1 => cases mem
  | case2 rest ih =>
    rcases List.mem_cons.1 mem with same | mem
    · exact .inl same
    · exact (ih mem).imp_right fun h => List.mem_cons_of_mem _ (List.mem_cons_of_mem _ h)
  | case3 d rest _ ih =>
    rcases List.mem_cons.1 mem with same | mem
    · split at same
      · exact .inl same
      · exact .inr (same ▸ List.mem_cons_self)
    · exact (ih mem).imp_right (List.mem_cons_of_mem _)

theorem mem_unifyLineBreaks_of_mem {cs : List Char} {c : Char} (mem : c ∈ cs) (other : c ≠ '\r') (other' : c ≠ '\n') :
    c ∈ unifyLineBreaks cs := by
  fun_induction unifyLineBreaks cs with
  | case1 => exact mem
  | case2 rest ih =>
    simp only [List.mem_cons, other, other', false_or] at mem
    exact List.mem_cons_of_mem _ (ih mem)
  | case3 d rest _ ih =>
    rcases List.mem_cons.1 mem with rfl | mem
    · rw [if_neg other]
      exact List.mem_cons_self
    · exact List.mem_cons_of_mem _ (ih mem)

end Text

/-! Raw literals in three quotes. -/

section RawLiterals

variable {cs rest : List Char}

/-- The characters of a raw literal in three quotes. -/
def rawChars (body : List Char) : List Char := 'r' :: '"' :: '"' :: '"' :: (body ++ ['"', '"', '"'])

theorem afterTriple_plain (plain : ∀ c ∈ cs, c ≠ '"' ∧ c ≠ '\\') (rest : List Char) :
    afterTriple '"' (cs ++ '"' :: '"' :: '"' :: rest) = some rest := by
  induction cs with
  | nil => simp [afterTriple]
  | cons c cs ih =>
    obtain ⟨⟨unquoted, unescaped⟩, others⟩ := List.forall_mem_cons.1 plain
    rw [List.cons_append, afterTriple, if_neg (by simp [unquoted]), ih others]
    exact fun _ _ same _ => unescaped same

/-- Whatever a backslash is in front of, quotes behind a plain character end the literal. -/
theorem afterTriple_body {last : List Char} {c : Char} (plain : ∀ d ∈ c :: last, d ≠ '"' ∧ d ≠ '\\') (rest : List Char) :
    ∀ cs : List Char, '"' ∉ cs → afterTriple '"' (cs ++ (c :: last ++ '"' :: '"' :: '"' :: rest)) = some rest
  | [], _ => afterTriple_plain plain rest
  | [a], unquoted => by
    rw [List.mem_singleton] at unquoted
    by_cases escape : a = '\\'
    · subst escape
      exact afterTriple_plain (List.forall_mem_cons.1 plain).2 rest
    · rw [List.cons_append, afterTriple, if_neg (by simp [Ne.symm unquoted]), List.nil_append, afterTriple_plain plain]
      exact fun _ _ same _ => escape same
  | a :: b :: cs, unquoted => by
    simp only [List.mem_cons, not_or] at unquoted
    by_cases escape : a = '\\'
    · subst escape
      exact afterTriple_body plain rest cs unquoted.2.2
    · rw [List.cons_append, afterTriple, if_neg (by simp [Ne.symm unquoted.1])]
      · exact afterTriple_body plain rest (b :: cs) (by simp [unquoted.2])
      · exact fun _ _ same _ => escape same

/-- A body of a raw literal that the quotes behind it end: it holds no quote, and no backslash is the last
character of it. -/
structure IsRawBody (body : List Char) : Prop where
  unquoted : '"' ∉ body
  last : ∃ front c, body = front ++ [c] ∧ c ≠ '\\'

theorem IsRawBody.afterString {body : List Char} (h : IsRawBody body) (rest : List Char) :
    afterString ('"' :: '"' :: '"' :: (body ++ '"' :: '"' :: '"' :: rest)) = some rest := by
  obtain ⟨front, c, rfl, unescaped⟩ := h.last
  have unquoted := h.unquoted
  simp only [List.mem_append, List.mem_singleton, not_or] at unquoted
  have plain : ∀ d ∈ [c], d ≠ '"' ∧ d ≠ '\\' := List.forall_mem_singleton.2 ⟨Ne.symm unquoted.2, unescaped⟩
  rw [Scan.afterString]
  simpa using afterTriple_body plain rest front unquoted.1

theorem Moves.rawLiteral {body : List Char} (h : IsRawBody body) (line : Nat) (margins : List Margin)
    (brackets : List (Char × Nat)) (rest : List Char) :
    ∃ line', Moves false ⟨rawChars body ++ rest, line, margins, brackets⟩ [.string (rawChars body)]
      false ⟨rest, line', margins, brackets⟩ := by
  have mark : stringMark? (rawChars body ++ rest) = some 1 := by
    have known : stringMarks.contains (String.singleton 'r'.toLower) = true := by decide
    simp only [rawChars, List.cons_append, stringMark?, known]
    rfl
  have found : (⟨rawChars body ++ rest, line, margins, brackets⟩ : Cursor).lexeme =
      (.string (rawChars body), ⟨rest, line + (rawChars body).count '\n', margins, brackets⟩) := by
    have behind : Scan.afterString ((rawChars body ++ rest).drop 1) = some rest := by
      simpa [rawChars] using h.afterString rest
    have cut : (rawChars body ++ rest).take ((rawChars body ++ rest).length - rest.length) = rawChars body := by simp
    simp only [Cursor.lexeme, mark, Cursor.string, behind, cut]
  exact ⟨_, Moves.of_lexeme (c := 'r') rfl found rfl (by simp; omega)⟩

theorem standsFor_rawChars (body : List Char) : StandsFor (rawChars body) (ofChars body) := by
  have parts : StringLiteral.ofToken (rawChars body) = ⟨true, false, false, false, body, 4⟩ := by
    have mark : (rawChars body).takeWhile (!isQuote ·) = ['r'] := rfl
    have rest : (rawChars body).drop 1 = '"' :: '"' :: '"' :: (body ++ ['"', '"', '"']) := rfl
    simp [StringLiteral.ofToken, mark, rest]
  refine ⟨?_, ?_, ?_⟩ <;> rw [parts]
  rfl

end RawLiterals

namespace HelpModule

/-! The part that is the same for every plugin. -/

theorem ofString_ofList (cs : List Char) : ofString (String.ofList cs) = ofChars cs := congrArg ofChars String.toList_ofList

/-- The characters of the closing lines, written out as those of the texts in them. -/
def closingLines : {lines : List (List Char) // List.Forall₂ (fun t cs => t = ofChars cs) closing lines} :=
  ⟨_, by
    unfold closing
    iterate 26
      apply List.Forall₂.cons
      exact ofString_ofList _
    exact .nil⟩

def closingChars : List Char := ['\n'].intercalate closingLines.1

theorem join_ofChars {ts : List Text} {lines : List (List Char)} (each : List.Forall₂ (fun t cs => t = ofChars cs) ts lines) :
    join "\n" ts = ofChars (['\n'].intercalate lines) := by
  induction each with
  | nil => rfl
  | @cons t cs ts lines same others ih =>
    subst same
    cases others with
    | nil => simp
    | cons _ _ =>
      rw [join, ih, List.intercalate_cons_cons, ofChars_append, ofChars_append]
      · rfl
      · exact fun same => nomatch same

theorem join_closing : join "\n" closing = ofChars closingChars := join_ofChars closingLines.2

theorem closingChars_clean : '\x00' ∉ closingChars ∧ '\r' ∉ closingChars ∧ closingChars.getLast? = some '\n' := by
  decide +kernel

/-- The lexemes of the closing part. -/
def closingLexemes : List Lexeme := describing ++ calling ++ [.endOfFile]

theorem run_closing : (run 1200 true ⟨closingChars, 0, [⟨0, 0⟩], []⟩).1 = closingLexemes ∧
    (run 1200 true ⟨closingChars, 0, [⟨0, 0⟩], []⟩).2.isNone = true := by decide +kernel

/-! The whole module. -/

def titleStart : Spelling "Goal help for " := ⟨_, String.toList_ofList⟩

def titleEnd : Spelling ".\n\nGenerated by plugin-tools from the plugin descriptor. Do not edit.\n" :=
  ⟨_, String.toList_ofList⟩

/-- The documentation of a module with a name in it. -/
def documented (name : List Char) : List Char := titleStart.1 ++ (name ++ titleEnd.1)

def pluginStart : Spelling "\n\nPLUGIN = " := ⟨_, String.toList_ofList⟩

def goalsStart : Spelling "\n\nGOALS = " := ⟨_, String.toList_ofList⟩

/-- The characters of a module with a name in its documentation and with the literals of its data. -/
def moduleChars (name plugin goals : List Char) : List Char :=
  rawChars (documented name) ++ (pluginStart.1 ++ (plugin ++ (goalsStart.1 ++ (goals ++ '\n' :: closingChars))))

/-- A name as it stands in the documentation. -/
def unquoted (name : List Char) : List Char := name.map fun c => if c = '"' then '\'' else c

theorem replace_ofChars (cs : List Char) : replace (.scalar '"') "'" (ofChars cs) = ofChars (unquoted cs) := by
  induction cs with
  | nil => rfl
  | cons c cs ih =>
    have first : (if Letter.scalar c = .scalar '"' then ofString "'" else [.scalar c]) =
        ofChars [if c = '"' then '\'' else c] := by
      by_cases same : c = '"'
      · subst same
        rfl
      · rw [if_neg (fun h => same (Letter.scalar.inj h)), if_neg same]
        rfl
    exact congrArg₂ (· ++ ·) first ih

theorem text_eq {d : Descriptor} {name plugin goals : List Char} (named : d.name = ofChars name)
    (isPlugin : (pluginData d).laidOut = ofChars plugin) (areGoals : (goalData d).laidOut = ofChars goals) :
    text d = ofChars (moduleChars (unquoted name) plugin goals) := by
  have start : ofString "r\"\"\"Goal help for " = ofChars ('r' :: '"' :: '"' :: '"' :: titleStart.1) := ofString_ofList _
  have finish : ofString ".\n\nGenerated by plugin-tools from the plugin descriptor. Do not edit.\n\"\"\"\n\n" =
      ofChars (titleEnd.1 ++ ['"', '"', '"', '\n', '\n']) := ofString_ofList _
  have pluginName : ofString "PLUGIN = " = ofChars (pluginStart.1.drop 2) := ofString_ofList _
  have goalsName : ofString "\n\nGOALS = " = ofChars goalsStart.1 := ofString_ofList _
  have lineEnd : ofString "\n" = ofChars ['\n'] := ofString_ofList _
  rw [text, opening, named, replace_ofChars, isPlugin, areGoals, join_closing, start, finish, pluginName, goalsName, lineEnd]
  simp only [← ofChars_append, moduleChars, rawChars, documented, List.cons_append, List.append_assoc, List.nil_append]
  rfl

/-! Reading the module unifies its line breaks, and has to do so in the name only. -/

theorem unifyLineBreaks_module {plugin goals : List Char} (cleanPlugin : '\r' ∉ plugin) (cleanGoals : '\r' ∉ goals)
    (name : List Char) :
    unifyLineBreaks (moduleChars name plugin goals) = moduleChars (unifyLineBreaks name) plugin goals := by
  have constant : '\r' ∉ titleStart.1 ∧ '\r' ∉ titleEnd.1 ∧ '\r' ∉ pluginStart.1 ∧ '\r' ∉ goalsStart.1 := by decide +kernel
  have front : '\r' ∉ 'r' :: '"' :: '"' :: '"' :: titleStart.1 := by simp [constant.1]
  have behind : '\r' ∉ titleEnd.1 ++ ('"' :: '"' :: '"' :: (pluginStart.1 ++ (plugin ++ (goalsStart.1 ++
      (goals ++ '\n' :: closingChars))))) := by
    simp [constant, cleanPlugin, cleanGoals, closingChars_clean.2.1]
  have cut (name : List Char) : moduleChars name plugin goals = ('r' :: '"' :: '"' :: '"' :: titleStart.1) ++ (name ++
      (titleEnd.1 ++ ('"' :: '"' :: '"' :: (pluginStart.1 ++ (plugin ++ (goalsStart.1 ++ (goals ++ '\n' :: closingChars))))))) := by
    simp [moduleChars, rawChars, documented]
  rw [cut, cut, unifyLineBreaks_prefix front, unifyLineBreaks_append behind]
  exact show some '.' ≠ some '\n' by decide

theorem isRawBody_documented {name : List Char} (clean : '"' ∉ name) : IsRawBody (documented name) where
  unquoted := by
    have constant : '"' ∉ titleStart.1 ∧ '"' ∉ titleEnd.1 := by decide +kernel
    simp [documented, constant, clean]
  last := ⟨titleStart.1 ++ (name ++ titleEnd.1.dropLast), '\n', by simp [documented]; rfl, by decide⟩

/-! The lexemes. -/

theorem isName_plugin : Cursor.IsName ['P', 'L', 'U', 'G', 'I', 'N'] :=
  ⟨⟨_, _, _, _, rfl⟩, by decide, by decide, by decide⟩

theorem isName_goals : Cursor.IsName ['G', 'O', 'A', 'L', 'S'] :=
  ⟨⟨_, _, _, _, rfl⟩, by decide, by decide, by decide⟩

section Lexemes

variable {n : Nat} {value : List Char} {ls : List Lexeme}

/-- An assignment of a literal on a line of its own, behind an empty line. -/
theorem moves_assigned {word : List Char} (name : Cursor.IsName word) (scans : ScansAs n false value ls)
    (shallow : n ≤ Cursor.bracketLimit) (line : Nat) (rest : List Char) :
    ∃ line', Moves false ⟨'\n' :: '\n' :: (word ++ ' ' :: '=' :: ' ' :: (value ++ '\n' :: rest)), line, [⟨0, 0⟩], []⟩
      (.newline :: .name (String.ofList word) :: .mark "=" :: ls) false ⟨'\n' :: rest, line', [⟨0, 0⟩], []⟩ := by
  have equals : Cursor.IsMark '=' ' ' := ⟨rfl, by decide, rfl, by decide, by decide, by decide⟩
  obtain ⟨line', spelled⟩ := scans.moves '\n' rest (line + 2) [⟨0, 0⟩] [] (by decide) (by simpa using shallow)
    (fun h => nomatch h)
  have sign : Moves false ⟨'=' :: ' ' :: (value ++ '\n' :: rest), line + 2, [⟨0, 0⟩], []⟩ [.mark "="] false
      ⟨value ++ '\n' :: rest, line + 2, [⟨0, 0⟩], []⟩ := (Moves.separator equals rfl rfl rfl _).trans Moves.blank
  have target : Moves false ⟨word ++ ' ' :: '=' :: ' ' :: (value ++ '\n' :: rest), line + 2, [⟨0, 0⟩], []⟩
      [.name (String.ofList word)] false ⟨'=' :: ' ' :: (value ++ '\n' :: rest), line + 2, [⟨0, 0⟩], []⟩ :=
    (Moves.name name rfl _).trans Moves.blank
  have front : Moves false ⟨'\n' :: '\n' :: (word ++ ' ' :: '=' :: ' ' :: (value ++ '\n' :: rest)), line, [⟨0, 0⟩], []⟩
      [.newline] false ⟨word ++ ' ' :: '=' :: ' ' :: (value ++ '\n' :: rest), line + 2, [⟨0, 0⟩], []⟩ := by
    obtain ⟨a, b, c, cs, rfl⟩ := name.long
    exact (Moves.lineBreak _).trans ((Moves.emptyLine _).trans (Moves.front name.solid))
  exact ⟨line', front.trans (target.trans (sign.trans spelled))⟩

theorem lexemes_closing {fuel : Nat} (line : Nat) (enough : stepsLeft true ⟨closingChars, line, [⟨0, 0⟩], []⟩ < fuel) :
    lexemes fuel true ⟨closingChars, line, [⟨0, 0⟩], []⟩ = closingLexemes := by
  have long : 600 ≤ closingChars.length := by decide +kernel
  obtain ⟨more, rfl⟩ : ∃ more, fuel = more + 1200 := ⟨fuel - 1200, by simp only [stepsLeft] at enough; omega⟩
  obtain ⟨given, ended⟩ := run_closing
  have scanned : lexemes (more + 1200) true ⟨closingChars, 0, [⟨0, 0⟩], []⟩ = closingLexemes := by
    rw [lexemes_run, given, Option.isNone_iff_eq_none.1 ended]
    exact List.append_nil _
  have sound : ∀ l ∈ closingLexemes, l.isFault = false := by decide +kernel
  have same : (⟨closingChars, 0, [⟨0, 0⟩], []⟩ : Cursor).state = (⟨closingChars, line, [⟨0, 0⟩], []⟩ : Cursor).state := rfl
  rw [← scanned] at sound ⊢
  exact lexemes_alike same sound

end Lexemes

/-- The lexemes of a module with the documentation and the lexemes of its data. -/
def moduleLexemes (documentation : List Char) (plugin goals : List Lexeme) : List Lexeme :=
  .string documentation :: .newline :: .name "PLUGIN" :: .mark "=" :: (plugin ++ .newline :: .name "GOALS" :: .mark "=" ::
    (goals ++ .newline :: closingLexemes))

theorem lexemes_module {n n' : Nat} {name plugin goals : List Char} {pluginLexemes goalLexemes : List Lexeme}
    (clean : '"' ∉ name) (isPlugin : ScansAs n false plugin pluginLexemes) (shallow : n ≤ Cursor.bracketLimit)
    (areGoals : ScansAs n' false goals goalLexemes) (shallow' : n' ≤ Cursor.bracketLimit) :
    (tokensOf 1 (moduleChars name plugin goals)).map (·.lexeme) =
      moduleLexemes (rawChars (documented name)) pluginLexemes goalLexemes := by
  have ended : withLastBreak (moduleChars name plugin goals) = moduleChars name plugin goals := by
    have cut : moduleChars name plugin goals = (rawChars (documented name) ++ (pluginStart.1 ++ (plugin ++ (goalsStart.1 ++
        (goals ++ ['\n']))))) ++ closingChars := by simp [moduleChars]
    refine if_pos ?_
    rw [cut, List.getLast?_append, closingChars_clean.2.2]
    rfl
  have front : Moves true ⟨moduleChars name plugin goals, 1, [⟨0, 0⟩], []⟩ [] false
    ⟨moduleChars name plugin goals, 1, [⟨0, 0⟩], []⟩ := Moves.front (c := 'r') rfl
  obtain ⟨line₁, title⟩ := Moves.rawLiteral (isRawBody_documented clean) 1 [⟨0, 0⟩] []
    (pluginStart.1 ++ (plugin ++ (goalsStart.1 ++ (goals ++ '\n' :: closingChars))))
  obtain ⟨line₂, first⟩ := moves_assigned isName_plugin isPlugin shallow line₁ (goalsStart.1.drop 1 ++
    (goals ++ '\n' :: closingChars))
  obtain ⟨line₃, second⟩ := moves_assigned isName_goals areGoals shallow' line₂ closingChars
  have whole := front.trans (title.trans (first.trans (second.trans (Moves.lineBreak closingChars))))
  have enough : stepsLeft true (⟨moduleChars name plugin goals, 1, [⟨0, 0⟩], []⟩ : Cursor) <
      2 * (moduleChars name plugin goals).length + 2 := by simp [stepsLeft]
  obtain ⟨fuel, enough, scanned⟩ := whole.lexemes_eq enough
  rw [map_lexeme_tokensOf, ended, scanned, lexemes_closing _ enough]
  simp [moduleLexemes]

end HelpModule

end TaskCatalog
