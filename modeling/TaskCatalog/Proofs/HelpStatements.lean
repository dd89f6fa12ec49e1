import TaskCatalog.Artifact.HelpModule
import TaskCatalog.Proofs.PhraseReadings

/-!
The part of the help module that is the same for every plugin: the function that tells of the goals, and its
call when the module is run by itself.
-/

namespace TaskCatalog

open Text Code Code.Parser

namespace HelpModule

/-- The characters of a string, written out since they are looked at again and again. -/
abbrev Spelling (s : String) := {cs : List Char // s.toList = cs}

/-! Texts with fields. -/

/-- The lexemes of an item of what a name holds, under a text. -/
def itemOf (w : String) (key : Text) : List Lexeme := .name w :: .mark "[" :: ([literalLexeme key] ++ [.mark "]"])

/-- The lexemes of a goal's description, or of what stands for one. -/
def descriptionOr : List Lexeme := [
  .name "info", .mark "[", .string "'description'".toList, .mark "]", .name "or", .string "'No description.'".toList]

/-- An expression in a field of a text, with its lexemes. -/
structure Field where
  source : String
  spelling : Spelling source
  lexemes : List Lexeme

def fields : List Field := [
  ⟨"goal", ⟨_, String.toList_ofList⟩, [.name "goal"]⟩,
  ⟨"PLUGIN['name']", ⟨_, String.toList_ofList⟩, itemOf "PLUGIN" "name"⟩,
  ⟨"PLUGIN['coordinates']", ⟨_, String.toList_ofList⟩, itemOf "PLUGIN" "coordinates"⟩,
  ⟨"PLUGIN['goal_prefix']", ⟨_, String.toList_ofList⟩, itemOf "PLUGIN" "goal_prefix"⟩,
  ⟨"name", ⟨_, String.toList_ofList⟩, [.name "name"]⟩,
  ⟨"info['description'] or 'No description.'", ⟨_, String.toList_ofList⟩, descriptionOr⟩,
  ⟨"param['name']", ⟨_, String.toList_ofList⟩, itemOf "param" "name"⟩,
  ⟨"param['type']", ⟨_, String.toList_ofList⟩, itemOf "param" "type"⟩,
  ⟨"marker", ⟨_, String.toList_ofList⟩, [.name "marker"]⟩]

theorem fields_scanned : ∀ f ∈ fields, (tokensOf 0 ('(' :: f.spelling.1 ++ [')'])).map (·.lexeme) =
    .mark "(" :: (f.lexemes ++ [.mark ")", .newline, .endOfFile]) := by decide +kernel

theorem fields_sound : ∀ f ∈ fields, ∀ l ∈ f.lexemes, l.isFault = false := by decide +kernel

theorem fitsArgument_itemOf {w : String} (free : keywords.contains w = false) (key : Text) :
    FitsArgument 8 (itemOf w key) (.mark ")") :=
  fitsArgument_item free (fitsArgument_string (standsFor_literalChars key) rfl) rfl

theorem fitsArgument_descriptionOr : FitsArgument 8 descriptionOr (.mark ")") := by
  rintro m ts t rest lexemes lexeme
  obtain ⟨f, rfl⟩ := exists_placed lexemes
  obtain ⟨l, line, depth, index⟩ := t
  obtain rfl : l = .mark ")" := lexeme
  have unbound : ∀ m ∈ ["=", ":="], Lexeme.mark "[" ≠ .mark m := by decide
  exact ⟨_, operand_of_name rfl (by decide) ⟨_, _, rfl, rfl⟩, unnamed_of_name rfl (by decide) rfl unbound _,
    fun _ => ⟨_, rfl⟩, rfl⟩

theorem fields_fit : ∀ f ∈ fields, FitsArgument 8 f.lexemes (.mark ")") := by
  have name {w : String} (free : keywords.contains w = false) : FitsArgument 8 [.name w] (.mark ")") :=
    (fitsArgument_name free rfl).deeper (by decide)
  simp only [fields, List.forall_mem_cons]
  exact ⟨name (by decide), fitsArgument_itemOf (by decide) _, fitsArgument_itemOf (by decide) _,
    fitsArgument_itemOf (by decide) _, name (by decide), fitsArgument_descriptionOr, fitsArgument_itemOf (by decide) _,
    fitsArgument_itemOf (by decide) _, name (by decide), fun _ h => nomatch h⟩

/-- The characters of a formatted literal with the body. -/
def formattedToken (body : List Char) : List Char := 'f' :: '"' :: (body ++ ['"'])

def unknownGoal : Spelling "Unknown goal: \x7bgoal\x7d" := ⟨_, String.toList_ofList⟩

def pluginTitle : Spelling "\x7bPLUGIN['name']\x7d (\x7bPLUGIN['coordinates']\x7d)" := ⟨_, String.toList_ofList⟩

def goalTitle : Spelling "\x7bPLUGIN['goal_prefix']\x7d:\x7bname\x7d" := ⟨_, String.toList_ofList⟩

def goalDescription : Spelling "  \x7binfo['description'] or 'No description.'\x7d" := ⟨_, String.toList_ofList⟩

def parameterLine : Spelling "    \x7bparam['name']\x7d: \x7bparam['type']\x7d\x7bmarker\x7d" :=
  ⟨_, String.toList_ofList⟩

/-- The bodies of the formatted literals. -/
def bodies : List (List Char) := [unknownGoal.1, pluginTitle.1, goalTitle.1, goalDescription.1, parameterLine.1]

theorem isFormatted {body : List Char} (mem : body ∈ bodies) : IsFormatted 13 (formattedToken body) := by
  have form : ∀ body ∈ bodies, let l := StringLiteral.ofToken (formattedToken body)
      l.isBytes = false ∧ l.isFormatted = true ∧
        ((Draft.fieldSources l.isRaw (l.body.length + 2) l.body).any
          (·.all fun source => (fields.map (·.spelling.1)).contains source)) = true := by decide +kernel
  obtain ⟨isText, isFormatted, found⟩ := form body mem
  refine ⟨isText, isFormatted, ?_⟩
  obtain ⟨sources, same, known⟩ := (Option.any_eq_true _ _).1 found
  refine ⟨sources, same, fun source mem m line => ?_⟩
  have mem' : source ∈ fields.map (·.spelling.1) := by simpa using List.all_eq_true.1 known source mem
  obtain ⟨f, isField, rfl⟩ := List.mem_map.1 mem'
  exact fieldExpression_ok (fields_fit f isField) (fields_sound f isField) (fields_scanned f isField) m line

theorem fitsArgument_formatted {body : List Char} (mem : body ∈ bodies) {next : Lexeme} (ending : next.endsOperand = true) :
    FitsArgument 17 [.string (formattedToken body)] next :=
  (isFormatted mem).argument ending

/-! Statements of one line. -/

/-- The characters of a literal in double quotes with the body. -/
def plainToken (body : List Char) : List Char := '"' :: (body ++ ['"'])

def parametersKey : Spelling "parameters" := ⟨_, String.toList_ofList⟩

theorem standsFor_plainToken {body : List Char} (mem : body ∈ [[], parametersKey.1]) :
    StandsFor (plainToken body) (ofChars body) := by
  have stand : ∀ body ∈ [[], parametersKey.1], let l := StringLiteral.ofToken (plainToken body)
      l.isBytes = false ∧ l.isFormatted = false ∧ StringLiteral.textOf l.isRaw l.body = some (ofChars body) := by
    decide +kernel
  obtain ⟨isText, isPlain, text⟩ := stand body mem
  exact ⟨isText, isPlain, text⟩

/-- The lexemes of an assignment of an expression to a name. -/
def assigned (w : String) (ls : List Lexeme) : List Lexeme := .name w :: .mark "=" :: ls ++ [.newline]

theorem statement_assigned {w : String} {n : Nat} {ls : List Lexeme} (free : (Lexeme.name w).startsExpression = true)
    (value : IsValue n ls) (shallow : n ≤ 24) : IsStatement 25 (assigned w ls) :=
  (IsSimple.assigned free value).statement.deeper (Nat.succ_le_succ shallow)

/-- The lexemes of a text that is added to the lines. -/
def addedLine (token : List Char) : List Lexeme := [
  .name "lines", .mark ".", .name "append", .mark "(", .string token, .mark ")", .newline]

theorem statement_addedLine {token : List Char} (argument : FitsArgument 17 [.string token] (.mark ")")) :
    IsStatement 25 (addedLine token) :=
  (((isPrimary_methodCall (by decide) (by decide) argument rfl).simple ⟨_, _, rfl, by decide⟩).statement).deeper (by decide)

def documentation : Spelling "\"\"\"Return help text for one goal, or for every goal when none is given.\"\"\"" :=
  ⟨_, String.toList_ofList⟩

theorem statement_documentation : IsStatement 25 [.string documentation.1, .newline] := by
  have stands : StandsFor documentation.1 (ofChars (documentation.1.drop 3).dropLast.dropLast.dropLast) :=
    ⟨by decide +kernel, by decide +kernel, by decide +kernel⟩
  exact ((isPrimary_string stands rfl).simple ⟨_, _, rfl, rfl⟩).statement.deeper (by decide)

/-- All goals. -/
def allNames : List Lexeme := assigned "names" [.name "sorted", .mark "(", .name "GOALS", .mark ")"]

theorem statement_allNames : IsStatement 25 allNames :=
  statement_assigned (by decide) (isPrimary_call (by decide) (fitsArgument_name (by decide) rfl) rfl).value (by decide)

/-- The one goal that is asked for. -/
def oneName : List Lexeme := assigned "names" [.mark "[", .name "goal", .mark "]"]

theorem statement_oneName : IsStatement 25 oneName := by
  have list : IsPrimary 6 [.mark "[", .name "goal", .mark "]"] .newline :=
    ⟨⟨_, _, rfl, rfl⟩, .of_placed fun _ _ _ _ => ⟨_, fun _ => ⟨_, rfl⟩⟩⟩
  exact statement_assigned (by decide) list.value (by decide)

/-- The refusal of a goal that is not known. -/
def refusal : List Lexeme := [
  .name "raise", .name "KeyError", .mark "(", .string (formattedToken unknownGoal.1), .mark ")", .newline]

theorem statement_refusal : IsStatement 25 refusal :=
  have call : IsPrimary 18 _ .newline := isPrimary_call (by decide) (fitsArgument_formatted (.head _) rfl) rfl
  (IsSimple.raised call).statement.deeper (by decide)

/-- The first line and an empty one. -/
def heading : List Lexeme := assigned "lines" [
  .mark "[", .string (formattedToken pluginTitle.1), .mark ",",
  .string (plainToken []), .mark "]"]

theorem statement_heading : IsStatement 25 heading := by
  have empty : FitsArgument 17 [.string (plainToken [])] (.mark "]") :=
    (fitsArgument_string (standsFor_plainToken (by simp)) rfl).deeper (by decide)
  exact statement_assigned (by decide) (isPrimary_pair (fitsArgument_formatted (.tail _ (.head _)) rfl) empty rfl).value (by decide)

/-- What is known of a goal. -/
def knowledge : List Lexeme := assigned "info" [.name "GOALS", .mark "[", .name "name", .mark "]"]

theorem statement_knowledge : IsStatement 25 knowledge :=
  statement_assigned (by decide) (isPrimary_item (by decide) (fitsArgument_name (by decide) rfl) rfl).value (by decide)

def requiredMark : Spelling " (required)" := ⟨_, String.toList_ofList⟩

def requiredKey : Spelling "required" := ⟨_, String.toList_ofList⟩

/-- Whether a parameter is required. -/
def marker : List Lexeme := assigned "marker" [
  .string (plainToken requiredMark.1), .name "if", .name "param", .mark "[", .string (plainToken requiredKey.1), .mark "]",
  .name "else", .string (plainToken [])]

set_option maxRecDepth 2000 in
theorem statement_marker : IsStatement 25 marker := by
  refine statement_assigned (n := 12) (by decide) ⟨?_, ?_⟩ (by decide)
  · exact .of_placed fun _ _ _ _ => ⟨_, fun _ => ⟨_, rfl⟩⟩
  · exact .of_placed fun _ _ _ _ _ => ⟨_, rfl⟩

def result : List Lexeme := [
  .name "return", .string (plainToken ['\\', 'n']), .mark ".", .name "join", .mark "(", .name "lines", .mark ")", .newline]

theorem statement_result : IsStatement 25 result := by
  have join : IsPrimary 6 [.string (plainToken ['\\', 'n']), .mark ".", .name "join", .mark "(", .name "lines", .mark ")"] .newline :=
    ⟨⟨_, _, rfl, rfl⟩, .of_placed fun _ _ _ _ => ⟨_, fun _ => ⟨_, rfl⟩⟩⟩
  exact (IsSimple.returned join).statement.deeper (by decide)

def printing : List Lexeme := [
  .name "print", .mark "(", .name "describe", .mark "(", .mark ")", .mark ")", .newline]

theorem statement_printing : IsStatement 25 printing := by
  have call : IsPrimary 6 [.name "print", .mark "(", .name "describe", .mark "(", .mark ")", .mark ")"] .newline :=
    ⟨⟨_, _, rfl, rfl⟩, .of_placed fun _ _ _ _ => ⟨_, fun _ => ⟨_, rfl⟩⟩⟩
  exact (call.simple ⟨_, _, rfl, by decide⟩).statement.deeper (by decide)

/-! Statements of several lines. -/

/-- The names that help is asked for. -/
def choice : List Lexeme :=
  .name "if" :: ([.name "goal", .name "is", .name "None"] ++ blockOf [allNames] ++ .name "elif" ::
    ([.name "goal", .name "in", .name "GOALS"] ++ blockOf [oneName] ++ .name "else" :: blockOf [refusal]))

theorem statement_choice : IsStatement 26 choice := by
  have block {ls : List Lexeme} (h : IsStatement 25 ls) : IsBlock 26 (blockOf [ls]) :=
    isBlock (List.forall_mem_singleton.2 h) (List.cons_ne_nil _ _)
  have all : Fits (fun go => go .named) 26 [.name "goal", .name "is", .name "None"] (.mark ":") :=
    .of_placed fun _ _ _ _ => ⟨_, fun _ => ⟨_, rfl⟩⟩
  have known : Fits (fun go => go .named) 26 [.name "goal", .name "in", .name "GOALS"] (.mark ":") :=
    .of_placed fun _ _ _ _ => ⟨_, fun _ => ⟨_, rfl⟩⟩
  have other := IsBranches.orElse known (block statement_oneName) (block statement_refusal)
  exact .conditional (.elseIf all (block statement_allNames) other)

/-- The lines of the parameters. -/
def parameterLines : List Lexeme :=
  .name "for" :: .name "param" :: .name "in" ::
    ([.name "info", .mark "[", .string (plainToken parametersKey.1), .mark "]"] ++
      blockOf [marker, addedLine (formattedToken parameterLine.1)])

theorem statement_parameterLines : IsStatement 26 parameterLines := by
  have source : IsPrimary 5 [.name "info", .mark "[", .string (plainToken parametersKey.1), .mark "]"] (.mark ":") :=
    isPrimary_item (by decide) (fitsArgument_string (standsFor_plainToken (by simp)) rfl) rfl
  refine .loop (by decide) ((source.starExpressions rfl (by decide)).deeper (by decide)) (isBlock ?_ (List.cons_ne_nil _ _))
  simp only [List.forall_mem_cons]
  exact ⟨statement_marker, statement_addedLine (fitsArgument_formatted (.tail _ (.tail _ (.tail _ (.tail _ (.head _))))) rfl), fun _ h => nomatch h⟩

/-- The lines of the goals. -/
def goalLines : List Lexeme :=
  .name "for" :: .name "name" :: .name "in" :: ([.name "names"] ++ blockOf [knowledge,
    addedLine (formattedToken goalTitle.1),
    addedLine (formattedToken goalDescription.1), parameterLines,
    addedLine (plainToken [])])

theorem statement_goalLines : IsStatement 27 goalLines := by
  have source : Fits Rule.starExpressions 27 [.name "names"] (.mark ":") :=
    .of_placed fun _ _ _ _ => ⟨_, fun _ => ⟨_, rfl⟩⟩
  refine .loop (by decide) source (isBlock (n := 21) ?_ (List.cons_ne_nil _ _))
  have empty : FitsArgument 17 [.string (plainToken [])] (.mark ")") :=
    (fitsArgument_string (standsFor_plainToken (by simp)) rfl).deeper (by decide)
  have added {token : List Char} (h : FitsArgument 17 [.string token] (.mark ")")) : IsStatement 26 (addedLine token) :=
    (statement_addedLine h).deeper (by decide)
  simp only [List.forall_mem_cons]
  exact ⟨statement_knowledge.deeper (by decide), added (fitsArgument_formatted (.tail _ (.tail _ (.head _))) rfl),
    added (fitsArgument_formatted (.tail _ (.tail _ (.tail _ (.head _)))) rfl), statement_parameterLines, added empty, fun _ h => nomatch h⟩

/-- The function that gives the help. -/
def describing : List Lexeme :=
  .name "def" :: .name "describe" :: .mark "(" :: ([.name "goal", .mark "=", .name "None"] ++ .mark ")" ::
    blockOf [[.string documentation.1, .newline], choice, heading, goalLines, result])

theorem statement_describing : IsStatement 28 describing := by
  have parameters : Fits (fun go => Rule.signature go true) 28 [.name "goal", .mark "=", .name "None"] (.mark ")") :=
    .of_placed fun _ _ _ _ => ⟨_, fun _ => ⟨_, rfl⟩⟩
  refine .function (by decide) parameters (isBlock (n := 22) ?_ (List.cons_ne_nil _ _))
  simp only [List.forall_mem_cons]
  exact ⟨statement_documentation.deeper (by decide), statement_choice.deeper (by decide),
    statement_heading.deeper (by decide), statement_goalLines, statement_result.deeper (by decide), fun _ h => nomatch h⟩

def mainName : Spelling "__main__" := ⟨_, String.toList_ofList⟩

/-- The call of the function where the module is run by itself. -/
def calling : List Lexeme :=
  .name "if" :: ([.name "__name__", .mark "==", .string (plainToken mainName.1)] ++ blockOf [printing])

theorem statement_calling : IsStatement 28 calling := by
  have condition : Fits (fun go => go .named) 28 [.name "__name__", .mark "==", .string (plainToken mainName.1)] (.mark ":") :=
    .of_placed fun _ _ _ _ => ⟨_, fun _ => ⟨_, rfl⟩⟩
  exact .conditional (.one condition (isBlock (List.forall_mem_singleton.2 (statement_printing.deeper (by decide)))
    (List.cons_ne_nil _ _)))

end HelpModule

end TaskCatalog
