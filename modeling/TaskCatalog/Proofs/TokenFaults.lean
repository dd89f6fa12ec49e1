import TaskCatalog.Proofs.Outcome
import TaskCatalog.Yaml.Token

/-!
Why the tokens of a document stop: it is malformed, or an escape in it stands for no character.
-/

namespace TaskCatalog.Yaml

open Text Outcome

/-- A fault of the form, which is met before any value is made. -/
inductive Fault.OfForm : Fault → Prop
  | malformed : OfForm .malformed
  | badCode (huge : Bool) : OfForm (.badCode huge)

namespace Cursor

variable {c : Cursor}

theorem endOfLine_fails : Fails Fault.OfForm c.endOfLine := by
  unfold endOfLine
  dsimp only
  split
  · trivial
  · exact .malformed

theorem quotedBreaks_fails (fuel : Nat) : Fails Fault.OfForm (c.quotedBreaks fuel) := by
  induction fuel generalizing c with
  | zero => trivial
  | succ fuel ih =>
    unfold quotedBreaks
    split
    · exact .malformed
    · dsimp only
      split
      · trivial
      · exact ih.bind fun _ _ => trivial

theorem quotedSpaces_fails (fuel : Nat) : Fails Fault.OfForm (c.quotedSpaces fuel) := by
  unfold quotedSpaces
  dsimp only
  split
  · exact .malformed
  · split
    · trivial
    · exact (quotedBreaks_fails fuel).bind fun _ _ => trivial

theorem codeEscape_fails (width : Nat) : Fails Fault.OfForm (c.codeEscape width) := by
  unfold codeEscape
  dsimp only
  split
  · split
    · trivial
    · exact .badCode _
  · exact .malformed

theorem escape_fails (fuel : Nat) : Fails Fault.OfForm (c.escape fuel) := by
  unfold escape
  split
  · exact .malformed
  · split
    · trivial
    · split
      · exact (codeEscape_fails _).bind fun _ _ => trivial
      · split
        · exact (quotedBreaks_fails fuel).bind fun _ _ => trivial
        · exact .malformed

theorem quotedScalar_fails (double : Bool) (fuel : Nat) : Fails Fault.OfForm (c.quotedScalar double fuel) := by
  induction fuel generalizing c with
  | zero => exact .malformed
  | succ fuel ih =>
    unfold quotedScalar
    dsimp only
    split
    · exact .malformed
    · split
      · exact (quotedSpaces_fails _).bind fun _ _ => ih.bind fun _ _ => trivial
      · split
        · exact (escape_fails _).bind fun _ _ => ih.bind fun _ _ => trivial
        · repeat' split
          all_goals first
            | trivial
            | exact ih.bind fun _ _ => trivial

theorem blockHeader_fails : Fails Fault.OfForm c.blockHeader := by
  unfold blockHeader
  dsimp only
  repeat' split
  all_goals first
    | exact Fault.OfForm.malformed
    | exact endOfLine_fails.bind fun _ _ => trivial

theorem blockScalar_fails (folded : Bool) (outer : Nat) : Fails Fault.OfForm (c.blockScalar folded outer) :=
  blockHeader_fails.bind fun _ _ => trivial

end Cursor

namespace Scanner

variable {c : Cursor} {s : Scanner}

theorem dropStaleKeys_fails : Fails Fault.OfForm s.dropStaleKeys := by
  unfold dropStaleKeys
  split
  · exact .malformed
  · trivial

theorem removeKey_fails : Fails Fault.OfForm s.removeKey := by
  unfold removeKey
  split
  · exact .malformed
  · trivial

theorem saveKey_fails : Fails Fault.OfForm s.saveKey := by
  unfold saveKey
  split
  · exact removeKey_fails.bind fun _ _ => trivial
  · trivial

theorem uriBytes_fails (fuel : Nat) : Fails Fault.OfForm (uriBytes fuel c) := by
  induction fuel generalizing c with
  | zero => trivial
  | succ fuel ih =>
    unfold uriBytes
    split
    · split
      · exact ih.bind fun _ _ => trivial
      · exact .malformed
    · exact .malformed
    · trivial

theorem uriParts_fails (fuel : Nat) : Fails Fault.OfForm (uriParts fuel c) := by
  induction fuel generalizing c with
  | zero => trivial
  | succ fuel ih =>
    unfold uriParts
    dsimp only
    split
    · refine (uriBytes_fails _).bind fun _ _ => ?_
      split
      · exact ih.bind fun _ _ => trivial
      · exact .malformed
    · trivial

theorem uri_fails : Fails Fault.OfForm (uri c) := by
  refine (uriParts_fails _).bind fun _ _ => ?_
  dsimp only
  split
  · exact .malformed
  · trivial

theorem handle_fails : Fails Fault.OfForm (handle c) := by
  unfold handle
  split
  · trivial
  · dsimp only
    split
    · trivial
    · exact .malformed
  · exact .malformed

theorem wholeNumber_fails : Fails Fault.OfForm (wholeNumber c) := by
  unfold wholeNumber
  dsimp only
  split
  · exact .malformed
  · trivial

theorem versionDirective_fails : Fails Fault.OfForm (versionDirective c) := by
  refine wholeNumber_fails.bind fun _ _ => ?_
  dsimp only
  split
  · exact .malformed
  · refine wholeNumber_fails.bind fun _ _ => ?_
    split
    · trivial
    · exact .malformed

theorem tagDirective_fails : Fails Fault.OfForm (tagDirective c) := by
  refine handle_fails.bind fun _ _ => ?_
  dsimp only
  split
  · exact .malformed
  · refine uri_fails.bind fun _ _ => ?_
    split
    · trivial
    · exact .malformed

theorem directive_fails : Fails Fault.OfForm s.directive := by
  refine removeKey_fails.bind fun _ _ => ?_
  dsimp only
  split
  · exact .malformed
  · split
    · exact versionDirective_fails.bind fun _ _ => Cursor.endOfLine_fails.bind fun _ _ => trivial
    · split
      · exact tagDirective_fails.bind fun _ _ => Cursor.endOfLine_fails.bind fun _ _ => trivial
      · exact Cursor.endOfLine_fails.bind fun _ _ => trivial

theorem openByMark_fails (t : Token) : Fails Fault.OfForm (s.openByMark t) := by
  unfold openByMark
  split
  · trivial
  · split
    · trivial
    · exact .malformed

theorem valueMark_fails : Fails Fault.OfForm s.valueMark := by
  unfold valueMark
  split
  · trivial
  · exact (openByMark_fails _).bind fun _ _ => removeKey_fails.bind fun _ _ => trivial

theorem named_fails (make : Text → Token) : Fails Fault.OfForm (s.named make) := by
  refine saveKey_fails.bind fun _ _ => ?_
  dsimp only
  split
  · exact .malformed
  · trivial

theorem tagAt_fails : Fails Fault.OfForm (tagAt c) := by
  unfold tagAt
  split
  · refine uri_fails.bind fun _ _ => ?_
    dsimp only
    split
    · trivial
    · exact .malformed
  · split
    · trivial
    · split
      · exact handle_fails.bind fun _ _ => uri_fails.bind fun _ _ => trivial
      · exact uri_fails.bind fun _ _ => trivial

theorem tag_fails : Fails Fault.OfForm s.tag := by
  refine saveKey_fails.bind fun _ _ => tagAt_fails.bind fun _ _ => ?_
  dsimp only
  split
  · exact .malformed
  · trivial

theorem quotedText_fails (double : Bool) : Fails Fault.OfForm (s.quotedText double) :=
  saveKey_fails.bind fun _ _ => (Cursor.quotedScalar_fails double _).bind fun _ _ => trivial

theorem token_fails : Fails Fault.OfForm s.token := by
  have mark (t : Token) : Fails Fault.OfForm (s.documentMark t) := removeKey_fails.bind fun _ _ => trivial
  have opened (t : Token) : Fails Fault.OfForm (s.openFlow t) := saveKey_fails.bind fun _ _ => trivial
  have closed (t : Token) : Fails Fault.OfForm (s.closeFlow t) := removeKey_fails.bind fun _ _ => trivial
  have entered : Fails Fault.OfForm s.flowEntry := removeKey_fails.bind fun _ _ => trivial
  have item : Fails Fault.OfForm s.blockEntry :=
    (openByMark_fails _).bind fun _ _ => removeKey_fails.bind fun _ _ => trivial
  have key : Fails Fault.OfForm s.keyMark :=
    (openByMark_fails _).bind fun _ _ => removeKey_fails.bind fun _ _ => trivial
  have block (folded : Bool) : Fails Fault.OfForm (s.block folded) :=
    removeKey_fails.bind fun _ _ => (Cursor.blockScalar_fails folded _).bind fun _ _ => trivial
  have plain : Fails Fault.OfForm s.plainText := saveKey_fails.bind fun _ _ => trivial
  have none : Fails Fault.OfForm (.error .malformed : Except Fault Scanner) := .malformed
  unfold token
  split
  · exact removeKey_fails.bind fun _ _ => trivial
  · exact .ite directive_fails <| .ite (mark _) <| .ite (mark _) <| .ite (opened _) <| .ite (opened _)
      <| .ite (closed _) <| .ite (closed _) <| .ite entered <| .ite item <| .ite key <| .ite valueMark_fails
      <| .ite (named_fails _) <| .ite (named_fails _) <| .ite tag_fails <| .ite (block _) <| .ite (block _)
      <| .ite (quotedText_fails _) <| .ite (quotedText_fails _) <| .ite plain none

theorem prepare_fails : Fails Fault.OfForm s.prepare := dropStaleKeys_fails.bind fun _ _ => trivial

end Scanner

namespace Tokens

theorem scan_fault (fuel : Nat) {s : Scanner} : ∀ e ∈ (scan fuel s).fault, e.OfForm := by
  induction fuel generalizing s with
  | zero => simp [scan, Fault.OfForm.malformed]
  | succ fuel ih =>
    intro e he
    unfold scan at he
    split at he
    · next prepared =>
      obtain rfl := Option.mem_some_iff.1 he
      exact Scanner.prepare_fails.of_error prepared
    · split at he
      · next token =>
        obtain rfl := Option.mem_some_iff.1 he
        exact Scanner.token_fails.of_error token
      · split at he
        · cases he
        · exact ih e he

theorem ofChars_fault (text : List Char) : ∀ e ∈ (ofChars text).fault, e.OfForm := by
  intro e he
  unfold ofChars at he
  split at he
  · exact scan_fault _ e he
  · obtain rfl := Option.mem_some_iff.1 he
    exact .malformed

end Tokens

end TaskCatalog.Yaml
