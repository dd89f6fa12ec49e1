import TaskCatalog.Proofs.WrittenLayout
import TaskCatalog.Yaml.Reading

/-!
A document that was written, from its letters to its tokens, and from these to its nodes. All its letters are let in
where it is read, and at its end the block of its entries is closed; the tokens are composed to the nodes of the data,
each under the tag of its kind.
-/

namespace TaskCatalog.Yaml

open Text Number

namespace Writing

/-- Letters that are let in as they are. -/
def IsCommon (t : Text) : Prop := ∀ l ∈ t, isSpecial l = false

instance (t : Text) : Decidable (IsCommon t) := inferInstanceAs (Decidable (∀ l ∈ t, isSpecial l = false))

section

variable {t u : Text}

theorem IsCommon.append (ht : IsCommon t) (hu : IsCommon u) : IsCommon (t ++ u) := List.forall_mem_append.2 ⟨ht, hu⟩

theorem isCommon_text (s : Spot) (t : Text) : IsCommon (text s t) := fun _ h => (mem_text h).common

theorem isCommon_newLine (indent : Nat) : IsCommon (newLine indent) := by
  intro l h
  rcases mem_newLine h with rfl | rfl <;> rfl

theorem isCommon_word {w : List Char} (word : IsWord w) : IsCommon (ofChars w) := by
  intro l h
  obtain ⟨c, hc, rfl⟩ := mem_ofChars h
  obtain ⟨low, high⟩ := wordChar_bounds (word.all c hc)
  have low' : ' ' ≤ c := Char.le_def.2 (le_trans (by decide : 32 ≤ 43) low)
  have high' : c ≤ '~' := Char.le_def.2 (le_trans high (by decide : 122 ≤ 126))
  simp [isSpecial, low', high']

theorem isCommon_keyText (indent : Nat) (key : Text) : IsCommon (keyText indent key) := by
  have colon : IsCommon ":" := by decide
  rw [keyText]
  split
  · exact (isCommon_text _ _).append colon
  · exact (((by decide : IsCommon "? ").append (isCommon_text _ _)).append (isCommon_newLine indent)).append colon

end

mutual

theorem isCommon_value (inLine : Bool) (indent column : Nat) : (p : Plain) → p.Settled →
    IsCommon (value inLine indent column p)
  | .null, _ => by
    rw [value]
    decide
  | .truth b, _ => by
    rw [value]
    cases b <;> decide
  | .whole n, _ => by
    have word := (isUnsigned_digits (areDigits_decimalDigits n.natAbs)).isWord (decide (n < 0))
    rw [value, ofInt_eq]
    exact (by decide : IsCommon " ").append (isCommon_word word)
  | .real x, settled => by
    cases settled with
    | real finite =>
      obtain ⟨negative, n, text, -⟩ := @exists_spelling numberStyle rfl rfl x finite
      rw [value, text]
      exact (by decide : IsCommon " ").append (isCommon_word ((isUnsigned_numeral n).isWord negative))
  | .text t, _ => by
    rw [value]
    exact (by decide : IsCommon " ").append (isCommon_text _ t)
  | .list is, settled => by
    cases settled with
    | list settled =>
      have inner (indent : Nat) : IsCommon (join (newLine indent) (items indent is)) :=
        forall_mem_join (isCommon_newLine indent) (isCommon_items indent is settled)
      rw [value]
      split
      · decide
      · split
        · exact (by decide : IsCommon " ").append (inner _)
        · exact (isCommon_newLine indent).append (inner _)
  | .map es, settled => by
    cases settled with
    | map _ settled =>
      have inner : IsCommon (join (newLine (indent + 2)) (entries (indent + 2) es)) :=
        forall_mem_join (isCommon_newLine _) (isCommon_entries _ es settled)
      rw [value]
      split
      · decide
      · refine IsCommon.append ?_ inner
        split
        · decide
        · exact isCommon_newLine _

theorem isCommon_items (indent : Nat) : (is : List Plain) → (∀ p ∈ is, p.Settled) → ∀ t ∈ items indent is, IsCommon t
  | [], _ => nofun
  | item :: rest, settled => by
    rw [items, List.forall_mem_cons]
    rw [List.forall_mem_cons] at settled
    exact ⟨(by decide : IsCommon "-").append (isCommon_value _ _ _ item settled.1),
      isCommon_items indent rest settled.2⟩

theorem isCommon_entries (indent : Nat) : (es : List (Text × Plain)) → (∀ e ∈ es, e.2.Settled) →
    ∀ t ∈ entries indent es, IsCommon t
  | [], _ => nofun
  | (key, v) :: rest, settled => by
    rw [entries, List.forall_mem_cons]
    rw [List.forall_mem_cons] at settled
    exact ⟨(isCommon_keyText indent key).append (isCommon_value _ _ _ v settled.1),
      isCommon_entries indent rest settled.2⟩

end

theorem isCommon_write {es : List (Text × Plain)} (settled : ∀ e ∈ es, e.2.Settled) : IsCommon (write es) := by
  have inner := forall_mem_join (by decide : IsCommon "\n") (isCommon_entries 0 es settled)
  rw [write]
  split
  · decide
  · exact IsCommon.append inner (by decide)

theorem IsCommon.ofChars_chars {t : Text} (h : IsCommon t) : ofChars (chars t) = t := by
  refine Text.ofChars_chars fun l hl => ?_
  cases l with
  | scalar c => rfl
  | half n => cases h _ hl

theorem IsCommon.mem_chars {t : Text} (h : IsCommon t) {c : Char} (hc : c ∈ chars t) : isSpecial (.scalar c) = false := by
  refine h _ ?_
  rw [← h.ofChars_chars]
  exact List.mem_map_of_mem hc

end Writing

namespace Scanner

theorem scans_end {c : Cursor} {ts : List Token} (h : c.rest = []) :
    Scans (free c ⟨ts, 1, [0]⟩ true) (ts ++ [.blockEnd, .streamEnd]) := by
  have ready : (free c ⟨ts, 1, [0]⟩ true).prepare = .ok (free c ⟨ts, 1, [0]⟩ true) := by
    rw [@prepare_free c _ _ [] 0 h rfl]
    exact congrArg Except.ok (closeBlocks_of_le (Nat.succ_pos _))
  have ended : (free c ⟨ts, 1, [0]⟩ true).token =
      .ok (free c ⟨ts ++ [.blockEnd, .streamEnd], 0, []⟩ false) := by
    have here : (free c ⟨ts, 1, [0]⟩ true).cursor.rest = [] := h
    rw [Scanner.token, here]
    simp [endStream, closeBlocks, closeBlocks.go, removeKey, key?, forgetKey, free, push, bind, Except.bind, pure,
      Except.pure]
  simpa [free] using Scans.last ready (by simp [free, Cursor.atEnd, h]) ended

end Scanner

namespace Writing

open Yaml.Scanner

theorem chars_write {es : List (Text × Plain)} (filled : es ≠ []) :
    chars (write es) = chars (join "\n" (entries 0 es)) ++ ['\n'] := by
  have lines : entries 0 es ≠ [] := by
    cases es with
    | nil => exact absurd rfl filled
    | cons e es => exact List.cons_ne_nil _ _
  rw [write]
  split
  · next none => exact absurd none lines
  · rw [chars_append]
    rfl

theorem no_byteOrderMark {es : List (Text × Plain)} (settled : ∀ e ∈ es, e.2.Settled) :
    (Cursor.start (chars (write es))).at? (· == '\uFEFF') = false := by
  rw [Cursor.at?, Option.any_eq_false]
  intro c first
  have common := (isCommon_write settled).mem_chars (List.mem_of_mem_head? first)
  rw [beq_eq_false_iff_ne]
  rintro rfl
  cases common

/-- A document is read as the tokens of its entries. -/
theorem tokens_write {es : List (Text × Plain)} (filled : es ≠ []) (settled : ∀ e ∈ es, e.2.Settled)
    (readable : entriesReadable 0 es = true) : Tokens.ofChars (chars (write es)) =
      ⟨.blockMapping :: entriesTokens es ++ [.blockEnd, .streamEnd], none⟩ := by
  have common := isCommon_write settled
  have allowed : (chars (write es)).all Tokens.isAllowed = true :=
    List.all_eq_true.2 fun c hc => isAllowed_of_common (common.mem_chars hc)
  have cut : (Cursor.start (chars (write es))).rest =
      chars (join "\n" (entries 0 es)) ++ '\n' :: (List.replicate 0 ' ' ++ []) := chars_write filled
  have lines := readsLines_entries es filled settled readable
  obtain ⟨c, rest, -, leads⟩ := @ReadsLines.reaches _ _ _ _ lines (Cursor.start (chars (write es))) ⟨[], 0, []⟩ 0 []
    beginsLine_nil (le_refl _) (Nat.zero_le _) rfl cut
  have scans := leads _ (scans_end rest)
  rw [Tokens.ofChars, if_pos allowed]
  simp only [no_byteOrderMark settled, Bool.false_eq_true, if_false]
  exact scans.scan _ (Nat.lt_add_of_pos_right (Nat.succ_pos 1))

/-! The nodes that the tokens are composed to. -/

mutual

/-- The node that a value is read as. -/
def nodeOf : Plain → Node
  | .null => .scalar (.known .null) "null"
  | .truth b => .scalar (.known .truth) (if b then "true" else "false")
  | .whole n => .scalar (.known .whole) (ofInt n)
  | .real x => .scalar (.known .real) (floatText numberStyle x)
  | .text t => .scalar (.known .text) t
  | .list is => .sequence (.known .sequence) (nodesOf is)
  | .map es => .mapping (.known .mapping) (fieldsOf es)

def nodesOf : List Plain → List Node
  | [] => []
  | item :: rest => nodeOf item :: nodesOf rest

def fieldsOf : List (Text × Plain) → List (Node × Node)
  | [] => []
  | (key, v) :: rest => (.scalar (.known .text) key, nodeOf v) :: fieldsOf rest

end

theorem scalarTag_text (t : Text) : Composer.scalarTag none (canBePlain t) t = .known .text := by
  rw [Composer.scalarTag]
  cases plain : canBePlain t with
  | false => rfl
  | true =>
    simp only [canBePlain, Bool.and_eq_true, beq_iff_eq] at plain
    exact plain.1.1.1.1.1.1

theorem scalarTag_real {x : Float} (finite : x.isFinite = true) :
    Composer.scalarTag none true (floatText numberStyle x) = .known .real := by
  obtain ⟨negative, n, text, -⟩ := @exists_spelling numberStyle rfl rfl x finite
  rw [text]
  exact ofSpelling_numeral negative n

end Writing

namespace Composer

variable {e : Fault} {hs : List (Text × Text)} {as : List (Text × Option Node)} {fuel : Nat} {inBlock flat : Bool}
  {ts rest : List Token}

theorem node_scalar (t : Text) (plain : Bool) :
    node (fuel + 1) inBlock flat ⟨.scalar t plain :: rest, e, hs, as⟩ =
      .ok (.scalar (scalarTag none plain t) t, ⟨rest, e, hs, as⟩) := rfl

theorem node_emptySequence : node (fuel + 2) inBlock flat ⟨.flowSequence :: .flowSequenceEnd :: rest, e, hs, as⟩ =
    .ok (.sequence (.known .sequence) [], ⟨rest, e, hs, as⟩) := rfl

theorem node_emptyMapping : node (fuel + 2) inBlock flat ⟨.flowMapping :: .flowMappingEnd :: rest, e, hs, as⟩ =
    .ok (.mapping (.known .mapping) [], ⟨rest, e, hs, as⟩) := rfl

theorem node_blockSequence {items : List Node} (inner : blockItems fuel ⟨ts, e, hs, as⟩ = .ok (items, ⟨rest, e, hs, as⟩)) :
    node (fuel + 1) true flat ⟨.blockSequence :: ts, e, hs, as⟩ =
      .ok (.sequence (.known .sequence) items, ⟨rest, e, hs, as⟩) := by
  have step : node (fuel + 1) true flat ⟨.blockSequence :: ts, e, hs, as⟩ =
      blockItems fuel ⟨ts, e, hs, as⟩ >>= fun r => pure (.sequence (.known .sequence) r.1, r.2) := rfl
  rw [step, inner]
  rfl

theorem node_blockMapping {entries : List (Node × Node)}
    (inner : blockFields fuel ⟨ts, e, hs, as⟩ = .ok (entries, ⟨rest, e, hs, as⟩)) :
    node (fuel + 1) true flat ⟨.blockMapping :: ts, e, hs, as⟩ =
      .ok (.mapping (.known .mapping) entries, ⟨rest, e, hs, as⟩) := by
  have step : node (fuel + 1) true flat ⟨.blockMapping :: ts, e, hs, as⟩ =
      blockFields fuel ⟨ts, e, hs, as⟩ >>= fun r => pure (.mapping (.known .mapping) r.1, r.2) := rfl
  rw [step, inner]
  rfl

theorem node_plainSequence {items : List Node}
    (inner : plainItems fuel ⟨.blockEntry :: ts, e, hs, as⟩ = .ok (items, ⟨rest, e, hs, as⟩)) :
    node (fuel + 1) true true ⟨.blockEntry :: ts, e, hs, as⟩ =
      .ok (.sequence (.known .sequence) items, ⟨rest, e, hs, as⟩) := by
  have step : node (fuel + 1) true true ⟨.blockEntry :: ts, e, hs, as⟩ =
      plainItems fuel ⟨.blockEntry :: ts, e, hs, as⟩ >>= fun r => pure (.sequence (.known .sequence) r.1, r.2) := rfl
  rw [step, inner]
  rfl

variable {first : Node} {middle : List Token}

theorem blockItems_cons {items : List Node}
    (item : nodeUnless fuel isBlockEntryEnd true false ⟨ts, e, hs, as⟩ = .ok (first, ⟨middle, e, hs, as⟩))
    (more : blockItems fuel ⟨middle, e, hs, as⟩ = .ok (items, ⟨rest, e, hs, as⟩)) :
    blockItems (fuel + 1) ⟨.blockEntry :: ts, e, hs, as⟩ = .ok (first :: items, ⟨rest, e, hs, as⟩) := by
  have step : blockItems (fuel + 1) ⟨.blockEntry :: ts, e, hs, as⟩ =
      nodeUnless fuel isBlockEntryEnd true false ⟨ts, e, hs, as⟩ >>= fun item =>
        blockItems fuel item.2 >>= fun r => pure (item.1 :: r.1, r.2) := rfl
  rw [step, item]
  exact congrArg (· >>= fun r => pure (first :: r.1, r.2)) more

theorem plainItems_cons {items : List Node}
    (item : nodeUnless fuel isPlainEntryEnd true false ⟨ts, e, hs, as⟩ = .ok (first, ⟨middle, e, hs, as⟩))
    (more : plainItems fuel ⟨middle, e, hs, as⟩ = .ok (items, ⟨rest, e, hs, as⟩)) :
    plainItems (fuel + 1) ⟨.blockEntry :: ts, e, hs, as⟩ = .ok (first :: items, ⟨rest, e, hs, as⟩) := by
  have step : plainItems (fuel + 1) ⟨.blockEntry :: ts, e, hs, as⟩ =
      nodeUnless fuel isPlainEntryEnd true false ⟨ts, e, hs, as⟩ >>= fun item =>
        plainItems fuel item.2 >>= fun r => pure (item.1 :: r.1, r.2) := rfl
  rw [step, item]
  exact congrArg (· >>= fun r => pure (first :: r.1, r.2)) more

theorem blockFields_cons {key v : Node} {fields : List (Node × Node)} {middle later : List Token}
    (left : nodeUnless fuel isBlockFieldEnd true true ⟨ts, e, hs, as⟩ = .ok (key, ⟨.value :: middle, e, hs, as⟩))
    (right : nodeUnless fuel isBlockFieldEnd true true ⟨middle, e, hs, as⟩ = .ok (v, ⟨later, e, hs, as⟩))
    (more : blockFields fuel ⟨later, e, hs, as⟩ = .ok (fields, ⟨rest, e, hs, as⟩)) :
    blockFields (fuel + 1) ⟨.key :: ts, e, hs, as⟩ = .ok ((key, v) :: fields, ⟨rest, e, hs, as⟩) := by
  have step : blockFields (fuel + 1) ⟨.key :: ts, e, hs, as⟩ =
      nodeUnless fuel isBlockFieldEnd true true ⟨ts, e, hs, as⟩ >>= _ := rfl
  rw [step, left]
  have value : (nodeUnless fuel isBlockFieldEnd true true ⟨middle, e, hs, as⟩ >>= fun value =>
      blockFields fuel value.2 >>= fun r => pure ((key, value.1) :: r.1, r.2)) =
        .ok ((key, v) :: fields, ⟨rest, e, hs, as⟩) := by
    rw [right]
    exact congrArg (· >>= fun r => pure ((key, v) :: r.1, r.2)) more
  exact value

theorem document_of_node {n : Node} (whole : node (4 * (Token.blockMapping :: ts).length + 7 + 1) true false
      ⟨.blockMapping :: ts, e, defaultHandles, []⟩ = .ok (n, ⟨[.streamEnd], e, defaultHandles, []⟩)) :
    document ⟨.blockMapping :: ts, e, [], []⟩ = .ok (some n) := by
  rw [document]
  show (node (4 * (Token.blockMapping :: ts).length + 7 + 1) true false ⟨.blockMapping :: ts, e, defaultHandles, []⟩ >>=
    fun r => endOfStream r.2 r.2.tokens >>= fun _ => pure (some r.1)) = _
  rw [whole]
  rfl

theorem nodeUnless_of_begin {ends : Token → Bool} {t : Token} {us : List Token} (begins : ts = t :: us)
    (goesOn : ends t = false) :
    nodeUnless (fuel + 1) ends inBlock flat ⟨ts ++ rest, e, hs, as⟩ = node fuel inBlock flat ⟨ts ++ rest, e, hs, as⟩ := by
  subst begins
  have step : nodeUnless (fuel + 1) ends inBlock flat ⟨t :: us ++ rest, e, hs, as⟩ =
      if ends t then .ok (.empty, ⟨t :: us ++ rest, e, hs, as⟩) else node fuel inBlock flat ⟨t :: us ++ rest, e, hs, as⟩ :=
    rfl
  rw [step, goesOn]
  rfl

end Composer

namespace Writing

open Composer

variable {e : Fault} {hs : List (Text × Text)} {as : List (Text × Option Node)}

/-- A sequence that has no end of its own ends before such tokens. -/
def Stops (ts : List Token) : Prop := ∃ t rest, ts = t :: rest ∧ t ≠ .blockEntry

theorem valueTokens_begin (inLine : Bool) (p : Plain) : ∃ t ts, valueTokens inLine p = t :: ts ∧
    isBlockFieldEnd t = false ∧ (inLine = true → isPlainEntryEnd t = false ∧ isBlockEntryEnd t = false) := by
  cases p with
  | list is =>
    cases is with
    | nil => exact ⟨_, _, rfl, rfl, fun _ => ⟨rfl, rfl⟩⟩
    | cons item rest =>
      cases inLine with
      | true => exact ⟨_, _, rfl, rfl, fun _ => ⟨rfl, rfl⟩⟩
      | false => exact ⟨_, _, rfl, rfl, nofun⟩
  | map es =>
    cases es with
    | nil => exact ⟨_, _, rfl, rfl, fun _ => ⟨rfl, rfl⟩⟩
    | cons entry rest => exact ⟨_, _, rfl, rfl, fun _ => ⟨rfl, rfl⟩⟩
  | _ => exact ⟨_, _, rfl, rfl, fun _ => ⟨rfl, rfl⟩⟩

theorem entriesTokens_stop (es : List (Text × Plain)) (rest : List Token) : Stops (entriesTokens es ++ .blockEnd :: rest) := by
  cases es with
  | nil => exact ⟨_, _, rfl, nofun⟩
  | cons entry es => exact ⟨_, _, rfl, nofun⟩

mutual

-- Every rule takes a token, and hands on to at most two others before it does: three steps for each token are enough.
theorem node_value {inLine flat : Bool} {rest : List Token} : (p : Plain) → p.Settled → (inLine = false → flat = true ∧ Stops rest) →
    ∀ fuel, 3 * (valueTokens inLine p).length + 2 ≤ fuel →
    node fuel true flat ⟨valueTokens inLine p ++ rest, e, hs, as⟩ = .ok (nodeOf p, ⟨rest, e, hs, as⟩)
  | .null, _, _, fuel + 1, _ => rfl
  | .truth b, _, _, fuel + 1, _ => by cases b <;> rfl
  | .whole n, _, _, fuel + 1, _ => by
    rw [valueTokens, nodeOf, List.singleton_append, node_scalar]
    rw [show scalarTag none true (ofInt n) = .known .whole from ofSpelling_whole n]
  | .real x, settled, _, fuel + 1, _ => by
    cases settled with
    | real finite => rw [valueTokens, nodeOf, List.singleton_append, node_scalar, scalarTag_real finite]
  | .text t, _, _, fuel + 1, _ => by
    rw [valueTokens, nodeOf, List.singleton_append, node_scalar, scalarTag_text]
  | .list [], _, _, fuel + 2, _ => node_emptySequence
  | .map [], _, _, fuel + 2, _ => node_emptyMapping
  | .list (item :: more), settled, room, fuel + 1, enough => by
    cases settled with
    | list settled =>
      cases inLine with
      | true =>
        rw [valueTokens] at enough ⊢
        simp only [List.isEmpty_cons, Bool.false_eq_true, if_false, if_true, List.length_cons, List.length_append] at enough
        have inner := @blockItems_items rest (item :: more) settled fuel (by omega)
        simpa [nodeOf] using node_blockSequence inner
      | false =>
        obtain ⟨rfl, stops⟩ := room rfl
        rw [valueTokens] at enough ⊢
        simp only [List.isEmpty_cons, Bool.false_eq_true, if_false] at enough
        have inner := plainItems_items stops (item :: more) settled fuel (by omega)
        rw [itemsTokens, List.cons_append, List.cons_append] at inner
        simpa [nodeOf, itemsTokens] using node_plainSequence inner
  | .map (entry :: more), settled, _, fuel + 1, enough => by
    cases settled with
    | map _ settled =>
      rw [valueTokens] at enough ⊢
      simp only [List.isEmpty_cons, Bool.false_eq_true, if_false, List.length_cons, List.length_append] at enough
      have inner := @blockFields_entries rest (entry :: more) settled fuel (by omega)
      simpa [nodeOf] using node_blockMapping inner

theorem blockItems_items {rest : List Token} : (is : List Plain) → (∀ p ∈ is, p.Settled) →
    ∀ fuel, 3 * (itemsTokens is).length + 1 ≤ fuel →
    blockItems fuel ⟨itemsTokens is ++ .blockEnd :: rest, e, hs, as⟩ = .ok (nodesOf is, ⟨rest, e, hs, as⟩)
  | [], _, fuel + 1, _ => rfl
  | item :: more, settled, fuel + 2, enough => by
    rw [List.forall_mem_cons] at settled
    simp only [itemsTokens, List.length_cons, List.length_append] at enough
    obtain ⟨t, ts, begins, -, ends⟩ := valueTokens_begin true item
    have here := @node_value true false (itemsTokens more ++ .blockEnd :: rest) item settled.1 nofun fuel (by omega)
    have later := @blockItems_items rest more settled.2 (fuel + 1) (by omega)
    rw [itemsTokens, nodesOf, List.cons_append, List.cons_append, List.append_assoc]
    exact blockItems_cons ((nodeUnless_of_begin begins (ends rfl).2).trans here) later

theorem plainItems_items {rest : List Token} (stops : Stops rest) : (is : List Plain) → (∀ p ∈ is, p.Settled) →
    ∀ fuel, 3 * (itemsTokens is).length + 1 ≤ fuel →
    plainItems fuel ⟨itemsTokens is ++ rest, e, hs, as⟩ = .ok (nodesOf is, ⟨rest, e, hs, as⟩)
  | [], _, fuel + 1, _ => by
    obtain ⟨t, ts, rfl, other⟩ := stops
    cases t <;> first
      | rfl
      | exact absurd rfl other
  | item :: more, settled, fuel + 2, enough => by
    rw [List.forall_mem_cons] at settled
    simp only [itemsTokens, List.length_cons, List.length_append] at enough
    obtain ⟨t, ts, begins, -, ends⟩ := valueTokens_begin true item
    have here := @node_value true false (itemsTokens more ++ rest) item settled.1 nofun fuel (by omega)
    have later := plainItems_items stops more settled.2 (fuel + 1) (by omega)
    rw [itemsTokens, nodesOf, List.cons_append, List.cons_append, List.append_assoc]
    exact plainItems_cons ((nodeUnless_of_begin begins (ends rfl).1).trans here) later

theorem blockFields_entries {rest : List Token} : (es : List (Text × Plain)) → (∀ e ∈ es, e.2.Settled) →
    ∀ fuel, 3 * (entriesTokens es).length + 1 ≤ fuel →
    blockFields fuel ⟨entriesTokens es ++ .blockEnd :: rest, e, hs, as⟩ = .ok (fieldsOf es, ⟨rest, e, hs, as⟩)
  | [], _, fuel + 1, _ => rfl
  | (key, v) :: more, settled, fuel + 3, enough => by
    rw [List.forall_mem_cons] at settled
    simp only [entriesTokens, List.length_cons, List.length_append] at enough
    obtain ⟨t, ts, begins, ends, -⟩ := valueTokens_begin (!isSimpleKey key) v
    have here := @node_value (!isSimpleKey key) true _ v settled.1 (fun _ => ⟨rfl, entriesTokens_stop more rest⟩) (fuel + 1)
      (by omega)
    have later := @blockFields_entries rest more settled.2 (fuel + 2) (by omega)
    rw [entriesTokens, fieldsOf, List.cons_append, List.cons_append, List.cons_append, List.cons_append,
      List.append_assoc]
    refine blockFields_cons ?_ ((nodeUnless_of_begin begins ends).trans here) later
    rw [← List.singleton_append, nodeUnless_of_begin rfl rfl, List.singleton_append, node_scalar, scalarTag_text,
      List.cons_append]

end

/-- A document is composed to the mapping of its entries. -/
theorem node_write {es : List (Text × Plain)} (filled : es ≠ []) (settled : ∀ e ∈ es, e.2.Settled)
    (readable : entriesReadable 0 es = true) :
    Node.ofChars (chars (write es)) = .ok (some (.mapping (.known .mapping) (fieldsOf es))) := by
  rw [Node.ofChars, tokens_write filled settled readable]
  have size : (entriesTokens es ++ [Token.blockEnd, .streamEnd]).length = (entriesTokens es).length + 2 := List.length_append
  refine document_of_node (node_blockMapping (blockFields_entries es settled _ ?_))
  rw [List.length_cons]
  change _ ≤ 4 * ((entriesTokens es ++ [Token.blockEnd, .streamEnd]).length + 1) + 7
  omega

end Writing

end TaskCatalog.Yaml
