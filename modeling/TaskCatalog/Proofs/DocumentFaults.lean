import TaskCatalog.Proofs.TokenFaults
import TaskCatalog.Yaml.Reading

/-!
Why a document has no value: it is malformed, its tokens stop, or a scalar in it is none of its kind.
-/

namespace TaskCatalog.Yaml

open Text Outcome

namespace Composer

variable {α β : Type} {c : Composer} {e : Fault}

/-- The composer's own faults, and the one at which the tokens stop. -/
def IsOwn (e f : Fault) : Prop := f = .malformed ∨ f = e

/-- Nodes are composed with the fault of the tokens left as it is, and fail with no other. -/
abbrev Stays (e : Fault) (x : Except Fault (α × Composer)) : Prop := Ends (IsOwn e) (fun r => r.2.fault = e) x

theorem Stays.bind {x : Except Fault (α × Composer)} {f : α × Composer → Except Fault (β × Composer)}
    (h : Stays e x) (next : ∀ a c, c.fault = e → Stays e (f (a, c))) : Stays e (x >>= f) :=
  Ends.bind h fun r hr => next r.1 r.2 hr

theorem stays_ok {a : α} (h : c.fault = e) : Stays e (.ok (a, c)) := h

theorem stays_malformed : Stays e (.error .malformed : Except Fault (α × Composer)) := .inl rfl

theorem peek_bind {Q : α → Prop} {f : Token → Except Fault α} (h : c.fault = e)
    (next : ∀ t, Ends (IsOwn e) Q (f t)) : Ends (IsOwn e) Q (c.peek >>= f) := by
  unfold peek
  split
  · exact next _
  · exact .inr h

theorem fault_next (h : c.fault = e) : c.next.fault = e := h

theorem fault_bind (anchor : Option Text) (n : Option Node) (h : c.fault = e) : (c.bind anchor n).fault = e := by
  unfold Composer.bind
  split
  · exact h
  · exact h

theorem properties_bind {f : Option Text × Option (Option Text × Text) × Composer → Except Fault (β × Composer)}
    (h : c.fault = e) (next : ∀ anchor tag c, c.fault = e → Stays e (f (anchor, tag, c))) :
    Stays e (c.properties >>= f) := by
  unfold properties peek
  rcases c with ⟨tokens, fault, handles, anchors⟩
  rcases tokens with _ | ⟨t, _ | ⟨u, rest⟩⟩
  · exact .inr h
  · cases t <;> first
      | exact .inr h
      | exact next _ _ _ h
  · cases t <;> first
      | exact next _ _ _ h
      | cases u <;> exact next _ _ _ h

theorem expand_bind {tag : Option (Option Text × Text)} {f : Option Text → Except Fault (β × Composer)}
    (next : ∀ tag, Stays e (f tag)) : Stays e (c.expand tag >>= f) := by
  unfold expand
  split
  · exact next _
  · exact next _
  · split
    · exact next _
    · exact .inl rfl

theorem emptyNode_stays {anchor tag : Option Text} (h : c.fault = e) : Stays e (emptyNode anchor tag c) := by
  unfold emptyNode
  split
  · exact stays_ok h
  · exact stays_malformed

theorem separated_bind {first : Bool} {f : Composer → Except Fault (α × Composer)} (h : c.fault = e)
    (next : ∀ c, c.fault = e → Stays e (f c)) :
    Stays e (c.peek >>= fun t => if first then pure c >>= f else if t == .flowEntry then pure c.next >>= f
      else throw .malformed >>= f) :=
  peek_bind h fun _ => .ite (next c h) (.ite (next c.next h) stays_malformed)

/-- The rules for nodes, as far as they may still go down. -/
structure NodesStay (fuel : Nat) : Prop where
  node : ∀ {inBlock flat c e}, c.fault = e → Stays e (node fuel inBlock flat c)
  nodeUnless : ∀ {ends inBlock flat c e}, c.fault = e → Stays e (nodeUnless fuel ends inBlock flat c)
  blockItems : ∀ {c e}, c.fault = e → Stays e (blockItems fuel c)
  plainItems : ∀ {c e}, c.fault = e → Stays e (plainItems fuel c)
  blockFields : ∀ {c e}, c.fault = e → Stays e (blockFields fuel c)
  flowPair : ∀ {close c e}, c.fault = e → Stays e (flowPair fuel close c)
  flowItems : ∀ {first c e}, c.fault = e → Stays e (flowItems fuel first c)
  flowFields : ∀ {first c e}, c.fault = e → Stays e (flowFields fuel first c)

namespace NodesStay

variable {fuel : Nat} {close : Token} {first : Bool} (ih : NodesStay fuel)

include ih

theorem node_succ {inBlock flat : Bool} (h : c.fault = e) : Stays e (Composer.node (fuel + 1) inBlock flat c) := by
  rw [Composer.node]
  refine peek_bind h fun t => ?_
  split
  · split
    · exact stays_ok h
    · exact stays_ok h
    · exact stays_malformed
  · refine properties_bind h fun anchor property c h => expand_bind fun tag => peek_bind h fun first => ?_
    have inside : (c.next.bind anchor none).fault = e := fault_bind anchor none h
    have bound {x : Except Fault (Node × Composer)} (h : Stays e x) :
        Stays e (x >>= fun r => pure (r.1, r.2.bind anchor (some r.1))) := Ends.bind h fun _ h => fault_bind _ _ h
    have collected {α : Type} (make : α → Node) {x : Except Fault (α × Composer)} (h : Stays e x) :
        Stays e (x >>= fun r => pure (make r.1, r.2) >>= fun r => pure (r.1, r.2.bind anchor (some r.1))) :=
      Ends.bind h fun _ h => fault_bind _ _ h
    dsimp only
    split
    · exact stays_malformed
    · split
      · exact bound (stays_ok h)
      · exact collected (.sequence _) (ih.flowItems inside)
      · exact collected (.mapping _) (ih.flowFields inside)
      · exact .ite (collected (.sequence _) (ih.blockItems inside)) stays_malformed
      · exact .ite (collected (.mapping _) (ih.blockFields inside)) stays_malformed
      · exact .ite (collected (.sequence _) (ih.plainItems (fault_bind anchor none h))) (bound (emptyNode_stays h))
      · exact bound (emptyNode_stays h)

theorem nodeUnless_succ {ends : Token → Bool} {inBlock flat : Bool} (h : c.fault = e) :
    Stays e (Composer.nodeUnless (fuel + 1) ends inBlock flat c) := by
  rw [Composer.nodeUnless]
  exact peek_bind h fun t => .ite (stays_ok h) (ih.node h)

theorem blockItems_succ (h : c.fault = e) : Stays e (Composer.blockItems (fuel + 1) c) := by
  rw [Composer.blockItems]
  refine peek_bind h fun t => ?_
  split
  · refine (ih.nodeUnless (fault_next h)).bind fun item c h => ?_
    exact Ends.bind (ih.blockItems h) fun _ h => h
  · exact stays_ok h
  · exact stays_malformed

theorem plainItems_succ (h : c.fault = e) : Stays e (Composer.plainItems (fuel + 1) c) := by
  rw [Composer.plainItems]
  refine peek_bind h fun t => ?_
  split
  · refine (ih.nodeUnless (fault_next h)).bind fun item c h => ?_
    exact Ends.bind (ih.plainItems h) fun _ h => h
  · exact stays_ok h

theorem blockFields_succ (h : c.fault = e) : Stays e (Composer.blockFields (fuel + 1) c) := by
  rw [Composer.blockFields]
  refine peek_bind h fun t => ?_
  split
  · refine (ih.nodeUnless (fault_next h)).bind fun key c h => ?_
    refine peek_bind h fun t => ?_
    dsimp only
    split
    · refine (ih.nodeUnless (fault_next h)).bind fun value c h => ?_
      exact Ends.bind (ih.blockFields h) fun _ h => h
    · refine (stays_ok h).bind fun value c h => ?_
      exact Ends.bind (ih.blockFields h) fun _ h => h
  · exact stays_ok h
  · exact stays_malformed

theorem flowPair_succ (h : c.fault = e) : Stays e (Composer.flowPair (fuel + 1) close c) := by
  rw [Composer.flowPair]
  refine (ih.nodeUnless h).bind fun key c h => ?_
  refine peek_bind h fun t => ?_
  dsimp only
  split
  · exact Ends.bind (ih.nodeUnless (fault_next h)) fun _ h => h
  · exact stays_ok h

theorem flowItems_succ (h : c.fault = e) : Stays e (Composer.flowItems (fuel + 1) first c) := by
  rw [Composer.flowItems]
  refine peek_bind h fun t => ?_
  split
  · exact stays_ok h
  · refine separated_bind h fun c h => ?_
    refine peek_bind h fun t => ?_
    split
    · exact stays_ok h
    · refine (ih.flowPair (fault_next h)).bind fun pair c h => ?_
      exact Ends.bind (ih.flowItems h) fun _ h => h
    · refine (ih.node h).bind fun item c h => ?_
      exact Ends.bind (ih.flowItems h) fun _ h => h

theorem flowFields_succ (h : c.fault = e) : Stays e (Composer.flowFields (fuel + 1) first c) := by
  rw [Composer.flowFields]
  refine peek_bind h fun t => ?_
  split
  · exact stays_ok h
  · refine separated_bind h fun c h => ?_
    refine peek_bind h fun t => ?_
    split
    · exact stays_ok h
    · refine (ih.flowPair (fault_next h)).bind fun pair c h => ?_
      exact Ends.bind (ih.flowFields h) fun _ h => h
    · refine (ih.node h).bind fun key c h => ?_
      exact Ends.bind (ih.flowFields h) fun _ h => h

end NodesStay

theorem nodesStay (fuel : Nat) : NodesStay fuel := by
  induction fuel with
  | zero => constructor <;> intros <;> exact stays_malformed
  | succ fuel ih =>
    exact ⟨ih.node_succ, ih.nodeUnless_succ, ih.blockItems_succ, ih.plainItems_succ, ih.blockFields_succ,
      ih.flowPair_succ, ih.flowItems_succ, ih.flowFields_succ⟩

theorem directives_fails {seen : List (Text × Text)} {version : Bool} (ts : List Token) :
    Fails (fun f => f = .malformed) (directives seen version ts) := by
  induction ts generalizing seen version with
  | nil => trivial
  | cons t ts ih =>
    cases t <;> try trivial
    case version major => exact .ite rfl ih
    case tagHandle handle expansion => exact .ite rfl ih
    case directive => exact ih

theorem lastDirectives_fails (h : c.fault = e) (ts : List Token) : Fails (IsOwn e) (do
    match (← directives [] false ts).2 with
    | [] => .error c.fault
    | _ => .error .malformed : Except Fault Unit) := by
  refine ((directives_fails ts).weaken (fun _ => .inl)).bind fun _ _ => ?_
  split
  · exact .inr h
  · exact .inl rfl

theorem endOfStream_fails (h : c.fault = e) (ts : List Token) : Fails (IsOwn e) (endOfStream c ts) := by
  induction ts with
  | nil => exact lastDirectives_fails h []
  | cons t ts ih =>
    unfold endOfStream
    split
    · next same => exact (List.cons.inj same).2 ▸ ih
    · trivial
    · exact lastDirectives_fails h _

theorem ended_fails {x : Except Fault (Node × Composer)} (h : Stays e x) :
    Fails (IsOwn e) (x >>= fun r => endOfStream r.2 r.2.tokens >>= fun _ => pure (some r.1)) :=
  Ends.bind h fun _ h => (endOfStream_fails h _).bind fun _ _ => trivial

theorem opened_fails (c : Composer) : Fails (IsOwn c.fault) (do
    let (handles, rest) ← directives [] false c.tokens
    let d : Composer := { c with tokens := rest, handles := handles ++ defaultHandles }
    match ← d.peek with
    | .documentStart =>
      let (n, d) ← nodeUnless (4 * c.tokens.length + 8) isDocumentEdge true false d.next
      endOfStream d d.tokens
      return some n
    | _ => throw .malformed : Except Fault (Option Node)) := by
  refine ((directives_fails c.tokens).weaken (fun _ => .inl)).bind fun r _ => ?_
  refine peek_bind rfl fun t => ?_
  split
  · exact ended_fails ((nodesStay _).nodeUnless rfl)
  · exact .inl rfl

theorem document_fails : Fails (IsOwn c.fault) c.document := by
  unfold document
  refine peek_bind rfl fun t => ?_
  split
  · trivial
  · exact opened_fails c
  · exact opened_fails c
  · exact opened_fails c
  · exact opened_fails c
  · exact ended_fails ((nodesStay _).node rfl)

end Composer

theorem Node.ofChars_fails (text : List Char) :
    Fails (fun f => f = .malformed ∨ (Tokens.ofChars text).fault = some f) (Node.ofChars text) := by
  refine Composer.document_fails.weaken fun f own => ?_
  rcases own with rfl | rfl
  · exact .inl rfl
  · dsimp only
    cases (Tokens.ofChars text).fault with
    | none => exact .inl rfl
    | some f => exact .inr rfl

namespace Node

/-- A node inside another, or that node itself. -/
inductive Within : Node → Node → Prop
  | self (n : Node) : Within n n
  | item {n m : Node} {tag : Tag} {items : List Node} : m ∈ items → Within n m → Within n (.sequence tag items)
  | key {n k v : Node} {tag : Tag} {entries : List (Node × Node)} :
      (k, v) ∈ entries → Within n k → Within n (.mapping tag entries)
  | value {n k v : Node} {tag : Tag} {entries : List (Node × Node)} :
      (k, v) ∈ entries → Within n v → Within n (.mapping tag entries)

/-- A node whose text is none of its kind, and so cannot be made a value. -/
inductive Unmade (n : Node) (e : Fault) : Prop
  | of {kind : Kind} {text : Text} (tag : n.tag = .known kind) (scalar : n.scalarText = .ok text)
      (unread : scalarValue kind text = .error e) : Unmade n e

variable {n m : Node} {e : Fault}

theorem Within.trans {k : Node} (inner : k.Within m) (outer : m.Within n) : k.Within n := by
  induction outer with
  | self => exact inner
  | item member _ ih => exact .item member ih
  | key member _ ih => exact .key member ih
  | value member _ ih => exact .value member ih

/-- Values fail for their form, or for a node that cannot be made. -/
def MakeFault (n : Node) (e : Fault) : Prop := e = .malformed ∨ ∃ m : Node, m.Within n ∧ m.Unmade e

theorem MakeFault.within (inside : m.Within n) (h : m.MakeFault e) : n.MakeFault e := by
  rcases h with malformed | ⟨k, within, unmade⟩
  · exact .inl malformed
  · exact .inr ⟨k, within.trans inside, unmade⟩

mutual

theorem scalarText_fails : (n : Node) → Fails (fun f => f = .malformed) n.scalarText
  | .scalar .. => trivial
  | .sequence .. => rfl
  | .mapping _ entries => standInText_fails entries
  | .again => rfl

theorem standInText_fails : (entries : List (Node × Node)) → Fails (fun f => f = .malformed) (standInText entries)
  | [] => rfl
  | (k, v) :: rest => by
    unfold standInText
    exact .ite (scalarText_fails v) (standInText_fails rest)

end

/-- An entry of a mapping, with a key that may stand for plain text. -/
structure Offers (n : Node) (entry : Node × Node) : Prop where
  key : ∃ k : Node, k.Within n ∧ (entry.1 = k ∨ entry.1 = k.asText)
  value : entry.2.Within n

theorem offers_own {k v : Node} (inside : k.Within n ∧ v.Within n) :
    n.Offers (if k.tag = .known .value then k.asText else k, v) := by
  refine ⟨⟨k, inside.1, ?_⟩, inside.2⟩
  split
  · exact .inr rfl
  · exact .inl rfl

mutual

theorem flatten_ends : (entries : List (Node × Node)) → (∀ e ∈ entries, e.1.Within n ∧ e.2.Within n) →
    Ends (fun f => f = .malformed) (fun r => ∀ e ∈ r.1 ++ r.2, n.Offers e) (flatten entries)
  | [], _ => List.forall_mem_nil _
  | (k, v) :: rest, inside => by
    rw [List.forall_mem_cons] at inside
    rw [flatten]
    split
    · refine (mergedEntries_ends v inside.1.2).bind fun merged offered => ?_
      refine (flatten_ends rest inside.2).bind fun others offers => ?_
      show ∀ e ∈ (merged ++ others.1) ++ others.2, n.Offers e
      rw [List.append_assoc]
      exact List.forall_mem_append.2 ⟨offered, offers⟩
    · refine (flatten_ends rest inside.2).bind fun others offers => ?_
      rw [List.forall_mem_append] at offers
      exact List.forall_mem_append.2 ⟨offers.1, List.forall_mem_cons.2 ⟨offers_own inside.1, offers.2⟩⟩

theorem mergedEntries_ends : (m : Node) → m.Within n →
    Ends (fun f => f = .malformed) (fun es => ∀ e ∈ es, n.Offers e) (mergedEntries m)
  | .mapping _ entries, within =>
    (flatten_ends entries fun _ he => ⟨.trans (.key he (.self _)) within, .trans (.value he (.self _)) within⟩).map
      fun _ offers => offers
  | .sequence _ items, within => mergedItems_ends items fun _ hm => .trans (.item hm (.self _)) within
  | .again, _ => List.forall_mem_nil _
  | .scalar .., _ => rfl

theorem mergedItems_ends : (items : List Node) → (∀ m ∈ items, m.Within n) →
    Ends (fun f => f = .malformed) (fun es => ∀ e ∈ es, n.Offers e) (mergedItems items)
  | [], _ => List.forall_mem_nil _
  | .mapping _ entries :: rest, inside => by
    rw [List.forall_mem_cons] at inside
    rw [mergedItems]
    refine (flatten_ends entries fun e he => ?_).bind fun own offers => ?_
    · exact ⟨.trans (.key he (.self _)) inside.1, .trans (.value he (.self _)) inside.1⟩
    · refine (mergedItems_ends rest inside.2).bind fun others more => ?_
      show ∀ e ∈ others ++ own.1 ++ own.2, n.Offers e
      rw [List.append_assoc]
      exact List.forall_mem_append.2 ⟨more, offers⟩
  | .again :: rest, inside => mergedItems_ends rest (List.forall_mem_cons.1 inside).2
  | .scalar .. :: _, _ => rfl
  | .sequence .. :: _, _ => rfl

end

end Node

namespace Built

variable {α β : Type} {P : Fault → Prop}

/-- A value is built, or fails for a reason of a kind, at whatever level. -/
abbrev Breaks (P : Fault → Prop) (x : Built α) : Prop := Fails (fun e => P e.2) x

theorem now_breaks {x : Except Fault α} (h : Fails P x) : Breaks P (now x) := by
  cases x with
  | ok a => trivial
  | error e => exact h

theorem deeper_breaks {x : Built α} (h : Breaks P x) : Breaks P x.deeper := by
  cases x with
  | ok a => trivial
  | error e => exact h

theorem both_breaks {x : Built α} {y : Built β} (hx : Breaks P x) (hy : Breaks P y) : Breaks P (both x y) := by
  rcases x with ⟨m, e⟩ | a <;> rcases y with ⟨n, f⟩ | b
  · exact .ite hx hy
  · exact hx
  · exact hy
  · trivial

theorem all_breaks {xs : List (Built α)} (each : ∀ x ∈ xs, Breaks P x) : Breaks P (all xs) := by
  induction xs with
  | nil => trivial
  | cons x xs ih =>
    rw [List.forall_mem_cons] at each
    exact (both_breaks each.1 (ih each.2)).map fun _ h => h

end Built

namespace Node

variable {n : Node} {read : Node → Built Value}

theorem items_breaks (each : ∀ m, m.Within n → Built.Breaks n.MakeFault (read m)) :
    Built.Breaks n.MakeFault (items read n) := by
  cases n with
  | sequence tag is =>
    refine Built.all_breaks fun x hx => ?_
    obtain ⟨m, hm, rfl⟩ := List.mem_map.1 hx
    exact each m (.item hm (.self m))
  | _ => exact .inl rfl

theorem keyValue_breaks {k : Node} {P : Fault → Prop} (malformed : P .malformed) (h : Built.Breaks P (read k)) :
    Built.Breaks P (keyValue read k) := by
  unfold keyValue
  split
  · exact .ite trivial malformed
  · next failed => exact (failed ▸ h : Built.Breaks P (.error _ : Built Value))
  · exact malformed

theorem pair_ends : Ends (fun f => f = .malformed) (fun e => e.1.Within n ∧ e.2.Within n) n.pair := by
  unfold pair
  split
  · exact ⟨.key List.mem_cons_self (.self _), .value List.mem_cons_self (.self _)⟩
  · rfl

theorem pairValue_breaks (each : ∀ m, m.Within n → Built.Breaks n.MakeFault (read m)) :
    Built.Breaks n.MakeFault (pairValue read n) := by
  unfold pairValue
  split
  · next k v found =>
    obtain ⟨key, value⟩ := pair_ends.of_ok found
    exact (Built.both_breaks (each k key) (each v value)).map fun _ h => h
  · next e failed => exact .inl (pair_ends.of_error failed)

theorem mappingEntries_breaks (each : ∀ m, m.Within n → Built.Breaks n.MakeFault (read m))
    (texts : ∀ k : Node, Built.Breaks n.MakeFault (read k.asText)) :
    Built.Breaks n.MakeFault (mappingEntries read n) := by
  cases n with
  | mapping tag entries =>
    have flat := @flatten_ends (.mapping tag entries) entries fun _ he => ⟨.key he (.self _), .value he (.self _)⟩
    rw [mappingEntries]
    split
    · next failed => exact .inl (flat.of_error failed)
    · next merged own found =>
      refine Built.all_breaks fun x hx => ?_
      obtain ⟨⟨k, v⟩, he, rfl⟩ := List.mem_map.1 hx
      obtain ⟨⟨k', inside, same⟩, value⟩ := flat.of_ok found _ he
      have key : Built.Breaks (MakeFault (.mapping tag entries)) (read k) := by
        rcases same with rfl | rfl
        · exact each k inside
        · exact texts k'
      exact Built.both_breaks (keyValue_breaks (.inl rfl) key) (each v value)
  | _ => exact .inl rfl

theorem asText_breaks (fuel : Nat) (k : Node) : Built.Breaks (fun f => f = .malformed) (k.asText.value fuel) := by
  have read (m : Node) : Fails (fun f => f = .malformed) (m.scalarText.bind (scalarValue .text)) :=
    (scalarText_fails m).bind fun _ _ => trivial
  cases fuel with
  | zero => cases k <;> trivial
  | succ fuel =>
    cases k with
    | again => trivial
    | scalar tag t => exact Built.now_breaks (read (.scalar (.known .text) t))
    | sequence tag is => exact Built.now_breaks (read (.sequence (.known .text) is))
    | mapping tag es => exact Built.now_breaks (read (.mapping (.known .text) es))

theorem value_breaks (fuel : Nat) (n : Node) : Built.Breaks n.MakeFault (n.value fuel) := by
  -- what cannot be made of a part is a fault of the whole: `within` carries it up
  induction fuel generalizing n with
  | zero =>
    cases n with
    | again => trivial
    | _ => exact .inl rfl
  | succ fuel ih =>
    have each (n m : Node) (within : m.Within n) : Built.Breaks n.MakeFault (m.value fuel) :=
      (ih m).weaken fun _ fault => fault.within within
    have texts (k : Node) : Built.Breaks n.MakeFault (k.asText.value fuel) :=
      (asText_breaks fuel k).weaken fun _ => .inl
    have pairs (m : Node) (within : m.Within n) : Built.Breaks n.MakeFault (pairValue (value fuel) m) :=
      (pairValue_breaks (each m)).weaken fun _ fault => fault.within within
    have listed : Built.Breaks n.MakeFault ((items (value fuel) n).deeper.map Value.list) :=
      (Built.deeper_breaks (items_breaks (each n))).map fun _ h => h
    have paired : Built.Breaks n.MakeFault ((items (pairValue (value fuel)) n).deeper.map Value.list) :=
      (Built.deeper_breaks (items_breaks pairs)).map fun _ h => h
    have mapped (make : List (Value × Value) → Value) :
        Built.Breaks n.MakeFault ((mappingEntries (value fuel) n).deeper.map make) :=
      (Built.deeper_breaks (mappingEntries_breaks (each n) texts)).map fun _ h => h
    have scalar {k : Kind} (tag : n.tag = .known k) :
        Built.Breaks n.MakeFault (Built.now (n.scalarText.bind (scalarValue k))) := by
      refine Built.now_breaks (.of_all (fun _ _ => trivial) fun e failed => ?_)
      cases text : n.scalarText with
      | error f =>
        rw [text] at failed
        cases failed
        exact .inl ((scalarText_fails n).of_error text)
      | ok t =>
        rw [text] at failed
        exact .inr ⟨n, .self n, .of tag text failed⟩
    unfold value
    split
    · trivial
    · exact .inl rfl
    · next same _ =>
      cases same
      split
      · exact .inl rfl
      · exact listed
      · exact mapped _
      · exact mapped _
      · exact paired
      · exact paired
      · next tag => exact scalar tag

end Node

/-- Why a document cannot be read: its form, the fault at which its tokens stop, or a node that cannot be made. -/
inductive ReadFaults (text : List Char) : Fault → Prop
  | malformed : ReadFaults text .malformed
  | badCode {huge : Bool} : (Tokens.ofChars text).fault = some (.badCode huge) → ReadFaults text (.badCode huge)
  | unmade {root n : Node} {e : Fault} : Node.ofChars text = .ok (some root) → n.Within root → n.Unmade e → ReadFaults text e

theorem read_fails (text : List Char) : Fails (ReadFaults text) (read text) := by
  have nodes := Node.ofChars_fails text
  cases root : Node.ofChars text with
  | error f =>
    rw [read, root]
    rcases nodes.of_error root with rfl | stops
    · exact .malformed
    · cases Tokens.ofChars_fault text f stops with
      | malformed => exact .malformed
      | badCode huge => exact .badCode stops
  | ok found =>
    rw [read, root]
    cases found with
    | none => trivial
    | some n =>
      refine Ends.mapError ((Node.value_breaks n.height n).weaken (fun e fault => ?_))
      rcases fault with malformed | ⟨m, within, unmade⟩
      · rw [malformed]
        exact .malformed
      · exact .unmade root within unmade

end TaskCatalog.Yaml
