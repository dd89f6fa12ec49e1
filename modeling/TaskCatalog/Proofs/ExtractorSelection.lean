import TaskCatalog.Proofs.ScanHistory
import TaskCatalog.Proofs.TextLines
import TaskCatalog.Proofs.TextOrder

/-!
Selecting extractors by a text of names between commas. The text may go through the options of a run,
as a set that keeps no order, or piece by piece to the scanner; what is active afterwards is the same.
-/

namespace TaskCatalog

open Text

/-- The order in which a set gives back the names that were put into it. -/
structure SetOrder where
  order : List Text → List Text
  perm : ∀ names, (order names).Perm names

namespace Selection

/-- A piece of the text between commas is this name, but for blanks around it. -/
def Named (v t : Text) : Prop := t ≠ [] ∧ ∃ piece ∈ splitOn (.scalar ',') v, trim piece = t

instance (v t : Text) : Decidable (Named v t) :=
  inferInstanceAs (Decidable (t ≠ [] ∧ ∃ piece ∈ splitOn (.scalar ',') v, trim piece = t))

variable {ns ms : List Text} {v t : Text}

theorem mem_clean : t ∈ clean ns ↔ t ≠ [] ∧ ∃ n ∈ ns, trim n = t := by
  rw [clean, mem_distinct, List.mem_filter, List.mem_map, Bool.not_eq_true', List.isEmpty_eq_false_iff,
    and_comm]

theorem mem_ofList : t ∈ ofList v ↔ Named v t := mem_clean

/-- Names that were trimmed once stay what they are. -/
theorem mem_clean_again (permuted : ms.Perm (clean ns)) : t ∈ clean ms ↔ t ∈ clean ns := by
  have settled : ∀ n ∈ ms, trim n = n := by
    intro n hn
    obtain ⟨-, m, -, rfl⟩ := mem_clean.1 (permuted.mem_iff.1 hn)
    exact (trimmed_trim m).trim_eq
  rw [mem_clean, ← permuted.mem_iff]
  constructor
  · rintro ⟨-, n, hn, rfl⟩
    rwa [settled n hn]
  · intro ht
    exact ⟨(mem_clean.1 (permuted.mem_iff.1 ht)).1, t, ht, settled t ht⟩

theorem shownNames_set (names : List Text) : shownNames (.set (names.map .text)) = .ok (clean names) := by
  have shown : (names.map Value.text).map Value.shown = names := by
    rw [List.map_map]
    exact List.map_id names
  rw [shownNames, members?]
  exact congrArg (fun ns => Except.ok (clean ns)) shown

theorem names_of_texts (names : List Text) : Items.names ⟨names.map .text, none⟩ = .ok (clean names) := by
  have noneForeign : (names.map Value.text).any Items.isForeign = false := by
    rw [List.any_map, List.any_eq_false]
    exact fun _ _ => nofun
  have noBytes : (names.map Value.text).any Items.isByteName = false := by
    rw [List.any_map, List.any_eq_false]
    exact fun _ _ => nofun
  have texts : (names.map Value.text).filterMap Items.text? = names := by
    rw [List.filterMap_map]
    exact List.filterMap_some
  simp only [Items.names, noneForeign, noBytes, texts, Bool.false_eq_true, if_false]

end Selection

namespace Registry

variable {r : Registry} {ns ms : List Text} {v : Text}

/-- What selecting by a text comes to: an error that lists what is not registered, in order, or what
is registered under a name of the text, in the order of registration. -/
def Chosen (r : Registry) (v : Text) : Except Failure (List Extractor) → Prop
  | .error f => ∃ unknown, unknown ≠ [] ∧ unknown.Pairwise (· < ·) ∧
      (∀ t, t ∈ unknown ↔ Selection.Named v t ∧ t ∉ r.names) ∧
      f = .configuration (.unknownExtractors unknown r.names)
  | .ok active => (∀ t, Selection.Named v t → t ∈ r.names) ∧
      active = r.filter fun e => decide (Selection.Named v e.name)

/-- The names of a selection that are not registered, in order. -/
def unknown (r : Registry) (names : List Text) : List Text :=
  sort (distinct (names.filter fun n => !r.names.contains n))

@[simp] theorem unknown_nil (r : Registry) : r.unknown [] = [] := List.mergeSort_nil

theorem mem_unknown {t : Text} : t ∈ r.unknown ns ↔ t ∈ ns ∧ t ∉ r.names := by
  rw [unknown, mem_sort, mem_distinct, List.mem_filter, Bool.not_eq_true', List.contains_eq_mem,
    decide_eq_false_iff_not]

theorem unknown_congr (same : ∀ t, t ∈ ns ↔ t ∈ ms) : r.unknown ns = r.unknown ms := by
  refine eq_of_ascending (ascending_sort_distinct _) (ascending_sort_distinct _) fun t => ?_
  exact mem_unknown.trans ((and_congr_left' (same t)).trans mem_unknown.symm)

theorem select_some (r : Registry) (names : List Text) :
    r.select (some names) =
      if r.unknown names = [] then .ok (some names)
      else .error (.unknownExtractors (r.unknown names) r.names) := by
  rw [select, ← unknown]
  cases r.unknown names <;> rfl

theorem active_congr (same : ∀ t, t ∈ ns ↔ t ∈ ms) : r.active (some ns) = r.active (some ms) := by
  refine List.filter_congr fun e _ => ?_
  rw [List.contains_eq_mem, List.contains_eq_mem]
  exact decide_eq_decide.2 (same e.name)

end Registry

namespace Scanner

open Selection (Named ofList clean)

variable {s : Scanner} {ns ms : List Text} {v w : Text}

/-- The options that a command line states: a set of the names that its text lists, or none. -/
def stated (o : SetOrder) (goalPrefix v : Option Text) : Record :=
  .ofPairs [("goal_prefix", (goalPrefix.map Value.text).getD .null),
    ("active_extractors", (v.map fun v => Value.set ((o.order (ofList v)).map .text)).getD .null)]

/-- The selection of a command line. It becomes part of the options of a run, which clean it again. -/
def selectOption (s : Scanner) (o o' : SetOrder) (goalPrefix v : Option Text) : Except Failure Scanner :=
  match RunOptions.ofRecord (stated o goalPrefix v) with
  | .error b => .error (.breakdown b)
  | .ok (.error problems) => .error (.invalid problems)
  | .ok (.ok options) =>
    s.selectItems (options.extractors.map fun names => .ofValue (.set ((o'.order names).map .text)))

/-- The selection by the pieces of a text themselves. -/
def selectPieces (s : Scanner) (v : Option Text) : Except Failure Scanner :=
  s.selectValue ((v.map fun v => Value.list ((splitOn (.scalar ',') v).map .text)).getD .null)

theorem ofRecord_stated (o : SetOrder) (goalPrefix v : Option Text) :
    RunOptions.ofRecord (stated o goalPrefix v) =
      .ok (.ok ⟨goalPrefix, v.map fun v => clean (o.order (ofList v))⟩) := by
  cases v with
  | none => cases goalPrefix <;> rfl
  | some v =>
    have extractors : RunOptions.checkExtractors (.set ((o.order (ofList v)).map .text)) =
        .ok (.ok (some (clean (o.order (ofList v))))) := by
      rw [RunOptions.checkExtractors, Selection.shownNames_set]
      · rfl
      · nofun
      · nofun
    have found : (stated o goalPrefix (some v)).get? "active_extractors" =
        some (.set ((o.order (ofList v)).map .text)) := by
      cases goalPrefix <;> rfl
    rw [RunOptions.ofRecord, found, Option.getD_some, extractors]
    cases goalPrefix <;> rfl

theorem selectItems_texts (s : Scanner) (names : List Text) :
    s.selectItems (some ⟨names.map .text, none⟩) = s.select (some (clean names)) := by
  rw [selectItems, Selection.names_of_texts]
  rfl

theorem active_select (s : Scanner) (names : List Text) :
    (s.select (some names)).map activeExtractors =
      if s.registry.unknown names = [] then .ok (s.registry.active (some names))
      else .error (.configuration (.unknownExtractors (s.registry.unknown names) s.registry.names)) := by
  rw [select, Registry.select_some]
  split <;> rfl

theorem active_select_congr (same : ∀ t, t ∈ ns ↔ t ∈ ms) :
    (s.select (some ns)).map activeExtractors = (s.select (some ms)).map activeExtractors := by
  rw [active_select, active_select, Registry.unknown_congr same, Registry.active_congr same]

/-- Through the options of a run the selection is that of the listed names: the set is cleaned once
more on its way, and comes in another order, and neither changes which names are in it. -/
theorem active_selectOption (s : Scanner) (o o' : SetOrder) (goalPrefix v : Option Text) :
    (s.selectOption o o' goalPrefix v).map activeExtractors =
      (s.select (v.map ofList)).map activeExtractors := by
  rw [selectOption, ofRecord_stated]
  cases v with
  | none => rfl
  | some v =>
    refine (congrArg (Except.map activeExtractors) (s.selectItems_texts _)).trans ?_
    refine active_select_congr fun t => ?_
    calc t ∈ clean (o'.order (clean (o.order (ofList v))))
        ↔ t ∈ clean (o.order (ofList v)) := Selection.mem_clean_again (o'.perm _)
      _ ↔ t ∈ ofList v := Selection.mem_clean_again (o.perm _)

theorem selectPieces_eq (s : Scanner) (v : Option Text) : s.selectPieces v = s.select (v.map ofList) := by
  cases v with
  | none => rfl
  | some v => exact s.selectItems_texts _

theorem chosen_selectPieces (s : Scanner) (v : Text) :
    s.registry.Chosen v ((s.selectPieces (some v)).map activeExtractors) := by
  rw [selectPieces_eq, Option.map_some, active_select]
  split
  · rename_i known
    refine ⟨fun t ht => ?_, List.filter_congr fun e _ => ?_⟩
    · by_contra unregistered
      have member := Registry.mem_unknown.2 ⟨Selection.mem_ofList.2 ht, unregistered⟩
      rw [known] at member
      exact List.not_mem_nil member
    · rw [List.contains_eq_mem]
      exact decide_eq_decide.2 Selection.mem_ofList
  · rename_i unknown
    refine ⟨_, unknown, ascending_sort_distinct _, fun t => ?_, rfl⟩
    exact Registry.mem_unknown.trans (and_congr_left' Selection.mem_ofList)

/-- Both ways of selecting by a text come to the same, whatever the orders of the sets on the way: they
fail alike where a piece names nothing registered, and otherwise the registered names among the pieces
are active. Only the names count; blank pieces alone select nothing, and no text at all everything. -/
theorem selections_agree (s : Scanner) (o o' : SetOrder) (goalPrefix : Option Text) :
    (∀ v, (s.selectOption o o' goalPrefix v).map activeExtractors =
      (s.selectPieces v).map activeExtractors) ∧
    (∀ v, s.registry.Chosen v ((s.selectPieces (some v)).map activeExtractors)) ∧
    (∀ v w, (∀ t, Named v t ↔ Named w t) → (s.selectPieces (some v)).map activeExtractors =
      (s.selectPieces (some w)).map activeExtractors) ∧
    (∀ v, (∀ piece ∈ splitOn (.scalar ',') v, isAllBlank piece) →
      (s.selectPieces (some v)).map activeExtractors = .ok []) ∧
    (s.selectPieces none).map activeExtractors = .ok s.registry := by
  refine ⟨fun v => ?_, s.chosen_selectPieces, fun v w same => ?_, fun v blank => ?_, rfl⟩
  · rw [active_selectOption, selectPieces_eq]
  · rw [selectPieces_eq, selectPieces_eq]
    refine active_select_congr fun t => ?_
    rw [Selection.mem_ofList, Selection.mem_ofList, same]
  · have nameless : ofList v = [] := by
      refine List.eq_nil_iff_forall_not_mem.2 fun t ht => ?_
      obtain ⟨stated, piece, hp, rfl⟩ := Selection.mem_ofList.1 ht
      exact stated ((trim_eq_nil_iff piece).2 (blank piece hp))
    rw [selectPieces_eq, Option.map_some, nameless, active_select,
      if_pos s.registry.unknown_nil]
    exact congrArg Except.ok (List.filter_eq_nil_iff.2 fun _ _ => nofun)

end Scanner

namespace TwoExtractors

/-- Two extractors that find nothing, both selected. -/
def scanner : Scanner := ⟨[⟨"decorator", fun _ => .pure []⟩, ⟨"script", fun _ => .pure []⟩], none⟩

def backwards : SetOrder := ⟨List.reverse, List.reverse_perm⟩

theorem selected_alike :
    (scanner.selectOption backwards backwards none (some "script, ,decorator")).map Scanner.activeExtractors =
      (scanner.selectPieces (some "decorator ,script")).map Scanner.activeExtractors ∧
    (scanner.selectPieces (some " ,")).map Scanner.activeExtractors = .ok [] := by
  have agree := Scanner.selections_agree scanner backwards backwards none
  have same (t : Text) : Selection.Named "script, ,decorator" t ↔ Selection.Named "decorator ,script" t := by
    have first : Selection.ofList "script, ,decorator" = ["script", "decorator"] := by decide
    have second : Selection.ofList "decorator ,script" = ["decorator", "script"] := by decide
    rw [← Selection.mem_ofList, ← Selection.mem_ofList, first, second]
    exact (List.Perm.swap _ _ []).mem_iff
  exact ⟨(agree.1 _).trans (agree.2.2.1 _ _ same), agree.2.2.2.1 _ (by decide)⟩

end TwoExtractors

end TaskCatalog
