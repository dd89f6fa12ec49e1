import TaskCatalog.Proofs.Outcome
import TaskCatalog.Scan.Scanner
import Mathlib.Data.List.Induction
import Mathlib.Data.List.Nodup

/-!
How a scan ends, told without its loop: which extractors are called, and what comes of them. The
merge runs between the calls, so whatever comes first in the order of registration decides.
-/

namespace TaskCatalog

open Text

def Parameter.Passes (p : Parameter) : Prop := p.expression.bind Expression.fault? = none

namespace Scan

def tagged (strategy : Text) (tasks : List Task) : List Found := tasks.map (⟨·, strategy⟩)

def goalNames (found : List Found) : List Text := found.map fun f => f.task.name.text

def parametersOf (tasks : List Task) : List (Task × Parameter) :=
  tasks.flatMap fun t => t.parameters.map (t, ·)

inductive Returned (sources : Sources) : List Extractor → List Found → Prop
  | nil : Returned sources [] []
  | cons {e es tasks found} : (e.extract sources).result = .ok tasks → Returned sources es found →
      Returned sources (e :: es) (tagged e.name tasks ++ found)

/-- A failure as it leaves the scan: an extraction that names no strategy gets the extractor's name. -/
inductive Credited (strategy : Text) : Failure → Failure → Prop
  | unnamed {fault source} :
      Credited strategy (.extraction ⟨fault, none, source⟩) (.extraction ⟨fault, some strategy, source⟩)
  | unchanged {f} : (∀ fault source, f ≠ .extraction ⟨fault, none, source⟩) → Credited strategy f f

/-- The ways a scan can end, each with the names of the extractors that are called and the result. -/
inductive Ends (sources : Sources) (es : List Extractor) :
    List Text → Except Failure (List Task) → Prop
  | returned {found} (returned : Returned sources es found) (distinct : (goalNames found).Nodup)
      (pass : ∀ x ∈ parametersOf (found.map (·.task)), x.2.Passes) :
      Ends sources es (es.map (·.name)) (.ok (found.map (·.task)))
  | raised {before e after found f g} (split : es = before ++ e :: after)
      (returned : Returned sources before found) (distinct : (goalNames found).Nodup)
      (raised : (e.extract sources).result = .error f) (credited : Credited e.name f g) :
      Ends sources es ((before ++ [e]).map (·.name)) (.error g)
  | conflict {before e after found earlier t later} {first : Found} (split : es = before ++ e :: after)
      (returned : Returned sources before found)
      (given : (e.extract sources).result = .ok (earlier ++ t :: later))
      (distinct : (goalNames (found ++ tagged e.name earlier)).Nodup)
      (occurs : first ∈ found ++ tagged e.name earlier) (same : first.task.name.text = t.name.text) :
      Ends sources es ((before ++ [e]).map (·.name))
        (.error (.mergeConflict t.name.text first.strategy e.name))
  | malformed {found earlier t p later text fault} (returned : Returned sources es found)
      (distinct : (goalNames found).Nodup)
      (split : parametersOf (found.map (·.task)) = earlier ++ (t, p) :: later)
      (pass : ∀ x ∈ earlier, x.2.Passes) (stated : p.expression = some text)
      (faulty : Expression.fault? text = some fault) :
      Ends sources es (es.map (·.name))
        (.error (.invalidDescriptor (.expression t.name.text p.name text fault)))

section Lists

variable {strategy : Text} {found more : List Found} {tasks earlier later : List Task} {t : Task}
  {first : Found}

@[simp] theorem tagged_nil : tagged strategy [] = [] := rfl

@[simp] theorem tagged_cons : tagged strategy (t :: tasks) = ⟨t, strategy⟩ :: tagged strategy tasks := rfl

@[simp] theorem map_task_tagged : (tagged strategy tasks).map (·.task) = tasks := by
  simp only [tagged, List.map_map, Function.comp_def, List.map_id']

@[simp] theorem goalNames_append : goalNames (found ++ more) = goalNames found ++ goalNames more :=
  List.map_append

theorem nodup_of_append (h : (goalNames (found ++ more)).Nodup) : (goalNames found).Nodup := by
  rw [goalNames_append] at h
  exact h.of_append_left

theorem eq_of_same_name (distinct : (goalNames found).Nodup) {f g : Found} (hf : f ∈ found)
    (hg : g ∈ found) (h : f.task.name.text = g.task.name.text) : f = g :=
  List.inj_on_of_nodup_map distinct hf hg h

end Lists

section Merge

variable {strategy : Text} {found : List Found} {tasks earlier later : List Task} {t : Task}
  {first : Found}

theorem find?_eq_none (h : t.name.text ∉ goalNames found) :
    (found.find? fun f => f.task.name.text == t.name.text) = none := by
  rw [List.find?_eq_none]
  intro f hf
  simp only [beq_iff_eq]
  intro he
  exact h (he ▸ List.mem_map_of_mem hf)

theorem find?_eq_some (distinct : (goalNames found).Nodup) (occurs : first ∈ found)
    (same : first.task.name.text = t.name.text) :
    (found.find? fun f => f.task.name.text == t.name.text) = some first := by
  obtain ⟨f, hf⟩ := Option.isSome_iff_exists.1
    (List.find?_isSome.2 ⟨first, occurs, beq_iff_eq.2 same⟩ :
      (found.find? fun f => f.task.name.text == t.name.text).isSome)
  have hname : f.task.name.text = t.name.text := by simpa using List.find?_some hf
  rw [hf, eq_of_same_name distinct (List.mem_of_find?_eq_some hf) occurs (hname.trans same.symm)]

theorem not_mem_of_nodup (h : (goalNames (found ++ tagged strategy (t :: tasks))).Nodup) :
    t.name.text ∉ goalNames found := by
  intro hm
  rw [goalNames_append] at h
  exact List.disjoint_of_nodup_append h hm (by simp [goalNames])

theorem merge_cons_of_fresh (h : t.name.text ∉ goalNames found) :
    merge strategy found (t :: tasks) = merge strategy (found ++ [⟨t, strategy⟩]) tasks := by
  rw [merge, find?_eq_none h]

theorem merge_append_of_nodup (h : (goalNames (found ++ tagged strategy earlier)).Nodup) :
    merge strategy found (earlier ++ tasks) = merge strategy (found ++ tagged strategy earlier) tasks := by
  induction earlier generalizing found with
  | nil => simp
  | cons t earlier ih =>
    rw [List.cons_append, merge_cons_of_fresh (not_mem_of_nodup h), ih (by simpa using h)]
    simp

theorem merge_of_nodup (h : (goalNames (found ++ tagged strategy tasks)).Nodup) :
    merge strategy found tasks = .ok (found ++ tagged strategy tasks) := by
  have hm : merge strategy found (tasks ++ []) = merge strategy (found ++ tagged strategy tasks) [] :=
    merge_append_of_nodup h
  simpa [merge] using hm

theorem merge_of_conflict (distinct : (goalNames (found ++ tagged strategy earlier)).Nodup)
    (occurs : first ∈ found ++ tagged strategy earlier) (same : first.task.name.text = t.name.text) :
    merge strategy found (earlier ++ t :: later)
      = .error (.mergeConflict t.name.text first.strategy strategy) := by
  rw [merge_append_of_nodup distinct, merge, find?_eq_some distinct occurs same]

theorem nodup_or_conflict (distinct : (goalNames found).Nodup) (strategy : Text) (tasks : List Task) :
    (goalNames (found ++ tagged strategy tasks)).Nodup ∨
      ∃ earlier t later first, tasks = earlier ++ t :: later ∧
        (goalNames (found ++ tagged strategy earlier)).Nodup ∧
        first ∈ found ++ tagged strategy earlier ∧ first.task.name.text = t.name.text := by
  induction tasks generalizing found with
  | nil => exact .inl (by simpa using distinct)
  | cons t tasks ih =>
    by_cases hm : t.name.text ∈ goalNames found
    · obtain ⟨first, hf, hn⟩ := List.mem_map.1 hm
      exact .inr ⟨[], t, tasks, first, rfl, by simpa using distinct, by simpa using hf, hn⟩
    · have hd : (goalNames (found ++ [⟨t, strategy⟩])).Nodup := by
        rw [goalNames_append]
        exact distinct.append (by simp [goalNames]) (by simpa [goalNames] using hm)
      rcases ih hd with h | ⟨earlier, u, later, first, rfl, hn, hf, hs⟩
      · exact .inl (by simpa using h)
      · exact .inr ⟨t :: earlier, u, later, first, rfl, by simpa using hn, by simpa using hf, hs⟩

end Merge

section Gather

variable {sources : Sources} {es before after rest : List Extractor} {e : Extractor}
  {found more : List Found} {tasks : List Task}

theorem credited_iff {strategy : Text} {f g : Failure} : Credited strategy f g ↔ credit strategy f = g := by
  constructor
  · intro h
    cases h with
    | unnamed => rfl
    | unchanged h =>
      cases f with
      | extraction x =>
        obtain ⟨fault, named, source⟩ := x
        cases named with
        | none => exact absurd rfl (h fault source)
        | some s => rfl
      | _ => rfl
  · rintro rfl
    cases f with
    | extraction x =>
      obtain ⟨fault, named, source⟩ := x
      cases named with
      | none => exact .unnamed
      | some s => exact .unchanged (by simp)
    | _ => exact .unchanged (by simp)

theorem result_apply (e : Extractor) (sources : Sources) :
    (apply e sources).result = (e.extract sources).result.mapError (credit e.name) := by
  unfold apply
  cases h : (e.extract sources).result with
  | ok tasks => simp [h, bind, Except.mapError]
  | error f => by_cases hx : isExtraction (credit e.name f) <;> simp [h, hx, bind, Except.mapError]

theorem result_apply_ok (h : (e.extract sources).result = .ok tasks) :
    (apply e sources).result = .ok tasks := by
  rw [result_apply, h]
  rfl

theorem result_gather_cons :
    (gather sources found (e :: es)).result =
      (apply e sources).result >>= fun tasks => merge e.name found tasks >>= fun found =>
        (gather sources found es).result := by
  simp [gather]

theorem Returned.snoc (h : Returned sources es found) (he : (e.extract sources).result = .ok tasks) :
    Returned sources (es ++ [e]) (found ++ tagged e.name tasks) := by
  induction h with
  | nil => simpa using Returned.cons he .nil
  | cons hx _ ih => simpa using Returned.cons hx ih

theorem result_gather_append (h : Returned sources before more)
    (distinct : (goalNames (found ++ more)).Nodup) :
    (gather sources found (before ++ rest)).result = (gather sources (found ++ more) rest).result := by
  induction h generalizing found with
  | nil => simp
  | @cons e es tasks more he _ ih =>
    rw [← List.append_assoc] at distinct
    rw [List.cons_append, result_gather_cons, result_apply_ok he]
    have hm := merge_of_nodup (nodup_of_append distinct)
    simp only [bind, Except.bind, hm]
    rw [ih distinct, List.append_assoc]

theorem called_append (h : Returned sources before more) (distinct : (goalNames (found ++ more)).Nodup) :
    called sources found (before ++ rest) = before.map (·.name) ++ called sources (found ++ more) rest := by
  induction h generalizing found with
  | nil => simp
  | @cons e es tasks more he _ ih =>
    rw [← List.append_assoc] at distinct
    have hm := merge_of_nodup (nodup_of_append distinct)
    simp only [List.cons_append, called, result_apply_ok he, hm, ih distinct, List.map_cons,
      List.append_assoc]

theorem result_gather (h : Returned sources es found) (distinct : (goalNames found).Nodup) :
    (gather sources [] es).result = .ok found := by
  have hg : (gather sources [] (es ++ [])).result = (gather sources ([] ++ found) []).result :=
    result_gather_append h distinct
  rw [List.append_nil] at hg
  exact hg

theorem called_of_returned (h : Returned sources es found) (distinct : (goalNames found).Nodup) :
    called sources [] es = es.map (·.name) := by
  have hc : called sources [] (es ++ []) = es.map (·.name) ++ called sources ([] ++ found) [] :=
    called_append h distinct
  simpa [called] using hc

end Gather

section Expressions

variable {tasks : List Task} {t : Task} {p : Parameter} {earlier later : List (Task × Parameter)}
  {text : Text} {fault : Expression.Fault}

def expressionFault? (x : Task × Parameter) : Option DescriptorFault :=
  x.2.expression.bind fun text =>
    (Expression.fault? text).map fun fault => .expression x.1.name.text x.2.name text fault

theorem expressionFault?_eq_none {x : Task × Parameter} : expressionFault? x = none ↔ x.2.Passes := by
  cases h : x.2.expression <;> simp [expressionFault?, Parameter.Passes, h]

theorem findSome?_flatMap {α β γ : Type} (f : α → List β) (g : β → Option γ) (as : List α) :
    (as.flatMap f).findSome? g = as.findSome? fun a => (f a).findSome? g := by
  induction as with
  | nil => rfl
  | cons a as ih =>
    rw [List.flatMap_cons, List.findSome?_append, ih, List.findSome?_cons]
    cases (f a).findSome? g <;> rfl

theorem badExpression?_eq (tasks : List Task) :
    badExpression? tasks = (parametersOf tasks).findSome? expressionFault? := by
  rw [parametersOf, findSome?_flatMap]
  simp only [List.findSome?_map]
  rfl

theorem validateExpressions_of_pass (pass : ∀ x ∈ parametersOf tasks, x.2.Passes) :
    validateExpressions tasks = .ok () := by
  have h : badExpression? tasks = none := by
    rw [badExpression?_eq, List.findSome?_eq_none_iff]
    exact fun x hx => expressionFault?_eq_none.2 (pass x hx)
  rw [validateExpressions, h]

theorem validateExpressions_of_fault (split : parametersOf tasks = earlier ++ (t, p) :: later)
    (pass : ∀ x ∈ earlier, x.2.Passes) (stated : p.expression = some text)
    (faulty : Expression.fault? text = some fault) :
    validateExpressions tasks
      = .error (.invalidDescriptor (.expression t.name.text p.name text fault)) := by
  have h : badExpression? tasks = some (.expression t.name.text p.name text fault) := by
    rw [badExpression?_eq, List.findSome?_eq_some_iff]
    exact ⟨earlier, (t, p), later, split, by simp [expressionFault?, stated, faulty],
      fun x hx => expressionFault?_eq_none.2 (pass x hx)⟩
  rw [validateExpressions, h]

theorem pass_or_fault (tasks : List Task) :
    (∀ x ∈ parametersOf tasks, x.2.Passes) ∨
      ∃ earlier t p later text fault, parametersOf tasks = earlier ++ (t, p) :: later ∧
        (∀ x ∈ earlier, x.2.Passes) ∧ p.expression = some text ∧
        Expression.fault? text = some fault := by
  cases h : (parametersOf tasks).findSome? expressionFault? with
  | none => exact .inl fun x hx => expressionFault?_eq_none.1 (List.findSome?_eq_none_iff.1 h x hx)
  | some d =>
    obtain ⟨earlier, ⟨t, p⟩, later, hs, hd, hp⟩ := List.findSome?_eq_some_iff.1 h
    obtain ⟨text, ht, hf⟩ := Option.bind_eq_some_iff.1 hd
    obtain ⟨fault, hf, -⟩ := Option.map_eq_some_iff.1 hf
    exact .inr ⟨earlier, t, p, later, text, fault, hs,
      fun x hx => expressionFault?_eq_none.1 (hp x hx), ht, hf⟩

end Expressions

section Ends

variable {sources : Sources} {es : List Extractor} {names : List Text}
  {result : Except Failure (List Task)}

theorem result_scan (es : List Extractor) (sources : Sources) :
    (scan es sources).result = (gather sources [] es).result >>= fun found =>
      validateExpressions (found.map (·.task)) >>= fun _ => .ok (found.map (·.task)) := by
  unfold scan
  rw [Logged.result_bind]
  congr 1
  funext found
  by_cases h : (found.map (·.task)).isEmpty
  · simp [h]
    rfl
  · simp [h]

theorem Ends.result_eq (h : Ends sources es names result) : (scan es sources).result = result := by
  rw [result_scan]
  cases h with
  | returned returned distinct pass =>
    rw [result_gather returned distinct]
    simp only [bind, Except.bind, validateExpressions_of_pass pass]
  | malformed returned distinct split pass stated faulty =>
    rw [result_gather returned distinct]
    simp only [bind, Except.bind, validateExpressions_of_fault split pass stated faulty]
  | raised split returned distinct raised credited =>
    subst split
    rw [result_gather_append returned (by simpa using distinct), result_gather_cons, result_apply, raised]
    simp only [bind, Except.bind, Except.mapError, credited_iff.1 credited]
  | conflict split returned given distinct occurs same =>
    subst split
    rw [result_gather_append returned (by simpa using nodup_of_append distinct), result_gather_cons,
      result_apply_ok given]
    simp only [bind, Except.bind, List.nil_append, merge_of_conflict distinct occurs same]

theorem Ends.called_eq (h : Ends sources es names result) : called sources [] es = names := by
  cases h with
  | returned returned distinct _ => exact called_of_returned returned distinct
  | malformed returned distinct _ _ _ _ => exact called_of_returned returned distinct
  | raised split returned distinct raised credited =>
    subst split
    rw [called_append returned (by simpa using distinct)]
    simp [called, result_apply, raised, Except.mapError]
  | conflict split returned given distinct occurs same =>
    subst split
    rw [called_append returned (by simpa using nodup_of_append distinct)]
    simp [called, result_apply_ok given, merge_of_conflict distinct occurs same]

def Unstopped (sources : Sources) (es : List Extractor) : Prop :=
  ∃ found, Returned sources es found ∧ (goalNames found).Nodup

theorem unstopped_or_ends (sources : Sources) (es after : List Extractor) :
    Unstopped sources es ∨ ∃ names f, Ends sources (es ++ after) names (.error f) := by
  induction es using List.reverseRecOn generalizing after with
  | nil => exact .inl ⟨[], .nil, by simp [goalNames]⟩
  | append_singleton es e ih =>
    rw [List.append_assoc]
    rcases ih ([e] ++ after) with ⟨found, returned, distinct⟩ | h
    · cases he : (e.extract sources).result with
      | error f => exact .inr ⟨_, _, .raised rfl returned distinct he (credited_iff.2 rfl)⟩
      | ok tasks =>
        rcases nodup_or_conflict distinct e.name tasks with hn | ⟨_, _, _, _, rfl, hn, occurs, same⟩
        · exact .inl ⟨_, returned.snoc he, hn⟩
        · exact .inr ⟨_, _, .conflict rfl returned he hn occurs same⟩
    · exact .inr h

theorem exists_ends (sources : Sources) (es : List Extractor) :
    ∃ names result, Ends sources es names result := by
  rcases unstopped_or_ends sources es [] with ⟨found, returned, distinct⟩ | ⟨names, f, h⟩
  · rcases pass_or_fault (found.map (·.task)) with pass | ⟨_, _, _, _, _, _, split, pass, stated, faulty⟩
    · exact ⟨_, _, .returned returned distinct pass⟩
    · exact ⟨_, _, .malformed returned distinct split pass stated faulty⟩
  · exact ⟨names, _, by simpa using h⟩

theorem ends_scan (sources : Sources) (es : List Extractor) :
    Ends sources es (called sources [] es) (scan es sources).result := by
  obtain ⟨names, result, h⟩ := exists_ends sources es
  rw [h.called_eq, h.result_eq]
  exact h

end Ends

/-- The result of a scan is the earliest event of the run over the active extractors, and no
extractor beyond it is called. -/
theorem scanner_ends_iff (s : Scanner) (sources : Sources) (names : List Text)
    (result : Except Failure (List Task)) :
    called sources [] s.activeExtractors = names ∧ (s.scan sources).result = result ↔
      Ends sources s.activeExtractors names result := by
  constructor
  · rintro ⟨rfl, rfl⟩
    exact ends_scan sources s.activeExtractors
  · intro h
    exact ⟨h.called_eq, h.result_eq⟩

end Scan

end TaskCatalog
