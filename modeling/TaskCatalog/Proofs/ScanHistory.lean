import TaskCatalog.Proofs.Outcome
import TaskCatalog.Scan.Scanner
import Mathlib.Data.List.Induction

/-!
One scanner and one builder over any steps: what they hold can be told from the steps alone, and a
step that fails changes neither.
-/

namespace TaskCatalog

open Text

/-- What an extractor does at one call, by the name under which it is registered. -/
abbrev Behaviour := Text → Sources → Logged (List Task)

namespace Registry

def behaving (r : Registry) (now : Behaviour) : Registry := r.map fun e => ⟨e.name, now e.name⟩

def stated (r : Registry) : Option Selection.Items → Except Failure Selection
  | none => .ok none
  | some x => x.names >>= fun names => (r.select (some names)).mapError .configuration

end Registry

structure Bench where
  scanner : Scanner
  builder : Builder

namespace Bench

/-- A step on the two; at each scan the extractors behave as they do then. -/
inductive Step where
  | select (x : Option Selection.Items)
  | scan (now : Behaviour) (sources : Sources)
  | populate (now : Behaviour) (sources : Sources)

def scannerNow (w : Bench) (now : Behaviour) : Scanner :=
  { w.scanner with registry := w.scanner.registry.behaving now }

def step (w : Bench) : Step → Bench × Option Failure
  | .select x =>
    match w.scanner.selectItems x with
    | .ok scanner => ({ w with scanner }, none)
    | .error f => (w, some f)
  | .scan now sources =>
    match ((w.scannerNow now).scan sources).result with
    | .ok _ => (w, none)
    | .error f => (w, some f)
  | .populate now sources =>
    match ((w.scannerNow now).populate sources w.builder).result with
    | .ok builder => ({ w with builder }, none)
    | .error f => (w, some f)

def run (w : Bench) (steps : List Step) : Bench := steps.foldl (fun w s => (w.step s).1) w

def selected? (r : Registry) : Step → Option Selection
  | .select x => (r.stated x).toOption
  | _ => none

/-- The last selection that succeeded; without one, everything is selected. -/
def lastSelection (r : Registry) (steps : List Step) : Selection :=
  (steps.reverse.findSome? (selected? r)).getD none

def added? (r : Registry) (selection : Selection) : Step → Option (List Task)
  | .populate now sources => ((Scanner.mk (r.behaving now) selection).scan sources).result.toOption
  | _ => none

/-- The lists that were added, in the order of the steps, each found under the selection of its time. -/
def produced (r : Registry) (steps : List Step) : List (List Task) :=
  (List.range steps.length).filterMap fun n =>
    steps[n]?.bind (added? r (lastSelection r (steps.take n)))

variable {r : Registry} {selection : Selection} {w : Bench} {s : Step} {steps : List Step}
  {f : Failure}

theorem selectItems_eq (r : Registry) (selection : Selection) (x : Option Selection.Items) :
    (Scanner.mk r selection).selectItems x = (r.stated x).map (Scanner.mk r) := by
  cases x with
  | none => rfl
  | some x =>
    rw [Scanner.selectItems, Registry.stated]
    cases x.names with
    | error f => rfl
    | ok names => rfl

theorem result_populate (s : Scanner) (sources : Sources) (b : Builder) :
    (s.populate sources b).result = (s.scan sources).result.map b.addTasks := by
  rw [Scanner.populate, Logged.result_bind]
  cases (s.scan sources).result <;> rfl

theorem step_of_failure (h : (w.step s).2 = some f) : (w.step s).1 = w := by
  cases s with
  | select x =>
    simp only [step] at h ⊢
    split at h
    · simp at h
    · rfl
  | scan now sources =>
    simp only [step] at h ⊢
    split at h
    · simp at h
    · rfl
  | populate now sources =>
    simp only [step] at h ⊢
    split at h
    · simp at h
    · rfl

theorem step_eq (r : Registry) (selection : Selection) (b : Builder) (s : Step) :
    (step ⟨⟨r, selection⟩, b⟩ s).1 =
      ⟨⟨r, (selected? r s).getD selection⟩, b.addTasks ((added? r selection s).getD [])⟩ := by
  cases s with
  | select x =>
    simp only [step, selectItems_eq, selected?, added?]
    cases r.stated x <;> simp [Except.map, Except.toOption, Builder.addTasks]
  | scan now sources =>
    simp only [step, selected?, added?]
    split <;> simp [Builder.addTasks]
  | populate now sources =>
    simp only [step, scannerNow, result_populate, selected?, added?]
    cases (Scanner.scan ⟨r.behaving now, selection⟩ sources).result <;>
      simp [Except.map, Except.toOption, Builder.addTasks]

theorem lastSelection_snoc (r : Registry) (steps : List Step) (s : Step) :
    lastSelection r (steps ++ [s]) = (selected? r s).getD (lastSelection r steps) := by
  rw [lastSelection, List.reverse_append, List.reverse_singleton, List.singleton_append,
    List.findSome?_cons]
  cases selected? r s <;> rfl

theorem produced_snoc (r : Registry) (steps : List Step) (s : Step) :
    produced r (steps ++ [s]) = produced r steps ++ (added? r (lastSelection r steps) s).toList := by
  rw [produced, List.length_append, List.length_singleton, List.range_succ, List.filterMap_append]
  congr 1
  · apply List.filterMap_congr
    intro n hn
    have hlt := List.mem_range.1 hn
    rw [List.getElem?_append_left hlt, List.take_append_of_le_length (Nat.le_of_lt hlt)]
  · cases h : added? r (lastSelection r steps) s <;> simp [h]

theorem run_eq (r : Registry) (b : Builder) (steps : List Step) :
    run ⟨⟨r, none⟩, b⟩ steps = ⟨⟨r, lastSelection r steps⟩, b.addTasks (produced r steps).flatten⟩ := by
  -- from the back: what a step adds depends on the selection of the steps before it
  induction steps using List.reverseRecOn with
  | nil => simp [run, lastSelection, produced, Builder.addTasks]
  | append_singleton steps s ih =>
    rw [run, List.foldl_append]
    change (step (run ⟨⟨r, none⟩, b⟩ steps) s).1 = _
    rw [ih, step_eq, lastSelection_snoc, produced_snoc, List.flatten_append]
    cases added? r (lastSelection r steps) s <;> simp [Builder.addTasks]

/-- After any steps the builder holds, beside what it held, the lists of the populating steps that
succeeded; the selection is the last that succeeded; and a further step that fails changes nothing. -/
theorem run_history (r : Registry) (b : Builder) (steps : List Step) :
    (run ⟨⟨r, none⟩, b⟩ steps).scanner = ⟨r, lastSelection r steps⟩ ∧
    (run ⟨⟨r, none⟩, b⟩ steps).builder =
      { b with tasks := b.tasks ++ (produced r steps).flatten } ∧
    ∀ s f, (step (run ⟨⟨r, none⟩, b⟩ steps) s).2 = some f →
      run ⟨⟨r, none⟩, b⟩ (steps ++ [s]) = run ⟨⟨r, none⟩, b⟩ steps := by
  refine ⟨by rw [run_eq], by rw [run_eq, Builder.addTasks], ?_⟩
  intro s f h
  rw [run, List.foldl_append]
  exact step_of_failure h

end Bench

end TaskCatalog
