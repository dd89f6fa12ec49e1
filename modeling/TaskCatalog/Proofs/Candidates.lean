import TaskCatalog.Proofs.Outcome
import TaskCatalog.Sources.Decorated

/-!
The modules that source files are read as, and the classes and functions in them that are looked at for decorators, one
after the other.
-/

namespace TaskCatalog

open Text Outcome

theorem Module.read?_eq_some {s : Sources} {strategy mark : Text} {root file : Path} {m : Module} :
    read? s strategy mark root file = .ok (some m) ↔
      ∃ chars, Sources.readText s.fs s.conventions.sourceEncoding file = .ok chars ∧ includes mark (ofChars chars) = true ∧
        ∃ statements, Code.parse chars = .ok statements ∧ m = ⟨file, (moduleName? root file).getD [], statements⟩ := by
  unfold read?
  dsimp only
  constructor
  · intro read
    split at read
    · cases read
    · cases read
    · next chars text =>
      split at read
      · next marked =>
        split at read
        · next statements parsed =>
          cases read
          exact ⟨chars, text, marked, statements, parsed, rfl⟩
        · cases read
        · cases read
      · cases read
  · rintro ⟨chars, text, marked, statements, parsed, rfl⟩
    rw [text]
    dsimp only
    rw [if_pos marked, parsed]

theorem Module.read?_eq_none {s : Sources} {strategy mark : Text} {root file : Path} :
    read? s strategy mark root file = .ok none ↔
      ∃ chars, Sources.readText s.fs s.conventions.sourceEncoding file = .ok chars ∧
        includes mark (ofChars chars) = false := by
  unfold read?
  dsimp only
  constructor
  · intro read
    split at read
    · cases read
    · cases read
    · next chars text =>
      split at read
      · split at read <;> cases read
      · next unmarked => exact ⟨chars, text, Bool.eq_false_iff.2 unmarked⟩
  · rintro ⟨chars, text, unmarked⟩
    rw [text]
    dsimp only
    rw [unmarked]
    rfl

namespace Decorated

/-- The decorators of a definition that are read as its parameters. -/
def Definition.parameterCalls (d : Definition) (c : Conventions) : List Code.Expression :=
  if c.parameterDecorator = c.taskDecorator then [] else d.decoratedBy c.parameterDecorator

/-- What a definition comes to that has no fault. -/
inductive Comes (c : Conventions) (m : Module) (scope : List Text) (d : Definition) : Option Task → Prop
  | nothing (unmarked : d.decoratedBy c.taskDecorator = []) (bare : d.parameterCalls c = []) : Comes c m scope d none
  | task {e : Code.Expression} {os : Options} {annotations : Annotations} {ps : List Parameter} {rs : Requirements}
    {t : Task} (only : d.decoratedBy c.taskDecorator = [e])
    (given : options (Site.ofLine strategy m.file d.line) taskNames e = .ok os)
    (phase : checkPhase (Site.ofLine strategy m.file d.line) c (os.value "phase") = .ok ())
    (annotated : d.annotations = .ok annotations)
    (read : (d.parameterCalls c).mapM (parameter (Site.ofLine strategy m.file d.line) annotations) = .ok ps)
    (required : requirements (Site.ofLine strategy m.file d.line) os = .ok rs)
    (built : (Site.ofLine strategy m.file d.line).task
      (taskFields os d (m.name ++ ":" ++ join "." (scope ++ [d.name]))) ps rs = .ok t) : Comes c m scope d (some t)

theorem comes_of_task? {c : Conventions} {m : Module} {scope : List Text} {d : Definition} {o : Option Task}
    (h : task? c m scope d = .ok o) : Comes c m scope d o := by
  rw [task?, ← Definition.parameterCalls] at h
  dsimp only at h
  split at h
  · next unmarked =>
    split at h
    · next bare =>
      cases h
      exact .nothing unmarked (List.isEmpty_iff.1 bare)
    · cases h
  · next e only =>
    obtain ⟨os, given, h⟩ := bind_eq_ok.1 h
    obtain ⟨_, phase, h⟩ := bind_eq_ok.1 h
    obtain ⟨annotations, annotated, h⟩ := bind_eq_ok.1 h
    obtain ⟨ps, read, h⟩ := bind_eq_ok.1 h
    obtain ⟨rs, required, h⟩ := bind_eq_ok.1 h
    obtain ⟨t, built, h⟩ := bind_eq_ok.1 h
    cases h
    exact .task only given phase annotated read required built
  · cases h

theorem task?_of_comes {c : Conventions} {m : Module} {scope : List Text} {d : Definition} {o : Option Task}
    (h : Comes c m scope d o) : task? c m scope d = .ok o := by
  rw [task?, ← Definition.parameterCalls]
  cases h with
  | nothing unmarked bare =>
    rw [unmarked, bare]
    rfl
  | task only given phase annotated read required built =>
    rw [only]
    simp only [given, phase, annotated, read, required, built, bind, Except.bind]
    rfl

def memberHints (body : List Code.Statement) : List Code.Expression :=
  body.filterMap fun
    | .annotated _ (.name _) e => some e
    | _ => none

def parameterHints (signature : Code.Signature) : List Code.Expression := signature.binders.filterMap Code.Binder.hint

/-- A class or function, the names of the classes around it, and the annotations in it. -/
structure Candidate where
  scope : List Text
  definition : Definition
  hints : List Code.Expression

/-- The decorators of a candidate that say something about tasks. -/
def Candidate.marks (c : Conventions) (d : Candidate) : List Code.Expression :=
  d.definition.decoratedBy c.taskDecorator ++ d.definition.decoratedBy c.parameterDecorator

def classCandidate (scope : List Text) (line : Nat) (name : Text) (decorators : List Code.Expression)
    (body : List Code.Statement) : Candidate :=
  ⟨scope, ⟨line, name, decorators, memberAnnotations body, Module.documentation? body⟩, memberHints body⟩

def functionCandidate (scope : List Text) (line : Nat) (name : Text) (decorators : List Code.Expression)
    (signature : Code.Signature) (body : List Code.Statement) : Candidate :=
  ⟨scope, ⟨line, name, decorators, parameterAnnotations signature, Module.documentation? body⟩, parameterHints signature⟩

/-- The classes and functions among statements, and those of the classes; functions keep theirs to themselves. -/
def candidates (scope : List Text) : List Code.Statement → List Candidate
  | [] => []
  | .classDefinition line name decorators body :: rest =>
    classCandidate scope line name decorators body :: (candidates (scope ++ [name]) body ++ candidates scope rest)
  | .functionDefinition line name decorators signature body :: rest =>
    functionCandidate scope line name decorators signature body :: candidates scope rest
  | _ :: rest => candidates scope rest

/-- The candidates among statements with fewer than so many levels of classes. -/
def candidatesWithin : Nat → List Text → List Code.Statement → Option (List Candidate)
  | 0, _, _ => none
  | levels + 1, scope, statements =>
    Option.map List.flatten <| statements.mapM fun
      | .classDefinition line name decorators body =>
        (candidatesWithin levels (scope ++ [name]) body).map (classCandidate scope line name decorators body :: ·)
      | .functionDefinition line name decorators signature body =>
        some [functionCandidate scope line name decorators signature body]
      | _ => some []

theorem candidates_of_within {levels : Nat} {scope : List Text} {statements : List Code.Statement} {ds : List Candidate}
    (h : candidatesWithin levels scope statements = some ds) : candidates scope statements = ds := by
  induction levels generalizing scope statements ds with
  | zero => cases h
  | succ levels ih =>
    obtain ⟨parts, each, rfl⟩ := Option.map_eq_some_iff.1 h
    clear h
    induction statements generalizing parts with
    | nil =>
      cases each
      rw [candidates]
      rfl
    | cons s rest beside =>
      rw [List.mapM_cons] at each
      obtain ⟨part, here, each⟩ := Option.bind_eq_some_iff.1 each
      obtain ⟨more, later, same⟩ := Option.bind_eq_some_iff.1 each
      cases same
      cases s with
      | classDefinition line name decorators body =>
        obtain ⟨members, inside, rfl⟩ := Option.map_eq_some_iff.1 here
        rw [candidates, ih inside, beside more later]
        rfl
      | functionDefinition line name decorators signature body =>
        cases here
        rw [candidates, beside more later]
        rfl
      | _ =>
        cases here
        rw [candidates, beside more later]
        · rfl
        · exact nofun
        · exact nofun

section

variable {α ε : Type} {x : Except ε (Option α)} {y z : Except ε (List (Option α))}

theorem flatten_first : (x >>= fun t => y.map (·.flatMap Option.toList) >>= fun below => pure (t.toList ++ below)) =
    (x >>= fun t => y >>= fun below => pure (t :: below)).map (·.flatMap Option.toList) := by
  cases x <;> cases y <;> simp [bind, Except.bind, Except.map, pure, Except.pure]

theorem flatten_both : (x >>= fun t => y.map (·.flatMap Option.toList) >>= fun inner =>
      z.map (·.flatMap Option.toList) >>= fun beside => pure (t.toList ++ inner ++ beside)) =
    (x >>= fun t => (y >>= fun inner => z >>= fun beside => pure (inner ++ beside)) >>= fun below =>
      pure (t :: below)).map (·.flatMap Option.toList) := by
  cases x <;> cases y <;> cases z <;> simp [bind, Except.bind, Except.map, pure, Except.pure]

end

theorem tasksIn_eq (c : Conventions) (m : Module) (scope : List Text) (statements : List Code.Statement) :
    tasksIn c m scope statements =
      ((candidates scope statements).mapM fun d => task? c m d.scope d.definition).map (·.flatMap Option.toList) := by
  fun_induction tasksIn c m scope statements with
  | case1 scope =>
    rw [candidates]
    rfl
  | case2 scope line name decorators body rest inner more =>
    rw [candidates, List.mapM_cons, List.mapM_append, inner, more]
    exact flatten_both
  | case3 scope line name decorators signature body rest more =>
    rw [candidates, List.mapM_cons, more]
    exact flatten_first
  | case4 scope statement rest noClass noFunction more =>
    rw [more, candidates]
    · exact noClass
    · exact noFunction

/-- The tasks of a module with fewer than so many levels of classes. -/
def tasksWithin (levels : Nat) (c : Conventions) (m : Module) : Option (List Task) :=
  (candidatesWithin levels [] m.statements).bind fun ds =>
    ((ds.mapM fun d => task? c m d.scope d.definition).map (·.flatMap Option.toList)).toOption

theorem tasksIn_of_within {levels : Nat} {c : Conventions} {m : Module} {ts : List Task}
    (h : tasksWithin levels c m = some ts) : tasksIn c m [] m.statements = .ok ts := by
  obtain ⟨ds, found, made⟩ := Option.bind_eq_some_iff.1 h
  rw [tasksIn_eq, candidates_of_within found]
  exact toOption_eq_some.1 made

end Decorated

end TaskCatalog
