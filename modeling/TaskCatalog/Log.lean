import TaskCatalog.Failure

/-!
Log records, and work that writes some before it ends or fails.
-/

namespace TaskCatalog

open Text

inductive Level where
  | trace
  | debug
  | info
  | success
  | warning
  | error
  | critical
  deriving DecidableEq, Repr

namespace Level

def all : List Level := [trace, debug, info, success, warning, error, critical]

def rank : Level → Nat
  | trace => 5
  | debug => 10
  | info => 20
  | success => 25
  | warning => 30
  | error => 40
  | critical => 50

def name : Level → Text
  | trace => "TRACE"
  | debug => "DEBUG"
  | info => "INFO"
  | success => "SUCCESS"
  | warning => "WARNING"
  | error => "ERROR"
  | critical => "CRITICAL"

def ofName? (t : Text) : Option Level := all.find? fun l => l.name == t

theorem ofName?_name (l : Level) : ofName? l.name = some l := by cases l <;> decide

end Level

structure LogRecord where
  level : Level
  message : Text
  deriving DecidableEq, Repr

abbrev Log := List LogRecord

/-- Whether a sink that starts at a level keeps a record. -/
def LogRecord.isKept (threshold : Level) (r : LogRecord) : Bool := threshold.rank ≤ r.level.rank

def Log.kept (threshold : Level) (log : Log) : Log := log.filter (·.isKept threshold)

/-- What came of some work, and the records it wrote. -/
structure Logged (α : Type) where
  log : Log
  result : Except Failure α

namespace Logged

variable {α β : Type}

def pure (a : α) : Logged α := ⟨[], .ok a⟩

/-- Goes on with what came of the work, unless it failed. -/
def bind (x : Logged α) (f : α → Logged β) : Logged β :=
  match x.result with
  | .ok a => ⟨x.log ++ (f a).log, (f a).result⟩
  | .error e => ⟨x.log, .error e⟩

instance : Monad Logged where
  pure := Logged.pure
  bind := Logged.bind

def fail (e : Failure) : Logged α := ⟨[], .error e⟩

def ofExcept (r : Except Failure α) : Logged α := ⟨[], r⟩

def write (level : Level) (message : Text) : Logged Unit := ⟨[⟨level, message⟩], .ok ()⟩

/-- The results of works that are done one after the other, up to the first that fails. -/
def gather : List (Logged (List α)) → Logged (List α)
  | [] => pure []
  | x :: rest => x.bind fun found => (gather rest).bind fun more => pure (found ++ more)

@[simp] theorem bind_log_ok {x : Logged α} {a : α} (f : α → Logged β) (h : x.result = .ok a) :
    (x.bind f).log = x.log ++ (f a).log := by
  simp [bind, h]

@[simp] theorem bind_result_ok {x : Logged α} {a : α} (f : α → Logged β) (h : x.result = .ok a) :
    (x.bind f).result = (f a).result := by
  simp [bind, h]

@[simp] theorem bind_error {x : Logged α} {e : Failure} (f : α → Logged β) (h : x.result = .error e) :
    x.bind f = ⟨x.log, .error e⟩ := by
  simp [bind, h]

end Logged

end TaskCatalog
