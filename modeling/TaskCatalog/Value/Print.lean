import TaskCatalog.Value.Basic
import TaskCatalog.Number.FloatText
import TaskCatalog.Number.Spelling

/-!
The literal form of a value, as a declaration would spell it. A text by itself is shown as it is.
-/

namespace TaskCatalog

open Text Number

/-- The literal form of a complex number; a positive zero in front is left out. -/
def complexText (re im : Float) : Text :=
  if re == 0 && re.toBits == (0.0 : Float).toBits then floatText .bare im ++ "j"
  else
    let imaginary := floatText .bare im
    "(" ++ floatText .bare re
      ++ (if imaginary.head? = some (.scalar '-') then imaginary else .scalar '+' :: imaginary) ++ "j)"

def callText (name : Text) (parts : List Text) : Text :=
  "datetime." ++ name ++ "(" ++ join ", " parts ++ ")"

def Day.literal (d : Day) : Text := callText "date" [ofNat d.year, ofNat d.month, ofNat d.day]

/-- A distance as whole days and seconds, the seconds never negative. -/
def offsetLiteral (minutes : Int) : Text :=
  if minutes = 0 then "datetime.timezone.utc"
  else
    let days := minutes.fdiv 1440
    let seconds := minutes.fmod 1440 * 60
    let parts := (if days = 0 then [] else ["days=" ++ ofInt days])
      ++ (if seconds = 0 then [] else ["seconds=" ++ ofInt seconds])
    callText "timezone" [callText "timedelta" parts]

def Moment.literal (m : Moment) : Text :=
  let parts := [m.year, m.month, m.day, m.hour, m.minute]
    ++ (if m.second = 0 ∧ m.microsecond = 0 then [] else [m.second])
    ++ (if m.microsecond = 0 then [] else [m.microsecond])
  callText "datetime" (parts.map ofNat ++ match m.offset with
    | none => []
    | some o => ["tzinfo=" ++ offsetLiteral o])

def Scalar.literal : Scalar → Text
  | null => "None"
  | truth b => if b then "True" else "False"
  | whole n => ofInt n
  | real x => floatText .literal x
  | complex re im => complexText re im
  | text t => quoted t
  | bytes b => quotedBytes b
  | ellipsis => "Ellipsis"
  | day d => d.literal
  | moment m => m.literal

/-- Whether a constant is spelled out: a whole number only if it has few enough digits. -/
def Scalar.isSpelled : Scalar → Bool
  | whole n => (Nat.repr n.natAbs).length ≤ decimalLimit
  | _ => true

namespace Value

mutual

def literal : Value → Text
  | .scalar s => s.literal
  | .tuple items => "(" ++ join ", " (literals items) ++ (if items.length = 1 then ",)" else ")")
  | .list items => "[" ++ join ", " (literals items) ++ "]"
  | .set items => if items.isEmpty then "set()" else "\x7b" ++ join ", " (literals items) ++ "\x7d"
  | .map entries => "\x7b" ++ join ", " (entryLiterals entries) ++ "\x7d"
  | .again => "[...]"

def literals : List Value → List Text
  | [] => []
  | v :: rest => literal v :: literals rest

def entryLiterals : List (Value × Value) → List Text
  | [] => []
  | (k, v) :: rest => (literal k ++ ": " ++ literal v) :: entryLiterals rest

end

mutual

def isSpelled : Value → Bool
  | .scalar s => s.isSpelled
  | .tuple items | .list items | .set items => areSpelled items
  | .map entries => entriesSpelled entries
  | .again => true

def areSpelled : List Value → Bool
  | [] => true
  | v :: rest => isSpelled v && areSpelled rest

def entriesSpelled : List (Value × Value) → Bool
  | [] => true
  | (k, v) :: rest => isSpelled k && isSpelled v && entriesSpelled rest

end

def shown : Value → Text
  | .text t => t
  | v => v.literal

/-- A default value the way descriptors store it: truth values in lower case, null as nothing. -/
def storedText : Value → Option Text
  | .null => none
  | .truth b => some (if b then "true" else "false")
  | v => some v.shown

end Value

end TaskCatalog
