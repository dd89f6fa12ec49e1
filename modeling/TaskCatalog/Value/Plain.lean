import TaskCatalog.Number.Spelling
import TaskCatalog.Value.Print

/-!
Plain data, which a document can hold: nothing, truth values, numbers, texts, lists, and mappings
with text keys. Every configuration has at most one plain form; a few values have none.
-/

namespace TaskCatalog

open Text Number

inductive Plain where
  | null
  | truth (b : Bool)
  | whole (n : Int)
  | real (x : Float)
  | text (t : Text)
  | list (items : List Plain)
  | map (entries : List (Text × Plain))

/-- Why a value has no plain form. -/
inductive PlainFault where
  /-- Bytes that are no text; the first that does not fit, and where it stands. -/
  | undecodable (byte : UInt8) (position : Nat)
  | unsupported (v : Value)
  | unsupportedKey (v : Value)
  /-- A whole number of more digits than are spelled out. -/
  | tooLong

instance : Inhabited Plain := ⟨.null⟩

def PlainFault.message : PlainFault → Text
  | undecodable byte position =>
    "'utf-8' codec can't decode byte 0x" ++ ofChars (hex 2 byte.toNat) ++ " in position "
      ++ ofNat position ++ ": invalid utf-8"
  | unsupported v => "Unable to serialize unknown type: " ++ v.literal
  | unsupportedKey v => v.literal ++ " not valid as object key"
  | tooLong =>
    "Exceeds the limit (" ++ ofNat decimalLimit ++ " digits) for integer string conversion"

/-- A number in plain digits, however long, without a point when it is whole. -/
def plainDigits (x : Float) : Text :=
  match binary? x with
  | none => if x.isNaN then "NaN" else if x < 0 then "-inf" else "inf"
  | some b =>
    let magnitude : List Char :=
      if b.significand = 0 then ['0']
      else
        let d := shortest b
        let digits := decimalDigits d.digits
        if 0 ≤ d.exponent then digits ++ List.replicate d.exponent.toNat '0'
        else
          let places := (-d.exponent).toNat
          let padded := List.replicate (places + 1 - digits.length) '0' ++ digits
          padded.take (padded.length - places) ++ '.' :: padded.drop (padded.length - places)
    ofChars (if b.negative then '-' :: magnitude else magnitude)

def plainComplex (re im : Float) : Text :=
  let imaginary := plainDigits im ++ "j"
  if re == 0 then imaginary else plainDigits re ++ (if 0 ≤ im then "+" else "") ++ imaginary

def plainBytes (b : Bytes) : Except PlainFault Text :=
  match decodeUtf8 b with
  | .ok cs => .ok (ofChars cs)
  | .error u => .error (.undecodable u.byte u.first)

def Scalar.plain : Scalar → Except PlainFault Plain
  | null => .ok .null
  | truth b => .ok (.truth b)
  | whole n => .ok (.whole n)
  | real x => .ok (if x.isFinite then .real x else .null)
  | complex re im => .ok (.text (plainComplex re im))
  | text t => .ok (.text t)
  | bytes b => (plainBytes b).map .text
  | ellipsis => .error (.unsupported .ellipsis)
  | day d => .ok (.text d.text)
  | moment m => .ok (.text m.text)

def Scalar.keyText : Scalar → Except PlainFault Text
  | null => .ok "None"
  | truth b => .ok (if b then "true" else "false")
  | whole n => .ok (ofInt n)
  | real x => .ok (floatText .literal x)
  | complex re im => .ok (plainComplex re im)
  | text t => .ok t
  | bytes b => plainBytes b
  | ellipsis => .error (.unsupportedKey .ellipsis)
  | day d => .ok d.text
  | moment m => .ok m.text

/-- A mapping with a key set; a key that is there keeps its place. -/
def Plain.setEntry (key : Text) (value : Plain) : List (Text × Plain) → List (Text × Plain)
  | [] => [(key, value)]
  | (k, v) :: rest => if k = key then (k, value) :: rest else (k, v) :: setEntry key value rest

namespace Value

mutual

def keyText : Value → Except PlainFault Text
  | .scalar s => s.keyText
  | .tuple items => (keyTexts items).map (join ",")
  | v => .error (.unsupportedKey v)

def keyTexts : List Value → Except PlainFault (List Text)
  | [] => .ok []
  | v :: rest => do return (← keyText v) :: (← keyTexts rest)

end

mutual

/-- The plain form: tuples and sets become lists, other keys than texts their text. -/
def plain : Value → Except PlainFault Plain
  | .scalar s => s.plain
  | .tuple items | .list items | .set items => (plainItems items).map .list
  | .map entries => (plainEntries entries []).map .map
  | .again => .error (.unsupported .again)

def plainItems : List Value → Except PlainFault (List Plain)
  | [] => .ok []
  | v :: rest => do return (← plain v) :: (← plainItems rest)

/-- Adds the plain form of the entries to those that are done. -/
def plainEntries : List (Value × Value) → List (Text × Plain) → Except PlainFault (List (Text × Plain))
  | [], done => .ok done
  | (k, v) :: rest, done => do
    let key ← keyText k
    let value ← plain v
    plainEntries rest (Plain.setEntry key value done)

end

mutual

/-- A value that shares no list with its origin: lists have become tuples. -/
def freeze : Value → Value
  | .tuple items | .list items => .tuple (freezeItems items)
  | .map entries => .map (freezeEntries entries)
  | v => v

def freezeItems : List Value → List Value
  | [] => []
  | v :: rest => freeze v :: freezeItems rest

def freezeEntries : List (Value × Value) → List (Value × Value)
  | [] => []
  | (k, v) :: rest => (k, freeze v) :: freezeEntries rest

end

mutual

def thaw : Value → Value
  | .tuple items => .list (thawItems items)
  | .map entries => .map (thawEntries entries)
  | v => v

def thawItems : List Value → List Value
  | [] => []
  | v :: rest => thaw v :: thawItems rest

def thawEntries : List (Value × Value) → List (Value × Value)
  | [] => []
  | (k, v) :: rest => (k, thaw v) :: thawEntries rest

end

mutual

def isCyclic : Value → Bool
  | .scalar _ => false
  | .tuple items | .list items | .set items => areCyclic items
  | .map entries => entriesCyclic entries
  | .again => true

def areCyclic : List Value → Bool
  | [] => false
  | v :: rest => isCyclic v || areCyclic rest

def entriesCyclic : List (Value × Value) → Bool
  | [] => false
  | (_, v) :: rest => isCyclic v || entriesCyclic rest

end

end Value

namespace Plain

mutual

def toValue : Plain → Value
  | null => .null
  | truth b => .truth b
  | whole n => .whole n
  | real x => .real x
  | text t => .text t
  | list items => .list (itemsToValues items)
  | map entries => .map (entriesToValues entries)

def itemsToValues : List Plain → List Value
  | [] => []
  | p :: rest => toValue p :: itemsToValues rest

def entriesToValues : List (Text × Plain) → List (Value × Value)
  | [] => []
  | (k, p) :: rest => (.text k, toValue p) :: entriesToValues rest

end

end Plain

end TaskCatalog
