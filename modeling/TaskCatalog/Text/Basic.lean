/-!
Text as the list of its letters. A letter is a Unicode scalar value, or one half of a surrogate
pair that stands alone: declarations can spell such a half by an escape, and it then travels
through the catalog until something has to encode it.
-/

namespace TaskCatalog

inductive Letter where
  | scalar (c : Char)
  | half (n : Fin 2048)
  deriving DecidableEq, Repr, Inhabited

abbrev Text := List Letter

namespace Letter

def code : Letter → Nat
  | scalar c => c.toNat
  | half n => 0xD800 + n.val

/-- The letter with a given code; there is none from `0x110000` on. -/
def ofCode? (n : Nat) : Option Letter :=
  if h : n.isValidChar then some (.scalar (Char.ofNatAux n h))
  else if h : 0xD800 ≤ n ∧ n < 0xE000 then some (.half ⟨n - 0xD800, by omega⟩)
  else none

instance : LT Letter := ⟨fun a b => a.code < b.code⟩

instance (a b : Letter) : Decidable (a < b) := inferInstanceAs (Decidable (a.code < b.code))

def satisfies (p : Char → Bool) : Letter → Bool
  | scalar c => p c
  | half _ => false

def utf8Size : Letter → Nat
  | scalar c => c.utf8Size
  | half _ => 3

def isHalf : Letter → Bool
  | scalar _ => false
  | half _ => true

@[simp] theorem satisfies_scalar (p : Char → Bool) (c : Char) : (scalar c).satisfies p = p c := rfl

@[simp] theorem satisfies_half (p : Char → Bool) (n : Fin 2048) : (half n).satisfies p = false := rfl

end Letter

namespace Text

def ofChars (cs : List Char) : Text := cs.map .scalar

def ofString (s : String) : Text := ofChars s.toList

instance : Coe String Text := ⟨ofString⟩

/-- The character of a letter in a well-formed string; a lone half becomes the replacement character. -/
def toString (t : Text) : String :=
  String.ofList (t.map fun | .scalar c => c | .half _ => '\uFFFD')

def chars? : Text → Option (List Char)
  | [] => some []
  | .scalar c :: rest => (chars? rest).map (c :: ·)
  | .half _ :: _ => none

@[simp] theorem chars?_ofChars (cs : List Char) : chars? (ofChars cs) = some cs := by
  induction cs with
  | nil => rfl
  | cons c cs ih => simpa [ofChars, chars?] using ih

def ofNat (n : Nat) : Text := ofString (Nat.repr n)

def ofInt (n : Int) : Text := ofString (if n < 0 then "-" ++ Nat.repr n.natAbs else Nat.repr n.natAbs)

def utf8Size : Text → Nat
  | [] => 0
  | l :: t => l.utf8Size + utf8Size t

def join (separator : Text) : List Text → Text
  | [] => []
  | [t] => t
  | t :: ts => t ++ separator ++ join separator ts

@[simp] theorem join_nil (separator : Text) : join separator [] = [] := rfl

@[simp] theorem join_singleton (separator t : Text) : join separator [t] = t := rfl

def sort (ts : List Text) : List Text := ts.mergeSort fun a b => decide (a ≤ b)

def distinct (ts : List Text) : List Text := ts.eraseDups

def includes (part : Text) : Text → Bool
  | [] => part.isEmpty
  | l :: rest => part.isPrefixOf (l :: rest) || includes part rest

def splitOn (l : Letter) : Text → List Text
  | [] => [[]]
  | c :: rest =>
    if c = l then [] :: splitOn l rest
    else match splitOn l rest with
      | [] => [[c]]
      | piece :: pieces => (c :: piece) :: pieces

/-- Every occurrence of one letter replaced by a text. -/
def replace (l : Letter) (by' : Text) (t : Text) : Text := t.flatMap fun c => if c = l then by' else [c]

def padLeft (width : Nat) (t : Text) : Text := List.replicate (width - t.length) (.scalar ' ') ++ t

end Text

end TaskCatalog
