import TaskCatalog.Text.CompatibilityTable

/-!
The composed compatibility form of an identifier: two spellings of a name that differ only in how
its characters are put together, or in their width or style, become one name.
-/

namespace TaskCatalog.Text

def isHangulSyllable (n : Nat) : Bool := 0xAC00 ≤ n && n ≤ 0xD7A3

def decompose (n : Nat) : List Nat :=
  if n < 128 then [n]
  else if isHangulSyllable n then
    let index := n - 0xAC00
    let final := index % 28
    [0x1100 + index / 588, 0x1161 + index % 588 / 28] ++ if final = 0 then [] else [0x11A7 + final]
  else (CodeMapping.lookup? decompositions n).getD [n]

def combiningClass (n : Nat) : Nat :=
  if n < 128 then 0
  else match combiningClasses.find? (·.covers n) with
    | some m => m.images.headD 0
    | none => 0

/-- Puts a mark behind the last code whose class does not exceed its own; the list is reversed. -/
def insertMark (n : Nat) : List Nat → List Nat
  | [] => [n]
  | p :: before =>
    if combiningClass n < combiningClass p then p :: insertMark n before else n :: p :: before

/-- Marks in the order of their classes after each starter. -/
def orderMarks (codes : List Nat) : List Nat :=
  (codes.foldl (fun done n => if combiningClass n = 0 then n :: done else insertMark n done) []).reverse

def composePair? (a b : Nat) : Option Nat :=
  if 0x1100 ≤ a && a < 0x1113 && 0x1161 ≤ b && b < 0x1176 then
    some (0xAC00 + ((a - 0x1100) * 21 + (b - 0x1161)) * 28)
  else if isHangulSyllable a && (a - 0xAC00) % 28 == 0 && 0x11A8 ≤ b && b < 0x11C3 then
    some (a + (b - 0x11A7))
  else (compositions.find? (·.images == [a, b])).map (·.first)

/-- Composes on, with a starter and the marks after it that it did not take in, in reverse. -/
def composeFrom (starter : Nat) (marks : List Nat) : List Nat → List Nat
  | [] => starter :: marks.reverse
  | n :: rest =>
    let open_ := match marks with
      | [] => true
      | m :: _ => combiningClass m < combiningClass n
    match if open_ then composePair? starter n else none with
    | some composite => composeFrom composite marks rest
    | none =>
      if combiningClass n = 0 then starter :: marks.reverse ++ composeFrom n [] rest
      else composeFrom starter (n :: marks) rest

def compose : List Nat → List Nat
  | [] => []
  | n :: rest => composeFrom n [] rest

/-- The composed compatibility form; text in ASCII is its own. -/
def compatibilityForm (cs : List Char) : List Char :=
  if cs.all (·.toNat < 128) then cs
  else (compose (orderMarks (cs.flatMap fun c => decompose c.toNat))).map Char.ofNat

theorem compatibilityForm_of_ascii {cs : List Char} (h : ∀ c ∈ cs, c.toNat < 128) :
    compatibilityForm cs = cs := by
  simp only [compatibilityForm, List.all_eq_true, decide_eq_true_eq]
  rw [if_pos h]

end TaskCatalog.Text
