import TaskCatalog.Code.Tree
import TaskCatalog.Value.Print

/-!
The text of an expression, in one form whatever form it was written in. Parentheses stand where an
operand binds less strongly than its place asks for. A few expressions have no such form: formatted texts
whose fields could be spelled only with a backslash, and whole numbers with too many digits.
-/

namespace TaskCatalog.Code

open Text Number

/-- How strongly an expression holds together. -/
abbrev Strength := Nat

namespace Strength

def binding : Strength := 1
def tuple : Strength := 2
def yield : Strength := 3
def test : Strength := 4
def or : Strength := 5
def and : Strength := 6
def not : Strength := 7
def comparison : Strength := 8
def bitOr : Strength := 9
def bitXor : Strength := 10
def bitAnd : Strength := 11
def shift : Strength := 12
def sum : Strength := 13
def product : Strength := 14
def sign : Strength := 15
def power : Strength := 16
def await : Strength := 17
def atom : Strength := 18

def next (s : Strength) : Strength := min (s + 1) atom

end Strength

def Connective.text : Connective → Text
  | and => "and"
  | or => "or"

def Connective.strength : Connective → Strength
  | and => .and
  | or => .or

def UnaryOperator.text : UnaryOperator → Text
  | invert => "~"
  | not => "not "
  | plus => "+"
  | minus => "-"

def UnaryOperator.strength : UnaryOperator → Strength
  | not => .not
  | _ => .sign

namespace BinaryOperator

def text : BinaryOperator → Text
  | add => "+"
  | subtract => "-"
  | multiply => "*"
  | matrixMultiply => "@"
  | divide => "/"
  | remainder => "%"
  | shiftLeft => "<<"
  | shiftRight => ">>"
  | bitOr => "|"
  | bitXor => "^"
  | bitAnd => "&"
  | floorDivide => "//"
  | power => "**"

def strength : BinaryOperator → Strength
  | add | subtract => .sum
  | multiply | matrixMultiply | divide | remainder | floorDivide => .product
  | shiftLeft | shiftRight => .shift
  | bitOr => .bitOr
  | bitXor => .bitXor
  | bitAnd => .bitAnd
  | power => .power

/-- What the operands' places ask for: powers associate to the right, all else to the left. -/
def operandStrengths (o : BinaryOperator) : Strength × Strength :=
  if o = power then (o.strength.next, o.strength) else (o.strength, o.strength.next)

end BinaryOperator

def Relation.text : Relation → Text
  | equal => "=="
  | notEqual => "!="
  | less => "<"
  | atMost => "<="
  | greater => ">"
  | atLeast => ">="
  | same => "is"
  | notSame => "is not"
  | within => "in"
  | notWithin => "not in"

namespace Quotes

def all : List Text := ["'", "\"", "\"\"\"", "'''"]

/-- An escaped letter, unless it is printable; line breaks and tabs may stand. -/
def escape (escapeSpace : Bool) (l : Letter) : Text :=
  if !escapeSpace && (l == .scalar '\n' || l == .scalar '\t') then [l]
  else if l == .scalar '\\' || !l.satisfies isPrintable then escapeIn ' ' l
  else [l]

/-- The body of a text literal, and the quotes among the given that can stand around it. -/
def body (quotes : List Text) (escapeSpace : Bool) (t : Text) : Text × List Text :=
  let escaped := t.flatMap (escape escapeSpace)
  let fitting := quotes.filter fun q =>
    (q.length = 3 || !escaped.contains (.scalar '\n')) && !includes q escaped
  match fitting, escaped.getLast? with
  | [], _ =>
    let quote := quoteChar t
    (t.flatMap (escapeIn quote),
      [(quotes.find? fun q => q.contains (.scalar quote)).getD [.scalar quote]])
  | _, none => (escaped, fitting)
  | _, some last =>
    let clash (q : Text) : Bool := q.head? == some last
    let sorted := fitting.filter (!clash ·) ++ fitting.filter clash
    if sorted.head?.any clash then (escaped.dropLast ++ [.scalar '\\', last], sorted)
    else (escaped, sorted)

def plain (t : Text) : Text :=
  let (inner, quotes) := body all false t
  let quote := quotes.headD []
  quote ++ inner ++ quote

/-- The bodies of a literal's parts and the quotes that fit them all. A part that is plain text is marked. -/
def bodies (quotes : List Text) : List (Text × Bool) → Option (List Text × List Text)
  | [] => some ([], quotes)
  | (t, isText) :: rest =>
    let (inner, left) := body quotes isText t
    if left.any quotes.contains then (bodies left rest).map fun (ts, last) => (inner :: ts, last)
    else none

/-- A literal of several parts; if no quotes fit them all, all of them are escaped. -/
def ofParts (parts : List (Text × Bool)) : Text :=
  match bodies all parts with
  | some (inner, quotes) =>
    let quote := quotes.headD []
    quote ++ inner.flatten ++ quote
  | none => "'''" ++ (parts.flatMap fun (t, _) => t.flatMap (escapeIn '\'')) ++ "'''"

end Quotes

def parenthesized (t : Text) : Text := "(" ++ t ++ ")"

def inParens (needed : Bool) (t : Text) : Text := if needed then parenthesized t else t

/-- The numbers beyond all others are written as one that is too large. -/
def numberStyle : FloatStyle := ⟨"1e309", "(1e309-1e309)", true, false⟩

/-- The literal of a constant, with few backslashes or with as many as it takes. -/
def constantText (sparing : Bool) : Scalar → Text
  | .real x => floatText numberStyle x
  | .complex _ im => floatText { numberStyle with wholePoint := false } im ++ "j"
  | .text t => if sparing then Quotes.plain t else quoted t
  | .ellipsis => "..."
  | s => s.literal

def doubledBraces (t : Text) : Text :=
  t.flatMap fun l => if l = .scalar '\x7b' || l = .scalar '\x7d' then [l, l] else [l]

/-- Items with commas; a single one has a comma after it. -/
def tupleItems (ts : List Text) : Text := if ts.length = 1 then join ", " ts ++ "," else join ", " ts

def isWholeNumber : Expression → Bool
  | .constant (.whole _) _ | .constant (.truth _) _ => true
  | _ => false

mutual

/-- The text of an expression at a place that asks for a strength; inside fields backslashes are spared. -/
def Expression.print (sparing : Bool) (place : Strength) : Expression → Option Text
  | .name id => some id
  | .constant c marked =>
    if c.isSpelled then some ((if marked then "u" else "") ++ constantText sparing c) else none
  | .formatted pieces => do
    let parts ← printPieces pieces
    let literal := if sparing then Quotes.plain (parts.flatMap (·.1)) else Quotes.ofParts parts
    return "f" ++ literal
  | .connected c operands => do
    let ts ← printAll sparing c.strength.next 1 operands
    return inParens (c.strength < place) (join (" " ++ c.text ++ " ") ts)
  | .bound target value => do
    let t ← target.print sparing .atom
    let v ← value.print sparing .atom
    return inParens (Strength.binding < place) (t ++ " := " ++ v)
  | .binary o left right => do
    let l ← left.print sparing o.operandStrengths.1
    let r ← right.print sparing o.operandStrengths.2
    return inParens (o.strength < place) (l ++ " " ++ o.text ++ " " ++ r)
  | .unary o operand => do
    return inParens (o.strength < place) (o.text ++ (← operand.print sparing o.strength))
  | .lambda signature body => do
    let s ← signature.print sparing
    let b ← body.print sparing .test
    return inParens (Strength.test < place)
      ("lambda" ++ (if s.isEmpty then s else .scalar ' ' :: s) ++ ": " ++ b)
  | .conditional body test otherwise => do
    let b ← body.print sparing .or
    let t ← test.print sparing .or
    let o ← otherwise.print sparing .test
    return inParens (Strength.test < place) (b ++ " if " ++ t ++ " else " ++ o)
  | .dictionary entries => do return "\x7b" ++ join ", " (← printEntries sparing entries) ++ "\x7d"
  | .set items => do return "\x7b" ++ join ", " (← printAll sparing .test 0 items) ++ "\x7d"
  | .list items => do return "[" ++ join ", " (← printAll sparing .test 0 items) ++ "]"
  | .tuple items => do
    let ts ← printAll sparing .test 0 items
    return inParens (items.isEmpty || Strength.tuple < place) (tupleItems ts)
  | .comprehension g element clauses => do
    let inner := (← element.print sparing .test) ++ (← printClauses sparing clauses)
    return match g with
      | .list => "[" ++ inner ++ "]"
      | .set => "\x7b" ++ inner ++ "\x7d"
      | .generator => parenthesized inner
  | .dictionaryOf key value clauses => do
    let k ← key.print sparing .test
    let v ← value.print sparing .test
    return "\x7b" ++ k ++ ": " ++ v ++ (← printClauses sparing clauses) ++ "\x7d"
  | .await e => do return inParens (Strength.await < place) ("await " ++ (← e.print sparing .atom))
  | .yield e => do
    let t ← printOptional sparing .atom e
    return inParens (Strength.yield < place) ("yield" ++ match t with
      | some t => .scalar ' ' :: t
      | none => [])
  | .yieldFrom e => do
    return inParens (Strength.yield < place) ("yield from " ++ (← e.print sparing .atom))
  | .comparison first links => do
    let f ← first.print sparing .bitOr
    return inParens (Strength.comparison < place) (f ++ (← printLinks sparing links))
  | .call f positional keywords => do
    let f ← f.print sparing .atom
    let ps ← printAll sparing .test 0 positional
    let ks ← printKeywords sparing keywords
    return f ++ parenthesized (join ", " (ps ++ ks))
  | .member e name => do
    return (← e.print sparing .atom) ++ (if isWholeNumber e then " ." else ".") ++ name
  | .item e index => do
    let e ← e.print sparing .atom
    let i ← match index with
      | .tuple items =>
        (printAll sparing .test 0 items).map fun ts => inParens ts.isEmpty (tupleItems ts)
      | index => index.print sparing .test
    return e ++ "[" ++ i ++ "]"
  | .starred e => do return .scalar '*' :: (← e.print sparing .bitOr)
  | .slice lower upper step => do
    let l ← printOptional sparing .test lower
    let u ← printOptional sparing .test upper
    let s ← printOptional sparing .test step
    return l.getD [] ++ ":" ++ u.getD [] ++ (match s with
      | some s => .scalar ':' :: s
      | none => [])

def printAll (sparing : Bool) (place : Strength) (growth : Nat) : List Expression → Option (List Text)
  | [] => some []
  | e :: rest => do
    return (← e.print sparing place) :: (← printAll sparing (min (place + growth) .atom) growth rest)

def printOptional (sparing : Bool) (place : Strength) : Option Expression → Option (Option Text)
  | none => some none
  | some e => (e.print sparing place).map some

/-- The parts of a formatted text, those that are plain text marked. -/
def printPieces : List Piece → Option (List (Text × Bool))
  | [] => some []
  | .text t :: rest => do return (doubledBraces t, true) :: (← printPieces rest)
  | .field e conversion format :: rest => do
    let inner ← e.print true .or
    if inner.contains (.scalar '\\') then none
    let gap : Text := if inner.head? = some (.scalar '\x7b') then " " else ""
    let mark : Text := match conversion with
      | some c => [.scalar '!', .scalar c]
      | none => []
    let end' ← printFormat format
    return ("\x7b" ++ gap ++ inner ++ mark ++ end' ++ "\x7d", false) :: (← printPieces rest)

def printFormat : Option (List Piece) → Option Text
  | none => some []
  | some pieces => do return .scalar ':' :: (← printPieces pieces).flatMap (·.1)

def printEntries (sparing : Bool) : List Entry → Option (List Text)
  | [] => some []
  | .pair key value :: rest => do
    let k ← key.print sparing .test
    let v ← value.print sparing .test
    return (k ++ ": " ++ v) :: (← printEntries sparing rest)
  | .spread e :: rest => do
    let t ← e.print sparing .bitOr
    return ("**" ++ t : Text) :: (← printEntries sparing rest)

def printClauses (sparing : Bool) : List Clause → Option Text
  | [] => some []
  | .mk isAsync target source conditions :: rest => do
    let t ← target.print sparing .tuple
    let s ← source.print sparing .or
    let cs ← printAll sparing .or 0 conditions
    return (if isAsync then " async for " else " for ") ++ t ++ " in " ++ s
      ++ (cs.flatMap fun c => (" if " ++ c : Text)) ++ (← printClauses sparing rest)

def printLinks (sparing : Bool) : List Link → Option Text
  | [] => some []
  | .mk relation e :: rest => do
    return .scalar ' ' :: relation.text ++ " " ++ (← e.print sparing .bitOr) ++ (← printLinks sparing rest)

def printKeywords (sparing : Bool) : List Keyword → Option (List Text)
  | [] => some []
  | .mk name value :: rest => do
    let v ← value.print sparing .test
    return ((match name with
      | some name => name ++ "="
      | none => "**") ++ v) :: (← printKeywords sparing rest)

def printBinder (sparing : Bool) : Binder → Option Text
  | .mk name hint default => do
    let a ← printOptional sparing .test hint
    let d ← printOptional sparing .test default
    return name ++ (match a with | some a => ": " ++ a | none => [])
      ++ (match d with | some d => .scalar '=' :: d | none => [])

def printBinders (sparing : Bool) : List Binder → Option (List Text)
  | [] => some []
  | b :: rest => do return (← printBinder sparing b) :: (← printBinders sparing rest)

def printMarked (sparing : Bool) (mark : Text) : Option Binder → Option (List Text)
  | none => some []
  | some b => (printBinder sparing b).map fun t => [mark ++ t]

def Signature.print (sparing : Bool) : Signature → Option Text
  | .mk positionalOnly positional rest named others => do
    let ps ← printBinders sparing positionalOnly
    let qs ← printBinders sparing positional
    let rs ← printMarked sparing "*" rest
    let ns ← printBinders sparing named
    let os ← printMarked sparing "**" others
    let slash : List Text := if positionalOnly.isEmpty then [] else [[.scalar '/']]
    let star : List Text := if rs.isEmpty && !ns.isEmpty then [[.scalar '*']] else rs
    return join ", " (ps ++ slash ++ qs ++ star ++ ns ++ os)

end

def Expression.text? (e : Expression) : Option Text := e.print false .test

end TaskCatalog.Code
