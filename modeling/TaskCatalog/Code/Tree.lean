import TaskCatalog.Value.Basic

/-!
Syntax trees of source files. Expressions are kept whole, since they are evaluated and printed; of the
statements only what declares something, and which blocks lie inside which.
-/

namespace TaskCatalog.Code

inductive Connective where
  | and
  | or
  deriving DecidableEq, Repr

inductive UnaryOperator where
  | invert
  | not
  | plus
  | minus
  deriving DecidableEq, Repr

inductive BinaryOperator where
  | add
  | subtract
  | multiply
  | matrixMultiply
  | divide
  | remainder
  | shiftLeft
  | shiftRight
  | bitOr
  | bitXor
  | bitAnd
  | floorDivide
  | power
  deriving DecidableEq, Repr

inductive Relation where
  | equal
  | notEqual
  | less
  | atMost
  | greater
  | atLeast
  | same
  | notSame
  | within
  | notWithin
  deriving DecidableEq, Repr

/-- What a comprehension builds. -/
inductive Gathering where
  | list
  | set
  | generator
  deriving DecidableEq, Repr

mutual

inductive Expression where
  | name (id : Text)
  /-- A literal; texts can be marked as such by a letter. -/
  | constant (value : Scalar) (marked : Bool)
  | formatted (pieces : List Piece)
  | connected (by' : Connective) (operands : List Expression)
  /-- A value that gets a name on the way. -/
  | bound (target value : Expression)
  | binary (operator : BinaryOperator) (left right : Expression)
  | unary (operator : UnaryOperator) (operand : Expression)
  | lambda (signature : Signature) (body : Expression)
  | conditional (body test otherwise : Expression)
  | dictionary (entries : List Entry)
  | set (items : List Expression)
  | list (items : List Expression)
  | tuple (items : List Expression)
  | comprehension (gathering : Gathering) (element : Expression) (clauses : List Clause)
  | dictionaryOf (key value : Expression) (clauses : List Clause)
  | await (e : Expression)
  | yield (e : Option Expression)
  | yieldFrom (e : Expression)
  | comparison (first : Expression) (links : List Link)
  | call (function : Expression) (positional : List Expression) (keywords : List Keyword)
  | member (e : Expression) (name : Text)
  | item (e index : Expression)
  | starred (e : Expression)
  | slice (lower upper step : Option Expression)

/-- A part of a formatted text: text, or a field with its conversion and its format. -/
inductive Piece where
  | text (t : Text)
  | field (e : Expression) (conversion : Option Char) (format : Option (List Piece))

inductive Entry where
  | pair (key value : Expression)
  | spread (e : Expression)

inductive Clause where
  | mk (isAsync : Bool) (target source : Expression) (conditions : List Expression)

inductive Link where
  | mk (relation : Relation) (e : Expression)

/-- A keyword argument; one without a name spreads a mapping. -/
inductive Keyword where
  | mk (name : Option Text) (value : Expression)

inductive Binder where
  | mk (name : Text) (hint default : Option Expression)

/-- The parameters of a function. -/
inductive Signature where
  | mk (positionalOnly positional : List Binder) (rest : Option Binder) (named : List Binder)
      (others : Option Binder)

end

instance : Inhabited Expression := ⟨.name []⟩

def Signature.empty : Signature := .mk [] [] none [] none

def Binder.name : Binder → Text
  | mk name .. => name

def Binder.hint : Binder → Option Expression
  | mk _ hint _ => hint

/-- The parameters that an argument can be meant for by its name or its position. -/
def Signature.binders : Signature → List Binder
  | mk positionalOnly positional _ named _ => positionalOnly ++ positional ++ named

inductive Statement where
  | classDefinition (line : Nat) (name : Text) (decorators : List Expression) (body : List Statement)
  | functionDefinition (line : Nat) (name : Text) (decorators : List Expression) (signature : Signature)
      (body : List Statement)
  | assignment (line : Nat) (targets : List Expression)
  | annotated (line : Nat) (target hint : Expression)
  | expression (e : Expression)
  /-- Any other statement with the statements in its blocks; handlers and cases are blocks inside it. -/
  | compound (inner : List Statement)

end TaskCatalog.Code
