import TaskCatalog.Text.Basic

/-!
Command-line arguments: options with long and short names, and operands.
-/

namespace TaskCatalog

open Text

structure OptionName where
  long : Text
  short : Option Letter
  takesValue : Bool

/-- An option that was given, under its long name. -/
structure GivenOption where
  name : Text
  value : Option Text
  deriving DecidableEq

structure Arguments where
  options : List GivenOption
  operands : List Text
  deriving DecidableEq

namespace Arguments

def dash : Letter := .scalar '-'

/-- What an argument is among some options. -/
inductive Shape where
  | operand
  | unknown
  /-- Options; the last one may still wait for its value. -/
  | options (given : List GivenOption) (waiting : Option Text)

/-- Short options that share a dash. One that takes a value takes the rest of the argument. -/
def shortShape (names : List OptionName) : Text → Shape
  | [] => .options [] none
  | l :: rest =>
    match names.find? fun n => n.short == some l with
    | none => .unknown
    | some n =>
      if n.takesValue then
        if rest.isEmpty then .options [] (some n.long) else .options [⟨n.long, some rest⟩] none
      else
        match shortShape names rest with
        | .options given waiting => .options (⟨n.long, none⟩ :: given) waiting
        | shape => shape

def longShape (names : List OptionName) (argument : Text) : Shape :=
  let name := argument.takeWhile (· != .scalar '=')
  match names.find? fun n => n.long == name, argument.dropWhile (· != .scalar '=') with
  | none, _ => .unknown
  | some n, [] => if n.takesValue then .options [] (some n.long) else .options [⟨n.long, none⟩] none
  | some n, _ :: value => if n.takesValue then .options [⟨n.long, some value⟩] none else .unknown

def shape (names : List OptionName) : Text → Shape
  | .scalar '-' :: .scalar '-' :: rest => longShape names (dash :: dash :: rest)
  | .scalar '-' :: l :: rest => shortShape names (l :: rest)
  | _ => .operand

def ending : Text := "--"

def givingTo (name : Option Text) (value : Text) (a : Arguments) : Arguments :=
  match name with
  | some name => { a with options := ⟨name, some value⟩ :: a.options }
  | none => a

/-- Arguments while an option may wait for its value. If options and operands are not mixed, the
first operand ends the options. -/
def readFrom (names : List OptionName) (mixed : Bool) (waiting : Option Text) :
    List Text → Option Arguments
  | [] => if waiting.isNone then some ⟨[], []⟩ else none
  | a :: rest =>
    if waiting.isSome then (readFrom names mixed none rest).map (givingTo waiting a)
    else if a = ending then some ⟨[], rest⟩
    else
      match shape names a with
      | .unknown => none
      | .operand =>
        if mixed then
          (readFrom names mixed none rest).map fun found => { found with operands := a :: found.operands }
        else some ⟨[], a :: rest⟩
      | .options given waiting =>
        (readFrom names mixed waiting rest).map fun found => { found with options := given ++ found.options }

/-- The options and operands of arguments; none if an option is unknown or lacks its value. -/
def read? (names : List OptionName) (mixed : Bool) (arguments : List Text) : Option Arguments :=
  readFrom names mixed none arguments

def has (a : Arguments) (name : Text) : Bool := a.options.any fun o => o.name == name

def value? (a : Arguments) (name : Text) : Option Text :=
  (a.options.reverse.find? fun o => o.name == name).bind (·.value)

/-- Without options, arguments that do not start with a dash are operands. -/
theorem read?_of_operands {names : List OptionName} {arguments : List Text}
    (h : ∀ a ∈ arguments, a.head? ≠ some dash) : read? names true arguments = some ⟨[], arguments⟩ := by
  induction arguments with
  | nil => rfl
  | cons a rest ih =>
    have ha : a.head? ≠ some dash := h a (by simp)
    have hs : shape names a = .operand := by
      unfold shape
      split <;> simp_all [dash]
    have he : a ≠ ending := by
      intro e
      exact ha (by rw [e]; rfl)
    have := ih fun b hb => h b (by simp [hb])
    simp only [read?] at this
    simp [read?, readFrom, he, hs, this]

end Arguments

end TaskCatalog
