import TaskCatalog.Value.Basic

/-!
Markers: what the decorators leave on a class when a plugin module is loaded. A decorator writes on the class itself,
and a marker is looked up on the class and then on its bases.
-/

namespace TaskCatalog

/-- A decorator's arguments under their names, the declared name among them. -/
structure Marker where
  name : Value
  options : List (Text × Value)
  deriving DecidableEq

inductive Decoration where
  /-- A task decorator that is not called. -/
  | bareTask
  | task (m : Marker)
  | parameter (m : Marker)
  deriving DecidableEq

/-- The markers that are written on a class, or those that are seen on it. -/
structure Markers where
  task : Option Marker
  parameters : Option (List Marker)
  deriving DecidableEq

def Markers.none : Markers := ⟨.none, .none⟩

/-- A class that is there: its base among the classes before it, and what is written on the class itself. -/
structure ClassObject where
  base : Option Nat
  own : Markers

/-- The classes that are there, in the order of their definitions. -/
abbrev Classes := List ClassObject

namespace Classes

/-- A marker as it is looked up on a class: the one that is written there, or else the one of the base. -/
def look {α : Type} (marker : Markers → Option α) (cs : Classes) (i : Nat) : Option α :=
  cs[i]?.bind fun c =>
    (marker c.own).or (c.base.bind fun b => if _ : b < i then look marker cs b else none)
termination_by i

def seen (cs : Classes) (i : Nat) : Markers := ⟨look Markers.task cs i, look Markers.parameters cs i⟩

/-- Applies a decorator to a class. The parameters are those seen so far, with the new one in front. -/
def mark (i : Nat) (d : Decoration) (cs : Classes) : Classes :=
  match d with
  | .bareTask => cs.modify i fun c => { c with own.task := some ⟨.null, []⟩ }
  | .task t => cs.modify i fun c => { c with own.task := some t }
  | .parameter p =>
    let declared := p :: (look Markers.parameters cs i).getD []
    cs.modify i fun c => { c with own.parameters := some declared }

end Classes

/-- A class statement: the base, if there is one, and the decorators from top to bottom. -/
structure ClassDefinition where
  base : Option Nat
  decorations : List Decoration

namespace ClassDefinition

/-- Adds the class of a statement; its decorators apply from the bottom up. -/
def define (cs : Classes) (d : ClassDefinition) : Classes :=
  d.decorations.foldr (Classes.mark cs.length) (cs ++ [⟨d.base, .none⟩])

/-- What is seen on each class when all of them are defined, one after the other. -/
def markers (ds : List ClassDefinition) : List Markers :=
  let cs := ds.foldl define []
  (List.range cs.length).map cs.seen

end ClassDefinition

end TaskCatalog
