/-!
# Classes

A class is told from another by its identity alone: the shape whose instances carry it, or a
serial number. Its name is for display.
-/

namespace Conformance

/-- The place of a shape in the registry that issued the id. -/
structure ShapeId where
  registry : Nat
  index : Nat
  deriving DecidableEq

inductive ClassId where
  | shape (id : ShapeId)
  | free (serial : Nat)
  deriving DecidableEq

inductive Class where
  | base (id : ClassId) (name : String)
  | sub (id : ClassId) (name : String) (parent : Class)

namespace Class

def id : Class → ClassId
  | .base id _ | .sub id _ _ => id

def name : Class → String
  | .base _ name | .sub _ name _ => name

def parent? : Class → Option Class
  | .base .. => none
  | .sub _ _ parent => some parent

def same (c d : Class) : Bool := c.id = d.id

/-- Is `c` the class `d` or derived from it? -/
def isA : Class → Class → Bool
  | .base id _, d => id = d.id
  | .sub id _ parent, d => id = d.id || parent.isA d

def text (c : Class) : String := "class " ++ c.name

end Class

end Conformance
