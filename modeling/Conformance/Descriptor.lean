import Conformance.Kind
import Conformance.Number.Text

/-!
# Descriptors

A descriptor says which values it accepts. It is a tree whose leaves may name shapes by their
ids, so shapes can refer to each other without end while each tree stays finite.
-/

namespace Conformance

/-! ## Strategies -/

/-- How the elements of an array relate to the choices of a union: every element matches some
choice; besides, every choice is used; one choice matches all elements; no element matches. -/
inductive Strategy where
  | any
  | all
  | one
  | not
  deriving DecidableEq

namespace Strategy

def list : List Strategy := [.any, .all, .one, .not]

def name : Strategy → String
  | .any => "any"
  | .all => "all"
  | .one => "one"
  | .not => "not"

def ofName? (s : String) : Option Strategy := list.find? (·.name = s)

end Strategy

/-! ## Defaults and validators -/

/-- A default is a constant, or made on demand. Making it may fail, and has the same outcome each time. -/
inductive Default where
  | constant (v : Value)
  | generated (outcome : Option Value)

def Default.produce : Default → Option Value
  | .constant v => some v
  | .generated outcome => outcome

/-- A check that runs after the structure has matched. A predicate may fail to answer. -/
inductive Validator where
  | predicate (holds : Value → Option Bool)
  | pattern (r : Regex)

/-- No answer counts as a refusal. Patterns see strings and the text of numbers. -/
def Validator.accepts : Validator → Value → Bool
  | .predicate holds, v => holds v == some true
  | .pattern r, .string s => r.isMatch s
  | .pattern r, .number n => r.isMatch n.text
  | .pattern _, _ => false

/-! ## Options and traits -/

structure Options where
  required : Option Bool := none
  allowNull : Bool := false
  matchOnce : Bool := false
  default : Option Default := none
  validator : Option Validator := none
  strategy : Option Strategy := none

structure Traits where
  required : Bool
  allowNull : Bool
  matchOnce : Bool
  default : Option Default
  validator : Option Validator

def Options.traits (o : Options) : Traits :=
  ⟨o.required.getD true, o.allowNull, o.matchOnce, o.default, o.validator⟩

namespace Traits

def default? (t : Traits) : Option Value := t.default.bind Default.produce

def isValid (t : Traits) (v : Value) : Bool := t.validator.all (·.accepts v)

def toleratesAbsence (t : Traits) : Bool := !t.required || t.default.isSome

end Traits

/-! ## Descriptors -/

inductive KeyMatcher where
  | exact (key : String)
  | pattern (r : Regex)

namespace KeyMatcher

def accepts : KeyMatcher → String → Bool
  | .exact k, key => k = key
  | .pattern r, key => r.isMatch key

def text : KeyMatcher → String
  | .exact k => k
  | .pattern r => r.text

end KeyMatcher

inductive Primitive where
  | any
  | boolean
  | number
  | bigInt
  | string
  | date
  | symbol
  | regexp
  | function
  deriving DecidableEq

def Primitive.kind : Primitive → Kind
  | .any => .any
  | .boolean => .boolean
  | .number => .number
  | .bigInt => .bigInt
  | .string => .string
  | .date => .date
  | .symbol => .symbol
  | .regexp => .regexp
  | .function => .function

/-- Open arrays and objects take anything inside; keyed objects are closed. -/
inductive Descriptor where
  | primitive (p : Primitive) (t : Traits)
  | openArray (t : Traits)
  | arrayOf (items : Descriptor) (t : Traits)
  | openObject (t : Traits)
  | keyed (schema : List (KeyMatcher × Descriptor)) (t : Traits)
  | cls (c : Class) (t : Traits)
  | model (id : ShapeId) (t : Traits)
  | mix (choices : List Descriptor) (s : Strategy) (t : Traits)

abbrev Schema := List (KeyMatcher × Descriptor)

namespace Descriptor

def traits : Descriptor → Traits
  | .primitive _ t | .openArray t | .arrayOf _ t | .openObject t | .keyed _ t | .cls _ t
  | .model _ t | .mix _ _ t => t

def kind : Descriptor → Kind
  | .primitive p _ => p.kind
  | .openArray _ | .arrayOf .. => .array
  | .openObject _ | .keyed .. => .object
  | .cls .. => .cls
  | .model .. => .model
  | .mix .. => .mix

def schema? : Descriptor → Option Schema
  | .keyed schema _ => some schema
  | _ => none

def toleratesAbsence (d : Descriptor) : Bool := d.traits.toleratesAbsence

/-- The description of a key: that of the first entry that accepts it. -/
def describeKey? (d : Descriptor) (key : String) : Option Descriptor :=
  (d.schema?.bind fun s => s.find? (·.1.accepts key)).map Prod.snd

end Descriptor

end Conformance
