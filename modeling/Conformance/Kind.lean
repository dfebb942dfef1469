import Conformance.Value

/-!
# Kinds

What a value is, and what a description accepts. Every value has one kind; instances have the
kind of plain objects.
-/

namespace Conformance

inductive ValueKind where
  | undefined
  | null
  | boolean
  | number
  | bigInt
  | string
  | array
  | object
  | date
  | symbol
  | regexp
  | function
  deriving DecidableEq

inductive Kind where
  | any
  | boolean
  | number
  | bigInt
  | string
  | array
  | object
  | date
  | symbol
  | regexp
  | function
  | cls
  | model
  | mix
  deriving DecidableEq

namespace Value

def kind : Value → ValueKind
  | .null => .null
  | .bool _ => .boolean
  | .number _ => .number
  | .bigInt _ => .bigInt
  | .string _ => .string
  | .array _ => .array
  | .object _ | .inst .. => .object
  | .date _ => .date
  | .symbol _ => .symbol
  | .regexp _ => .regexp
  | .function _ => .function

end Value

def classify (v : Option Value) : ValueKind := (v.map Value.kind).getD .undefined

namespace ValueKind

def kind? : ValueKind → Option Kind
  | .undefined | .null => none
  | .boolean => some .boolean
  | .number => some .number
  | .bigInt => some .bigInt
  | .string => some .string
  | .array => some .array
  | .object => some .object
  | .date => some .date
  | .symbol => some .symbol
  | .regexp => some .regexp
  | .function => some .function

end ValueKind

namespace Kind

def all : List Kind :=
  [.boolean, .number, .bigInt, .string, .array, .object, .date, .symbol, .regexp, .function,
    .cls, .model, .any, .mix]

def token : Kind → String
  | .any => "any"
  | .boolean => "boolean"
  | .number => "number"
  | .bigInt => "bigint"
  | .string => "string"
  | .array => "array"
  | .object => "object"
  | .date => "date"
  | .symbol => "symbol"
  | .regexp => "regexp"
  | .function => "function"
  | .cls => "class"
  | .model => "model"
  | .mix => "mix"

def ofToken? (token : String) : Option Kind := all.find? (·.token = token)

end Kind

end Conformance
