import Conformance.Class
import Conformance.Entries
import Conformance.Instant
import Conformance.Number

/-!
# Values

The candidates: the values of JSON and, besides, big integers, dates, symbols, regular
expressions, functions and instances of classes. Values are finite trees.
-/

namespace Conformance

/-! ## Regular expressions -/

/-- What compiles the source of a regular expression, to a test of the texts that it matches. -/
class RegexEngine where
  compile? : String → Option (String → Bool)

/-- A regular expression is told from another by its source text alone. -/
structure Regex where
  source : String
  isMatch : String → Bool

namespace Regex

def compile? [RegexEngine] (source : String) : Option Regex :=
  (RegexEngine.compile? source).map fun isMatch => ⟨source, isMatch⟩

instance : BEq Regex := ⟨fun a b => a.source == b.source⟩

def text (r : Regex) : String := "/" ++ r.source ++ "/"

end Regex

/-! ## Values -/

/-- A symbol equals its copies only, whatever its description. -/
structure Symbol where
  serial : Nat
  description : Option String

structure Function where
  serial : Nat
  name : Option String

def Function.text (f : Function) : String := "function " ++ f.name.getD "<anonymous>"

inductive Value where
  | null
  | bool (b : Bool)
  | number (n : Number)
  | bigInt (n : Int)
  | string (s : String)
  | array (elements : List Value)
  | object (fields : List (String × Value))
  | date (i : Instant)
  | symbol (s : Symbol)
  | regexp (r : Regex)
  | function (f : Function)
  | inst (c : Class) (fields : List (String × Value))

structure Instance where
  cls : Class
  fields : Entries Value

/-- A function answers its first argument; without one it has no answer. -/
def Function.call (_ : Function) (args : List Value) : Option Value := args.head?

namespace Value

instance : Inhabited Value := ⟨.null⟩

def ofInstance (i : Instance) : Value := .inst i.cls i.fields

def isNull : Value → Bool
  | .null => true
  | _ => false

def isArray : Value → Bool
  | .array _ => true
  | _ => false

def string? : Value → Option String
  | .string s => some s
  | _ => none

def number? : Value → Option Number
  | .number n => some n
  | _ => none

/-- The fields of plain objects and instances alike. -/
def fields? : Value → Option (Entries Value)
  | .object fs | .inst _ fs => some fs
  | _ => none

def get? (v : Value) (key : String) : Option Value := v.fields?.bind (Entries.get? · key)

def class? : Value → Option Class
  | .inst c _ => some c
  | _ => none

/-- Is the value an instance of exactly the class `c`? -/
def carries (c : Class) (v : Value) : Bool := v.class?.any c.same

/-- Is the value an instance of `c` or of a class derived from it? -/
def isInstanceOf (c : Class) (v : Value) : Bool := v.class?.any (·.isA c)

/-! ## Equality -/

mutual

/-- Objects are equal whatever the order of their keys. -/
def eqv : Value → Value → Bool
  | .null, .null => true
  | .bool a, .bool b => a == b
  | .number a, .number b => a.eqv b
  | .bigInt a, .bigInt b => a == b
  | .string a, .string b => a == b
  | .array xs, .array ys => eqvElements xs ys
  | .object fs, .object gs => fs.length == gs.length && eqvFields fs gs
  | .date a, .date b => a == b
  | .symbol a, .symbol b => a.serial == b.serial
  | .regexp a, .regexp b => a == b
  | .function a, .function b => a.serial == b.serial
  | .inst c fs, .inst d gs => c.same d && fs.length == gs.length && eqvFields fs gs
  | _, _ => false

def eqvElements : List Value → List Value → Bool
  | [], [] => true
  | x :: xs, y :: ys => x.eqv y && eqvElements xs ys
  | _, _ => false

def eqvFields : List (String × Value) → List (String × Value) → Bool
  | [], _ => true
  | (k, v) :: fs, gs => (match Entries.get? gs k with
    | some w => v.eqv w
    | none => false) && eqvFields fs gs

end

end Value

end Conformance
