import Conformance.Json.Printer
import Conformance.Kind

/-!
# Values and JSON

JSON becomes plain values. The other way symbols and functions leave objects and are null
elsewhere, big integers and dates become strings, regular expressions their text in slashes.
-/

namespace Conformance

namespace Value

mutual

def ofJson : Json → Value
  | .null => .null
  | .bool b => .bool b
  | .int n => .number (.ofInt n)
  | .float n => .number n
  | .string s => .string s
  | .array es => .array (ofJsonElements es)
  | .object fs => .object (ofJsonFields fs)

def ofJsonElements : List Json → List Value
  | [] => []
  | e :: es => ofJson e :: ofJsonElements es

def ofJsonFields : List (String × Json) → List (String × Value)
  | [] => []
  | (k, v) :: fs => (k, ofJson v) :: ofJsonFields fs

end

/-- Values that no object of a JSON text keeps. -/
def isOpaque : Value → Bool
  | .symbol _ | .function _ => true
  | _ => false

mutual

def toJson : Value → Json
  | .null | .symbol _ | .function _ => .null
  | .bool b => .bool b
  | .number n => .ofNumber n
  | .bigInt n => .string (toString n)
  | .string s => .string s
  | .array es => .array (toJsonElements es)
  | .object fs => .object (toJsonFields fs)
  | .inst _ fs => .object (toJsonFields fs)
  | .date i => .string i.text
  | .regexp r => .string r.text

def toJsonElements : List Value → List Json
  | [] => []
  | e :: es => e.toJson :: toJsonElements es

def toJsonFields : List (String × Value) → List (String × Json)
  | [] => []
  | (k, v) :: fs => if v.isOpaque then toJsonFields fs else (k, v.toJson) :: toJsonFields fs

end

end Value

end Conformance
