import Conformance.Json.Printer
import Conformance.Number.Rounding

/-!
# Items

An item is what a filter works on: a JSON value whose numbers are either integers of 64 bits or
decimals. A decimal keeps the text that it was written with.
-/

namespace Conformance

inductive Item where
  | null
  | bool (b : Bool)
  | whole (i : Int)
  | decimal (text : String) (value : Number)
  | string (s : String)
  | array (elements : List Item)
  | object (fields : List (String × Item))

namespace Item

instance : Inhabited Item := ⟨.null⟩

/-! ## Numbers -/

/-- Integers leave their 64 bits at one end and come in at the other. -/
def wrapped (i : Int) : Item := .whole (i.bmod (2 ^ 64))

/-- A number that was computed and not written. What is not finite has the text of null. -/
def ofNumber (n : Number) : Item := .decimal ((Layout.computed.render n).getD "null") n

def ofNat (n : Nat) : Item := .whole n

/-! ## JSON -/

mutual

def ofJson : Json → Item
  | .null => .null
  | .bool b => .bool b
  | .int i => if Json.fitsSigned i then .whole i else .decimal (toString i) (.ofInt i)
  | .float n => .decimal (Json.floatText n) n
  | .string s => .string s
  | .array es => .array (ofElements es)
  | .object fs => .object (ofFields fs)

def ofElements : List Json → List Item
  | [] => []
  | e :: es => ofJson e :: ofElements es

def ofFields : List (String × Json) → List (String × Item)
  | [] => []
  | (k, v) :: fs => (k, ofJson v) :: ofFields fs

end

mutual

/-- The text of an item. It is no JSON text if a decimal in it has none. -/
def text : Item → String
  | .null => "null"
  | .bool b => if b then "true" else "false"
  | .whole i => toString i
  | .decimal t _ => t
  | .string s => Json.stringText s
  | .array es => "[" ++ ",".intercalate (elementTexts es) ++ "]"
  | .object fs => Json.openBrace ++ ",".intercalate (fieldTexts fs) ++ Json.closeBrace

def elementTexts : List Item → List String
  | [] => []
  | e :: es => e.text :: elementTexts es

def fieldTexts : List (String × Item) → List String
  | [] => []
  | (k, v) :: fs => (Json.stringText k ++ ":" ++ v.text) :: fieldTexts fs

end

def plain : Item → String
  | .string s => s
  | v => v.text

end Item

end Conformance
