import Conformance.Descriptor
import Conformance.Text.Quoted

/-!
# Inspection text

One line that shows the whole tree of a descriptor: constructor names, with named parts in
braces and positional ones in parentheses.
-/

namespace Conformance

def truthText (b : Bool) : String := if b then "true" else "false"

def inBraces (name : String) (parts : List (String × String)) : String :=
  name ++ " \x7b " ++ ", ".intercalate (parts.map fun p => p.1 ++ ": " ++ p.2) ++ " \x7d"

def inParens (name part : String) : String := name ++ "(" ++ part ++ ")"

def inBrackets (parts : List String) : String := "[" ++ ", ".intercalate parts ++ "]"

def Strategy.label : Strategy → String
  | .any => "Any"
  | .all => "All"
  | .one => "One"
  | .not => "Not"

def Primitive.label : Primitive → String
  | .any => "Any"
  | .boolean => "Boolean"
  | .number => "Number"
  | .bigInt => "BigInt"
  | .string => "String"
  | .date => "Date"
  | .symbol => "Symbol"
  | .regexp => "RegExp"
  | .function => "Function"

def ShapeId.inspect (id : ShapeId) : String :=
  inBraces "ShapeId" [("registry", toString id.registry), ("index", toString id.index)]

def KeyMatcher.inspect : KeyMatcher → String
  | .exact key => inParens "Exact" (quoted key)
  | .pattern r => inParens "Pattern" (inParens "Regex" (quoted r.source))

def Traits.inspect (form : String) (t : Traits) : String :=
  inBraces "Descriptor" [("ty", form), ("required", truthText t.required),
    ("allow_null", truthText t.allowNull), ("match_once", truthText t.matchOnce),
    ("has_default", truthText t.default.isSome), ("has_validator", truthText t.validator.isSome)]

namespace Descriptor

mutual

def inspect : Descriptor → String
  | .primitive p t => t.inspect p.label
  | .openArray t => t.inspect (inBraces "Array" [("items", "None")])
  | .arrayOf items t => t.inspect (inBraces "Array" [("items", inParens "Some" items.inspect)])
  | .openObject t => t.inspect (inBraces "Object" [("schema", "None")])
  | .keyed schema t =>
    t.inspect (inBraces "Object" [("schema", inParens "Some" (inBrackets (inspectSchema schema)))])
  | .cls c t => t.inspect (inParens "Class" c.text)
  | .model id t => t.inspect (inParens "Model" id.inspect)
  | .mix choices s t =>
    t.inspect (inBraces "Mix" [("choices", inBrackets (inspectChoices choices)), ("strategy", s.label)])

def inspectSchema : List (KeyMatcher × Descriptor) → List String
  | [] => []
  | (k, d) :: rest => ("(" ++ k.inspect ++ ", " ++ d.inspect ++ ")") :: inspectSchema rest

def inspectChoices : List Descriptor → List String
  | [] => []
  | d :: rest => d.inspect :: inspectChoices rest

end

end Descriptor

end Conformance
