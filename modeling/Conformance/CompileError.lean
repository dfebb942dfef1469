import Conformance.Kind

/-!
# Mistakes in declarations
-/

namespace Conformance

inductive CompileError where
  | unknownType (name : String)
  | reservedWord (name : String)
  | invalidSchema (reason : String)
  | invalidModelName (name : String)
  | duplicateModel (name : String)
  | topLevelKind (k : Kind)
  | topLevelNull
  | invalidPatternKey (key : String)
  | patternValidatorKind (k : Kind)
  | emptyUnion
  | missingClass
  | missingModel
  | unknownStrategy (name : String)

/-- Stands for the reasons why a regular expression does not compile. -/
def regexFault : String := "<regex error>"

def inQuotes (s : String) : String := "\"" ++ s ++ "\""

namespace CompileError

def message : CompileError → String
  | .unknownType name => "Unknown type or model " ++ inQuotes name ++ "."
  | .reservedWord name =>
    "Forbidden to use reserved word " ++ inQuotes name ++ " as a type or model name."
  | .invalidSchema reason => "Invalid schema: " ++ reason
  | .invalidModelName name => "Model name " ++ inQuotes name ++ " is invalid."
  | .duplicateModel name => "Model " ++ inQuotes name ++ " already exists."
  | .topLevelKind k => "A top level schema must be an object or an array, got " ++ k.token ++ "."
  | .topLevelNull => "A top level object or array cannot allow null."
  | .invalidPatternKey key => "Pattern key " ++ inQuotes key ++ " is invalid: " ++ regexFault
  | .patternValidatorKind k =>
    "A pattern validator can only be used with \"string\" and \"number\", not " ++
      inQuotes k.token ++ "."
  | .emptyUnion => "A union must have at least one alternative."
  | .missingClass => "Type \"class\" requires a class marker."
  | .missingModel => "Type \"model\" requires a registered model."
  | .unknownStrategy name =>
    "Unknown union strategy " ++ inQuotes name ++ " (expected any, all, one or not)."

def cause? : CompileError → Option String
  | .invalidPatternKey _ => some regexFault
  | _ => none

end CompileError

end Conformance
