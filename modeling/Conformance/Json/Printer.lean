import Conformance.Json
import Conformance.Number.Text

/-!
# JSON text

Compact text without blanks, and laid out text with two blanks of indentation. Only quotes,
backslashes and control characters are escaped.
-/

namespace Conformance

namespace Json

def hexDigit (n : Nat) : Char :=
  Char.ofNat (if n < 10 then '0'.toNat + n else 'a'.toNat + (n - 10))

def escapeChar (c : Char) : List Char :=
  if c = '"' then ['\\', '"']
  else if c = '\\' then ['\\', '\\']
  else if c = '\x08' then ['\\', 'b']
  else if c = '\x0c' then ['\\', 'f']
  else if c = '\n' then ['\\', 'n']
  else if c = '\r' then ['\\', 'r']
  else if c = '\t' then ['\\', 't']
  else if c.toNat < 0x20 then
    ['\\', 'u', '0', '0', hexDigit (c.toNat / 16), hexDigit (c.toNat % 16)]
  else [c]

def stringText (s : String) : String :=
  String.ofList ('"' :: s.toList.flatMap escapeChar ++ ['"'])

def floatText (n : Number) : String := (Layout.document.render n).getD "null"

def openBrace : String := "\x7b"
def closeBrace : String := "\x7d"

mutual

def compact : Json → String
  | .null => "null"
  | .bool b => if b then "true" else "false"
  | .int n => toString n
  | .float n => floatText n
  | .string s => stringText s
  | .array es => "[" ++ ",".intercalate (compactElements es) ++ "]"
  | .object fs => openBrace ++ ",".intercalate (compactFields fs) ++ closeBrace

def compactElements : List Json → List String
  | [] => []
  | e :: es => e.compact :: compactElements es

def compactFields : List (String × Json) → List String
  | [] => []
  | (k, v) :: fs => (stringText k ++ ":" ++ v.compact) :: compactFields fs

end

def block (opening closing : String) (depth : Nat) (parts : List String) : String :=
  let indent := fun n => "\n" ++ String.ofList (List.replicate (2 * n) ' ')
  if parts.isEmpty then opening ++ closing
  else opening ++ indent (depth + 1) ++ ("," ++ indent (depth + 1)).intercalate parts ++
    indent depth ++ closing

mutual

def laidOut (depth : Nat) : Json → String
  | .array es => block "[" "]" depth (laidOutElements (depth + 1) es)
  | .object fs => block openBrace closeBrace depth (laidOutFields (depth + 1) fs)
  | .null => "null"
  | .bool b => if b then "true" else "false"
  | .int n => toString n
  | .float n => floatText n
  | .string s => stringText s

def laidOutElements (depth : Nat) : List Json → List String
  | [] => []
  | e :: es => e.laidOut depth :: laidOutElements depth es

def laidOutFields (depth : Nat) : List (String × Json) → List String
  | [] => []
  | (k, v) :: fs => (stringText k ++ ": " ++ v.laidOut depth) :: laidOutFields depth fs

end

def text (j : Json) (pretty : Bool) : String :=
  if pretty then j.laidOut 0 else j.compact

end Json

end Conformance
