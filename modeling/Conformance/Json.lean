import Conformance.Entries
import Conformance.Number.Rounding

/-!
# JSON

Trees of JSON with their keys in order. Whole numbers that fit 64 bits are kept as integers,
all others as binary64 numbers.
-/

namespace Conformance

inductive Json where
  | null
  | bool (b : Bool)
  | int (n : Int)
  | float (n : Number)
  | string (s : String)
  | array (elements : List Json)
  | object (fields : List (String × Json))

namespace Json

instance : Inhabited Json := ⟨.null⟩

def fitsUnsigned (n : Int) : Bool := 0 ≤ n && n < 2 ^ 64
def fitsSigned (n : Int) : Bool := -2 ^ 63 ≤ n && n < 2 ^ 63

/-- The integer for a whole number in the signed range, else the number itself; what is not
finite has no JSON form. -/
def ofNumber (n : Number) : Json :=
  if n.isFinite then
    match n.toInt? with
    | some i => if fitsSigned i then .int i else .float n
    | none => .float n
  else .null

def field? (j : Json) (key : String) : Option Json :=
  match j with
  | .object fields => Entries.get? fields key
  | _ => none

/-! ## Pointers

A pointer is empty or a list of reference tokens, each after a slash. In a token a tilde before
0 or 1 stands for a tilde or a slash. Positions are decimals without leading zeros. -/

def unescapeToken : List Char → List Char
  | '~' :: '1' :: cs => '/' :: unescapeToken cs
  | '~' :: '0' :: cs => '~' :: unescapeToken cs
  | c :: cs => c :: unescapeToken cs
  | [] => []

def positionToken? (cs : List Char) : Option Nat :=
  if cs.isEmpty || !cs.all Char.isDigit || (1 < cs.length && cs.head? == some '0') then none
  else some (cs.foldl (fun n c => 10 * n + (c.toNat - '0'.toNat)) 0)

def child? (token : List Char) : Json → Option Json
  | .object fs => Entries.get? fs (String.ofList token)
  | .array es => (positionToken? token).bind (es[·]?)
  | _ => none

def pointer? (j : Json) (pointer : String) : Option Json :=
  match pointer.toList.splitOn '/' with
  | [] :: tokens => tokens.foldlM (fun j token => j.child? (unescapeToken token)) j
  | _ => none

end Json

end Conformance
