import Conformance.Json
import Conformance.Json.Path
import Conformance.Number.Scaled

/-!
# Reading JSON

A reader takes the characters from its position on and answers with a value and the rest. A
failure says at which path reading stopped and whether the text was wrong there or only ended
too early. At most 127 brackets may be open.
-/

namespace Conformance

-- sums start from the zero of the core library
attribute [local instance (high)] Zero.ofOfNat0

namespace Json

inductive Fault where
  | malformed
  | truncated
  deriving DecidableEq

structure Failure where
  path : Path
  fault : Fault

def isBlank (c : Char) : Bool := c == ' ' || c == '\n' || c == '\t' || c == '\r'

def skipBlanks (cs : List Char) : List Char := cs.dropWhile isBlank

def faultAt : List Char → Fault
  | [] => .truncated
  | _ => .malformed

/-! ## Strings -/

def hexDigit? (c : Char) : Option Nat :=
  if c.isDigit then some (c.toNat - '0'.toNat)
  else if 'a' ≤ c && c ≤ 'f' then some (c.toNat - 'a'.toNat + 10)
  else if 'A' ≤ c && c ≤ 'F' then some (c.toNat - 'A'.toNat + 10)
  else none

/-- Four hexadecimal digits. With fewer than four bytes left the text is truncated. -/
def fourDigits : List Char → Except Fault (Nat × List Char)
  | a :: b :: c :: d :: cs =>
    match hexDigit? a, hexDigit? b, hexDigit? c, hexDigit? d with
    | some a, some b, some c, some d => .ok (((a * 16 + b) * 16 + c) * 16 + d, cs)
    | _, _, _, _ => .error .malformed
  | cs => .error (if (cs.map Char.utf8Size).sum < 4 then .truncated else .malformed)

/-- The character of a `u` escape; the halves of a surrogate pair must come together. -/
def unicodeEscape (cs : List Char) : Except Fault (Char × List Char) := do
  let (n, cs) ← fourDigits cs
  if 0xDC00 ≤ n && n ≤ 0xDFFF then .error .malformed
  else if 0xD800 ≤ n && n ≤ 0xDBFF then
    match cs with
    | '\\' :: 'u' :: cs =>
      let (low, cs) ← fourDigits cs
      if 0xDC00 ≤ low && low ≤ 0xDFFF then
        .ok (Char.ofNat (0x10000 + (n - 0xD800) * 0x400 + (low - 0xDC00)), cs)
      else .error .malformed
    | [] | ['\\'] => .error .truncated
    | _ => .error .malformed
  else .ok (Char.ofNat n, cs)

def simpleEscape? : Char → Option Char
  | '"' => some '"'
  | '\\' => some '\\'
  | '/' => some '/'
  | 'b' => some '\x08'
  | 'f' => some '\x0c'
  | 'n' => some '\n'
  | 'r' => some '\r'
  | 't' => some '\t'
  | _ => none

def stringBody : Nat → List Char → List Char → Except Fault (String × List Char)
  | 0, _, _ => .error .truncated
  | fuel + 1, done, cs =>
    match cs with
    | [] => .error .truncated
    | '"' :: cs => .ok (String.ofList done.reverse, cs)
    | '\\' :: [] => .error .truncated
    | '\\' :: 'u' :: cs => do
      let (c, cs) ← unicodeEscape cs
      stringBody fuel (c :: done) cs
    | '\\' :: c :: cs =>
      match simpleEscape? c with
      | some c => stringBody fuel (c :: done) cs
      | none => .error .malformed
    | c :: cs => if c.toNat < 0x20 then .error .malformed else stringBody fuel (c :: done) cs

def readString (cs : List Char) : Except Fault (String × List Char) :=
  stringBody (cs.length + 1) [] cs

/-! ## Numbers -/

def digitValues (ds : List Char) : List Nat := ds.map fun c => c.toNat - '0'.toNat

def digitsValue (ds : List Char) : Nat := (digitValues ds).foldl (fun n d => 10 * n + d) 0

def someDigits (cs : List Char) : Except Fault (List Char × List Char) :=
  let ds := cs.takeWhile Char.isDigit
  let rest := cs.drop ds.length
  if ds.isEmpty then .error (faultAt rest) else .ok (ds, rest)

def wholeDigits (cs : List Char) : Except Fault (List Char × List Char) := do
  let (ds, rest) ← someDigits cs
  if 1 < ds.length && ds.head? == some '0' then .error .malformed else .ok (ds, rest)

def readExponent (cs : List Char) : Except Fault (Int × List Char) := do
  let (negative, cs) := match cs with
    | '-' :: r => (true, r)
    | '+' :: r => (false, r)
    | _ => (false, cs)
  let (ds, rest) ← someDigits cs
  .ok (if negative then -(digitsValue ds : Int) else digitsValue ds, rest)

/-- A whole number in range is an integer. A number beyond the largest finite one is refused,
and the zero with a minus sign is no integer. -/
def readNumber (cs : List Char) : Except Fault (Json × List Char) := do
  let (negative, cs) := match cs with
    | '-' :: r => (true, r)
    | _ => (false, cs)
  let (whole, cs) ← wholeDigits cs
  let (fraction, cs) ← match cs with
    | '.' :: r => someDigits r
    | _ => .ok ([], cs)
  let (exponent, plain, cs) ← match cs with
    | 'e' :: r | 'E' :: r => do
      let (e, r) ← readExponent r
      .ok (e, false, r)
    | _ => .ok (0, fraction.isEmpty, cs)
  let n := digitsValue (whole ++ fraction)
  let signed : Int := if negative then -n else n
  if plain && !(negative && n = 0) && (if negative then fitsSigned signed else fitsUnsigned signed)
  then .ok (.int signed, cs)
  else
    let x := Number.ofDigits negative (digitValues whole) (digitValues fraction) exponent
    if x.isFinite then .ok (.float x, cs) else .error .malformed

/-! ## Values -/

def word : List Char → List Char → Except Fault (List Char)
  | [], cs => .ok cs
  | _ :: _, [] => .error .truncated
  | w :: ws, c :: cs => if w = c then word ws cs else .error .malformed

def deepest : Nat := 127

def located {α : Type} (p : Path) : Except Fault α → Except Failure α
  | .ok a => .ok a
  | .error f => .error ⟨p, f⟩

mutual

def readValue : Nat → Nat → Path → List Char → Except Failure (Json × List Char)
  | 0, _, p, _ => .error ⟨p, .truncated⟩
  | fuel + 1, depth, p, cs =>
    match skipBlanks cs with
    | [] => .error ⟨p, .truncated⟩
    | 'n' :: cs => located p ((word ['u', 'l', 'l'] cs).map fun cs => (.null, cs))
    | 't' :: cs => located p ((word ['r', 'u', 'e'] cs).map fun cs => (.bool true, cs))
    | 'f' :: cs => located p ((word ['a', 'l', 's', 'e'] cs).map fun cs => (.bool false, cs))
    | '"' :: cs => located p ((readString cs).map fun (s, cs) => (.string s, cs))
    | '[' :: cs =>
      if depth = deepest then .error ⟨p, .malformed⟩
      else readElements fuel (depth + 1) p [] cs
    | '{' :: cs =>
      if depth = deepest then .error ⟨p, .malformed⟩
      else do
        let (fields, cs) ← readFields fuel (depth + 1) p [] cs
        .ok (.object fields, cs)
    | c :: cs =>
      if c == '-' || c.isDigit then located p (readNumber (c :: cs)) else .error ⟨p, .malformed⟩

/-- The elements of an array after its bracket or after `done`. What is wrong between elements
is wrong with the array. -/
def readElements : Nat → Nat → Path → List Json → List Char → Except Failure (Json × List Char)
  | 0, _, p, _, _ => .error ⟨p, .truncated⟩
  | fuel + 1, depth, p, done, cs => do
    let element := fun cs => do
      let (e, cs) ← readValue fuel depth (p.index done.length) cs
      readElements fuel depth p (e :: done) cs
    match skipBlanks cs, done with
    | ']' :: cs, _ => .ok (.array done.reverse, cs)
    | [], _ => .error ⟨p, .truncated⟩
    | ',' :: cs, _ :: _ =>
      match skipBlanks cs with
      | [] => .error ⟨p, .truncated⟩
      | ']' :: _ => .error ⟨p, .malformed⟩
      | cs => element cs
    | cs, [] => element cs
    | _, _ :: _ => .error ⟨p, .malformed⟩

/-- The fields of an object after its brace or after the first ones: a key may come again, its
last value then stands at its first place. A key without a colon is wrong with the object. -/
def readFields : Nat → Nat → Path → Entries Json → List Char →
    Except Failure (Entries Json × List Char)
  | 0, _, p, _, _ => .error ⟨p, .truncated⟩
  | fuel + 1, depth, p, done, cs => do
    let field := fun cs => do
      let (key, cs) ← located p.unknown (readString cs)
      match skipBlanks cs with
      | ':' :: cs =>
        let (value, cs) ← readValue fuel depth (p.key key) cs
        readFields fuel depth p (Entries.insert done key value) cs
      | cs => .error ⟨p, faultAt cs⟩
    match skipBlanks cs, done with
    | '}' :: cs, _ => .ok (done, cs)
    | ',' :: cs, _ :: _ =>
      match skipBlanks cs with
      | '"' :: cs => field cs
      | cs => .error ⟨p.unknown, faultAt cs⟩
    | '"' :: cs, [] => field cs
    | cs, _ => .error ⟨p.unknown, faultAt cs⟩

end

def parse (s : String) : Except Fault Json := do
  let cs := s.toList
  match readValue (2 * cs.length + 2) 0 .root cs with
  | .error f => .error f.fault
  | .ok (j, rest) => if (skipBlanks rest).isEmpty then .ok j else .error .malformed

end Json

end Conformance
