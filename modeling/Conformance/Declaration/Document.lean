import Conformance.Json.Printer
import Conformance.Json.Reader
import Conformance.Text.Quoted

/-!
# Declaration documents

A document is an object with the one field `models`, a map from names to declarations, or an
array with that map as its one element. It is read as far as it goes, so a document of the
wrong form is refused where the form goes wrong, and text after the document is not looked at.
-/

namespace Conformance

-- sums start from the zero of the core library
attribute [local instance (high)] Zero.ofOfNat0

inductive Misfit where
  | wrongType (found expected : String)
  | unknownField (name : String)
  | duplicateField
  | missingField
  | missingElement

def Misfit.text : Misfit → String
  | .wrongType found expected => "invalid type: " ++ found ++ ", expected " ++ expected
  | .unknownField name => "unknown field `" ++ name ++ "`, expected `models`"
  | .duplicateField => "duplicate field `models`"
  | .missingField => "missing field `models`"
  | .missingElement => "invalid length 0, expected struct Document with 1 element"

inductive DocumentError where
  | json (f : Json.Failure)
  /-- A misfit at a path, with the characters that were not read yet. -/
  | misfit (p : Path) (m : Misfit) (rest : List Char)

namespace Document

open Json

/-! ## Positions -/

/-- Lines from one on, columns in bytes, of what has been read. -/
def position (text rest : List Char) : Nat × Nat :=
  let read := text.take (text.length - rest.length)
  let column := (read.reverse.takeWhile (· != '\n')).map Char.utf8Size
  (read.count '\n' + 1, column.sum)

/-! ## Reading -/

def failAt {α : Type} (p : Path) (cs : List Char) : Except DocumentError α :=
  .error (.json ⟨p, faultAt cs⟩)

def orFail {α : Type} (p : Path) : Except Fault α → Except DocumentError α
  | .ok a => .ok a
  | .error f => .error (.json ⟨p, f⟩)

/-- The misfit of a value that is not of the expected type. Scalars are read to their end,
brackets are only looked at. -/
def wrongType {α : Type} (p : Path) (expected : String) (cs : List Char) : Except DocumentError α := do
  let (found, rest) ← orFail p (match cs with
    | 'n' :: r => (word ['u', 'l', 'l'] r).map fun r => ("null", r)
    | 't' :: r => (word ['r', 'u', 'e'] r).map fun r => ("boolean `true`", r)
    | 'f' :: r => (word ['a', 'l', 's', 'e'] r).map fun r => ("boolean `false`", r)
    | '"' :: r => (readString r).map fun (s, r) => ("string " ++ quoted s, r)
    | '[' :: _ => .ok ("sequence", cs)
    | '{' :: _ => .ok ("map", cs)
    | c :: _ =>
      if c == '-' || c.isDigit then (readNumber cs).map fun
        | (.float n, r) => ("floating point `" ++ floatText n ++ "`", r)
        | (j, r) => ("integer `" ++ j.compact ++ "`", r)
      else .error .malformed
    | [] => .error .truncated)
  .error (.misfit p (.wrongType found expected) rest)

def readModels (p : Path) (cs : List Char) : Except DocumentError (Entries Json × List Char) :=
  match skipBlanks cs with
  | [] => failAt p []
  | '{' :: cs =>
    match readFields (2 * cs.length + 2) 2 p [] cs with
    | .ok r => .ok r
    | .error f => .error (.json f)
  | cs => wrongType p "a map" cs

/-- An object that goes wrong after a key is still looked at for its closing brace. -/
def closing (cs : List Char) : List Char :=
  match skipBlanks cs with
  | '}' :: cs => cs
  | cs => cs

def readRoot : Nat → Bool → Option (Entries Json) → List Char → Except DocumentError (Entries Json)
  | 0, _, _, _ => failAt .root []
  | fuel + 1, first, models, cs =>
    let field := fun (cs : List Char) => do
      let (name, cs) ← orFail (Path.unknown .root) (readString cs)
      if name ≠ "models" then
        .error (.misfit (Path.key .root name) (.unknownField name) (closing cs))
      else if models.isSome then .error (.misfit .root .duplicateField (closing cs))
      else match skipBlanks cs with
        | ':' :: cs => do
          let (models, cs) ← readModels (Path.key .root name) cs
          readRoot fuel false (some models) cs
        | cs => failAt .root cs
    match skipBlanks cs, first with
    | '}' :: cs, _ =>
      match models with
      | some models => .ok models
      | none => .error (.misfit .root .missingField cs)
    | '"' :: cs, true => field cs
    | ',' :: cs, false =>
      match skipBlanks cs with
      | '"' :: cs => field cs
      | cs => failAt (Path.unknown .root) cs
    | cs, _ => failAt (Path.unknown .root) cs

def read (cs : List Char) : Except DocumentError (Entries Json) :=
  match skipBlanks cs with
  | [] => failAt .root []
  | '{' :: cs => readRoot (cs.length + 1) true none cs
  | '[' :: cs =>
    match skipBlanks cs with
    | [] => failAt .root []
    | ']' :: cs => .error (.misfit .root .missingElement cs)
    | cs => do
      let (models, cs) ← readModels (Path.index .root 0) cs
      match skipBlanks cs with
      | ']' :: _ => .ok models
      | cs => failAt .root cs
  | cs => wrongType .root "struct Document" cs

end Document

end Conformance
