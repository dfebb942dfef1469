import Conformance.Compile
import Conformance.Declaration.Document
import Conformance.Value.Json

/-!
# Loading declarations

A string node is a type token, `[]` and `[x]` are arrays, an object with `$type` or `$mix` is a
directive that carries options, and any other object is a keyed map. Every name of a document
is declared before its first model is compiled, so models may refer to each other in any order.
A document is loaded as a whole or not at all.
-/

namespace Conformance

variable [RegexEngine]

inductive DeclarationError where
  | document (text : List Char) (e : DocumentError)
  | compile (p : Path) (e : CompileError)

/-- Stands for the reasons why a text is no JSON. -/
def jsonFault : String := "<json error>"

namespace DeclarationError

def path : DeclarationError → Path
  | .document _ (.json f) => f.path
  | .document _ (.misfit p ..) => p
  | .compile p _ => p

def reason : DeclarationError → String
  | .document _ (.json _) => jsonFault
  | .document text (.misfit _ m rest) =>
    let (line, column) := Document.position text rest
    m.text ++ " at line " ++ line.repr ++ " column " ++ column.repr
  | .compile _ e => e.message

def message (e : DeclarationError) : String :=
  (match e with
    | .document .. => "at JSON path "
    | .compile .. => "at ") ++ e.path.text ++ " → " ++ e.reason

end DeclarationError

def invalid {α : Type} (p : Path) (reason : String) : Except DeclarationError α :=
  .error (.compile p (.invalidSchema reason))

def located {α : Type} (p : Path) : Except CompileError α → Except DeclarationError α
  | .ok a => .ok a
  | .error e => .error (.compile p e)

/-! ## Options of directives -/

def directives : List String :=
  ["$type", "$mix", "$required", "$allowNull", "$matchOnce", "$default", "$validator", "$strategy"]

def flag (fields : Entries Json) (key : String) (p : Path) : Except DeclarationError (Option Bool) :=
  match Entries.get? fields key with
  | none => .ok none
  | some (.bool b) => .ok (some b)
  | some _ => invalid p (inQuotes key ++ " must be a boolean")

def unslashed? (s : String) : Option String :=
  match s.toList with
  | '/' :: rest =>
    match rest.reverse with
    | '/' :: inner => some (String.ofList inner.reverse)
    | _ => none
  | _ => none

def validatorPattern (s : String) (p : Path) : Except DeclarationError Regex :=
  match unslashed? s with
  | none => invalid p ("validator " ++ quoted s ++ " is not written as /.../")
  | some inner =>
    match Regex.compile? inner with
    | some r => .ok r
    | none => invalid p ("validator " ++ quoted s ++ ": " ++ regexFault)

def readValidator (fields : Entries Json) (p : Path) : Except DeclarationError (Option Validator) :=
  match Entries.get? fields "$validator" with
  | none => .ok none
  | some (.string s) => do .ok (some (.pattern (← validatorPattern s p)))
  | some _ => invalid p "\"$validator\" must be a \"/.../\" pattern string"

def readStrategy (fields : Entries Json) (p : Path) : Except DeclarationError (Option Strategy) :=
  match Entries.get? fields "$strategy" with
  | none => .ok none
  | some (.string name) =>
    match Strategy.ofName? name with
    | some s => .ok (some s)
    | none => .error (.compile p (.unknownStrategy name))
  | some _ => invalid p "\"$strategy\" must be a string"

def readOptions (fields : Entries Json) (p : Path) : Except DeclarationError Options := do
  let required ← flag fields "$required" p
  let allowNull ← flag fields "$allowNull" p
  let matchOnce ← flag fields "$matchOnce" p
  let default := (Entries.get? fields "$default").map fun j => .constant (Value.ofJson j)
  let validator ← readValidator fields p
  let strategy ← readStrategy fields p
  .ok { required, allowNull := allowNull == some true, matchOnce := matchOnce == some true,
        default, validator, strategy }

/-! ## Nodes -/

def startsWithDollar (key : String) : Bool := key.toList.head? == some '$'

/-- The mistakes of a directive that show before its parts are read. -/
def checkDirective (fields : Entries Json) (p : Path) : Except DeclarationError Unit :=
  match (Entries.keys fields).find? fun k => !directives.contains k with
  | some unknown => invalid p ("unknown directive " ++ inQuotes unknown)
  | none =>
    match Entries.get? fields "$type", Entries.get? fields "$mix" with
    | some _, some _ => invalid p "\"$type\" and \"$mix\" are exclusive"
    | none, some (.array _) | some _, none => .ok ()
    | none, some _ => invalid p "\"$mix\" takes an array of alternatives"
    | none, none => invalid p "a directive needs \"$type\" or \"$mix\""

def isDirective (fields : Entries Json) : Bool :=
  (Entries.get? fields "$type").isSome || (Entries.get? fields "$mix").isSome

mutual

/-- The declaration of a node. Directives are compiled at once, since only a descriptor carries
options. -/
def lower (r : Registry) (p : Path) : Json → Except DeclarationError Source
  | .string name => .ok (.token name)
  | .array [] => .ok .openArray
  | .array [item] => do .ok (.arrayOf (← lower r (p.index 0) item))
  | .array (_ :: _ :: _) => invalid p "an array declaration takes at most one item declaration"
  | .object fields =>
    if isDirective fields then do
      checkDirective fields p
      let source ← lowerSubject r p fields
      let options ← readOptions fields p
      .ok (.described (← located p (r.compile source options)))
    else do .ok (.keyed (← lowerFields r p fields))
  | .null => invalid p "null is not a declaration"
  | .bool b => invalid p ((Json.bool b).compact ++ " is not a declaration")
  | .int n => invalid p ((Json.int n).compact ++ " is not a declaration")
  | .float n => invalid p ((Json.float n).compact ++ " is not a declaration")

def lowerFields (r : Registry) (p : Path) :
    List (String × Json) → Except DeclarationError (List (String × Source))
  | [] => .ok []
  | (key, node) :: rest =>
    if startsWithDollar key then
      invalid p (inQuotes key ++ " needs a \"$type\" or \"$mix\" next to it")
    else do
      let s ← lower r (p.key key) node
      let ss ← lowerFields r p rest
      .ok ((key, s) :: ss)

def lowerSubject (r : Registry) (p : Path) : List (String × Json) → Except DeclarationError Source
  | [] => invalid p "a directive needs \"$type\" or \"$mix\""
  | (key, node) :: rest =>
    if key = "$type" then lower r (p.key key) node
    else if key = "$mix" then
      match node with
      | .array alternatives => do .ok (.mix (← lowerAlternatives r (p.key key) 0 alternatives))
      | _ => invalid p "\"$mix\" takes an array of alternatives"
    else lowerSubject r p rest

def lowerAlternatives (r : Registry) (p : Path) (i : Nat) :
    List Json → Except DeclarationError (List Source)
  | [] => .ok []
  | node :: rest => do
    let s ← lower r (p.index i) node
    let ss ← lowerAlternatives r p (i + 1) rest
    .ok (s :: ss)

end

/-! ## Documents -/

def modelPath (name : String) : Path := (Path.key .root "models").key name

namespace Registry

def declareAll (r : Registry) : List String → Except DeclarationError Registry
  | [] => .ok r
  | name :: names => do
    let (r, _) ← located (modelPath name) (r.declare name)
    r.declareAll names

def defineAll (r : Registry) : List (String × Json) → Except DeclarationError (Registry × List ShapeId)
  | [] => .ok (r, [])
  | (name, node) :: rest => do
    let source ← lower r (modelPath name) node
    let (r, id) ← located (modelPath name) (r.model name source)
    let (r, ids) ← r.defineAll rest
    .ok (r, id :: ids)

def loadModels (r : Registry) (models : Entries Json) :
    Except DeclarationError (Registry × List ShapeId) := do
  let r ← r.declareAll (Entries.keys models)
  r.defineAll models

/-- Registers every model of a document, in its order. -/
def load (r : Registry) (text : String) : Except DeclarationError (Registry × List ShapeId) :=
  match Document.read text.toList with
  | .ok models => r.loadModels models
  | .error e => .error (.document text.toList e)

end Registry

end Conformance
