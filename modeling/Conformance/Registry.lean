import Conformance.CompileError
import Conformance.Descriptor
import Conformance.Text.Word

/-!
# The registry of shapes

Shapes are named, in the order of their declaration, and keep their places. A shape may be
declared before it is described; it is described once.
-/

namespace Conformance

structure Slot where
  name : String
  description : Option Descriptor

/-- The serial tells the ids of one registry from those of others. -/
structure Registry where
  serial : Nat
  slots : List Slot

/-! ## Names -/

def reservedNames : List String :=
  ["null", "undefined", "create", "check", "getName", "getDescription", "toObject", "toJSON",
    "length", "name", "arguments", "caller", "prototype"]

def isReservedName (word : String) : Bool := reservedNames.contains word

def isTypeToken (word : String) : Bool := (Kind.ofToken? word).isSome

def isNameEdge (c : Char) : Bool := c.isAlphanum

def isNameInner (c : Char) : Bool := c == '-' || c == '.' || wordRanges.contains c

/-- Word characters, hyphens and points between an ASCII letter or digit at either end. -/
def isNameText (s : String) : Bool :=
  match s.toList with
  | [] => false
  | first :: rest => isNameEdge first && (match rest.getLast? with
    | none => true
    | some last => isNameEdge last && rest.dropLast.all isNameInner)

def validName (name : String) : Bool := !isTypeToken name && !isReservedName name && isNameText name

def validateName (name : String) : Except CompileError Unit :=
  if validName name then .ok () else .error (.invalidModelName name)

namespace Registry

/-! ## Looking up -/

def empty (serial : Nat) : Registry := ⟨serial, []⟩

def size (r : Registry) : Nat := r.slots.length

def idAt (r : Registry) (index : Nat) : ShapeId := ⟨r.serial, index⟩

/-- Ids of other registries resolve to nothing. -/
def slot? (r : Registry) (id : ShapeId) : Option Slot :=
  if id.registry = r.serial then r.slots[id.index]? else none

def owns (r : Registry) (id : ShapeId) : Bool := (r.slot? id).isSome

def lookup (r : Registry) (name : String) : Option ShapeId :=
  (r.slots.findIdx? (·.name = name)).map r.idAt

def name? (r : Registry) (id : ShapeId) : Option String := (r.slot? id).map (·.name)

def class? (r : Registry) (id : ShapeId) : Option Class :=
  (r.slot? id).map fun s => .base (.shape id) s.name

/-- Nothing for shapes that are only declared. -/
def description? (r : Registry) (id : ShapeId) : Option Descriptor :=
  (r.slot? id).bind (·.description)

def isDefined (r : Registry) (id : ShapeId) : Bool := (r.description? id).isSome

/-- The shape whose instances carry exactly this class. -/
def lookupClass (r : Registry) (c : Class) : Option ShapeId :=
  match c.id with
  | .shape id => if r.owns id then some id else none
  | .free _ => none

/-! ## Changing -/

/-- Reserves a name. A name that is declared but not described may be declared again. -/
def declare (r : Registry) (name : String) : Except CompileError (Registry × ShapeId) :=
  match r.lookup name with
  | some id => if r.isDefined id then .error (.duplicateModel name) else .ok (r, id)
  | none => do
    validateName name
    .ok ({ r with slots := r.slots ++ [⟨name, none⟩] }, r.idAt r.size)

def define (r : Registry) (id : ShapeId) (d : Descriptor) : Except CompileError Registry :=
  match r.slot? id with
  | none => .error .missingModel
  | some s =>
    if s.description.isSome then .error (.duplicateModel s.name)
    else .ok { r with slots := r.slots.set id.index { s with description := some d } }

end Registry

end Conformance
