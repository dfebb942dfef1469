import Conformance.Convert
import Conformance.Value.Json

/-!
# Shapes

A described shape of a registry checks candidates, makes instances, changes them and turns
them back into plain values and JSON text.
-/

namespace Conformance

inductive ShapeError where
  | invalidObject
  | notAnInstance (model : Option String)
  | unknownShape (name : String)
  | undeclaredKey (model key : String)
  | rejectedUpdate (model key : String)
  /-- Defaults need each other without end. -/
  | endlessDefault

namespace ShapeError

def message : ShapeError → String
  | .invalidObject => "Invalid object."
  | .notAnInstance (some name) => "Object is not an instance of the model " ++ inQuotes name ++ "."
  | .notAnInstance none => "Object is not an instance of any model."
  | .unknownShape name => "No shape registered under " ++ inQuotes name ++ "."
  | .undeclaredKey model key =>
    "Key " ++ inQuotes key ++ " is not declared by model " ++ inQuotes model ++ "."
  | .rejectedUpdate model key =>
    "Update of " ++ inQuotes key ++ " rejected by model " ++ inQuotes model ++ "."
  | .endlessDefault => "Defaults need each other without end."

end ShapeError

def ended {α : Type} : Option α → Except ShapeError α
  | some a => .ok a
  | none => .error .endlessDefault

structure Shape where
  registry : Registry
  id : ShapeId
  name : String
  description : Descriptor

namespace Registry

/-- Nothing for ids that are unknown or only declared. -/
def shape? (r : Registry) (id : ShapeId) : Option Shape := do
  let s ← r.slot? id
  let d ← s.description
  some ⟨r, id, s.name, d⟩

def named? (r : Registry) (name : String) : Option Shape := (r.lookup name).bind r.shape?

def shapeOf? (r : Registry) (i : Instance) : Option Shape := (r.lookupClass i.cls).bind r.shape?

end Registry

namespace Shape

def cls (s : Shape) : Class := .base (.shape s.id) s.name

def check (s : Shape) (candidate : Value) : Bool := s.registry.checkShape s.id candidate

/-- A new instance of a candidate that passes the check; an instance stays what it is. -/
def create (s : Shape) (candidate : Value) : Except ShapeError Instance :=
  if s.check candidate then
    match candidate with
    | .inst c fs =>
      if c.same s.cls then .ok ⟨c, fs⟩
      else do .ok ⟨s.cls, ← ended (s.registry.buildFields candidate s.description)⟩
    | _ => do .ok ⟨s.cls, ← ended (s.registry.buildFields candidate s.description)⟩
  else .error .invalidObject

def owns (s : Shape) (i : Instance) : Except ShapeError Unit :=
  if i.cls.same s.cls then .ok () else .error (.notAnInstance (some s.name))

def toObject (s : Shape) (i : Instance) : Except ShapeError Value := do
  s.owns i
  ended (s.registry.toPlain i s.description)

def toJsonText (s : Shape) (i : Instance) (pretty : Bool) : Except ShapeError String := do
  .ok ((← s.toObject i).toJson.text pretty)

/-- Sets one key of an instance. The fields are checked with the value as it is given; what is
stored is its conversion under the description of the key. -/
def update (s : Shape) (i : Instance) (key : String) (v : Value) : Except ShapeError Instance := do
  s.owns i
  match s.description.describeKey? key with
  | none => .error (.undeclaredKey s.name key)
  | some d =>
    let staged := Entries.insert i.fields key v
    if s.registry.accepts (.object staged) s.description then
      .ok ⟨i.cls, Entries.insert staged key (← ended (s.registry.convert .instances v d))⟩
    else .error (.rejectedUpdate s.name key)

end Shape

namespace Registry

def toObject (r : Registry) (i : Instance) : Except ShapeError Value :=
  match r.shapeOf? i with
  | some s => s.toObject i
  | none => .error (.notAnInstance none)

def toJsonText (r : Registry) (i : Instance) (pretty : Bool) : Except ShapeError String :=
  match r.shapeOf? i with
  | some s => s.toJsonText i pretty
  | none => .error (.notAnInstance none)

end Registry

end Conformance
