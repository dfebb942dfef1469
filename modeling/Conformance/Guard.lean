import Conformance.Check
import Conformance.Declaration

/-!
# Guards

A guard keeps its registry in two tables that change in place: names with the ids they stand for,
and cells at the places of the ids. A cell has the class of its shape, which is told from all others
by the id of the cell.

A call that fails half-way has to undo what it did. A model whose schema does not compile gives up
the cell that was reserved for it; a document is loaded into a copy that replaces the guard at the
end. So nobody has seen the class of a cell that is given up, and the next cell with its id may have
the same one.
-/

namespace Conformance

variable [RegexEngine]

structure Cell where
  name : String
  cls : Class
  description : Option Descriptor

structure Guard where
  serial : Nat
  names : Entries ShapeId
  cells : List Cell

namespace Guard

def empty (serial : Nat) : Guard := ⟨serial, [], []⟩

/-! ## Looking up -/

def idAt (g : Guard) (index : Nat) : ShapeId := ⟨g.serial, index⟩

def cell? (g : Guard) (id : ShapeId) : Option Cell :=
  if id.registry = g.serial then g.cells[id.index]? else none

def owns (g : Guard) (id : ShapeId) : Bool := (g.cell? id).isSome

def lookup (g : Guard) (name : String) : Option ShapeId := Entries.get? g.names name

def name? (g : Guard) (id : ShapeId) : Option String := (g.cell? id).map (·.name)

def class? (g : Guard) (id : ShapeId) : Option Class := (g.cell? id).map (·.cls)

def description? (g : Guard) (id : ShapeId) : Option Descriptor := (g.cell? id).bind (·.description)

def isDefined (g : Guard) (id : ShapeId) : Bool := (g.description? id).isSome

def lookupClass (g : Guard) (c : Class) : Option ShapeId := (g.cells.findIdx? fun k => k.cls.same c).map g.idAt

/-- What compiling, checking and converting read of a guard. -/
def registry (g : Guard) : Registry := ⟨g.serial, g.cells.map fun c => ⟨c.name, c.description⟩⟩

def matches? (g : Guard) (v : Value) (d : Descriptor) : Bool := g.registry.matches? (some v) d

/-! ## Changing the tables -/

def define (g : Guard) (id : ShapeId) (d : Descriptor) : Except CompileError Unit × Guard :=
  match g.cell? id with
  | none => (.error .missingModel, g)
  | some c =>
    if c.description.isSome then (.error (.duplicateModel c.name), g)
    else (.ok (), { g with cells := g.cells.set id.index { c with description := some d } })

/-- Forgets a shape that is not described. Only the last cell can be given up, so the others keep
their places. -/
def retract (g : Guard) (id : ShapeId) : Guard :=
  if id.index + 1 = g.cells.length ∧ (g.cell? id).any (·.description.isNone) then
    match g.cells.getLast? with
    | some c => { g with cells := g.cells.dropLast, names := g.names.eraseP (·.1 = c.name) }
    | none => g
  else g

/-! ## Calls -/

def reserve (g : Guard) (name : String) : Guard :=
  let id := g.idAt g.cells.length
  { g with
    names := Entries.insert g.names name id
    cells := g.cells ++ [⟨name, .base (.shape id) name, none⟩] }

def declare (g : Guard) (name : String) : Except CompileError ShapeId × Guard :=
  match g.lookup name with
  | some id => if g.isDefined id then (.error (.duplicateModel name), g) else (.ok id, g)
  | none =>
    match validateName name with
    | .error e => (.error e, g)
    | .ok () => (.ok (g.idAt g.cells.length), g.reserve name)

/-- Registers a shape. A name that was not reserved before is given up if the schema does not
compile. -/
def model (g : Guard) (name : String) (s : Source) : Except CompileError ShapeId × Guard :=
  let known := (g.lookup name).isSome
  match g.declare name with
  | (.error e, g) => (.error e, g)
  | (.ok id, g) =>
    match g.registry.compileTopLevel s with
    | .error e => (.error e, if known then g else g.retract id)
    | .ok d =>
      match g.define id d with
      | (.error e, g) => (.error e, g)
      | (.ok (), g) => (.ok id, g)

def declareAll (g : Guard) : List String → Except DeclarationError Unit × Guard
  | [] => (.ok (), g)
  | name :: names =>
    match g.declare name with
    | (.error e, g) => (.error (.compile (modelPath name) e), g)
    | (.ok _, g) => g.declareAll names

def modelAll (g : Guard) : List (String × Json) → Except DeclarationError (List ShapeId) × Guard
  | [] => (.ok [], g)
  | (name, node) :: rest =>
    match lower g.registry (modelPath name) node with
    | .error e => (.error e, g)
    | .ok s =>
      match g.model name s with
      | (.error e, g) => (.error (.compile (modelPath name) e), g)
      | (.ok id, g) =>
        match g.modelAll rest with
        | (.error e, g) => (.error e, g)
        | (.ok ids, g) => (.ok (id :: ids), g)

def loadModels (g : Guard) (models : Entries Json) : Except DeclarationError (List ShapeId) × Guard :=
  match g.declareAll (Entries.keys models) with
  | (.error e, g) => (.error e, g)
  | (.ok (), g) => g.modelAll models

/-- Registers the models of a document in a copy of the guard, which replaces it at the end. -/
def load (g : Guard) (text : String) : Except DeclarationError (List ShapeId) × Guard :=
  match Document.read text.toList with
  | .error e => (.error (.document text.toList e), g)
  | .ok models =>
    match g.loadModels models with
    | (.error e, _) => (.error e, g)
    | (.ok ids, copy) => (.ok ids, copy)

end Guard

inductive Call where
  | declare (name : String)
  | model (name : String) (s : Source)
  | value (s : Source) (o : Options)
  | load (text : String)

inductive Reply where
  | issued (ids : List ShapeId)
  | compiled (d : Descriptor)
  | refused (e : CompileError)
  | unloaded (e : DeclarationError)
  | unknown

def Reply.ids : Reply → List ShapeId
  | .issued ids => ids
  | .compiled _ | .refused _ | .unloaded _ | .unknown => []

def Reply.of {ε α : Type} (granted : α → Reply) (denied : ε → Reply) : Except ε α → Reply
  | .ok a => granted a
  | .error e => denied e

def Guard.call (g : Guard) : Call → Reply × Guard
  | .declare name => (g.declare name).map (.of (fun id => .issued [id]) .refused) id
  | .model name s => (g.model name s).map (.of (fun id => .issued [id]) .refused) id
  | .value s o => (.of .compiled .refused (g.registry.compile s o), g)
  | .load text => (g.load text).map (.of .issued .unloaded) id

namespace Registry

/-- The registry stays as it was where the answer is an error. -/
def settle {ε α : Type} (r : Registry) (granted : α → Reply) (denied : ε → Reply) :
    Except ε (Registry × α) → Reply × Registry
  | .ok (r', a) => (granted a, r')
  | .error e => (denied e, r)

/-- The same calls on a registry. -/
def call (r : Registry) : Call → Reply × Registry
  | .declare name => r.settle (fun id => .issued [id]) .refused (r.declare name)
  | .model name s => r.settle (fun id => .issued [id]) .refused (r.model name s)
  | .value s o => (.of .compiled .refused (r.compile s o), r)
  | .load text => r.settle .issued .unloaded (r.load text)

end Registry

/-! ## Several guards -/

/-- Guards in the order in which they were opened. All take their serials from one source. -/
structure World where
  guards : List Guard
  serial : Nat

inductive Request where
  | opening
  | call (guard : Nat) (c : Call)

namespace World

def empty : World := ⟨[], 1⟩

def step (w : World) : Request → Reply × World
  | .opening => (.issued [], { w with guards := w.guards ++ [.empty w.serial], serial := w.serial + 1 })
  | .call k c =>
    match w.guards[k]? with
    | none => (.unknown, w)
    | some g =>
      let (reply, g) := g.call c
      (reply, { w with guards := w.guards.set k g })

def run (w : World) (requests : List Request) : World := requests.foldl (fun w q => (w.step q).2) w

/-- The guards after a run of requests. -/
def after (requests : List Request) : World := empty.run requests

end World

end Conformance
