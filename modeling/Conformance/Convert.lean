import Conformance.Check

/-!
# Conversion

A value is walked alongside its descriptor. Missing keys get their defaults, keys that the
schema does not claim are dropped, and nested shapes follow their own descriptions. The walk
either makes instances of nested shapes or flattens instances into plain objects.

A default is converted under the descriptor that carries it. Defaults that need each other in
turn never come to an end; the depth of such needs is counted, and there is no result when it
runs out.
-/

namespace Conformance

-- sums start from the zero of the core library
attribute [local instance (high)] Zero.ofOfNat0

inductive Target where
  | plain
  | instances
  deriving DecidableEq

/-! ## Without a descriptor -/

mutual

/-- The value with every instance in it made a plain object. -/
def Value.flatten : Value → Value
  | .array es => .array (flattenElements es)
  | .object fs => .object (flattenFields fs)
  | .inst _ fs => .object (flattenFields fs)
  | v => v

def flattenElements : List Value → List Value
  | [] => []
  | v :: vs => v.flatten :: flattenElements vs

def flattenFields : List (String × Value) → List (String × Value)
  | [] => []
  | (k, v) :: fs => (k, v.flatten) :: flattenFields fs

end

/-- A copy that no descriptor guides. -/
def Target.copy : Target → Value → Value
  | .plain, v => v.flatten
  | .instances, v => v

/-! ## Under a descriptor -/

structure Part where
  value : Value
  convert : Descriptor → Option Value

/-- What a missing key gets: nothing, or its converted default. -/
abbrev Absent := Descriptor → Option (Option Value)

/-- The entries that one claim adds: a claimed field under its own key, or the default under an
exact key. -/
def convertClaim (absent : Absent) (fields : Entries Value) :
    (KeyMatcher × Descriptor) × Entries Part → Option (Entries Value)
  | ((.exact key, d), []) => do
    match ← absent d with
    | some v => some (Entries.insert fields key v)
    | none => some fields
  | ((_, d), taken) =>
    taken.foldlM (fun fields (key, part) => do
      some (Entries.insert fields key (← part.convert d))) fields

/-- The fields of an object under a schema, in the order of the entries that claim them. -/
def convertFields (absent : Absent) (once : Bool) (schema : Schema) (fields : Entries Part) :
    Option (Entries Value) :=
  (claims once schema fields).1.foldlM (convertClaim absent) []

/-- The content of an instance under the description of its shape, made plain. That of an
array-shaped one is the list of its elements. -/
def plainContent (absent : Absent) (fields : Entries Part) : Descriptor → Option Value
  | .keyed schema t => (convertFields absent t.matchOnce schema fields).map .object
  | .arrayOf items _ => (fields.mapM fun (f : String × Part) => f.2.convert items).map .array
  | .openArray _ => some (.array (fields.map fun f => f.2.value.flatten))
  | _ => some (.object (fields.map fun f => (f.1, f.2.value.flatten)))

mutual

/-- The conversion of the value `v`, given those of its parts, of shapes it may have, and of
missing keys. A union converts as the first choice that accepts the value. -/
def convertNode (target : Target) (v : Value) (accepted : Descriptor → Bool) (elements : List Part)
    (fields : Entries Part) (absent : Absent) (shape : ShapeId → Option Value) :
    Descriptor → Option Value
  | .keyed schema t =>
    if v.fields?.isSome then (convertFields absent t.matchOnce schema fields).map .object
    else some (target.copy v)
  | .arrayOf items _ =>
    if v.isArray then (elements.mapM fun (e : Part) => e.convert items).map .array
    else some (target.copy v)
  | .model id _ => if v.isNull then some .null else shape id
  | .mix choices s _ =>
    if v.isNull || s = .not then some (target.copy v)
    else convertChoice target v accepted elements fields absent shape choices
  | .primitive .. | .openArray _ | .openObject _ | .cls .. => some (target.copy v)

def convertChoice (target : Target) (v : Value) (accepted : Descriptor → Bool)
    (elements : List Part) (fields : Entries Part) (absent : Absent) (shape : ShapeId → Option Value) :
    List Descriptor → Option Value
  | [] => some (target.copy v)
  | d :: ds =>
    if accepted d then convertNode target v accepted elements fields absent shape d
    else convertChoice target v accepted elements fields absent shape ds

end

/-- Converted content as an instance; elements stand under their positions. -/
def instantiate (target : Target) (c : Class) (v : Value) : Value :=
  match target, v with
  | .instances, .object fs => .inst c fs
  | .instances, .array es => .inst c (Entries.indexed es)
  | _, v => v

namespace Registry

/-- The value as the shape `id`, if it may meet `n` more shapes. An instance of the shape stays
or is flattened under its description. -/
def convertShape (r : Registry) (target : Target) (v : Value) (elements : List Part)
    (fields : Entries Part) (absent : Absent) : Nat → ShapeId → Option Value
  | 0, _ => none
  | n + 1, id =>
    match r.class? id, r.description? id with
    | some c, some d =>
      if v.carries c then
        match target with
        | .instances => some v
        | .plain => plainContent absent fields d
      else
        (convertNode target v (r.accepts v) elements fields absent
          (r.convertShape target v elements fields absent n) d).map (instantiate target c)
    | _, _ => some (target.copy v)

mutual

/-- The conversion of a value, given those of missing keys. -/
def convertWith (r : Registry) (target : Target) (absent : Absent) :
    Value → Descriptor → Option Value
  | .array es, d =>
    let parts := r.parts target absent es
    let v := .array es
    convertNode target v (r.accepts v) parts [] absent
      (r.convertShape target v parts [] absent (r.size + 1)) d
  | .object fs, d =>
    let parts := r.fieldParts target absent fs
    let v := .object fs
    convertNode target v (r.accepts v) [] parts absent
      (r.convertShape target v [] parts absent (r.size + 1)) d
  | .inst c fs, d =>
    let parts := r.fieldParts target absent fs
    let v := .inst c fs
    convertNode target v (r.accepts v) [] parts absent
      (r.convertShape target v [] parts absent (r.size + 1)) d
  | v, d =>
    convertNode target v (r.accepts v) [] [] absent
      (r.convertShape target v [] [] absent (r.size + 1)) d

def parts (r : Registry) (target : Target) (absent : Absent) : List Value → List Part
  | [] => []
  | v :: vs => ⟨v, r.convertWith target absent v⟩ :: r.parts target absent vs

def fieldParts (r : Registry) (target : Target) (absent : Absent) :
    List (String × Value) → Entries Part
  | [] => []
  | (k, v) :: fs => (k, ⟨v, r.convertWith target absent v⟩) :: r.fieldParts target absent fs

end

/-- Missing keys, with defaults needing each other at most `n` deep. -/
def absent (r : Registry) (target : Target) : Nat → Absent
  | 0, d => if d.traits.default?.isSome then none else some none
  | n + 1, d =>
    match d.traits.default? with
    | none => some none
    | some v => (r.convertWith target (r.absent target n) v d).map some

/-! ## Depth of defaults -/

mutual

def defaultCount : Descriptor → Nat
  | .arrayOf items t => count t + defaultCount items
  | .keyed schema t => count t + schemaDefaultCount schema
  | .mix choices _ t => count t + choicesDefaultCount choices
  | .primitive _ t | .openArray t | .openObject t | .cls _ t | .model _ t => count t
where
  count (t : Traits) : Nat := if t.default.isSome then 1 else 0

def schemaDefaultCount : List (KeyMatcher × Descriptor) → Nat
  | [] => 0
  | (_, d) :: rest => defaultCount d + schemaDefaultCount rest

def choicesDefaultCount : List Descriptor → Nat
  | [] => 0
  | d :: rest => defaultCount d + choicesDefaultCount rest

end

/-- Defaults that need each other deeper than there are nodes with a default need one of them
twice, and so without end. -/
def defaultDepth (r : Registry) (d : Descriptor) : Nat :=
  defaultCount d + (r.slots.map fun s => (s.description.map defaultCount).getD 0).sum

/-! ## Conversions -/

def convert (r : Registry) (target : Target) (v : Value) (d : Descriptor) : Option Value :=
  r.convertWith target (r.absent target (r.defaultDepth d)) v d

def buildFields (r : Registry) (candidate : Value) (d : Descriptor) : Option (Entries Value) :=
  (r.convert .instances candidate d).map fun
    | .object fs | .inst _ fs => fs
    | .array es => Entries.indexed es
    | _ => []

def toPlain (r : Registry) (i : Instance) (d : Descriptor) : Option Value :=
  let absent := r.absent .plain (r.defaultDepth d)
  plainContent absent (r.fieldParts .plain absent i.fields) d

end Registry

end Conformance
