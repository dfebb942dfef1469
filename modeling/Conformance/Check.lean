import Conformance.Registry

/-!
# Checking

Does a value satisfy a descriptor? The answer for a value is computed from the answers for its
parts, so it recurs on the value; only unions and shapes look at the same value again.

A shape's own description is an object or an array, which looks at parts alone. Where a
registry holds other descriptions, a value that meets more shapes than there are has come back
to one of them and is refused.
-/

namespace Conformance

/-! ## Claims of keys

The entries of a schema claim the fields of an object in turn, each from those that are left:
an exact key its field, a pattern all fields with a key that matches, or only the first one. -/

def takeFirst {α : Type} (p : String → Bool) : Entries α → Entries α × Entries α
  | [] => ([], [])
  | e :: es =>
    if p e.1 then ([e], es)
    else
      let (taken, left) := takeFirst p es
      (taken, e :: left)

/-- The fields that an entry claims, and those that it leaves. -/
def KeyMatcher.claim {α : Type} (once : Bool) : KeyMatcher → Entries α → Entries α × Entries α
  | .exact key, fs => takeFirst (· = key) fs
  | .pattern r, fs =>
    if once then takeFirst r.isMatch fs else fs.partition fun f => r.isMatch f.1

/-- The claims of all entries in turn, and the fields that none has claimed. -/
def claims {α δ : Type} (once : Bool) : List (KeyMatcher × δ) → Entries α →
    List ((KeyMatcher × δ) × Entries α) × Entries α
  | [], fs => ([], fs)
  | e :: es, fs =>
    let (taken, left) := e.1.claim once fs
    let (rest, unclaimed) := claims once es left
    ((e, taken) :: rest, unclaimed)

/-! ## Verdicts -/

abbrev Verdict := Descriptor → Bool

/-- While an element is held against the choices of a union: the choices that some element has hit so
far, marked at their places, and whether this element has hit any. -/
structure Coverage where
  marks : List Bool
  hit : Bool

/-- A choice that accepts the element is marked at its place. -/
def Coverage.mark (e : Verdict) (k : Coverage) (choice : Descriptor × Nat) : Coverage :=
  if e choice.1 then ⟨k.marks.set choice.2 true, true⟩ else k

/-- Does every element hit a choice, and is every choice marked in the end? The first element
without a hit settles it. -/
def coverMatch (choices : List Descriptor) : List Verdict → List Bool → Bool
  | [], marks => marks.all id
  | e :: es, marks =>
    let k := choices.zipIdx.foldl (Coverage.mark e) ⟨marks, false⟩
    if k.hit then coverMatch choices es k.marks else false

/-- The elements of an array under the descriptor of its items. A union of items is judged for
the array as a whole. -/
def elementsMatch (elements : List Verdict) : Descriptor → Bool
  | .mix choices s _ =>
    match s with
    | .any => elements.all fun e => choices.any e
    | .not => !elements.any fun e => choices.any e
    | .one => choices.any fun c => elements.all fun e => e c
    | .all => coverMatch choices elements (List.replicate choices.length false)
  | items => elements.all fun e => e items

/-- The fields of an object under a schema: each claim holds, and every field is claimed. -/
def fieldsMatch (once : Bool) (schema : Schema) (fields : Entries Verdict) : Bool :=
  let (claimed, unclaimed) := claims once schema fields
  unclaimed.isEmpty && claimed.all fun (e, taken) =>
    if taken.isEmpty then e.2.toleratesAbsence else taken.all fun f => f.2 e.2

mutual

/-- The verdict on the value `v`, given those on its parts and on the shapes it may have. Null
satisfies what allows it and nothing else. -/
def verdict (v : Value) (elements : List Verdict) (fields : Entries Verdict)
    (shape : ShapeId → Bool) : Descriptor → Bool
  | .primitive p t =>
    if v.isNull then t.allowNull
    else (p = .any || v.kind.kind? = some p.kind) && t.isValid v
  | .openArray t => if v.isNull then t.allowNull else v.isArray && t.isValid v
  | .arrayOf items t =>
    if v.isNull then t.allowNull
    else v.isArray && elementsMatch elements items && t.isValid v
  | .openObject t => if v.isNull then t.allowNull else v.fields?.isSome && t.isValid v
  | .keyed schema t =>
    if v.isNull then t.allowNull
    else v.fields?.isSome && fieldsMatch t.matchOnce schema fields && t.isValid v
  | .cls c t => if v.isNull then t.allowNull else v.isInstanceOf c && t.isValid v
  | .model id t => if v.isNull then t.allowNull else shape id && t.isValid v
  | .mix choices s t =>
    if v.isNull then t.allowNull
    else ((s != .not) == someVerdict v elements fields shape choices) && t.isValid v

def someVerdict (v : Value) (elements : List Verdict) (fields : Entries Verdict)
    (shape : ShapeId → Bool) : List Descriptor → Bool
  | [] => false
  | d :: ds => verdict v elements fields shape d || someVerdict v elements fields shape ds

end

namespace Registry

/-- Has the value the shape `id`, if it may meet that many shapes? Instances of the shape have
it, and so has what its description accepts. -/
def hasShape (r : Registry) (v : Value) (elements : List Verdict) (fields : Entries Verdict) :
    Nat → ShapeId → Bool
  | 0, id => (r.class? id).any fun c => v.carries c
  | n + 1, id =>
    ((r.class? id).any fun c => v.carries c) ||
      (r.description? id).any (verdict v elements fields (r.hasShape v elements fields n))

mutual

/-- Does a descriptor of this registry accept the value? -/
def accepts (r : Registry) : Value → Descriptor → Bool
  | .array es, d =>
    let parts := r.verdicts es
    verdict (.array es) parts [] (r.hasShape (.array es) parts [] r.size) d
  | .object fs, d =>
    let parts := r.fieldVerdicts fs
    verdict (.object fs) [] parts (r.hasShape (.object fs) [] parts r.size) d
  | .inst c fs, d =>
    let parts := r.fieldVerdicts fs
    verdict (.inst c fs) [] parts (r.hasShape (.inst c fs) [] parts r.size) d
  | v, d => verdict v [] [] (r.hasShape v [] [] r.size) d

def verdicts (r : Registry) : List Value → List Verdict
  | [] => []
  | v :: vs => r.accepts v :: r.verdicts vs

def fieldVerdicts (r : Registry) : List (String × Value) → Entries Verdict
  | [] => []
  | (k, v) :: fs => (k, r.accepts v) :: r.fieldVerdicts fs

end

def matches? (r : Registry) (v : Option Value) (d : Descriptor) : Bool := v.any (r.accepts · d)

/-- Has the value the shape of this id? Shapes that are only declared have their instances
alone. -/
def checkShape (r : Registry) (id : ShapeId) (v : Value) : Bool :=
  ((r.class? id).any fun c => v.carries c) || (r.description? id).any (r.accepts v)

end Registry

end Conformance
