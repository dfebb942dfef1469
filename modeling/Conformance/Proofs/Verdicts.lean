import Conformance.Check
import Conformance.Proofs.Entries
import Conformance.Proofs.Trees

/-!
# Equations of the checker

One equation for each form of descriptor: what `accepts` answers for a value, told through its
answers for the parts of the value, for choices, and for shapes. That a shape is asked for its
description once, whatever budget is left, holds in registries where every description is an
object or an array: such a description looks at no other shape of the same value.
-/

namespace Conformance

theorem Value.eq_null {v : Value} (h : v.isNull = true) : v = .null := by
  cases v <;> first | rfl | cases h

-- only here is the checker opened; what follows uses its equations
attribute [local simp] verdict someVerdict Registry.accepts Registry.verdicts Registry.fieldVerdicts

namespace Registry

/-- Descriptions are objects or arrays and refuse null. -/
def Grounded (r : Registry) : Prop :=
  ∀ id d, r.description? id = some d → (d.kind = .object ∨ d.kind = .array) ∧ d.traits.allowNull = false

/-! ## Answers for parts -/

theorem verdicts_eq (r : Registry) : ∀ es, r.verdicts es = es.map r.accepts
  | [] => rfl
  | v :: vs => by rw [verdicts, verdicts_eq r vs]; rfl

theorem fieldVerdicts_eq (r : Registry) :
    ∀ fs, r.fieldVerdicts fs = Entries.mapValues r.accepts fs
  | [] => rfl
  | (k, v) :: fs => by rw [fieldVerdicts, fieldVerdicts_eq r fs]; rfl

theorem accepts_eq (r : Registry) (v : Value) (d : Descriptor) :
    r.accepts v d = verdict v (r.verdicts v.elements) (r.fieldVerdicts v.fields)
      (r.hasShape v (r.verdicts v.elements) (r.fieldVerdicts v.fields) r.size) d := by
  cases v <;> simp [Value.elements, Value.fields]

theorem someVerdict_eq (v : Value) (es : List Verdict) (fs : Entries Verdict) (shape : ShapeId → Bool) :
    ∀ cs, someVerdict v es fs shape cs = cs.any (verdict v es fs shape)
  | [] => rfl
  | c :: cs => by rw [someVerdict, someVerdict_eq v es fs shape cs]; rfl

/-! ## Shapes -/

theorem verdict_of_kind {d : Descriptor} (h : d.kind = .object ∨ d.kind = .array) (v : Value)
    (es : List Verdict) (fs : Entries Verdict) (shape shape' : ShapeId → Bool) :
    verdict v es fs shape d = verdict v es fs shape' d := by
  cases Descriptor.container_of_kind h <;> simp

theorem size_pos {r : Registry} {id : ShapeId} {d : Descriptor} (h : r.description? id = some d) :
    0 < r.size := by
  unfold description? slot? at h
  split at h
  · cases hs : r.slots with
    | nil => simp [hs] at h
    | cons s l => simp [size, hs]
  · cases h

theorem hasShape_size {r : Registry} (hg : r.Grounded) (v : Value) (id : ShapeId) :
    r.hasShape v (r.verdicts v.elements) (r.fieldVerdicts v.fields) r.size id = r.checkShape id v := by
  unfold checkShape
  cases hd : r.description? id with
  | none => cases r.size <;> simp [hasShape, hd]
  | some d =>
    obtain ⟨n, hn⟩ := Nat.exists_eq_succ_of_ne_zero (Nat.pos_iff_ne_zero.mp (size_pos hd))
    rw [hn, hasShape, hd, Option.any_some, Option.any_some, accepts_eq r v d,
      verdict_of_kind (hg id d hd).1]

/-! ## Descriptors -/

theorem accepts_null (r : Registry) (d : Descriptor) : r.accepts .null d = d.traits.allowNull := by
  rw [accepts_eq]
  cases d <;> simp [Value.isNull, Descriptor.traits]

theorem Grounded.isNull {r : Registry} (hg : r.Grounded) {id : ShapeId} {d : Descriptor}
    (hd : r.description? id = some d) {v : Value} (ha : r.accepts v d = true) : v.isNull = false := by
  refine Bool.eq_false_iff.mpr fun hn => ?_
  rw [Value.eq_null hn, accepts_null, (hg id d hd).2] at ha
  cases ha

section
variable {r : Registry} {v : Value} (hv : v.isNull = false)
include hv

theorem accepts_primitive (p : Primitive) (t : Traits) :
    r.accepts v (.primitive p t) = ((p = .any || v.kind.kind? = some p.kind) && t.isValid v) := by
  rw [accepts_eq, verdict, if_neg (by simp [hv])]

theorem accepts_openArray (t : Traits) : r.accepts v (.openArray t) = (v.isArray && t.isValid v) := by
  rw [accepts_eq, verdict, if_neg (by simp [hv])]

theorem accepts_arrayOf (items : Descriptor) (t : Traits) :
    r.accepts v (.arrayOf items t) =
      (v.isArray && elementsMatch (v.elements.map r.accepts) items && t.isValid v) := by
  rw [accepts_eq, verdict, if_neg (by simp [hv]), verdicts_eq]

theorem accepts_openObject (t : Traits) :
    r.accepts v (.openObject t) = (v.fields?.isSome && t.isValid v) := by
  rw [accepts_eq, verdict, if_neg (by simp [hv])]

theorem accepts_keyed (schema : Schema) (t : Traits) :
    r.accepts v (.keyed schema t) =
      (v.fields?.isSome && fieldsMatch t.matchOnce schema (r.fieldVerdicts v.fields) && t.isValid v) := by
  rw [accepts_eq, verdict, if_neg (by simp [hv])]

theorem accepts_cls (c : Class) (t : Traits) :
    r.accepts v (.cls c t) = (v.isInstanceOf c && t.isValid v) := by
  rw [accepts_eq, verdict, if_neg (by simp [hv])]

theorem accepts_model (hg : r.Grounded) (id : ShapeId) (t : Traits) :
    r.accepts v (.model id t) = (r.checkShape id v && t.isValid v) := by
  rw [accepts_eq, verdict, if_neg (by simp [hv]), hasShape_size hg]

theorem accepts_mix (choices : List Descriptor) (s : Strategy) (t : Traits) :
    r.accepts v (.mix choices s t) = (((s != .not) == choices.any (r.accepts v)) && t.isValid v) := by
  rw [accepts_eq, verdict, if_neg (by simp [hv]), someVerdict_eq,
    ← show r.accepts v = _ from funext (accepts_eq r v)]

end

variable {r : Registry}

theorem accepts_keyed_object (r : Registry) (fs : Entries Value) (schema : Schema) (t : Traits) :
    r.accepts (.object fs) (.keyed schema t) =
      (fieldsMatch t.matchOnce schema (Entries.mapValues r.accepts fs) && t.isValid (.object fs)) := by
  rw [accepts_keyed rfl, fieldVerdicts_eq]
  rfl

theorem accepts_object {v : Value} {d : Descriptor} (hn : v.isNull = false) (hk : d.kind = .object)
    (h : r.accepts v d = true) : v.fields?.isSome = true := by
  cases Descriptor.container_of_kind (.inl hk) with
  | keyed schema t => rw [accepts_keyed hn, Bool.and_eq_true, Bool.and_eq_true] at h; exact h.1.1
  | openObject t => rw [accepts_openObject hn, Bool.and_eq_true] at h; exact h.1
  | _ => cases hk

theorem accepts_array {v : Value} {d : Descriptor} (hn : v.isNull = false) (hk : d.kind = .array)
    (h : r.accepts v d = true) : v.isArray = true := by
  cases Descriptor.container_of_kind (.inr hk) with
  | arrayOf items t => rw [accepts_arrayOf hn, Bool.and_eq_true, Bool.and_eq_true] at h; exact h.1.1
  | openArray t => rw [accepts_openArray hn, Bool.and_eq_true] at h; exact h.1
  | _ => cases hk

end Registry

end Conformance
