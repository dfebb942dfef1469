import Conformance.Proofs.Conversions
import Conformance.Proofs.Distinct

/-!
# Flattening

A flattened value has the kind and the keys of the value and no instance in it. An instance is
made plain by converting its content, the object of its fields or the array of its elements.
-/

namespace Conformance

/-! ## Without a descriptor -/

theorem flattenElements_eq : ∀ es, flattenElements es = es.map Value.flatten
  | [] => rfl
  | v :: vs => by rw [flattenElements, flattenElements_eq vs]; rfl

theorem flattenFields_eq : ∀ fs, flattenFields fs = Entries.mapValues Value.flatten fs
  | [] => rfl
  | (k, v) :: fs => by rw [flattenFields, flattenFields_eq fs]; rfl

namespace Value

theorem flatten_parts (v : Value) : v.flatten.parts = v.parts.map flatten := by
  cases v with
  | array es => rw [flatten, flattenElements_eq, parts_array, parts_array]
  | object fs => rw [flatten, flattenFields_eq, parts_object, parts_object, Entries.mapValues,
      List.map_map, List.map_map]; rfl
  | inst c fs => rw [flatten, flattenFields_eq, parts_object, parts_inst, Entries.mapValues,
      List.map_map, List.map_map]; rfl
  | _ => rfl

theorem flatten_keys (v : Value) : Entries.keys v.flatten.fields = Entries.keys v.fields := by
  cases v with
  | object fs => rw [flatten, flattenFields_eq]; exact Entries.keys_mapValues _ fs
  | inst c fs => rw [flatten, flattenFields_eq]; exact Entries.keys_mapValues _ fs
  | _ => rfl

theorem flatten_plain (v : Value) : v.flatten.Plain := by
  induction v using induction_parts with
  | h v ih =>
    refine plain_of_parts (by cases v <;> rfl) fun p hp => ?_
    rw [flatten_parts] at hp
    obtain ⟨q, hq, rfl⟩ := List.mem_map.mp hp
    exact ih q hq

theorem flatten_distinct (v : Value) : v.Distinct → v.flatten.Distinct := by
  induction v using induction_parts with
  | h v ih =>
    intro h
    refine distinct_of_parts (flatten_keys v ▸ h.keys) fun p hp => ?_
    rw [flatten_parts] at hp
    obtain ⟨q, hq, rfl⟩ := List.mem_map.mp hp
    exact ih q hq (h.part hq)

theorem flatten_of_plain (v : Value) : v.Plain → v.flatten = v := by
  induction v using induction_parts with
  | h v ih =>
    intro hp
    cases v with
    | array es =>
      rw [flatten, flattenElements_eq]
      refine congrArg array ((List.map_congr_left fun e he => ?_).trans (List.map_id es))
      have hpart : e ∈ (array es).parts := element_part he
      exact ih e hpart (hp.part hpart)
    | object fs =>
      rw [flatten, flattenFields_eq]
      refine congrArg object ((List.map_congr_left fun f hf => ?_).trans (List.map_id fs))
      have hpart : f.2 ∈ (object fs).parts := field_part hf
      rw [ih f.2 hpart (hp.part hpart)]
      rfl
    | inst c fs => cases hp.root
    | _ => rfl

end Value

namespace Target

theorem copy_isNull (t : Target) (v : Value) : (t.copy v).isNull = v.isNull := by
  cases t <;> cases v <;> rfl

theorem copy_isArray (t : Target) (v : Value) : (t.copy v).isArray = v.isArray := by
  cases t <;> cases v <;> rfl

theorem copy_fields? (t : Target) (v : Value) : (t.copy v).fields?.isSome = v.fields?.isSome := by
  cases t <;> cases v <;> rfl

theorem copy_null (t : Target) : t.copy .null = .null := by
  cases t <;> rfl

theorem copy_of_kind {v : Value} {p : Primitive} (h : v.kind.kind? = some p.kind) (t : Target) : t.copy v = v := by
  cases t with
  | instances => rfl
  | plain => cases v <;> first | rfl | (cases p <;> cases h)

end Target

theorem Registry.convert_null {r : Registry} (hg : r.Grounded) (target : Target) (absent : Absent) (d : Descriptor) :
    r.convertWith target absent .null d = some .null := by
  cases d with
  | keyed schema t => rw [convert_keyed]; exact congrArg some target.copy_null
  | arrayOf items t => rw [convert_arrayOf]; exact congrArg some target.copy_null
  | model id t => rw [convert_model hg]; rfl
  | mix choices s t => rw [convert_mix]; exact congrArg some target.copy_null
  | primitive p t => rw [convert_bare (.primitive p t), target.copy_null]
  | openArray t => rw [convert_bare (.openArray t), target.copy_null]
  | openObject t => rw [convert_bare (.openObject t), target.copy_null]
  | cls c t => rw [convert_bare (.cls c t), target.copy_null]

/-! ## Content of instances -/

theorem Value.carries_inst {v : Value} {c : Class} (h : v.carries c = true) :
    ∃ k fs, v = .inst k fs ∧ c.same k = true := by
  cases v with
  | inst k fs => exact ⟨k, fs, rfl, h⟩
  | _ => cases h

/-- The value that the fields of an instance stand for under the description of its shape. -/
def Descriptor.content (d : Descriptor) (fs : Entries Value) : Value :=
  if d.kind = .array then .array (fs.map Prod.snd) else .object fs

theorem Descriptor.content_isNull (d : Descriptor) (fs : Entries Value) : (d.content fs).isNull = false := by
  unfold content
  split <;> rfl

theorem Descriptor.content_object {d : Descriptor} (hk : d.kind = .object) (fs : Entries Value) :
    d.content fs = .object fs := by
  rw [content, hk, if_neg nofun]

theorem Descriptor.content_array {d : Descriptor} (hk : d.kind = .array) (es : List Value) :
    d.content (Entries.indexed es) = .array es := by
  rw [content, if_pos hk, Entries.values_indexed]

theorem content_fields {r : Registry} {d : Descriptor} {fs : Entries Value} (ha : r.accepts (.object fs) d = true) :
    d.content fs = .object fs := by
  refine if_neg fun hk => ?_
  cases Registry.accepts_array rfl hk ha

theorem content_indexed {r : Registry} {d : Descriptor} {es : List Value} (hd : d.kind = .object ∨ d.kind = .array)
    (ha : r.accepts (.array es) d = true) : d.content (Entries.indexed es) = .array es := by
  have hk : d.kind = .array := hd.resolve_left fun hk => by cases Registry.accepts_object rfl hk ha
  exact Descriptor.content_array hk es

theorem plainContent_eq {r : Registry} {absent : Absent} {d : Descriptor} (hd : d.kind = .object ∨ d.kind = .array)
    (fs : Entries Value) :
    plainContent absent (Entries.mapValues (Part.of (r.convertWith .plain absent)) fs) d =
      r.convertWith .plain absent (d.content fs) d := by
  cases Descriptor.container_of_kind hd with
  | keyed schema t => rw [Registry.convert_keyed]; rfl
  | arrayOf items t =>
    rw [Registry.convert_arrayOf, plainContent, Entries.mapValues, List.mapM_map]
    have hm : (fs.map Prod.snd).mapM (fun e => r.convertWith .plain absent e items) =
        fs.mapM ((fun e => r.convertWith .plain absent e items) ∘ Prod.snd) := List.mapM_map
    exact congrArg (Option.map Value.array) hm.symm
  | openArray t =>
    rw [Registry.convert_bare (.openArray t), plainContent, Entries.mapValues, List.map_map]
    have hc : (Descriptor.openArray t).content fs = .array (fs.map Prod.snd) := rfl
    rw [hc, Target.copy, Value.flatten, flattenElements_eq, List.map_map]
    rfl
  | openObject t =>
    rw [Registry.convert_bare (.openObject t)]
    have hc : (Descriptor.openObject t).content fs = .object fs := rfl
    rw [hc, Target.copy, Value.flatten, flattenFields_eq]
    simp only [plainContent, Entries.mapValues, List.map_map]
    rfl

theorem Registry.toPlain_eq {r : Registry} {d : Descriptor} (hd : d.kind = .object ∨ d.kind = .array) (i : Instance) :
    r.toPlain i d = r.convert .plain (d.content i.fields) d := by
  rw [toPlain, fieldParts_eq, plainContent_eq hd, convert]

/-! ## Values as shapes -/

namespace Registry

section
variable {r : Registry} (hg : r.Grounded) {target : Target} {absent : Absent} {v : Value} (hn : v.isNull = false)
  {id : ShapeId} {t : Traits}
include hg hn

theorem convert_undescribed (h : ∀ k d, r.class? id = some k → r.description? id ≠ some d) :
    r.convertWith target absent v (.model id t) = some (target.copy v) := by
  rw [convert_model hg, if_neg (by simp [hn]), convertAs]
  cases hk : r.class? id with
  | none => rfl
  | some k =>
    cases hd : r.description? id with
    | none => rfl
    | some d => exact absurd hd (h k d hk)

variable {k : Class} {d : Descriptor} (hk : r.class? id = some k)
include hk

theorem convert_own (hv : v.carries k = true) : r.convertWith .instances absent v (.model id t) = some v := by
  rw [convert_model hg, if_neg (by simp [hn]), convertAs, hk]
  cases r.description? id with
  | none => rfl
  | some d => exact if_pos hv

variable (hd : r.description? id = some d)
include hd

theorem convert_opened (hv : v.carries k = true) :
    r.convertWith .plain absent v (.model id t) = r.convertWith .plain absent (d.content v.fields) d := by
  rw [convert_model hg, if_neg (by simp [hn]), convertAs, hk, hd]
  dsimp only
  rw [if_pos hv, plainContent_eq (hg id d hd).1]

theorem convert_shape (hv : v.carries k = false) :
    r.convertWith target absent v (.model id t) = (r.convertWith target absent v d).map (instantiate target k) := by
  rw [convert_model hg, if_neg (by simp [hn]), convertAs, hk, hd]
  dsimp only
  rw [if_neg (by simp [hv])]

end

end Registry

end Conformance
