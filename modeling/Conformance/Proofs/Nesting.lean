import Conformance.Proofs.Creation
import Conformance.Proofs.Making
import Conformance.Proofs.Needs

/-!
# Nested shapes

What the converter stores under a nested shape is what creating that shape makes of the value:
an instance of the shape with the same fields. One case differs. An open object takes in the
instances of other classes; created, such an instance gives its fields to a new one, while under
a nested shape it stays what it is.
-/

namespace Conformance

/-- The nested shape stores the value as it is: an open object, and an instance of another
class. -/
def Shape.Leaves (s : Shape) (v : Value) : Prop :=
  (∃ t, s.description = .openObject t) ∧ v.class?.isSome = true ∧ v.carries s.cls = false

/-! ## One value -/

section
variable {r : Registry} {d : Descriptor} {v u : Value}

/-- An accepted value is converted to an instance of the class `k`, but an instance that an open
object takes in keeps its own. -/
theorem instantiate_accepted {absent : Absent} (hd : d.kind = .object ∨ d.kind = .array) (ha : r.accepts v d = true)
    (hn : v.isNull = false) (hu : r.convertWith .instances absent v d = some u) (k : Class) :
    ∃ c fs, instantiate .instances k u = .inst c fs ∧
      (((∃ t, d = .openObject t) ∧ v = .inst c fs) ∨
        (((∃ t, d = .openObject t) → v.class? = none) ∧ c = k)) := by
  cases Descriptor.container_of_kind hd with
  | keyed schema t =>
    obtain ⟨out, -, rfl⟩ := Registry.converted_keyed (Registry.accepts_object hn rfl ha) hu
    exact ⟨k, out, rfl, .inr ⟨nofun, rfl⟩⟩
  | openObject t =>
    have hf := Registry.accepts_object hn rfl ha
    cases (Registry.convert_bare (.openObject t)).symm.trans hu
    cases v with
    | object fs => exact ⟨k, fs, rfl, .inr ⟨fun _ => rfl, rfl⟩⟩
    | inst c fs => exact ⟨c, fs, rfl, .inl ⟨⟨t, rfl⟩, rfl⟩⟩
    | _ => cases hf
  | arrayOf items t =>
    obtain ⟨ys, rfl⟩ := Registry.converted_array rfl (Registry.accepts_array hn rfl ha) hu
    exact ⟨k, Entries.indexed ys, rfl, .inr ⟨nofun, rfl⟩⟩
  | openArray t =>
    obtain ⟨ys, rfl⟩ := Registry.converted_array rfl (Registry.accepts_array hn rfl ha) hu
    exact ⟨k, Entries.indexed ys, rfl, .inr ⟨nofun, rfl⟩⟩

variable (hg : r.Grounded)
include hg

/-- The fields of a new instance are those of the converted candidate as an instance. -/
theorem buildFields_instantiate (hu : r.Converts .instances v d u) {k c : Class} {fs : Entries Value}
    (hi : instantiate .instances k u = .inst c fs) : r.buildFields v d = some fs := by
  rw [Registry.buildFields, hu.convert hg]
  cases u with
  | object gs => cases hi; rfl
  | array ys => cases hi; rfl
  | inst c' gs => cases hi; rfl
  | _ => cases hi

/-- Wherever a shape is nested, the value that its check accepts becomes what creating the shape
makes of it, unless the shape leaves the value. -/
theorem nested_value {id : ShapeId} {s : Shape} (hs : r.shape? id = some s) {t : Traits} {w : Value}
    (hc : s.check v = true) (hw : r.Converts .instances v (.model id t) w) :
    ∃ j, s.create v = .ok j ∧ (s.Leaves v → w = v ∧ j = ⟨s.cls, v.fields⟩) ∧
      (¬ s.Leaves v → w = .ofInstance j) := by
  obtain ⟨-, -, hcls, hdesc⟩ := Registry.shape?_ok hs
  obtain ⟨n, hw⟩ := hw
  rw [Registry.convert_model hg, Registry.convertAs, hcls, hdesc] at hw
  dsimp only at hw
  have hcheck := hc
  rw [Shape.check_eq hs] at hcheck
  cases hcar : v.carries s.cls with
  | true =>
    -- an own instance is stored and created as it is
    obtain ⟨j, hj⟩ := (Shape.create_isOk hs hc).mpr (.inl hcar)
    obtain ⟨-, hv⟩ := (Shape.create_ok hs hj).2.resolve_right fun h => by rw [hcar] at h; cases h.1
    rw [if_pos hcar, hv] at hw
    cases hw
    exact ⟨j, hj, fun hl => absurd hcar (Bool.eq_false_iff.mp hl.2.2), fun _ => rfl⟩
  | false =>
    rw [hcar, Bool.false_or] at hcheck
    have hn := hg.isNull hdesc hcheck
    rw [hn, hcar, if_neg Bool.false_ne_true, if_neg Bool.false_ne_true] at hw
    obtain ⟨u, hu, rfl⟩ := Option.map_eq_some_iff.mp hw
    have hconv : r.Converts .instances v s.description u := ⟨n, hu⟩
    obtain ⟨c, fs, hi, hcase⟩ := instantiate_accepted (hg id _ hdesc).1 hcheck hn hu s.cls
    obtain ⟨j, hj⟩ := (Shape.create_isOk hs hc).mpr (.inr (by rw [hconv.convert hg]; rfl))
    obtain ⟨-, hjc, hjb⟩ := (Shape.create_ok hs hj).2.resolve_left fun h => by rw [hcar] at h; cases h.1
    rw [buildFields_instantiate hg hconv hi] at hjb
    obtain rfl : j = ⟨s.cls, fs⟩ := by cases j; cases hjc; cases hjb; rfl
    rw [hi]
    refine ⟨_, hj, fun hl => ?_, fun hl => ?_⟩
    · rcases hcase with ⟨-, rfl⟩ | ⟨hnone, -⟩
      · exact ⟨rfl, rfl⟩
      · have hcls := hl.2.1
        rw [hnone hl.1] at hcls
        cases hcls
    · rcases hcase with ⟨ho, rfl⟩ | ⟨-, rfl⟩
      · exact absurd ⟨ho, rfl, hcar⟩ hl
      · rfl

end

/-! ## All fields -/

/-- Under a key that an entry of a nested shape has taken, a new instance of an object shape has
what creating the nested shape makes of the value of the candidate: an instance with the class of
the shape and the same fields in the same order. The nested shape may leave the value instead, as
it is; and a default of the key itself may stand over it. -/
theorem create_nested [RegexEngine] {r : Registry} (hr : Reachable r) {id₀ : ShapeId} {e : Shape}
    (he : r.shape? id₀ = some e)
    {schema : Schema} {t : Traits} (hd : e.description = .keyed schema t) {v : Value} (hv : v.Distinct)
    (hnew : v.carries e.cls = false) {i : Instance} (hi : e.create v = .ok i) :
    ∃ fs taken, v.fields? = some fs ∧
      checkWalk (fun v d => some (r.matches? v d)) t.matchOnce fs schema (Entries.keys fs) = some (some taken) ∧
      ∀ (id : ShapeId) (s : Shape) (m : KeyMatcher) (tm : Traits) (keys : List String) (k : String) (w : Value),
        r.shape? id = some s → ((m, .model id tm), keys) ∈ schema.zip taken → k ∈ keys → Entries.get? fs k = some w →
        s.check w = true → (∀ d u, ¬ Overwrites (schema.zip taken) k d u) →
        ∃ j x, s.create w = .ok j ∧ Entries.get? i.fields k = some x ∧
          (¬ s.Leaves w → x = .ofInstance j) ∧ (s.Leaves w → x = w ∧ j = ⟨s.cls, w.fields⟩) := by
  obtain ⟨-, -, -, hdesc⟩ := Registry.shape?_ok he
  obtain ⟨fs, n, hfs, hm, hout⟩ := built_fields hr.grounded he hd hnew hi
  have hn : (Entries.keys fs).Nodup := Value.fields_of_fields? hfs ▸ hv.keys
  have hu : (schema.map fun e => e.1.text).Nodup := (hd ▸ hr.uniqueKeys hdesc .root :)
  obtain ⟨ess, hess, heq⟩ := convertFields_some.mp hout
  rw [show r.fieldVerdicts fs = Entries.mapValues r.accepts fs from r.fieldVerdicts_eq fs] at hm
  have hwalk := checkWalk_accepts hn r t.matchOnce schema
  rw [if_pos hm] at hwalk
  refine ⟨fs, _, hfs, hwalk, ?_⟩
  rw [claims_zip, heq]
  intro id s m tm keys k w hs hclaim hk hw hc hno
  obtain ⟨⟨e, taken⟩, hmem, he⟩ := List.mem_map.mp hclaim
  cases he
  obtain ⟨⟨k, w'⟩, hw', rfl⟩ := List.mem_map.mp hk
  cases Entries.mem_unique hn (Entries.mem_of_get? hw) (claims_subset hmem hw')
  obtain ⟨x, hx, hown⟩ := own_stands hess hu hn hmem hw'
  obtain ⟨j, hj, hleft, hmade⟩ := nested_value hr.grounded hs hc (hown hno)
  exact ⟨j, x, hj, hx, hmade, hleft⟩

/-! ## A note in a box -/

/-- A box has a note and a thing, which may be any object. -/
def boxes : Registry := .ofModels
  [("Note", .object [("text", .string "string")]), ("Thing", .string "object"),
    ("Box", .object [("item", .string "Thing"), ("note", .string "Note")])]

def memo : Value := .object [("text", .string "hi")]

def noted : Value := .inst (.base (.shape (boxes.idAt 0)) "Note") [("text", .string "hi")]

def packed : Value := .object [("item", noted), ("note", memo)]

def Descriptor.model? : Descriptor → Option ShapeId
  | .model id _ => some id
  | _ => none

theorem Descriptor.model_of_model? {d : Descriptor} {id : ShapeId} (h : d.model? = some id) : ∃ t, d = .model id t := by
  cases d with
  | model id' t => cases h; exact ⟨t, rfl⟩
  | _ => cases h

/-- Where every entry takes a key, no default is filled in. -/
theorem not_overwrites {claimed : List ((KeyMatcher × Descriptor) × List String)} (h : ∀ c ∈ claimed, c.2 ≠ [])
    (k : String) (d : Descriptor) (u : Value) : ¬ Overwrites claimed k d u := by
  rintro ⟨⟨p, d₀, keys, -, hsub⟩, -⟩
  exact h _ (hsub.subset (List.mem_cons_of_mem _ (List.mem_singleton_self _))) rfl

theorem boxes_reachable : Reachable boxes := (Registry.ofModels_loaded _).reachable

theorem boxes_create : ∃ note thing box m₁ t₁ m₂ t₂ t i, boxes.shape? (boxes.idAt 0) = some note ∧
    boxes.shape? (boxes.idAt 1) = some thing ∧ boxes.shape? (boxes.idAt 2) = some box ∧
    box.description = .keyed [(m₁, .model (boxes.idAt 1) t₁), (m₂, .model (boxes.idAt 0) t₂)] t ∧
    packed.carries box.cls = false ∧ box.create packed = .ok i ∧
    checkWalk (fun v d => some (boxes.matches? v d)) t.matchOnce packed.fields
      [(m₁, .model (boxes.idAt 1) t₁), (m₂, .model (boxes.idAt 0) t₂)] ["item", "note"] =
        some (some [["item"], ["note"]]) ∧
    note.check memo = true ∧ thing.check noted = true ∧
    ∀ x, Entries.get? i.fields "item" = some x → x.carries thing.cls = false := by
  have h : (boxes.shape? (boxes.idAt 0)).any (fun note => (boxes.shape? (boxes.idAt 1)).any fun thing =>
      (boxes.shape? (boxes.idAt 2)).any fun box => box.description.schema?.any fun schema =>
        (box.create packed).toOption.any fun i => !packed.carries box.cls &&
          (checkWalk (fun v d => some (boxes.matches? v d)) box.description.traits.matchOnce packed.fields schema
            ["item", "note"] == some (some [["item"], ["note"]])) &&
          (schema.map (fun e => e.2.model?) == [some (boxes.idAt 1), some (boxes.idAt 0)]) &&
          note.check memo && thing.check noted &&
          (Entries.get? i.fields "item").all fun x => !x.carries thing.cls) = true := by decide +kernel
  obtain ⟨note, hnote, h⟩ := (Option.any_eq_true _ _).mp h
  obtain ⟨thing, hthing, h⟩ := (Option.any_eq_true _ _).mp h
  obtain ⟨box, hbox, h⟩ := (Option.any_eq_true _ _).mp h
  obtain ⟨schema, hschema, h⟩ := (Option.any_eq_true _ _).mp h
  obtain ⟨i, hi, h⟩ := ok_of_toOption h
  simp only [Bool.and_eq_true, Bool.not_eq_true', beq_iff_eq] at h
  obtain ⟨⟨⟨⟨⟨hnew, hwalk⟩, hmodels⟩, hmemo⟩, hnoted⟩, hitem⟩ := h
  cases hd : box.description with
  | keyed schema' t =>
    rw [hd] at hschema hwalk
    cases hschema
    obtain ⟨⟨m₁, d₁⟩, rest, rfl, hd₁, hrest⟩ := List.map_eq_cons_iff.mp hmodels
    obtain ⟨⟨m₂, d₂⟩, rest, rfl, hd₂, hrest⟩ := List.map_eq_cons_iff.mp hrest
    cases List.map_eq_nil_iff.mp hrest
    obtain ⟨t₁, rfl⟩ := Descriptor.model_of_model? hd₁
    obtain ⟨t₂, rfl⟩ := Descriptor.model_of_model? hd₂
    refine ⟨note, thing, box, m₁, t₁, m₂, t₂, t, i, hnote, hthing, hbox, hd, hnew, hi, hwalk, hmemo, hnoted, ?_⟩
    intro x hx
    rw [hx, Option.all_some] at hitem
    simpa using hitem
  | _ => rw [hd] at hschema; cases hschema

theorem create_nested_boxes : ∃ note box schema t i j, boxes.shape? (boxes.idAt 0) = some note ∧
    boxes.shape? (boxes.idAt 2) = some box ∧ box.description = .keyed schema t ∧ packed.Distinct ∧
    packed.carries box.cls = false ∧ box.create packed = .ok i ∧ note.create memo = .ok j ∧
    Entries.get? i.fields "note" = some (.ofInstance j) := by
  obtain ⟨note, -, box, m₁, t₁, m₂, t₂, t, i, hnote, -, hbox, hd, hnew, hi, hwalk, hmemo, -⟩ := boxes_create
  have hv : packed.Distinct := by decide
  obtain ⟨fs, taken, hfs, hwalk', hnested⟩ := create_nested boxes_reachable hbox hd hv hnew hi
  cases hfs
  cases hwalk.symm.trans hwalk'
  obtain ⟨j, x, hj, hx, hmade, -⟩ := hnested _ note m₂ t₂ ["note"] "note" memo hnote (by simp) (by simp) rfl hmemo
    (not_overwrites (by simp) _)
  rw [hmade fun h => nomatch h.2.1] at hx
  exact ⟨note, box, _, t, i, j, hnote, hbox, hd, hv, hnew, hi, hj, hx⟩

/-- An open object leaves an instance of another class as it is. -/
theorem nested_left : ¬ ∀ r : Registry, Reachable r → ∀ id₀ e, r.shape? id₀ = some e →
    ∀ schema t, e.description = .keyed schema t → ∀ v : Value, v.Distinct → v.carries e.cls = false →
    ∀ i, e.create v = .ok i → ∀ taken,
    checkWalk (fun v d => some (r.matches? v d)) t.matchOnce v.fields schema (Entries.keys v.fields) =
      some (some taken) →
    ∀ (id : ShapeId) (s : Shape) (m : KeyMatcher) (tm : Traits) (keys : List String) (k : String) (w : Value),
    r.shape? id = some s → ((m, .model id tm), keys) ∈ schema.zip taken → k ∈ keys →
    Entries.get? v.fields k = some w → s.check w = true → (∀ d u, ¬ Overwrites (schema.zip taken) k d u) →
    ∃ j, s.create w = .ok j ∧ Entries.get? i.fields k = some (.ofInstance j) := by
  intro h
  obtain ⟨-, thing, box, m₁, t₁, m₂, t₂, t, i, -, hthing, hbox, hd, hnew, hi, hwalk, -, hnoted, hitem⟩ := boxes_create
  obtain ⟨j, hj, hx⟩ := h boxes boxes_reachable _ box hbox _ t hd packed (by decide) hnew i hi _ hwalk
    _ thing m₁ t₁ ["item"] "item" noted hthing (by simp) (by simp) rfl hnoted (not_overwrites (by simp) _)
  have hcls := Shape.create_cls hthing hj
  have hcar := hitem _ hx
  rw [Value.carries, Value.ofInstance, Value.class?, Option.any_some, Class.same_comm, hcls] at hcar
  cases hcar

end Conformance
