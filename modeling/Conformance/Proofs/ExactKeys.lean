import Conformance.Proofs.Declared
import Conformance.Proofs.KeyOrder
import Conformance.Proofs.Shapes
import Conformance.Proofs.Stability
import Mathlib.Data.List.Find

/-!
# Exact keys

Where a schema names each key and nothing is left open, the conversion of an object is written entry
by entry, so where a key stood does not show. A candidate then makes the same instance in whatever
order its keys come. The induction is on the value and, for one value, on the descriptor; it needs
that the value is accepted, since a union copies what none of its choices takes.
-/

namespace Conformance

/-! ## Exact descriptors -/

namespace Descriptor

/-- Keys are named one by one, no value is taken whatever it holds, and unions choose. -/
def isExact : Descriptor → Bool
  | .primitive p _ => p != .any
  | .openArray _ | .openObject _ => false
  | .keyed schema _ => schema.all (·.1.isExact)
  | .mix _ s _ => s != .not
  | .arrayOf .. | .cls .. | .model .. => true

/-- An exact node as documents declare it. -/
structure ExactNode (n : Descriptor) : Prop where
  exact : n.isExact = true
  noClass : ∀ c t, n ≠ .cls c t
  pattern : ∀ w, n.traits.validator = some w → ∃ p, w = .pattern p

def Exact (d : Descriptor) : Prop := ∀ n, Node n d → n.ExactNode

theorem Exact.part {d c : Descriptor} (h : d.Exact) (hc : c ∈ d.parts) : c.Exact :=
  fun n hn => h n (.part hc hn)

theorem ExactNode.keys {schema : Schema} {t : Traits} (h : ExactNode (.keyed schema t)) :
    ∀ e ∈ schema, e.1.isExact = true :=
  List.all_eq_true.mp h.exact

theorem ExactNode.chooses {choices : List Descriptor} {s : Strategy} {t : Traits} (h : ExactNode (.mix choices s t)) :
    s ≠ .not :=
  bne_iff_ne.mp h.exact

theorem Exact.evenly : Evenly Exact where
  node h := {
    fields := by
      rintro schema t rfl
      exact .inr (h _ .root).keys
    validator := by
      intro p hp
      obtain ⟨q, hq⟩ := (h _ .root).pattern _ hp
      cases hq }
  part := Exact.part

end Descriptor

namespace Registry

/-- Every node of every description is exact. -/
def Exact (r : Registry) : Prop :=
  ∀ id d, r.description? id = some d → ∀ n, Descriptor.Node n d → n.isExact = true

instance (r : Registry) : Decidable r.Exact := decidable_of_iff _ everywhere_iff

theorem Exact.description [RegexEngine] {r : Registry} (h : r.Exact) (hr : Loaded r) {id : ShapeId} {d : Descriptor}
    (hd : r.description? id = some d) : d.Exact :=
  fun n hn => ⟨h id d hd n hn, (hr.declared hd hn).noClass, fun _ => hr.pattern hd hn⟩

end Registry

/-! ## Fields in step -/

section
variable {convert : Value → Descriptor → Option Value}

theorem convertClaim_step (absent : Absent) (m : KeyMatcher) {d : Descriptor} {taken taken' : Entries Value}
    (h : taken.Forall₂ (fun x y => x.1 = y.1 ∧ convert x.2 d = convert y.2 d) taken') (out : Entries Value) :
    convertClaim absent out ((m, d), Entries.mapValues (Part.of convert) taken) =
      convertClaim absent out ((m, d), Entries.mapValues (Part.of convert) taken') := by
  by_cases hm : taken = []
  · subst hm
    cases h
    rfl
  · have hm' : taken' ≠ [] := fun he => hm (List.forall₂_nil_right_iff.mp (he ▸ h))
    rw [convertClaim_taken absent out d (by simp [Entries.mapValues, hm]),
      convertClaim_taken absent out d (by simp [Entries.mapValues, hm'])]
    refine foldlM_step (List.forall₂_map_left_iff.mpr (List.forall₂_map_right_iff.mpr ?_)) out
    refine h.imp fun x y hxy out => ?_
    show (convert x.2 d).map (Entries.insert out x.1) = (convert y.2 d).map (Entries.insert out y.1)
    rw [hxy.1, hxy.2]

theorem convertFields_step (absent : Absent) (once : Bool) {schema : Schema} (he : ∀ e ∈ schema, e.1.isExact = true)
    {R : Value → Value → Prop} {fs gs : Entries Value} (h : Entries.Agree R fs gs)
    (hc : ∀ c ∈ (claims once schema fs).1, ∀ x ∈ c.2, ∀ y, R x.2 y → convert x.2 c.1.2 = convert y c.1.2) :
    convertFields absent once schema (Entries.mapValues (Part.of convert) fs) =
      convertFields absent once schema (Entries.mapValues (Part.of convert) gs) := by
  rw [convertFields, convertFields, claims_map, claims_map]
  refine foldlM_step ?_ []
  refine List.forall₂_map_left_iff.mpr (List.forall₂_map_right_iff.mpr ?_)
  refine forall₂_imp_of_mem (claims_agree once he h).1 fun c hm c' _ hcc out => ?_
  obtain ⟨⟨m, d⟩, taken⟩ := c
  obtain ⟨e', taken'⟩ := c'
  obtain ⟨rfl, htaken⟩ := hcc
  exact convertClaim_step absent m (forall₂_imp_of_mem htaken fun x hx y _ hxy => ⟨hxy.1, hc _ hm x hx y.2 hxy.2⟩) out

end

/-! ## Values in step -/

namespace Registry
variable {r : Registry}

section
variable (hg : r.Grounded) (hr : ∀ id e, r.description? id = some e → e.Exact) {target : Target} {absent : Absent}

section
variable {v w : Value} (hd : v.Distinct) (h : v.Reordered w)
  (ih : ∀ p ∈ v.parts, ∀ q, p.Reordered q → ∀ d : Descriptor, d.Exact → r.Suits p d →
    r.convertWith target absent p d = r.convertWith target absent q d)
include hd h ih

theorem convert_container_step {d : Descriptor} (hc : d.Container) (he : d.Exact) (hn : v.isNull = false)
    (ha : r.accepts v d = true) : r.convertWith target absent v d = r.convertWith target absent w d := by
  cases hc with
  | openArray t => cases (he _ .root).exact
  | openObject t => cases (he _ .root).exact
  | arrayOf items t =>
    rw [accepts_arrayOf hn, Bool.and_eq_true, Bool.and_eq_true, elementsMatch_iff] at ha
    obtain ⟨⟨har, hm, -⟩, -⟩ := ha
    have hitems : items.Exact := he.part (List.mem_singleton_self items)
    have hstep : v.elements.mapM (fun e => r.convertWith target absent e items) =
        w.elements.mapM fun e => r.convertWith target absent e items :=
      mapM_step (forall₂_imp_of_mem h.elements fun x hx y _ hxy =>
        ih x (Value.element_part hx) y hxy items hitems (.inr (hm x hx)))
    rw [convert_arrayOf, convert_arrayOf, if_pos har, if_pos (h.isArray ▸ har), hstep]
  | keyed schema t =>
    rw [accepts_keyed hn, Bool.and_eq_true, Bool.and_eq_true, fieldVerdicts_eq] at ha
    obtain ⟨⟨hf, hm⟩, -⟩ := ha
    have hagree : Entries.Agree (fun x y => x ∈ v.parts ∧ x.Reordered y) v.fields w.fields :=
      ⟨hd.keys, h.keys, fun k x y hx hy => ⟨Value.field_part hx, h.field hd hx hy⟩⟩
    have hstep : convertFields absent t.matchOnce schema
          (Entries.mapValues (Part.of (r.convertWith target absent)) v.fields) =
        convertFields absent t.matchOnce schema
          (Entries.mapValues (Part.of (r.convertWith target absent)) w.fields) := by
      refine convertFields_step absent t.matchOnce (he _ .root).keys hagree ?_
      intro c hc x hx y hxy
      have hentry : c.1.2.Exact := he.part (List.mem_map_of_mem (claims_entry hc))
      exact ih x.2 hxy.1 y hxy.2 c.1.2 hentry (.inl (((fieldsMatch_iff_claims.mp hm).2 c hc).2 x hx))
    rw [convert_keyed, convert_keyed, if_pos hf, if_pos (h.hasFields ▸ hf), hstep]

end

include hg hr

/-- A value that suits an exact descriptor is converted to the same whatever the order of its keys. -/
theorem convert_step (v : Value) : v.Plain → v.Distinct → ∀ w, v.Reordered w → ∀ d : Descriptor, d.Exact → r.Suits v d →
    r.convertWith target absent v d = r.convertWith target absent w d := by
  induction v using Value.induction_parts with
  | h v ihv =>
    intro hp hd w h d
    have ih : ∀ p ∈ v.parts, ∀ q, p.Reordered q → ∀ d : Descriptor, d.Exact → r.Suits p d →
        r.convertWith target absent p d = r.convertWith target absent q d :=
      fun p hm => ihv p hm (hp.part hm) (hd.part hm)
    induction d using Descriptor.induction_parts with
    | h d ihd =>
      intro he hs
      cases hn : v.isNull with
      | true => rw [Value.eq_null hn, Value.eq_null (h.isNull.symm.trans hn)]
      | false =>
        have hn' : w.isNull = false := h.isNull.symm.trans hn
        cases d with
        | primitive p t =>
          have ha := hs.single primitive_single
          have hany : p ≠ .any := bne_iff_ne.mp (he _ .root).exact
          rw [accepts_primitive hn, decide_eq_false hany, Bool.false_or, Bool.and_eq_true] at ha
          have hkind := of_decide_eq_true ha.1
          cases h with
          | refl => rfl
          | _ => cases p <;> cases hkind
        | cls c t => exact absurd rfl ((he _ .root).noClass c t)
        | model id t =>
          have ha := hs.single (by simp [Descriptor.kind])
          have hcar : ∀ k, v.carries k = false := fun k => by rw [Value.carries, hp.root]; rfl
          have hcar' : ∀ k, w.carries k = false := fun k => by rw [Value.carries, ← h.class?, hp.root]; rfl
          rw [accepts_model hn hg, checkShape, funext hcar, Bool.and_eq_true, Bool.or_eq_true, Option.any_eq_true] at ha
          obtain ⟨e, hid, hae⟩ := (Option.any_eq_true _ _).mp (ha.1.resolve_left (by simp))
          obtain ⟨k, hk⟩ := class?_of_description hid
          have hcontent : r.convertWith target absent v e = r.convertWith target absent w e :=
            convert_container_step hd h ih (Descriptor.container_of_kind (hg id e hid).1) (hr id e hid) hn hae
          rw [convert_shape hg hn hk hid (hcar k), convert_shape hg hn' hk hid (hcar' k), hcontent]
        | mix choices s t =>
          have hsome := hs.union hn
          rw [unionVerdict_of_ne (he _ .root).chooses] at hsome
          have hsame : choices.find? (r.accepts v) = choices.find? (r.accepts w) := List.find?_congr fun c hc =>
            accepts_even Descriptor.Exact.evenly hg hr hd h (he.part hc)
          obtain ⟨c, hc⟩ := Option.isSome_iff_exists.mp (List.find?_isSome.mpr (List.any_eq_true.mp hsome))
          rw [convert_chosen hn (he _ .root).chooses hc,
            convert_chosen hn' (he _ .root).chooses (hsame ▸ hc)]
          exact ihd c (List.mem_of_find?_eq_some hc) (he.part (List.mem_of_find?_eq_some hc))
            (.inl (List.find?_some hc))
        | _ =>
          have ha := hs.single (by simp [Descriptor.kind])
          exact convert_container_step hd h ih (Descriptor.container_of_kind (by simp [Descriptor.kind])) he hn ha

end

end Registry

/-! ## Instances -/

/-- A candidate of an exact registry is refused in every order of its keys, or makes the same
instance, field by field, and so the same text. -/
theorem creation_canonical [RegexEngine] {r : Registry} (hr : Loaded r) (he : r.Exact) {id : ShapeId} {s : Shape}
    (hs : r.shape? id = some s) {v w : Value} (hp : v.Plain) (hd : v.Distinct) (h : v.Reordered w) :
    s.check v = false ∧ s.check w = false ∨
      s.check v = true ∧ s.check w = true ∧ s.create w = s.create v ∧
        ∀ i j, s.create v = .ok i → s.create w = .ok j →
          j.fields = i.fields ∧ ∀ pretty, s.toJsonText j pretty = s.toJsonText i pretty := by
  have hg := hr.reachable.grounded
  have hdesc : ∀ id e, r.description? id = some e → e.Exact := fun _ _ => he.description hr
  obtain ⟨rfl, rfl, hcls, hdescription⟩ := Registry.shape?_ok hs
  have hplain : w.class? = none := h.class? ▸ hp.root
  have haccepts := Registry.accepts_even Descriptor.Exact.evenly hg hdesc hd h (hdesc _ _ hdescription)
  have hcheck : s.check w = s.check v := by
    rw [Shape.check_eq hs, Shape.check_eq hs, Value.carries, Value.carries, hplain, hp.root, haccepts]
  have hcreate : s.create w = s.create v := by
    rw [Shape.create_plain s hplain, Shape.create_plain s hp.root, hcheck]
    cases hv : s.check v with
    | false => rfl
    | true =>
      rw [Shape.check_eq hs, Value.carries, hp.root] at hv
      have hconvert : s.registry.convert .instances v s.description = s.registry.convert .instances w s.description :=
        Registry.convert_step hg hdesc v hp hd w h s.description (hdesc _ _ hdescription) (.inl hv)
      rw [Registry.buildFields, Registry.buildFields, hconvert]
  cases hv : s.check v with
  | false => exact .inl ⟨rfl, hcheck.trans hv⟩
  | true =>
    refine .inr ⟨rfl, hcheck.trans hv, hcreate, fun i j hi hj => ?_⟩
    cases hj.symm.trans (hcreate.trans hi)
    exact ⟨rfl, fun _ => rfl⟩

/-- A shop has an owner by default, rows of prices, and offers that are prices or named. -/
def shops : Registry := .ofModels
  [("Shop", .object [("$matchOnce", .bool true), ("$type", .object [
      ("name", .string "string"),
      ("owner", .object [("$type", .string "Person"),
        ("$default", .object [("last", .string "Lee"), ("first", .string "Ann")])]),
      ("rows", .array [.string "Row"]),
      ("offers", .array [.object [("$mix", .array [.string "number", .string "Person"]),
        ("$strategy", .string "all")]])])]),
    ("Row", .array [.string "number"]),
    ("Person", .object [("first", .string "string"), ("last", .string "string")])]

def corner : Value := .ofJson <| .object [("name", .string "Corner"),
  ("offers", .array [.int 3, .object [("first", .string "Bo"), ("last", .string "Yu")]]),
  ("rows", .array [.array [.int 1, .int 2], .array []])]

def cornerTurned : Value := .ofJson <| .object [("rows", .array [.array [.int 1, .int 2], .array []]),
  ("offers", .array [.int 3, .object [("last", .string "Yu"), ("first", .string "Bo")]]),
  ("name", .string "Corner")]

theorem corner_turned : corner.Reordered cornerTurned := by
  have person : (Value.ofJson (.object [("first", .string "Bo"), ("last", .string "Yu")])).Reordered
      (.ofJson (.object [("last", .string "Yu"), ("first", .string "Bo")])) :=
    .of_perm (by decide) (List.reverse_perm _) (.cons ⟨rfl, .refl _⟩ (.cons ⟨rfl, .refl _⟩ .nil))
  have offers : (Value.ofJson (.array [.int 3, .object [("first", .string "Bo"), ("last", .string "Yu")]])).Reordered
      (.ofJson (.array [.int 3, .object [("last", .string "Yu"), ("first", .string "Bo")]])) :=
    .array (.cons (.refl _) (.cons person .nil))
  exact .of_perm (by decide) (List.reverse_perm _)
    (.cons ⟨rfl, .refl _⟩ (.cons ⟨rfl, offers⟩ (.cons ⟨rfl, .refl _⟩ .nil)))

theorem creation_canonical_shops : ∃ s i, shops.shape? (shops.idAt 0) = some s ∧ s.create corner = .ok i ∧
    s.create cornerTurned = .ok i ∧ Entries.keys i.fields = ["name", "owner", "rows", "offers"] := by
  have hr : Loaded shops := Registry.ofModels_loaded _
  have h : (decide shops.Exact && (shops.shape? (shops.idAt 0)).any fun s => (s.create corner).toOption.any fun i =>
      decide (Entries.keys i.fields = ["name", "owner", "rows", "offers"])) = true := by decide +kernel
  rw [Bool.and_eq_true, decide_eq_true_eq] at h
  obtain ⟨he, hs⟩ := h
  obtain ⟨s, hs, hi⟩ := (Option.any_eq_true _ _).mp hs
  obtain ⟨i, hi, hk⟩ := ok_of_toOption hi
  have hcheck := (Shape.create_ok hs hi).1
  rcases creation_canonical hr he hs (by decide) (by decide) corner_turned with hfalse | ⟨-, -, hcreate, -⟩
  · rw [hcheck] at hfalse
    cases hfalse.1
  · exact ⟨s, i, hs, hi, hcreate.trans hi, of_decide_eq_true hk⟩

end Conformance
