import Conformance.Pattern.Parser
import Conformance.Proofs.Declared
import Conformance.Proofs.Readers
import Conformance.Proofs.Shapes
import Conformance.Proofs.Stability

/-!
# Updates

An update checks the value as it is given and stores its conversion. In a registry in order the
conversion is accepted where the value was, so the fields of an instance stay what the shape
accepts, whatever calls are made.
-/

namespace Conformance

/-! ## Registries in order -/

namespace Registry
variable {r : Registry}

/-- The validator is no predicate, the default is a constant that the node accepts, no pattern takes
the exact key of a later default, and items are judged each for itself. -/
structure Orderly (r : Registry) (n : Descriptor) : Prop where
  validator : ∀ holds, n.traits.validator ≠ some (.predicate holds)
  default : ∀ δ, n.traits.default = some δ → ∃ u, δ = .constant u ∧ r.accepts u n = true
  unshadowed : ∀ schema t, n = .keyed schema t → Unshadowed schema
  items : ∀ cs s t t', n = .arrayOf (.mix cs s t) t' → s ≠ .one ∧ s ≠ .all

def isOrderly (r : Registry) (n : Descriptor) : Bool :=
  (match n.traits.validator with
    | some (.predicate _) => false
    | _ => true) &&
  (match n.traits.default with
    | some (.constant u) => r.accepts u n
    | some (.generated _) => false
    | none => true) &&
  match n with
  | .keyed schema _ => Unshadowed schema
  | .arrayOf (.mix _ s _) _ => s ≠ .one ∧ s ≠ .all
  | _ => true

theorem isOrderly_iff {n : Descriptor} : r.isOrderly n = true ↔ r.Orderly n := by
  unfold isOrderly
  rw [Bool.and_eq_true, Bool.and_eq_true]
  constructor
  · rintro ⟨⟨hv, hd⟩, h⟩
    refine ⟨fun holds hp => ?_, fun δ hδ => ?_, ?_, ?_⟩
    · rw [hp] at hv
      cases hv
    · rw [hδ] at hd
      cases δ with
      | constant u => exact ⟨u, rfl, hd⟩
      | generated => cases hd
    · rintro schema t rfl
      exact of_decide_eq_true h
    · rintro cs s t t' rfl
      exact of_decide_eq_true h
  · rintro ⟨hv, hd, hu, hi⟩
    refine ⟨⟨?_, ?_⟩, ?_⟩
    · split
      · exact absurd ‹_› (hv _)
      · rfl
    · split
      · obtain ⟨u, hu, ha⟩ := hd _ ‹_›
        cases hu
        exact ha
      · obtain ⟨u, hu, -⟩ := hd _ ‹_›
        cases hu
      · rfl
    · split
      · exact decide_eq_true (hu _ _ rfl)
      · exact decide_eq_true (hi _ _ _ _ rfl)
      · rfl

def InOrder (r : Registry) : Prop :=
  ∀ id d, r.description? id = some d → ∀ n, Descriptor.Node n d → r.Orderly n

instance (r : Registry) : Decidable r.InOrder :=
  decidable_of_iff (r.everywhere r.isOrderly = true) <| by
    simp only [everywhere_iff, isOrderly_iff]; rfl

theorem InOrder.throughout [RegexEngine] (h : r.InOrder) (hr : Reachable r) (id : ShapeId) (d : Descriptor)
    (hd : r.description? id = some d) : r.Throughout .instances False d := by
  intro n hn
  have hchecked := hr.checked hd hn
  have horderly := h id d hd n hn
  refine ⟨nofun, nofun, horderly.items, fun hv => ?_, hr.uniqueKeys hd hn, horderly.unshadowed, fun u hu => ?_⟩
  · obtain ⟨w, hw⟩ := Option.ne_none_iff_exists'.mp hv
    cases w with
    | predicate holds => exact absurd hw (horderly.validator holds)
    | pattern p => exact hchecked.validator p hw
  · obtain ⟨δ, hδ, hu'⟩ := Option.bind_eq_some_iff.mp hu
    obtain ⟨u', rfl, ha⟩ := horderly.default δ hδ
    cases hu'
    exact ⟨ha, hchecked.default u hu, nofun⟩

end Registry

/-! ## One key of an object -/

/-- What the fields are with one value under a key, they are with each value that the first entry
for the key accepts. -/
theorem fieldsMatch_insert {f : Value → Verdict} {schema : Schema} {fs : Entries Value} (hn : (Entries.keys fs).Nodup)
    {k : String} {v : Value} {e : KeyMatcher × Descriptor} (he : schema.find? (·.1.accepts k) = some e)
    (h : fieldsMatch false schema (Entries.mapValues f (Entries.insert fs k v)) = true) :
    f v e.2 = true ∧
      ∀ w, f w e.2 = true → fieldsMatch false schema (Entries.mapValues f (Entries.insert fs k w)) = true := by
  have hnodup : ∀ x, (Entries.keys (Entries.insert fs k x)).Nodup := Entries.nodup_insert hn k
  obtain ⟨hfields, habsent⟩ := (fieldsMatch_values (hnodup v)).mp h
  refine ⟨?_, fun w hw => (fieldsMatch_values (hnodup w)).mpr ⟨fun x hx => ?_, ?_⟩⟩
  · obtain ⟨e', he', hv⟩ := hfields _ (Entries.mem_insert_self fs k v)
    cases he.symm.trans he'
    exact hv
  · rcases Entries.mem_insert_other hx v with rfl | hx
    · exact ⟨e, he, hw⟩
    · exact hfields x hx
  · rw [Entries.insert_keys fs k w v]
    exact habsent

/-! ## Calls of update -/

namespace Shape

/-- The instance after a call: the new one, or the old one if the call has failed. -/
def updated (s : Shape) (i : Instance) (call : String × Value) : Instance :=
  (s.update i call.1 call.2).toOption.getD i

def updatedAll (s : Shape) (i : Instance) (calls : List (String × Value)) : Instance := calls.foldl s.updated i

/-- The instance is of the shape, and its fields are what the shape accepts of an object. -/
structure Valid (s : Shape) (i : Instance) : Prop where
  cls : i.cls.same s.cls = true
  distinct : (Value.object i.fields).Distinct
  accepted : s.registry.accepts (.object i.fields) s.description = true

theorem update_ok {s : Shape} {i j : Instance} {k : String} {v : Value} (h : s.update i k v = .ok j) :
    ∃ d w, s.description.describeKey? k = some d ∧
      s.registry.accepts (.object (Entries.insert i.fields k v)) s.description = true ∧
      s.registry.convert .instances v d = some w ∧ j = ⟨i.cls, Entries.insert i.fields k w⟩ := by
  unfold update at h
  obtain ⟨_, -, h⟩ := bind_eq_ok.mp h
  split at h
  · cases h
  · rename_i d hd
    dsimp only at h
    split at h
    · rename_i ha
      cases hw : s.registry.convert .instances v d with
      | none => rw [hw] at h; cases h
      | some w =>
        rw [hw] at h
        cases h
        exact ⟨d, w, hd, ha, hw, by rw [Entries.insert_insert]⟩
    · cases h

theorem update_error {s : Shape} {i : Instance} {k : String} {v : Value} {d : Descriptor} {e : ShapeError}
    (hc : i.cls.same s.cls = true) (hd : s.description.describeKey? k = some d)
    (ha : s.registry.accepts (.object (Entries.insert i.fields k v)) s.description = true)
    (h : s.update i k v = .error e) : e = .endlessDefault := by
  unfold update owns at h
  rw [if_pos hc] at h
  simp only [hd, ha, if_true] at h
  cases hw : s.registry.convert .instances v d with
  | none => rw [hw] at h; cases h; rfl
  | some w => rw [hw] at h; cases h

/-- Giving a key the value it has fails only where the conversion of the value does not end. -/
theorem update_back {s : Shape} {schema : Schema} {t : Traits} (hd : s.description = .keyed schema t)
    (ht : t.matchOnce = false) {i : Instance} (hi : s.Valid i) {k : String} {x : Value}
    (hx : Entries.get? i.fields k = some x) {e : ShapeError} (h : s.update i k x = .error e) : e = .endlessDefault := by
  have ha := hi.accepted
  rw [hd, Registry.accepts_keyed_object, Bool.and_eq_true, ht] at ha
  obtain ⟨d, hfind, -⟩ := ((fieldsMatch_values hi.distinct.keys).mp ha.1).1 _ (Entries.mem_of_get? hx)
  have hkey : s.description.describeKey? k = some d.2 := by
    rw [hd, describeKey?_keyed, hfind]
    rfl
  refine update_error hi.cls hkey ?_ h
  rw [Entries.insert_get? hx]
  exact hi.accepted

section
variable [RegexEngine] {r : Registry} (hr : Reachable r) (ho : r.InOrder) {id : ShapeId} {s : Shape}
  (hs : r.shape? id = some s)
  {schema : Schema} {t : Traits} (hd : s.description = .keyed schema t)
include hr ho hs hd

theorem create_valid {v : Value} (hv : v.Distinct) (hn : v.carries s.cls = false) {i : Instance}
    (h : s.create v = .ok i) :
    s.Valid i := by
  obtain ⟨rfl, -, -, hdesc⟩ := Registry.shape?_ok hs
  obtain ⟨ha, hb⟩ := create_built hs hn h
  obtain ⟨u, hu, hfields⟩ := Option.map_eq_some_iff.mp hb
  have hg := hr.grounded
  have hall := ho.throughout hr
  have hk := Registry.kept hg nofun hall ⟨hv, nofun⟩ (hall id _ hdesc) ha hu
  have hf := Registry.accepts_object (hg.isNull hdesc ha) (by rw [hd]; rfl) ha
  obtain ⟨out, -, rfl⟩ := Registry.converted_keyed hf (hd ▸ hu)
  cases hfields
  exact ⟨create_cls hs h, hk.good.distinct, hk.accepted⟩

theorem update_valid (ht : t.matchOnce = false) {i j : Instance} (hi : s.Valid i) {k : String} {v : Value}
    (hv : v.Distinct) (h : s.update i k v = .ok j) : s.Valid j := by
  obtain ⟨rfl, -, -, hdesc⟩ := Registry.shape?_ok hs
  obtain ⟨d, w, hkey, ha, hw, rfl⟩ := update_ok h
  have hall := ho.throughout hr
  have hroot : s.registry.Throughout .instances False (.keyed schema t) := hd ▸ hall id _ hdesc
  rw [hd, describeKey?_keyed] at hkey
  obtain ⟨e, he, rfl⟩ := Option.map_eq_some_iff.mp hkey
  rw [hd, Registry.accepts_keyed_object, Bool.and_eq_true, ht] at ha
  -- the check was of the value as given; its conversion is accepted in its place
  obtain ⟨hvalue, hinsert⟩ := fieldsMatch_insert hi.distinct.keys he ha.1
  have hpart : s.registry.Throughout .instances False e.2 :=
    hroot.part (List.mem_map_of_mem (f := Prod.snd) (List.mem_of_find?_eq_some he))
  have hk := Registry.kept hr.grounded nofun hall ⟨hv, nofun⟩ hpart hvalue hw
  refine ⟨hi.cls, Value.distinct_of_parts (Entries.nodup_insert hi.distinct.keys k w) fun p hp => ?_, ?_⟩
  · obtain ⟨x, hx, rfl⟩ := List.mem_map.mp hp
    rcases Entries.mem_insert hx with rfl | hx
    · exact hk.good.distinct
    · exact hi.distinct.part (Value.field_part (v := .object i.fields) hx)
  · have hvalid : t.isValid (.object (Entries.insert i.fields k w)) = true :=
      hroot.root.isValid (by simp [Descriptor.kind]) _
    have hfields : fieldsMatch false schema
        (Entries.mapValues s.registry.accepts (Entries.insert i.fields k w)) = true :=
      hinsert w hk.accepted
    rw [hd, Registry.accepts_keyed_object, hvalid, ht, hfields]
    rfl

theorem updatedAll_valid (ht : t.matchOnce = false) {calls : List (String × Value)} (hc : ∀ c ∈ calls, c.2.Distinct)
    {i : Instance} (hi : s.Valid i) : s.Valid (s.updatedAll i calls) := by
  induction calls generalizing i with
  | nil => exact hi
  | cons c calls ih =>
    obtain ⟨hv, hc⟩ := List.forall_mem_cons.mp hc
    refine ih hc (i := s.updated i c) ?_
    unfold updated
    cases hu : s.update i c.1 c.2 with
    | error e => exact hi
    | ok j => exact update_valid hr ho hs hd ht hi hv hu

end

end Shape

/-! ## Runs of updates -/

/-- After creation and any calls of update the fields are what the description accepts, and to give a
key the value it has fails only where the conversion of the value does not end. -/
theorem updates_accepted [RegexEngine] {r : Registry} (hr : Reachable r) (ho : r.InOrder) {id : ShapeId} {s : Shape}
    (hs : r.shape? id = some s) (hd : s.description.schema?.isSome = true) (ht : s.description.traits.matchOnce = false)
    {v : Value} (hv : v.Distinct) (hn : v.carries s.cls = false) {i : Instance} (hi : s.create v = .ok i)
    {calls : List (String × Value)} (hc : ∀ c ∈ calls, c.2.Distinct) :
    r.accepts (.object (s.updatedAll i calls).fields) s.description = true ∧
      ∀ k x, Entries.get? (s.updatedAll i calls).fields k = some x →
        ∀ e, s.update (s.updatedAll i calls) k x = .error e → e = .endlessDefault := by
  obtain ⟨rfl, -, -, -⟩ := Registry.shape?_ok hs
  cases hdesc : s.description with
  | keyed schema t =>
    rw [hdesc] at ht
    have hvalid := Shape.updatedAll_valid hr ho hs hdesc ht hc (Shape.create_valid hr ho hs hdesc hv hn hi)
    exact ⟨hdesc ▸ hvalid.accepted, fun k x hx e he => Shape.update_back hdesc ht hvalid hx he⟩
  | _ => rw [hdesc] at hd; cases hd

/-- A home has pets, and numbers under keys that start with an n or end with an m. -/
def homes : Registry := .ofModels
  [("Home", .object [
      ("owner", .object [("$type", .string "string"), ("$default", .string "none")]),
      ("pets", .array [.object [("$mix", .array [.string "Pet", .string "string"])]]),
      ("/^n|m$/", .object [("$type", .string "number"), ("$required", .bool false)])]),
    ("Pet", .object [("$matchOnce", .bool true), ("$type", .object [
      ("name", .object [("$type", .string "string"), ("$default", .string "stray"),
        ("$validator", .string "/^s|T/")])])])]

def home : Value := .ofJson <| .object [("pets", .array [.object [], .string "Kit"]), ("n", .int 1)]

/-- The second call is rejected, the third is for a key that is not declared, the fourth adds a key,
and the last brings an instance of another class. -/
def moves : List (String × Value) :=
  [("pets", .array [.object [("name", .string "Tom")]]), ("owner", .bool true), ("size", .null),
    ("m", .ofJson (.int 2)), ("pets", .array [.inst (.base (.free 0) "Cat") [("name", .string "Tim")]])]

theorem updates_accepted_homes : ∃ s i, homes.shape? (homes.idAt 0) = some s ∧ s.create home = .ok i ∧
    homes.accepts (.object (s.updatedAll i moves).fields) s.description = true := by
  have hr : Reachable homes := (Registry.ofModels_loaded _).reachable
  have h : (decide homes.InOrder && (homes.shape? (homes.idAt 0)).any fun s => s.description.schema?.isSome &&
      !s.description.traits.matchOnce && (s.create home).toOption.isSome) = true := by decide +kernel
  simp only [Bool.and_eq_true, decide_eq_true_eq] at h
  obtain ⟨ho, h⟩ := h
  obtain ⟨s, hs, h⟩ := (Option.any_eq_true _ _).mp h
  simp only [Bool.and_eq_true, Bool.not_eq_true'] at h
  obtain ⟨⟨hd, ht⟩, hi⟩ := h
  obtain ⟨i, hi, -⟩ := ok_of_toOption (p := fun _ => true) (by simpa using hi)
  have hc : ∀ c ∈ moves, c.2.Distinct := by decide
  exact ⟨s, i, hs, hi, (updates_accepted hr ho hs hd ht (v := home) (by decide) rfl hi hc).1⟩

end Conformance
