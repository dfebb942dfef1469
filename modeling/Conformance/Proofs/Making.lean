import Conformance.Proofs.Restoration
import Conformance.Proofs.Slots

/-!
# Making instances

What the converter makes of a plain value is the value wrapped, if no descriptor has a default,
and the same descriptor makes it plain again. Unions are where the two conversions may part: the
choice that took the value need not be the first one to accept what was made of it.
-/

namespace Conformance

namespace Registry
variable {r : Registry}

/-- In every union that the conversion comes to, the choice that takes a value is also the first
one to accept what it makes of the value. -/
def Steady (r : Registry) (p : Task) : Prop :=
  ∀ v choices s t c w, r.Comes .instances p (v, .mix choices s t) → v.isNull = false → s ≠ .not →
    choices.find? (r.accepts v) = some c → r.Converts .instances v c w → choices.find? (r.accepts w) = some c

theorem Steady.call {p q : Task} (h : r.Steady p) (hq : r.Calls .instances p q) : r.Steady q :=
  fun v choices s t c w hc => h v choices s t c w (.head hq hc)

/-- The value `w` wraps `v`, and made plain under the descriptor it is alike `v`. -/
structure Made (r : Registry) (absent : Absent) (loose loose' : Prop) (d : Descriptor) (v w : Value) : Prop where
  wrapped : r.Wrapped absent loose v w
  restores : r.Restores absent loose' d v w

def Makes (r : Registry) (n : Nat) (absent : Absent) (loose loose' : Prop) (p : Task) : Prop :=
  p.2.Clear → r.Admits p → p.1.Plain → p.1.Distinct → (loose → loose') ∨ r.Steady p →
    ∀ w, r.convertWith .instances (r.absent .instances n) p.1 p.2 = some w → r.Made absent loose loose' p.2 p.1 w

section
variable {n : Nat} {absent : Absent} {loose loose' : Prop} {v : Value}

theorem made_copy {d : Descriptor} (hp : v.Plain)
    (hd : ∀ target absent, r.convertWith target absent v d = some (target.copy v)) {w : Value}
    (hw : r.convertWith .instances (r.absent .instances n) v d = some w) : r.Made absent loose loose' d v w := by
  cases (hd .instances _).symm.trans hw
  refine ⟨.copy hp, fun u hu => ?_⟩
  cases (hd .plain absent).symm.trans hu
  rw [Target.copy, v.flatten_of_plain hp]
  exact .refl v

theorem makes_keyed (habsent : ∀ d x, absent d = some (some x) → d.traits.default.isSome = true) {schema : Schema}
    {t : Traits} (ih : ∀ q, r.Calls .instances (v, .keyed schema t) q → r.Makes n absent loose loose' q)
    (hn : v.isNull = false) : r.Makes n absent loose loose' (v, .keyed schema t) := by
  intro hc ha hp hv hs w hw
  have ha := ha.resolve_right nofun
  rw [accepts_keyed hn, Bool.and_eq_true, Bool.and_eq_true, fieldVerdicts_eq] at ha
  obtain ⟨⟨hf, hm⟩, -⟩ := ha
  obtain ⟨out, hout, rfl⟩ := converted_keyed hf hw
  have hpart : ∀ e ∈ schema, e.2.Clear := fun e he => hc.part (List.mem_map_of_mem (f := Prod.snd) he)
  have hfree : ∀ e ∈ schema, e.2.traits.default = none := fun e he => (hpart e he _ .root).1
  have hrefit := refit absent_default hv.keys (hc _ .root).2 hfree (fieldsMatch_unclaimed hm) hout
  have hmade : ∀ c ∈ (claims t.matchOnce schema v.fields).1, ∀ k x, (k, x) ∈ c.2 → ∀ y,
      r.convertWith .instances (r.absent .instances n) x c.1.2 = some y → r.Made absent loose loose' c.1.2 x y := by
    intro c hcl k x hx y hy
    have hcall : r.Calls .instances (v, .keyed schema t) (x, c.1.2) := .field hf hcl hx
    have hfield := Value.field_part (claims_subset hcl hx)
    exact ih _ hcall (hpart _ (claims_entry hcl)) (.inl (((fieldsMatch_iff_claims.mp hm).2 c hcl).2 _ hx))
      (hp.part hfield) (hv.part hfield) (hs.imp_right (·.call hcall)) y hy
  cases v with
  | object fs =>
    have hkeys : (Entries.keys out).Nodup := hrefit.keys.nodup_iff.mpr hv.keys
    refine ⟨.object hrefit.keys fun k x y hx hy => ?_, fun u hu => ?_⟩
    · obtain ⟨c, hcl, hxc, hconv⟩ := hrefit.field hv.keys hx hy
      exact (hmade c hcl k x hxc y hconv).wrapped
    · obtain ⟨out', hout', rfl⟩ := converted_keyed rfl hu
      have hrefit' := refit habsent hkeys (hc _ .root).2 hfree hrefit.claimed hout'
      refine .object (.object fs) (hrefit'.keys.trans hrefit.keys) fun k x z hx hz => ?_
      obtain ⟨c, hcl, hxc, y, hconv, hconv'⟩ := hrefit.through hrefit' hv.keys hx hz
      exact (hmade c hcl k x hxc y hconv).restores z hconv'
  | inst c fs => cases hp.root
  | _ => cases hf

theorem makes_arrayOf {items : Descriptor} {t : Traits}
    (ih : ∀ q, r.Calls .instances (v, .arrayOf items t) q → r.Makes n absent loose loose' q)
    (hn : v.isNull = false) : r.Makes n absent loose loose' (v, .arrayOf items t) := by
  intro hc ha hp hv hs w hw
  have ha := ha.resolve_right nofun
  rw [accepts_arrayOf hn, Bool.and_eq_true, Bool.and_eq_true] at ha
  obtain ⟨⟨har, hm⟩, -⟩ := ha
  cases v with
  | array xs =>
    obtain ⟨ys, hys, rfl⟩ := converted_arrayOf har hw
    have hmade : xs.Forall₂ (r.Made absent loose loose' items) ys :=
      forall₂_imp_of_mem hys fun x hx y _ hxy => by
        have hcall : r.Calls .instances (.array xs, .arrayOf items t) (x, items) := .element hx
        have helement := Value.element_part (v := .array xs) hx
        exact ih _ hcall (hc.part (List.mem_singleton_self items)) (admits_items hm x hx) (hp.part helement)
          (hv.part helement) (hs.imp_right (·.call hcall)) y hxy
    refine ⟨.array hmade.length_eq fun p hp => (List.forall₂_zip hmade hp).wrapped, fun u hu => ?_⟩
    obtain ⟨us, hus, rfl⟩ := converted_arrayOf rfl hu
    have halike : xs.Forall₂ (Alike loose') us :=
      forall₂_through hmade hus fun x _ y _ z hxy hz => hxy.restores z hz
    exact .array halike.length_eq fun p hp => List.forall₂_zip halike hp
  | _ => cases har

theorem converted_object {target : Target} {absent : Absent} {d : Descriptor} (hk : d.kind = .object)
    (hf : v.fields?.isSome = true) (hp : v.Plain) {w : Value} (hw : r.convertWith target absent v d = some w) :
    ∃ gs, w = .object gs := by
  cases Descriptor.container_of_kind (.inl hk) with
  | keyed schema t =>
    obtain ⟨out, -, rfl⟩ := converted_keyed hf hw
    exact ⟨out, rfl⟩
  | openObject t =>
    cases (convert_bare (.openObject t)).symm.trans hw
    cases v with
    | object fs => cases target <;> exact ⟨_, rfl⟩
    | inst c fs => cases hp.root
    | _ => cases hf
  | _ => cases hk

theorem converted_array {target : Target} {absent : Absent} {d : Descriptor} (hk : d.kind = .array)
    (ha : v.isArray = true) {w : Value} (hw : r.convertWith target absent v d = some w) : ∃ ys, w = .array ys := by
  cases Descriptor.container_of_kind (.inr hk) with
  | arrayOf items t =>
    obtain ⟨out, -, rfl⟩ := converted_arrayOf ha hw
    exact ⟨out, rfl⟩
  | openArray t =>
    cases (convert_bare (.openArray t)).symm.trans hw
    cases v with
    | array es => cases target <;> exact ⟨_, rfl⟩
    | _ => cases ha
  | _ => cases hk

/-- What stands for a value that an object or array description accepts is the content of its own
fields. -/
theorem converted_content {target : Target} {absent : Absent} {d : Descriptor} (hd : d.kind = .object ∨ d.kind = .array)
    (ha : r.accepts v d = true) (hn : v.isNull = false) {w : Value} (hw : r.convertWith target absent v d = some w)
    (hp : v.Plain) :
    (d.kind = .object ∧ ∃ gs, w = .object gs ∧ d.content gs = w) ∨
      d.kind = .array ∧ ∃ ys, w = .array ys ∧ d.content (Entries.indexed ys) = w := by
  rcases hd with hk | hk
  · obtain ⟨gs, rfl⟩ := converted_object hk (accepts_object hn hk ha) hp hw
    exact .inl ⟨hk, gs, rfl, Descriptor.content_object hk gs⟩
  · obtain ⟨ys, rfl⟩ := converted_array hk (accepts_array hn hk ha) hw
    exact .inr ⟨hk, ys, rfl, Descriptor.content_array hk ys⟩

/-- A new instance of a shape is made plain as its content is. -/
theorem Made.instantiate (hg : r.Grounded) (hl : loose' → loose) {id : ShapeId} {k : Class}
    {d : Descriptor} {t : Traits}
    (hk : r.class? id = some k) (hd : r.description? id = some d) (harr : d.kind = .array → loose)
    (ha : r.accepts v d = true) (hp : v.Plain) (hv : v.Distinct) {w : Value}
    (hw : r.convertWith .instances (r.absent .instances n) v d = some w) (hm : r.Made absent loose loose' d v w) :
    r.Made absent loose loose' (.model id t) v (instantiate .instances k w) := by
  have hn := hg.isNull hd ha
  have hsame : k.same k = true := decide_eq_true rfl
  -- the instance has the fields `gs`, which stand for `w`
  have made : ∀ {fs gs}, Stands loose v fs → (Entries.keys gs).Perm (Entries.keys fs) →
      (∀ x y z, (x, y) ∈ fs → (x, z) ∈ gs → r.Wrapped absent loose y z) → d.content gs = w →
      r.Made absent loose loose' (.model id t) v (.inst k gs) := by
    intro fs gs hs hkeys hfields hcontent
    refine ⟨.inst hs hkeys hfields fun id' k' d' hk' hs' hd' u hu => ?_, fun u hu => ?_⟩
    · have hid := class?_same hk hk' hsame hs'
      cases hd.symm.trans (hid ▸ hd')
      rw [hcontent] at hu
      exact (hm.restores u hu).mono hl
    · have hcar : (Value.inst k gs).carries k = true := hsame
      rw [convert_opened hg rfl hk hd hcar] at hu
      exact hm.restores u (hcontent ▸ hu)
  rcases converted_content (hg id d hd).1 ha hn hw hp with ⟨-, gs, rfl, hcontent⟩ | ⟨hkind, ys, rfl, hcontent⟩
  · obtain ⟨fs, hs, hkeys, hfields⟩ := hm.wrapped.fields hv rfl
    exact made hs hkeys hfields hcontent
  · obtain ⟨xs, rfl, hxs⟩ := hm.wrapped.elements
    refine made (.array (harr hkind) xs) ?_ (fun x y z hy hz => ?_) hcontent
    · rw [Entries.keys_indexed, Entries.keys_indexed, hxs.length_eq]
    · obtain ⟨⟨x', z'⟩, hz', hx, hyz⟩ := forall₂_mem_left (Entries.forall₂_indexed hxs) hy
      cases hx
      cases Entries.mem_unique (Entries.nodup_indexed ys) hz hz'
      exact hyz

theorem makes_model (hg : r.Grounded) (hl : loose' → loose)
    (hdesc : ∀ id d, r.description? id = some d → d.Clear ∧ (d.kind = .array → loose)) {id : ShapeId} {t : Traits}
    (ih : ∀ q, r.Calls .instances (v, .model id t) q → r.Makes n absent loose loose' q) (hn : v.isNull = false) :
    r.Makes n absent loose loose' (v, .model id t) := by
  intro hc ha hp hv hs w hw
  by_cases hdef : ∃ k d, r.class? id = some k ∧ r.description? id = some d
  · obtain ⟨k, d, hk, hd⟩ := hdef
    have hcar : v.carries k = false := by rw [Value.carries, hp.root]; rfl
    have ha := ha.resolve_right nofun
    rw [accepts_model hn hg, checkShape, hk, hd, Option.any_some, Option.any_some, hcar, Bool.false_or,
      Bool.and_eq_true] at ha
    rw [convert_shape hg hn hk hd hcar] at hw
    obtain ⟨w', hw', rfl⟩ := Option.map_eq_some_iff.mp hw
    have hcall : r.Calls .instances (v, .model id t) (v, d) := .shape hn hk hd hcar
    obtain ⟨hclear, harr⟩ := hdesc id d hd
    have hm := ih _ hcall hclear (.inl ha.1) hp hv (hs.imp_right (·.call hcall)) w' hw'
    exact hm.instantiate hg hl hk hd harr ha.1 hp hv hw'
  · exact made_copy hp (fun _ _ => convert_undescribed hg hn fun k d hk hd => hdef ⟨k, d, hk, hd⟩) hw

theorem makes_mix (hg : r.Grounded) (hclear : ∀ id d, r.description? id = some d → d.Clear)
    (habsent : ∀ d x, absent d = some (some x) → d.traits.default.isSome = true) {choices : List Descriptor}
    {s : Strategy} {t : Traits} (ih : ∀ q, r.Calls .instances (v, .mix choices s t) q → r.Makes n absent loose loose' q)
    (hn : v.isNull = false) : r.Makes n absent loose loose' (v, .mix choices s t) := by
  intro hc ha hp hv hs w hw
  by_cases hcopy : s = .not ∨ choices.find? (r.accepts v) = none
  · exact made_copy hp (fun _ _ => convert_copied hcopy) hw
  · obtain ⟨hstrategy, hf⟩ := not_or.mp hcopy
    obtain ⟨c, hf⟩ := Option.ne_none_iff_exists'.mp hf
    have hcall : r.Calls .instances (v, .mix choices s t) (v, c) := .choice hn hstrategy hf
    rw [convert_chosen hn hstrategy hf] at hw
    have hm := ih _ hcall (hc.part (List.mem_of_find?_eq_some hf)) (.inl (List.find?_some hf)) hp hv
      (hs.imp_right (·.call hcall)) w hw
    refine ⟨hm.wrapped, fun u hu => ?_⟩
    rcases hs with hloose | hsteady
    · -- whatever choice accepts the wrapped value makes it plain
      exact (recovers hg hclear habsent (w, .mix choices s t) hc (.inr rfl) v hv hm.wrapped u hu).mono hloose
    · have hw' := hsteady v choices s t c w .refl hn hstrategy hf ⟨n, hw⟩
      rw [convert_chosen (hm.wrapped.isNull.trans hn) hstrategy hw'] at hu
      exact hm.restores u hu

theorem makes (hg : r.Grounded) (hl : loose' → loose)
    (hdesc : ∀ id d, r.description? id = some d → d.Clear ∧ (d.kind = .array → loose))
    (habsent : ∀ d x, absent d = some (some x) → d.traits.default.isSome = true) (p : Task) :
    r.Makes n absent loose loose' p := by
  induction p using induction_calls .instances hg with
  | h p ih =>
    obtain ⟨v, d⟩ := p
    cases hn : v.isNull with
    | true =>
      cases Value.eq_null hn
      exact fun _ _ hp _ _ w hw => made_copy hp (fun target absent => by rw [convert_null hg, target.copy_null]) hw
    | false =>
      have bare : d.Bare → r.Makes n absent loose loose' (v, d) := fun hb _ _ hp _ _ w hw =>
        made_copy hp (fun _ _ => convert_bare hb) hw
      cases d with
      | keyed schema t => exact makes_keyed habsent ih hn
      | arrayOf items t => exact makes_arrayOf ih hn
      | model id t => exact makes_model hg hl hdesc ih hn
      | mix choices s t => exact makes_mix hg (fun id d hd => (hdesc id d hd).1) habsent ih hn
      | primitive p t => exact bare (.primitive p t)
      | openArray t => exact bare (.openArray t)
      | openObject t => exact bare (.openObject t)
      | cls c t => exact bare (.cls c t)

end

end Registry

end Conformance
