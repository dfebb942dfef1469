import Conformance.Proofs.Calls
import Conformance.Proofs.Likeness
import Conformance.Proofs.Reclaims

/-!
# Making plain what was made instances

Without defaults, a conversion of a plain value into instances gives the value with its keys in
some order and with some objects wrapped into instances; an instance of an array-shaped shape
holds the elements of an array. The proof has two halves that meet at `Wrapped`. One half shows
that the converter makes only such values, the other that whatever descriptor accepts such a value
makes it plain as a value alike the first one: which choice a union takes then does not matter.
-/

namespace Conformance

/-! ## Fields without defaults -/

section
variable {convert : Value → Descriptor → Option Value} {absent : Absent} {once : Bool} {schema : Schema}
  {fs out : Entries Value}

/-- The fields `out` are those of `fs`, each converted under the entry that claims it in both. -/
structure Refit (convert : Value → Descriptor → Option Value) (once : Bool) (schema : Schema)
    (fs out : Entries Value) : Prop where
  keys : (Entries.keys out).Perm (Entries.keys fs)
  claimed : (claims once schema out).2 = []
  fields : ∀ c' ∈ (claims once schema out).1, ∀ k z, (k, z) ∈ c'.2 →
    ∃ c ∈ (claims once schema fs).1, c.1 = c'.1 ∧ ∃ y, (k, y) ∈ c.2 ∧ convert y c.1.2 = some z

theorem keys_flatten {cs : List ((KeyMatcher × Descriptor) × Entries Value)} {ess : List (Entries Value)}
    (h : cs.Forall₂ (fun c es => Entries.keys c.2 = Entries.keys es) ess) :
    Entries.keys (cs.flatMap Prod.snd) = Entries.keys ess.flatten := by
  induction h with
  | nil => rfl
  | cons hc _ ih =>
    rw [List.flatMap_cons, List.flatten_cons, Entries.keys, Entries.keys, List.map_append, List.map_append]
    exact congrArg₂ (· ++ ·) hc ih

theorem refit (hd : ∀ d w, absent d = some (some w) → d.traits.default.isSome = true) (hn : (Entries.keys fs).Nodup)
    (hu : (schema.map fun e => e.1.text).Nodup) (hfree : ∀ e ∈ schema, e.2.traits.default = none)
    (hl : (claims once schema fs).2 = [])
    (h : convertFields absent once schema (Entries.mapValues (Part.of convert) fs) = some out) :
    Refit convert once schema fs out := by
  have hnone : ∀ e ∈ schema, ∀ w, absent e.2 ≠ some (some w) := fun e he w ha => by
    have hs := hd _ _ ha
    rw [hfree e he] at hs
    cases hs
  have hp : Unshadowed schema := List.pairwise_iff_forall_sublist.mpr fun {e e'} hs p key _ _ he => by
    rw [hfree e' (hs.subset (List.mem_cons_of_mem _ (List.mem_singleton_self e')))] at he
    cases he
  obtain ⟨ess, hess, rfl, -, hclaims⟩ := convertFields_added hd hn hu hp h
  refine ⟨?_, by rw [hclaims], fun c' hc' k z hz => ?_⟩
  · have hsame : (claims once schema fs).1.Forall₂ (fun c es => Entries.keys c.2 = Entries.keys es) ess :=
      forall₂_imp_of_mem hess fun c hc es _ ha => by
        cases ha with
        | taken _ h => exact Entries.keys_of_forall₂ (fun _ _ h => h.1) h
        | filled ha => exact absurd ha (hnone _ (claims_entry hc) _)
        | missing => rfl
    have hperm := (claims_perm once schema fs).map Prod.fst
    rw [hl, List.append_nil] at hperm
    rw [← keys_flatten hsame]
    exact hperm
  · rw [hclaims] at hc'
    obtain ⟨c, hc, he, ha⟩ := added_of_zip hess hc'
    rcases ha.mem hz with ⟨y, hy, hw⟩ | ⟨d, rfl, hw⟩
    · exact ⟨c, hc, he, y, hy, hw⟩
    · exact absurd hw (hnone _ (claims_entry hc) _)

theorem Refit.field (h : Refit convert once schema fs out) (hn : (Entries.keys fs).Nodup) {k : String} {y z : Value}
    (hy : (k, y) ∈ fs) (hz : (k, z) ∈ out) :
    ∃ c ∈ (claims once schema fs).1, (k, y) ∈ c.2 ∧ convert y c.1.2 = some z := by
  have hperm := claims_perm once schema out
  rw [h.claimed, List.append_nil] at hperm
  obtain ⟨c', hc', hz⟩ := List.mem_flatMap.mp (hperm.mem_iff.mpr hz)
  obtain ⟨c, hc, -, y', hy', hw⟩ := h.fields c' hc' k z hz
  cases Entries.mem_unique hn hy (claims_subset hc hy')
  exact ⟨c, hc, hy', hw⟩

/-- The entry that made a field claims it again. -/
theorem Refit.through {convert' : Value → Descriptor → Option Value} {out' : Entries Value}
    (h : Refit convert once schema fs out) (h' : Refit convert' once schema out out') (hn : (Entries.keys fs).Nodup)
    {k : String} {x z : Value} (hx : (k, x) ∈ fs) (hz : (k, z) ∈ out') :
    ∃ c ∈ (claims once schema fs).1, (k, x) ∈ c.2 ∧ ∃ y, convert x c.1.2 = some y ∧ convert' y c.1.2 = some z := by
  obtain ⟨y, hy⟩ := Entries.exists_mem (h'.keys.subset (Entries.mem_keys hz))
  obtain ⟨c', hc', hyc, hw'⟩ := h'.field (h.keys.nodup_iff.mpr hn) hy hz
  obtain ⟨c, hc, he, x', hxc, hw⟩ := h.fields c' hc' k y hyc
  cases Entries.mem_unique hn hx (claims_subset hc hxc)
  exact ⟨c, hc, hxc, y, hw, he ▸ hw'⟩

end

/-! ## Wrapped values -/

/-- No node carries a default, and the entries of each object are written differently. -/
def Descriptor.Clear (d : Descriptor) : Prop := ∀ n, Node n d → n.traits.default = none ∧ n.UniqueKeys

theorem Descriptor.Clear.part {d c : Descriptor} (h : d.Clear) (hc : c ∈ d.parts) : c.Clear :=
  fun n hn => h n (.part hc hn)

namespace Registry
variable {r : Registry}

/-- Made plain under the descriptor, `w` is alike `v`. -/
def Restores (r : Registry) (absent : Absent) (loose : Prop) (d : Descriptor) (v w : Value) : Prop :=
  ∀ u, r.convertWith .plain absent w d = some u → Alike loose v u

/-- The second value is the first one with its keys in some order and with objects wrapped into
instances. The content of an instance of a described shape is made plain as a value alike the one
that it was made of. -/
inductive Wrapped (r : Registry) (absent : Absent) (loose : Prop) : Value → Value → Prop
  | copy {v : Value} (hp : v.Plain) : Wrapped r absent loose v v
  | array {xs ys : List Value} (hl : xs.length = ys.length)
      (h : ∀ p ∈ xs.zip ys, Wrapped r absent loose p.1 p.2) : Wrapped r absent loose (.array xs) (.array ys)
  | object {fs gs : Entries Value} (hk : (Entries.keys gs).Perm (Entries.keys fs))
      (h : ∀ k x y, (k, x) ∈ fs → (k, y) ∈ gs → Wrapped r absent loose x y) :
      Wrapped r absent loose (.object fs) (.object gs)
  | inst {v : Value} {c : Class} {fs gs : Entries Value} (hs : Stands loose v fs)
      (hk : (Entries.keys gs).Perm (Entries.keys fs))
      (h : ∀ k x y, (k, x) ∈ fs → (k, y) ∈ gs → Wrapped r absent loose x y)
      (hc : ∀ id k d, r.class? id = some k → k.same c = true → r.description? id = some d →
        r.Restores absent loose d v (d.content gs)) :
      Wrapped r absent loose v (.inst c gs)

section
variable {absent : Absent} {loose : Prop} {v w : Value}

namespace Wrapped

theorem isNull (h : r.Wrapped absent loose v w) : w.isNull = v.isNull := by
  cases h with
  | copy => rfl
  | array => rfl
  | object => rfl
  | inst hs => cases hs <;> rfl

theorem fields (h : r.Wrapped absent loose v w) (hv : v.Distinct) (hf : w.fields?.isSome = true) :
    ∃ fs, Stands loose v fs ∧ (Entries.keys w.fields).Perm (Entries.keys fs) ∧
      ∀ k x y, (k, x) ∈ fs → (k, y) ∈ w.fields → r.Wrapped absent loose x y := by
  cases h with
  | copy hp =>
    cases v with
    | object fs =>
      refine ⟨fs, .object fs, .refl _, fun k x y hx hy => ?_⟩
      cases Entries.mem_unique hv.keys hx hy
      exact .copy (hp.part (Value.field_part (v := .object fs) hx))
    | inst c fs => cases hp.root
    | _ => cases hf
  | array => cases hf
  | object hk h => exact ⟨_, .object _, hk, h⟩
  | inst hs hk h => exact ⟨_, hs, hk, h⟩

theorem elements {ys : List Value} (h : r.Wrapped absent loose v (.array ys)) :
    ∃ xs, v = .array xs ∧ xs.Forall₂ (r.Wrapped absent loose) ys := by
  cases h with
  | copy hp =>
    exact ⟨ys, rfl, List.forall₂_same.mpr fun e he =>
      .copy (hp.part (Value.element_part (v := .array ys) he))⟩
  | array hl h => exact ⟨_, rfl, List.forall₂_iff_zip.mpr ⟨hl, fun hp => h _ hp⟩⟩

theorem distinct (h : r.Wrapped absent loose v w) : v.Distinct → w.Distinct := by
  have nodup : ∀ {v : Value} {fs gs : Entries Value}, Stands loose v fs → v.Distinct →
      (Entries.keys gs).Perm (Entries.keys fs) → (Entries.keys gs).Nodup :=
    fun hs hv hk => hk.nodup_iff.mpr (hs.nodup hv)
  have part : ∀ {v : Value} {fs gs : Entries Value}, Stands loose v fs → v.Distinct →
      (Entries.keys gs).Perm (Entries.keys fs) →
      (∀ k x y, (k, x) ∈ fs → (k, y) ∈ gs → x.Distinct → y.Distinct) → ∀ p ∈ gs.map Prod.snd, p.Distinct := by
    intro v fs gs hs hv hk ih
    refine List.forall_mem_map.mpr fun g hg => ?_
    obtain ⟨x, hx⟩ := Entries.exists_mem (hk.subset (Entries.mem_keys hg))
    exact ih _ x g.2 hx hg (hv.part (hs.part hx))
  induction h with
  | copy => exact id
  | @array xs ys hl _ ih =>
    refine fun hv => Value.distinct_of_parts List.nodup_nil fun p hp => ?_
    rw [Value.parts_array] at hp
    obtain ⟨x, hx, hxp⟩ := forall₂_mem_right (List.forall₂_iff_zip.mpr ⟨hl, fun hz => ih _ hz⟩) hp
    exact hxp (hv.part (Value.element_part (v := .array _) hx))
  | object hk _ ih =>
    exact fun hv => Value.distinct_of_parts (nodup (.object _) hv hk) (part (.object _) hv hk ih)
  | inst hs hk _ _ ih =>
    exact fun hv => Value.distinct_of_parts (nodup hs hv hk) (part hs hv hk ih)

/-- Flattened, the value is alike the one that it was made of. -/
theorem alike_flatten (h : r.Wrapped absent loose v w) : Alike loose v w.flatten := by
  have fields : ∀ {v : Value} {fs gs : Entries Value}, Stands loose v fs →
      (Entries.keys gs).Perm (Entries.keys fs) →
      (∀ k x y, (k, x) ∈ fs → (k, y) ∈ gs → Alike loose x y.flatten) → Alike loose v (.object (flattenFields gs)) := by
    intro v fs gs hs hk ih
    rw [flattenFields_eq]
    refine .object hs (by rw [Entries.keys_mapValues]; exact hk) fun k x y hx hy => ?_
    obtain ⟨g, hg, hgy⟩ := List.mem_map.mp hy
    cases hgy
    exact ih _ x g.2 hx hg
  induction h with
  | @copy v hp => rw [v.flatten_of_plain hp]; exact .refl v
  | @array xs ys hl _ ih =>
    rw [Value.flatten, flattenElements_eq]
    refine .array (by rw [List.length_map]; exact hl) fun p hp => ?_
    rw [List.zip_map_right] at hp
    obtain ⟨q, hq, rfl⟩ := List.mem_map.mp hp
    exact ih q hq
  | object hk _ ih => exact fields (.object _) hk ih
  | inst hs hk _ _ ih => exact fields hs hk ih

end Wrapped

end

/-! ## Wrapped values are made plain -/

/-- The descriptor accepts the value, or it is a union of the items of an array, which judges the
array as a whole. -/
def Admits (r : Registry) (p : Task) : Prop := r.accepts p.1 p.2 = true ∨ p.2.kind = .mix

theorem admits_items {items : Descriptor} {es : List Value} (h : elementsMatch (es.map r.accepts) items = true) :
    ∀ e ∈ es, r.Admits (e, items) := by
  cases items with
  | mix cs s t => exact fun _ _ => .inr rfl
  | _ => exact fun e he => .inl (by simpa [elementsMatch] using List.all_eq_true.mp h _ (List.mem_map_of_mem he))

/-- What was made of some value becomes alike that value under the descriptor. -/
def Recovers (r : Registry) (absent : Absent) (loose : Prop) (p : Task) : Prop :=
  p.2.Clear → r.Admits p → ∀ v, v.Distinct → r.Wrapped absent loose v p.1 → r.Restores absent loose p.2 v p.1

section
variable {absent : Absent} {loose : Prop} {v w : Value}

theorem Wrapped.restores_copy (h : r.Wrapped absent loose v w) {d : Descriptor}
    (hd : r.convertWith .plain absent w d = some (Target.plain.copy w)) : r.Restores absent loose d v w := by
  intro u hu
  cases hd.symm.trans hu
  exact h.alike_flatten

theorem recovers_keyed (habsent : ∀ d x, absent d = some (some x) → d.traits.default.isSome = true) {schema : Schema}
    {t : Traits} (ih : ∀ q, r.Calls .plain (w, .keyed schema t) q → r.Recovers absent loose q) (hn : w.isNull = false) :
    r.Recovers absent loose (w, .keyed schema t) := by
  intro hc ha v hv h u hu
  have ha := ha.resolve_right nofun
  rw [accepts_keyed hn, Bool.and_eq_true, Bool.and_eq_true, fieldVerdicts_eq] at ha
  obtain ⟨⟨hf, hm⟩, -⟩ := ha
  obtain ⟨out, hout, rfl⟩ := converted_keyed hf hu
  have hk := (h.distinct hv).keys
  have hpart : ∀ e ∈ schema, e.2.Clear := fun e he => hc.part (List.mem_map_of_mem (f := Prod.snd) he)
  have hrefit := refit habsent hk (hc _ .root).2 (fun e he => (hpart e he _ .root).1) (fieldsMatch_unclaimed hm) hout
  obtain ⟨fs, hs, hkeys, hfields⟩ := h.fields hv hf
  refine .object hs (hrefit.keys.trans hkeys) fun k x z hx hz => ?_
  obtain ⟨y, hy⟩ := Entries.exists_mem (hrefit.keys.subset (Entries.mem_keys hz))
  obtain ⟨c, hcl, hyc, hconv⟩ := hrefit.field hk hy hz
  have haccepts := ((fieldsMatch_iff_claims.mp hm).2 c hcl).2 _ hyc
  exact ih (y, c.1.2) (.field hf hcl hyc) (hpart _ (claims_entry hcl)) (.inl haccepts) x (hv.part (hs.part hx))
    (hfields _ x y hx hy) z hconv

theorem recovers_arrayOf {items : Descriptor} {t : Traits}
    (ih : ∀ q, r.Calls .plain (w, .arrayOf items t) q → r.Recovers absent loose q) (hn : w.isNull = false) :
    r.Recovers absent loose (w, .arrayOf items t) := by
  intro hc ha v hv h u hu
  have ha := ha.resolve_right nofun
  rw [accepts_arrayOf hn, Bool.and_eq_true, Bool.and_eq_true] at ha
  obtain ⟨⟨har, hm⟩, -⟩ := ha
  cases w with
  | array ys =>
    obtain ⟨xs, rfl, hxs⟩ := h.elements
    obtain ⟨us, hus, rfl⟩ := converted_arrayOf har hu
    have hitems : items.Clear := hc.part (List.mem_singleton_self items)
    have hstep : xs.Forall₂ (Alike loose) us := forall₂_through hxs hus fun x hx y hy z hxy hz =>
      ih (y, items) (.element hy) hitems (admits_items hm y hy) x
        (hv.part (Value.element_part (v := .array xs) hx)) hxy z hz
    exact .array hstep.length_eq fun p hp => List.forall₂_zip hstep hp
  | _ => cases har

theorem recovers_model (hg : r.Grounded) (hclear : ∀ id d, r.description? id = some d → d.Clear) {id : ShapeId}
    {t : Traits} (ih : ∀ q, r.Calls .plain (w, .model id t) q → r.Recovers absent loose q) (hn : w.isNull = false) :
    r.Recovers absent loose (w, .model id t) := by
  intro hc ha v hv h
  by_cases hdef : ∃ k d, r.class? id = some k ∧ r.description? id = some d
  · obtain ⟨k, d, hk, hd⟩ := hdef
    cases hcar : w.carries k with
    | true =>
      -- an instance of the shape itself: how its content is made plain was settled when it was made
      obtain ⟨c, gs, rfl, hs⟩ := Value.carries_inst hcar
      intro u hu
      rw [convert_opened hg hn hk hd hcar] at hu
      cases h with
      | copy hp => cases hp.root
      | inst _ _ _ ho => exact ho id k d hk hs hd u hu
    | false =>
      have ha := ha.resolve_right nofun
      rw [accepts_model hn hg, checkShape, hk, hd, Option.any_some, Option.any_some, hcar, Bool.false_or,
        Bool.and_eq_true] at ha
      intro u hu
      rw [convert_shape hg hn hk hd hcar] at hu
      obtain ⟨u', hu', rfl⟩ := Option.map_eq_some_iff.mp hu
      exact ih (w, d) (.shape hn hk hd hcar) (hclear id d hd) (.inl ha.1) v hv h u' hu'
  · exact h.restores_copy (convert_undescribed hg hn fun k d hk hd => hdef ⟨k, d, hk, hd⟩)

theorem recovers_mix {choices : List Descriptor} {s : Strategy} {t : Traits}
    (ih : ∀ q, r.Calls .plain (w, .mix choices s t) q → r.Recovers absent loose q) (hn : w.isNull = false) :
    r.Recovers absent loose (w, .mix choices s t) := by
  intro hc _ v hv h
  by_cases hcopy : s = .not ∨ choices.find? (r.accepts w) = none
  · exact h.restores_copy (convert_copied hcopy)
  · obtain ⟨hs, hf⟩ := not_or.mp hcopy
    obtain ⟨c, hf⟩ := Option.ne_none_iff_exists'.mp hf
    -- the choice need not be the one that the value was converted under
    intro u hu
    rw [convert_chosen hn hs hf] at hu
    exact ih (w, c) (.choice hn hs hf) (hc.part (List.mem_of_find?_eq_some hf)) (.inl (List.find?_some hf)) v hv h u hu

theorem recovers (hg : r.Grounded) (hclear : ∀ id d, r.description? id = some d → d.Clear)
    (habsent : ∀ d x, absent d = some (some x) → d.traits.default.isSome = true) (p : Task) :
    r.Recovers absent loose p := by
  induction p using induction_calls .plain hg with
  | h p ih =>
    obtain ⟨w, d⟩ := p
    cases hn : w.isNull with
    | true =>
      cases Value.eq_null hn
      exact fun _ _ v _ h => h.restores_copy (convert_null hg .plain absent d)
    | false =>
      have bare : d.Bare → r.Recovers absent loose (w, d) := fun hb _ _ v _ h => h.restores_copy (convert_bare hb)
      cases d with
      | keyed schema t => exact recovers_keyed habsent ih hn
      | arrayOf items t => exact recovers_arrayOf ih hn
      | model id t => exact recovers_model hg hclear ih hn
      | mix choices s t => exact recovers_mix ih hn
      | primitive p t => exact bare (.primitive p t)
      | openArray t => exact bare (.openArray t)
      | openObject t => exact bare (.openObject t)
      | cls c t => exact bare (.cls c t)

end

end Registry

end Conformance
