import Conformance.Proofs.Additions
import Conformance.Proofs.Walks

/-!
# Claims of a converted object

A converted object holds its fields in the order of the entries that added them. If no pattern
accepts the exact key of a later default, each entry claims of the new object just what it has
added, so an object whose fields are accepted one by one is accepted again.
-/

namespace Conformance

/-- The first entry is no pattern that accepts the exact key of a default, the second entry. -/
def Passes (e e' : KeyMatcher × Descriptor) : Prop :=
  ∀ p key, e.1 = .pattern p → e'.1 = .exact key → e'.2.traits.default.isSome = true → p.isMatch key = false

/-- A pattern accepts no exact key that stands later and carries a default. -/
def Unshadowed (schema : Schema) : Prop := schema.Pairwise Passes

instance : DecidableRel Passes
  | (.pattern p, _), (.exact key, d) =>
    decidable_of_iff (d.traits.default.isSome = true → p.isMatch key = false)
      ⟨fun h _ _ hp hk => by cases hp; cases hk; exact h, fun h => h p key rfl rfl⟩
  | (.pattern _, _), (.pattern _, _) => .isTrue fun _ _ _ hk => nomatch hk
  | (.exact _, _), _ => .isTrue fun _ _ hp => nomatch hp

instance (schema : Schema) : Decidable (Unshadowed schema) :=
  inferInstanceAs (Decidable (schema.Pairwise Passes))

/-! ## Fields at the front -/

section
variable {α : Type}

theorem takeFirst_none {p : String → Bool} : ∀ {es : Entries α}, (∀ e ∈ es, p e.1 = false) →
    takeFirst p es = ([], es)
  | [], _ => rfl
  | e :: es, h => by
    rw [takeFirst, if_neg (by simp [h e List.mem_cons_self]),
      takeFirst_none fun f hf => h f (List.mem_cons_of_mem _ hf)]

theorem takeFirst_front {p : String → Bool} {es rest : Entries α} (hl : es.length ≤ 1) (ha : ∀ e ∈ es, p e.1 = true)
    (hr : es = [] → ∀ e ∈ rest, p e.1 = false) : takeFirst p (es ++ rest) = (es, rest) := by
  match es with
  | [] => exact takeFirst_none (hr rfl)
  | [e] => rw [List.singleton_append, takeFirst, if_pos (ha e (List.mem_singleton_self e))]
  | _ :: _ :: _ => exact absurd hl (by simp)

/-- An entry claims the fields at the front if it accepts them and, unless it takes one at most,
no other. -/
theorem KeyMatcher.claim_front {m : KeyMatcher} {once : Bool} {es rest : Entries α}
    (ha : ∀ e ∈ es, m.accepts e.1 = true)
    (hl : (∃ p, m = .pattern p ∧ once = false) ∨ es.length ≤ 1)
    (hr : (∃ p, m = .pattern p ∧ once = false) ∨ es = [] → ∀ e ∈ rest, m.accepts e.1 = false) :
    m.claim once (es ++ rest) = (es, rest) := by
  cases m with
  | exact key =>
    have hl := hl.resolve_left (by rintro ⟨p, hp, -⟩; cases hp)
    simp only [accepts, eq_comm (a := key)] at ha hr
    exact takeFirst_front hl ha fun h => hr (.inr h)
  | pattern p =>
    cases once with
    | true =>
      have hl := hl.resolve_left (by rintro ⟨-, -, hp⟩; cases hp)
      exact takeFirst_front hl ha fun h => hr (.inr h)
    | false =>
      have hr := hr (.inl ⟨p, rfl, rfl⟩)
      simp only [accepts] at ha hr
      rw [claim_all, List.filter_append, List.filter_append, List.filter_eq_self.mpr ha,
        List.filter_eq_nil_iff.mpr fun e he => by simp [hr e he], List.append_nil,
        List.filter_eq_nil_iff.mpr fun e he => by simp [ha e he],
        List.filter_eq_self.mpr fun e he => by simp [hr e he], List.nil_append]

end

/-! ## Claims again -/

section
variable {convert : Value → Descriptor → Option Value} {absent : Absent} {m : KeyMatcher} {d : Descriptor}
  {once : Bool} {fs es : Entries Value} (h : Added convert absent ((m, d), (m.claim once fs).1) es)
include h

theorem Added.accepts : ∀ x ∈ es, m.accepts x.1 = true := by
  rintro ⟨k, w⟩ hx
  rcases h.mem hx with ⟨v, hv, -⟩ | ⟨d', hc, -⟩
  · have := (m.claim_spec once fs).1 (k, v) hv
    exact this
  · have hm : m = .exact k := congrArg (fun c => c.1.1) hc
    simp [hm, KeyMatcher.accepts]

theorem Added.rejects (he : es = []) : ∀ x ∈ fs, m.accepts x.1 = false :=
  (m.claim_spec once fs).2.1 (h.nil he)

theorem Added.length_le (hm : ∀ p, m = .pattern p → once = true) : es.length ≤ 1 := by
  have hl : (m.claim once fs).1.length ≤ 1 := by
    cases m with
    | exact key => exact (takeFirst_spec _ fs).2.1
    | pattern p => rw [hm p rfl, KeyMatcher.claim_once]; exact (takeFirst_spec _ fs).2.1
  generalize (m.claim once fs).1 = taken at h hl
  cases h with
  | taken _ h => rw [← h.length_eq]; exact hl
  | filled => exact Nat.le_refl 1
  | missing => exact Nat.zero_le 1

theorem Added.nodup (hn : (Entries.keys fs).Nodup) : (Entries.keys es).Nodup := by
  have ht : (Entries.keys (m.claim once fs).1).Nodup := by
    have hp := (m.claim_perm once fs).map Prod.fst
    rw [List.map_append] at hp
    exact (List.nodup_append.mp (hp.nodup_iff.mpr hn)).1
  generalize (m.claim once fs).1 = taken at h ht
  cases h with
  | taken _ h =>
    rw [← Entries.keys_of_forall₂ (fun _ _ h => h.1) h]
    exact ht
  | filled => exact List.nodup_singleton _
  | missing => exact List.nodup_nil

variable {rest : Entries Value} (hr : ∀ x ∈ rest, x.1 ∈ Entries.keys (m.claim once fs).2 ∨ m.accepts x.1 = false)
include hr

theorem Added.claim_front : m.claim once (es ++ rest) = (es, rest) := by
  refine KeyMatcher.claim_front h.accepts ?_ fun hcase x hx => (hr x hx).elim (fun hk => ?_) id
  · by_cases hall : ∃ p, m = .pattern p ∧ once = false
    · exact .inl hall
    · refine .inr (h.length_le fun p hmp => ?_)
      cases once with
      | true => rfl
      | false => exact absurd ⟨p, hmp, rfl⟩ hall
  · obtain ⟨y, hy, hyx⟩ := List.mem_map.mp hk
    rw [← hyx]
    rcases hcase with ⟨p, rfl, rfl⟩ | he
    · rw [KeyMatcher.claim_all] at hy
      simpa [KeyMatcher.accepts] using (List.mem_filter.mp hy).2
    · exact h.rejects he y ((m.claim_spec once fs).2.2.subset hy)

theorem Added.nodup_append (hn : (Entries.keys fs).Nodup) (hrest : (Entries.keys rest).Nodup) :
    (Entries.keys (es ++ rest)).Nodup := by
  have hperm := (m.claim_perm once fs).map Prod.fst
  rw [List.map_append] at hperm
  obtain ⟨-, -, hdisj⟩ := List.nodup_append.mp (hperm.nodup_iff.mpr hn)
  rw [Entries.keys, List.map_append]
  refine List.nodup_append.mpr ⟨h.nodup hn, hrest, ?_⟩
  rintro k hk _ hk' rfl
  obtain ⟨⟨k, w⟩, hx, rfl⟩ := List.mem_map.mp hk
  obtain ⟨y, hy, hyk⟩ := List.mem_map.mp hk'
  have hl : k ∈ Entries.keys (m.claim once fs).2 := by
    have hleft := hr y hy
    rw [hyk] at hleft
    exact hleft.resolve_right fun hrejects => by rw [h.accepts _ hx] at hrejects; cases hrejects
  rcases h.mem hx with ⟨v, hv, -⟩ | ⟨d', hc, -⟩
  · exact hdisj k (Entries.mem_keys hv) k hl rfl
  · obtain ⟨z, hz, hzk⟩ := List.mem_map.mp hl
    have hrejects := (m.claim_spec once fs).2.1 (congrArg Prod.snd hc) z ((m.claim_spec once fs).2.2.subset hz)
    rw [hzk, h.accepts _ hx] at hrejects
    cases hrejects

end

section
variable {convert : Value → Descriptor → Option Value} {absent : Absent} {once : Bool} {schema : Schema}
  {fs : Entries Value} {ess : List (Entries Value)}

/-- What the entries add was there, or it is a default that no entry before them accepts. -/
theorem added_later (hd : ∀ d w, absent d = some (some w) → d.traits.default.isSome = true)
    {e : KeyMatcher × Descriptor} (hu : e.1.text ∉ schema.map fun e => e.1.text) (hp : ∀ e' ∈ schema, Passes e e')
    (h : (claims once schema fs).1.Forall₂ (Added convert absent) ess) :
    ∀ x ∈ ess.flatten, x.1 ∈ Entries.keys fs ∨ e.1.accepts x.1 = false := by
  rintro ⟨k, w⟩ hx
  rcases mem_added h hx with ⟨c, hc, v, hv, -⟩ | ⟨d, hc, ha⟩
  · exact .inl (Entries.mem_keys (claims_subset hc hv))
  · have he : (KeyMatcher.exact k, d) ∈ schema := claims_entry hc
    obtain ⟨m, d'⟩ := e
    refine .inr ?_
    cases m with
    | pattern p => exact hp _ he p k rfl rfl (hd _ _ ha)
    | exact key =>
      have hne : key ≠ k := fun hk => hu (List.mem_map.mpr ⟨_, he, hk.symm⟩)
      simp [KeyMatcher.accepts, hne]

/-- Each entry claims of the new object what it has added, and nothing is left. -/
theorem claims_added (hd : ∀ d w, absent d = some (some w) → d.traits.default.isSome = true)
    (hn : (Entries.keys fs).Nodup) (hu : (schema.map fun e => e.1.text).Nodup) (hp : Unshadowed schema)
    (h : (claims once schema fs).1.Forall₂ (Added convert absent) ess) :
    (Entries.keys ess.flatten).Nodup ∧ claims once schema ess.flatten = (schema.zip ess, []) := by
  induction schema generalizing fs ess with
  | nil =>
    cases h
    exact ⟨List.nodup_nil, rfl⟩
  | cons e schema ih =>
    rw [claims_cons] at h
    obtain ⟨es, ess, hes, htail, rfl⟩ := List.forall₂_cons_left_iff.mp h
    obtain ⟨hu₀, hu⟩ := List.nodup_cons.mp hu
    obtain ⟨hp₀, hp⟩ := List.pairwise_cons.mp hp
    have hleft : (Entries.keys (e.1.claim once fs).2).Nodup := hn.sublist ((e.1.claim_spec once fs).2.2.map _)
    obtain ⟨hkeys, hclaims⟩ := ih hleft hu hp htail
    -- no later entry adds what this one would claim
    have hlater := added_later hd hu₀ hp₀ htail
    rw [List.flatten_cons, claims_cons, hes.claim_front hlater, hclaims]
    exact ⟨hes.nodup_append hlater hn hkeys, rfl⟩

end

theorem added_of_zip {convert : Value → Descriptor → Option Value} {absent : Absent} {once : Bool} {schema : Schema}
    {fs : Entries Value} {ess : List (Entries Value)} (h : (claims once schema fs).1.Forall₂ (Added convert absent) ess)
    {z : (KeyMatcher × Descriptor) × Entries Value} (hz : z ∈ schema.zip ess) :
    ∃ c ∈ (claims once schema fs).1, c.1 = z.1 ∧ Added convert absent c z.2 := by
  rw [← claims_entries once schema fs, List.zip_map_left] at hz
  obtain ⟨⟨c, es⟩, hm, rfl⟩ := List.mem_map.mp hz
  exact ⟨c, (List.of_mem_zip hm).1, rfl, List.forall₂_zip h hm⟩

/-! ## Converted objects -/

/-- The entries claim every field, and a field has `P` under the descriptor that claims it. -/
structure Reclaimed (P : Descriptor → Value → Prop) (once : Bool) (schema : Schema) (fs : Entries Value) : Prop where
  nodup : (Entries.keys fs).Nodup
  claimed : (claims once schema fs).2 = []
  absent : ∀ c ∈ (claims once schema fs).1, c.2 = [] → c.1.2.toleratesAbsence = true
  fields : ∀ c ∈ (claims once schema fs).1, ∀ x ∈ c.2, P c.1.2 x.2

section
variable {P : Descriptor → Value → Prop} {once : Bool} {schema : Schema} {fs : Entries Value}

theorem Reclaimed.fieldsMatch {f : Value → Verdict} (h : Reclaimed P once schema fs)
    (hf : ∀ d x, P d x → f x d = true) : fieldsMatch once schema (Entries.mapValues f fs) = true :=
  fieldsMatch_iff_claims.mpr ⟨h.claimed, fun c hc => ⟨h.absent c hc, fun x hx => hf _ _ (h.fields c hc x hx)⟩⟩

theorem Reclaimed.field (h : Reclaimed P once schema fs) {x : String × Value} (hx : x ∈ fs) :
    ∃ e ∈ schema, P e.2 x.2 := by
  have hperm := claims_perm once schema fs
  rw [h.claimed, List.append_nil] at hperm
  obtain ⟨c, hc, hx⟩ := List.mem_flatMap.mp (hperm.mem_iff.mpr hx)
  exact ⟨c.1, claims_entry hc, h.fields c hc x hx⟩

variable {convert : Value → Descriptor → Option Value} {absent : Absent} {out : Entries Value}
  (hd : ∀ d w, absent d = some (some w) → d.traits.default.isSome = true) (hn : (Entries.keys fs).Nodup)
  (hu : (schema.map fun e => e.1.text).Nodup) (hp : Unshadowed schema)
  (h : convertFields absent once schema (Entries.mapValues (Part.of convert) fs) = some out)
include hd hn hu hp h

theorem convertFields_added : ∃ ess, (claims once schema fs).1.Forall₂ (Added convert absent) ess ∧ out = ess.flatten ∧
    (Entries.keys out).Nodup ∧ claims once schema out = (schema.zip ess, []) := by
  obtain ⟨ess, hess, rfl⟩ := convertFields_some.mp h
  obtain ⟨hkeys, hclaims⟩ := claims_added hd hn hu hp hess
  rw [show Entries.insertAll [] ess.flatten = ess.flatten from Entries.insertAll_new hkeys]
  exact ⟨ess, hess, rfl, hkeys, hclaims⟩

/-- If conversions of accepted fields have `P` under the entries that claim them, and the defaults of
missing keys have it, then the new fields have it. -/
theorem convertFields_reclaimed {f : Value → Verdict} (hm : fieldsMatch once schema (Entries.mapValues f fs) = true)
    (hparts : ∀ c ∈ (claims once schema fs).1, ∀ x ∈ c.2, f x.2 c.1.2 = true →
      ∀ w, convert x.2 c.1.2 = some w → P c.1.2 w)
    (habsent : ∀ key d, ((.exact key, d), []) ∈ (claims once schema fs).1 → ∀ w, absent d = some (some w) → P d w) :
    Reclaimed P once schema out := by
  obtain ⟨ess, hess, rfl, hkeys, hclaims⟩ := convertFields_added hd hn hu hp h
  obtain ⟨-, hfields⟩ := fieldsMatch_iff_claims.mp hm
  refine ⟨hkeys, by rw [hclaims], fun z hz he => ?_, fun z hz x hx => ?_⟩
  · rw [hclaims] at hz
    obtain ⟨c, hc, hcz, ha⟩ := added_of_zip hess hz
    rw [← hcz]
    exact (hfields c hc).1 (ha.nil he)
  · rw [hclaims] at hz
    obtain ⟨c, hc, hcz, ha⟩ := added_of_zip hess hz
    rw [← hcz]
    rcases ha.mem hx with ⟨v, hv, hw⟩ | ⟨d, rfl, hw⟩
    · exact hparts c hc _ hv ((hfields c hc).2 _ hv) x.2 hw
    · exact habsent _ d hc x.2 hw

end

end Conformance
