import Conformance.Compile
import Conformance.Pattern.Parser
import Conformance.Proofs.Walks

/-!
# The readers of an object schema

Three readers go over a schema: the walks of the checker and of the converter, and the lookup of
the description of a key. On a map that the checker accepts both walks take the same keys, each
key once; and where patterns take all they match, an entry takes just the keys that the lookup
gives it.
-/

namespace Conformance

/-! ## Each key once -/

theorem claims_keys_perm {once : Bool} {schema : Schema} {fs : Entries Value} (h : (claims once schema fs).2 = []) :
    (((claims once schema fs).1.map fun c => Entries.keys c.2).flatten).Perm (Entries.keys fs) := by
  have hp := (claims_perm once schema fs).map Prod.fst
  rw [h, List.append_nil] at hp
  rw [← List.flatMap_def]
  refine List.Perm.trans (.of_eq ?_) hp
  rw [List.map_flatMap]
  rfl

/-! ## The lookup -/

theorem takeFirst_eq_filter {α : Type} {key : String} : ∀ {fs : Entries α}, (Entries.keys fs).Nodup →
    takeFirst (· = key) fs = (fs.filter fun f => f.1 = key, fs.filter fun f => !decide (f.1 = key))
  | [], _ => rfl
  | (k, a) :: fs, hn => by
    obtain ⟨hk, hn⟩ := List.nodup_cons.mp hn
    rw [takeFirst]
    by_cases h : k = key
    · subst h
      have hne : ∀ f ∈ fs, f.1 ≠ k := fun f hf e => hk (List.mem_map.mpr ⟨f, hf, e⟩)
      have hnone : fs.filter (fun f => f.1 = k) = [] :=
        List.filter_eq_nil_iff.mpr fun f hf => by simpa using hne f hf
      have hall : fs.filter (fun f => !decide (f.1 = k)) = fs :=
        List.filter_eq_self.mpr fun f hf => by simpa using hne f hf
      simp [hnone, hall]
    · simp [h, takeFirst_eq_filter hn]

theorem claim_filter {α : Type} (m : KeyMatcher) {fs : Entries α} (hn : (Entries.keys fs).Nodup) :
    m.claim false fs = (fs.filter fun f => m.accepts f.1, fs.filter fun f => !m.accepts f.1) := by
  cases m with
  | exact key =>
    rw [KeyMatcher.claim_exact, takeFirst_eq_filter hn]
    simp only [KeyMatcher.accepts, eq_comm]
  | pattern r => exact KeyMatcher.claim_all r fs

section
variable {α : Type}

theorem claims_rest : ∀ (schema : Schema) {fs : Entries α}, (Entries.keys fs).Nodup →
    (claims false schema fs).2 = fs.filter fun f => !schema.any (·.1.accepts f.1)
  | [], fs, _ => (List.filter_eq_self.mpr fun _ _ => rfl).symm
  | e :: schema, fs, hn => by
    have hl : (Entries.keys (e.1.claim false fs).2).Nodup := hn.sublist ((e.1.claim_spec false fs).2.2.map _)
    rw [claims_cons, claims_rest schema hl, claim_filter e.1 hn, List.filter_filter]
    refine List.filter_congr fun f _ => ?_
    rw [List.any_cons, Bool.not_or, Bool.and_comm]

/-- An entry claims the fields that it is the first to accept. -/
theorem claims_first : ∀ (schema : Schema) {fs : Entries α}, (Entries.keys fs).Nodup → ∀ j : Nat,
    (claims false schema fs).1[j]? =
      schema[j]?.map fun e => (e, fs.filter fun f => schema.findIdx? (·.1.accepts f.1) = some j)
  | [], _, _, _ => rfl
  | e :: schema, fs, hn, j => by
    have hl : (Entries.keys (e.1.claim false fs).2).Nodup := hn.sublist ((e.1.claim_spec false fs).2.2.map _)
    rw [claims_cons]
    cases j with
    | zero =>
      rw [claim_filter e.1 hn, List.getElem?_cons_zero, List.getElem?_cons_zero, Option.map_some]
      refine congrArg (fun taken => some (e, taken)) (List.filter_congr fun f _ => ?_)
      cases ha : e.1.accepts f.1 <;> simp [List.findIdx?_cons, ha]
    | succ j =>
      rw [List.getElem?_cons_succ, List.getElem?_cons_succ, claims_first schema hl j, claim_filter e.1 hn]
      refine congrFun (congrArg Option.map (funext fun e' => congrArg (Prod.mk e') ?_)) _
      rw [List.filter_filter]
      refine List.filter_congr fun f _ => ?_
      cases ha : e.1.accepts f.1 <;> simp [List.findIdx?_cons, ha]

theorem mem_claims {schema : Schema} {fs : Entries α} (hn : (Entries.keys fs).Nodup)
    {c : (KeyMatcher × Descriptor) × Entries α} : c ∈ (claims false schema fs).1 ↔
      ∃ j e, schema[j]? = some e ∧ (e, fs.filter fun f => schema.findIdx? (·.1.accepts f.1) = some j) = c := by
  simp only [List.mem_iff_getElem?, claims_first schema hn, Option.map_eq_some_iff]

end

/-- The first entry that accepts a key judges its value, and an entry that is first for no key
tolerates absence. -/
theorem fieldsMatch_values {f : Value → Verdict} {schema : Schema} {fs : Entries Value} (hn : (Entries.keys fs).Nodup) :
    fieldsMatch false schema (Entries.mapValues f fs) = true ↔
      (∀ x ∈ fs, ∃ e, schema.find? (·.1.accepts x.1) = some e ∧ f x.2 e.2 = true) ∧
      ∀ j e, schema[j]? = some e → (∀ k ∈ Entries.keys fs, schema.findIdx? (·.1.accepts k) ≠ some j) →
        e.2.toleratesAbsence = true := by
  rw [fieldsMatch_iff_claims, claims_rest schema hn, List.filter_eq_nil_iff]
  constructor
  · rintro ⟨hrest, hc⟩
    refine ⟨fun x hx => ?_, fun j e hj hk => ?_⟩
    · have hany : (schema.findIdx? (·.1.accepts x.1)).isSome = true := by
        simpa [List.findIdx?_isSome] using hrest x hx
      obtain ⟨j, hj⟩ := Option.isSome_iff_exists.mp hany
      obtain ⟨hlt, -⟩ := List.findIdx?_eq_some_iff_getElem.mp hj
      have he : schema[j]? = some schema[j] := List.getElem?_eq_getElem hlt
      refine ⟨schema[j], by rw [List.find?_eq_bind_findIdx?_getElem?, hj]; exact he, ?_⟩
      exact (hc _ ((mem_claims hn).mpr ⟨j, _, he, rfl⟩)).2 x (List.mem_filter.mpr ⟨hx, decide_eq_true hj⟩)
    · refine (hc _ ((mem_claims hn).mpr ⟨j, e, hj, rfl⟩)).1 (List.filter_eq_nil_iff.mpr fun x hx h => ?_)
      exact hk x.1 (Entries.mem_keys hx) (of_decide_eq_true h)
  · rintro ⟨hf, ht⟩
    refine ⟨fun x hx => ?_, fun c hc => ?_⟩
    · obtain ⟨e, he, -⟩ := hf x hx
      have ha := List.find?_some he
      rw [List.any_eq_true.mpr ⟨e, List.mem_of_find?_eq_some he, ha⟩]
      exact Bool.false_ne_true
    · obtain ⟨j, e, hj, rfl⟩ := (mem_claims hn).mp hc
      refine ⟨fun htaken => ht j e hj fun k hk h => ?_, fun x hx => ?_⟩
      · obtain ⟨x, hx, rfl⟩ := List.mem_map.mp hk
        exact List.filter_eq_nil_iff.mp htaken x hx (decide_eq_true h)
      · obtain ⟨hx, hi⟩ := List.mem_filter.mp hx
        obtain ⟨e', he', hv⟩ := hf x hx
        rw [List.find?_eq_bind_findIdx?_getElem?, of_decide_eq_true hi, Option.bind_some, hj] at he'
        cases he'
        exact hv

theorem describeKey?_keyed (schema : Schema) (t : Traits) (key : String) :
    (Descriptor.keyed schema t).describeKey? key = (schema.find? (·.1.accepts key)).map Prod.snd := rfl

/-! ## Agreement -/

/-- The checker accepts a map just if its walk does, and then the walk of the converter takes the
same keys for the same entries, each key of the map for one entry. Where patterns take all they
match, the checker accepts a map just if the description of every key exists and accepts its
value, and every entry that is the description of no key tolerates absence. -/
theorem readers_agree (r : Registry) (schema : Schema) (t : Traits) {fields : Entries Value}
    (hn : (Entries.keys fields).Nodup) :
    (∀ once, fieldsMatch once schema (r.fieldVerdicts fields) = false ↔
      checkWalk (fun v d => some (r.matches? v d)) once fields schema (Entries.keys fields) = some none) ∧
    (∀ once, fieldsMatch once schema (r.fieldVerdicts fields) = true → ∃ taken : List (List String),
      taken.length = schema.length ∧
      checkWalk (fun v d => some (r.matches? v d)) once fields schema (Entries.keys fields) = some (some taken) ∧
      (∀ target absent,
        convertWalk (r.convertWith target absent) absent once fields schema (Entries.keys fields) (some []) =
          (taken, convertFields absent once schema (r.fieldParts target absent fields))) ∧
      (∀ keys ∈ taken, keys ⊆ Entries.keys fields) ∧
      ∀ key ∈ Entries.keys fields, ∃! j : Nat, ∃ keys, taken[j]? = some keys ∧ key ∈ keys) ∧
    (fieldsMatch false schema (r.fieldVerdicts fields) = true ↔
      (∀ x ∈ fields, ∃ d, (Descriptor.keyed schema t).describeKey? x.1 = some d ∧ r.matches? (some x.2) d = true) ∧
      ∀ j e, schema[j]? = some e → (∀ x ∈ fields, schema.findIdx? (·.1.accepts x.1) ≠ some j) →
        e.2.toleratesAbsence = true) := by
  have hv : r.fieldVerdicts fields = Entries.mapValues r.accepts fields := r.fieldVerdicts_eq fields
  have hwalk := fun once => checkWalk_accepts hn r once schema
  rw [hv]
  refine ⟨fun once => ?_, fun once h => ?_, ?_⟩
  · rw [hwalk once]
    cases fieldsMatch once schema (Entries.mapValues r.accepts fields) <;> simp
  · have hp := claims_keys_perm (fieldsMatch_unclaimed h)
    refine ⟨(claims once schema fields).1.map fun c => Entries.keys c.2, ?_, ?_, ?_, ?_, ?_⟩
    · rw [List.length_map, ← List.length_map Prod.fst, claims_entries]
    · rw [hwalk once, if_pos h]
    · intro target absent
      rw [convertWalk_eq hn _ absent once schema fields (.refl fields), r.fieldParts_eq]
      rfl
    · intro keys hk key hm
      exact hp.subset (List.mem_flatten.mpr ⟨keys, hk, hm⟩)
    · intro key hm
      exact exists_unique_of_flatten (hp.nodup_iff.mpr hn) (hp.mem_iff.mpr hm)
  · rw [fieldsMatch_values hn]
    refine and_congr (forall₂_congr fun x _ => ?_)
      (forall₂_congr fun j e => imp_congr_right fun _ => imp_congr_left List.forall_mem_map)
    rw [describeKey?_keyed]
    constructor
    · rintro ⟨e, he, hx⟩
      exact ⟨e.2, by rw [he]; rfl, hx⟩
    · rintro ⟨d, hd, hx⟩
      obtain ⟨e, he, rfl⟩ := Option.map_eq_some_iff.mp hd
      exact ⟨e, he, hx⟩

/-- Two patterns that overlap, on each other and on the exact key between them. -/
def overlapping : Schema :=
  match (Registry.empty 0).compile
    (.keyed [("/^ax|ay$/", .token "boolean"), ("id", .token "boolean"), ("/^.+$/", .token "boolean")]) {} with
  | .ok (.keyed schema _) => schema
  | _ => []

def overlappingFields : Entries Value := [("id", .bool true), ("ax", .bool true), ("ay", .bool false)]

theorem readers_agree_overlapping : (Entries.keys overlappingFields).Nodup ∧
    (∃ taken : List (List String), taken.length = 3 ∧
      checkWalk (fun v d => some ((Registry.empty 0).matches? v d)) true overlappingFields overlapping
        ["id", "ax", "ay"] = some (some taken) ∧
      ∀ key ∈ ["id", "ax", "ay"], ∃! j : Nat, ∃ keys, taken[j]? = some keys ∧ key ∈ keys) ∧
    ¬ ((∀ x ∈ overlappingFields, ∃ d, (Descriptor.keyed overlapping (Options.traits {})).describeKey? x.1 = some d ∧
        (Registry.empty 0).matches? (some x.2) d = true) ∧
      ∀ j e, overlapping[j]? = some e →
        (∀ x ∈ overlappingFields, overlapping.findIdx? (·.1.accepts x.1) ≠ some j) →
          e.2.toleratesAbsence = true) := by
  have hn : (Entries.keys overlappingFields).Nodup := by decide
  have hl : overlapping.length = 3 := by decide +kernel
  have honce :
      fieldsMatch true overlapping ((Registry.empty 0).fieldVerdicts overlappingFields) = true := by decide +kernel
  have hall :
      fieldsMatch false overlapping ((Registry.empty 0).fieldVerdicts overlappingFields) = false := by decide +kernel
  obtain ⟨-, hwalk, hlookup⟩ := readers_agree (Registry.empty 0) overlapping (Options.traits {}) hn
  obtain ⟨taken, ht, hc, -, -, hu⟩ := hwalk true honce
  refine ⟨hn, ⟨taken, ht.trans hl, hc, hu⟩, fun h => ?_⟩
  rw [hlookup.mpr h] at hall
  cases hall

end Conformance
