import Conformance.Proofs.Additions
import Conformance.Proofs.Flattening
import Mathlib.Logic.Relation

/-!
# Calls of the converter

The converter calls itself on the fields that claims take, on elements, on the choice of a union
and on the description of a shape. Calls go down: to parts of the value, or down the descriptor
for the same value, since the description of a shape looks at parts alone. So a conversion comes
to an end just if every key that it or its calls find missing gets an answer.
-/

namespace Conformance

abbrev Task := Value × Descriptor

/-- The descriptor is that of an exact key of an object, and the value has no field left for it. -/
inductive Lacks : Task → Descriptor → Prop
  | entry {v : Value} {schema : Schema} {t : Traits} {key : String} {m : Descriptor} (hf : v.fields?.isSome = true)
      (hc : ((.exact key, m), []) ∈ (claims t.matchOnce schema v.fields).1) : Lacks (v, .keyed schema t) m

namespace Registry
variable {r : Registry} {target : Target}

/-! ## Calls -/

/-- One conversion calls another. An instance of the shape itself is made plain as its content. -/
inductive Calls (r : Registry) (target : Target) : Task → Task → Prop
  | element {v e : Value} {items : Descriptor} {t : Traits} (he : e ∈ v.elements) :
      Calls r target (v, .arrayOf items t) (e, items)
  | field {v : Value} {schema : Schema} {t : Traits} {c : (KeyMatcher × Descriptor) × Entries Value}
      {f : String × Value} (hv : v.fields?.isSome = true) (hc : c ∈ (claims t.matchOnce schema v.fields).1)
      (hf : f ∈ c.2) : Calls r target (v, .keyed schema t) (f.2, c.1.2)
  | choice {v : Value} {choices : List Descriptor} {s : Strategy} {t : Traits} {c : Descriptor}
      (hn : v.isNull = false) (hs : s ≠ .not) (hc : choices.find? (r.accepts v) = some c) :
      Calls r target (v, .mix choices s t) (v, c)
  | shape {v : Value} {id : ShapeId} {t : Traits} {k : Class} {d : Descriptor} (hn : v.isNull = false)
      (hc : r.class? id = some k) (hd : r.description? id = some d) (hv : v.carries k = false) :
      Calls r target (v, .model id t) (v, d)
  | content {v : Value} {id : ShapeId} {t : Traits} {k : Class} {d : Descriptor} (ht : target = .plain)
      (hc : r.class? id = some k) (hd : r.description? id = some d) (hv : v.carries k = true) :
      Calls r target (v, .model id t) (d.content v.fields, d)

/-- The calls of a conversion, those of its calls, and itself. -/
abbrev Comes (r : Registry) (target : Target) : Task → Task → Prop := Relation.ReflTransGen (r.Calls target)

/-! ## Calls go down -/

/-- How many calls for the same value may follow. -/
def rank : Descriptor → Nat
  | .mix choices s t => (Descriptor.mix choices s t).height + 1
  | .model .. => 1
  | _ => 0

theorem rank_choice {choices : List Descriptor} {s : Strategy} {t : Traits} {c : Descriptor} (hc : c ∈ choices) :
    rank c < rank (.mix choices s t) := by
  have hh := Descriptor.height_part (d := .mix choices s t) hc
  have hpos := c.height_pos
  cases c <;> simp only [rank] at hh ⊢ <;> omega

theorem rank_container {d : Descriptor} (h : d.kind = .object ∨ d.kind = .array) : rank d = 0 := by
  cases Descriptor.container_of_kind h <;> rfl

theorem depth_content (d : Descriptor) (c : Class) (fs : Entries Value) :
    (d.content fs).depth = (Value.inst c fs).depth := by
  unfold Descriptor.content
  split
  · rw [Value.depth, Value.depth, Value.elementsDepth_eq, Value.fieldsDepth_eq, List.map_map]
    rfl
  · rfl

/-- A call is for a part of the value, or lower for the same value. -/
theorem Calls.down (hg : r.Grounded) {p q : Task} (h : r.Calls target p q) :
    q.1.depth < p.1.depth ∨ q.1.depth = p.1.depth ∧ rank q.2 < rank p.2 := by
  cases h with
  | element he => exact .inl (Value.depth_element he)
  | field _ hc hf => exact .inl (Value.depth_field (claims_subset hc hf))
  | choice _ _ hc => exact .inr ⟨rfl, rank_choice (List.mem_of_find?_eq_some hc)⟩
  | shape _ _ hd => exact .inr ⟨rfl, by rw [rank_container (hg _ _ hd).1]; exact Nat.one_pos⟩
  | content _ _ hd hv =>
    obtain ⟨k, fs, rfl, -⟩ := Value.carries_inst hv
    exact .inr ⟨depth_content _ k fs, by rw [rank_container (hg _ _ hd).1]; exact Nat.one_pos⟩

theorem calls_wellFounded (hg : r.Grounded) : WellFounded fun q p => r.Calls target p q := by
  refine Subrelation.wf (fun {q p} h => ?_)
    (invImage (fun p : Task => (p.1.depth, rank p.2)) Prod.instWellFoundedRelation).wf
  rcases h.down hg with h | ⟨he, hr⟩
  · exact Prod.Lex.left _ _ h
  · show Prod.Lex _ _ (q.1.depth, rank q.2) (p.1.depth, rank p.2)
    rw [he]
    exact Prod.Lex.right _ hr

/-- What holds of a conversion if it holds of its calls holds of all conversions. -/
theorem induction_calls (target : Target) (hg : r.Grounded) {P : Task → Prop}
    (h : ∀ p, (∀ q, r.Calls target p q → P q) → P p) (p : Task) : P p :=
  (calls_wellFounded hg).induction p h

end Registry

/-! ## Ends of one conversion -/

section
variable {convert : Value → Descriptor → Option Value} {absent : Absent}

theorem exists_added {c : (KeyMatcher × Descriptor) × Entries Value} :
    (∃ es, Added convert absent c es) ↔
      (∀ key m, c = ((.exact key, m), []) → (absent m).isSome = true) ∧
        ∀ f ∈ c.2, (convert f.2 c.1.2).isSome = true := by
  obtain ⟨⟨m, d⟩, taken⟩ := c
  constructor
  · rintro ⟨es, h⟩
    refine ⟨?_, fun f hf => ?_⟩
    · rintro key m' hc
      cases hc
      cases h with
      | taken hm => exact absurd rfl (hm rfl key)
      | filled h => rw [h]; rfl
      | missing h => rw [h]; rfl
    · obtain ⟨w, hw, -⟩ := h.of_mem hf
      rw [hw]
      rfl
  · rintro ⟨habsent, hconvert⟩
    -- only an exact key that takes nothing asks for its default
    by_cases hm : taken = [] → ∀ key, m ≠ .exact key
    · have htaken : ∀ f ∈ taken, ∃ y : String × Value, f.1 = y.1 ∧ convert f.2 d = some y.2 := by
        intro f hf
        obtain ⟨w, hw⟩ := Option.isSome_iff_exists.mp (hconvert f hf)
        exact ⟨(f.1, w), rfl, hw⟩
      obtain ⟨es, hes⟩ := exists_forall₂.mpr htaken
      exact ⟨es, .taken hm hes⟩
    · obtain ⟨rfl, key, rfl⟩ : taken = [] ∧ ∃ key, m = .exact key := by simpa using hm
      obtain ⟨w, hw⟩ := Option.isSome_iff_exists.mp (habsent key d rfl)
      cases w with
      | none => exact ⟨[], .missing hw⟩
      | some w => exact ⟨[(key, w)], .filled hw⟩

theorem convertFields_isSome {once : Bool} {schema : Schema} {fs : Entries Value} :
    (convertFields absent once schema (Entries.mapValues (Part.of convert) fs)).isSome = true ↔
      ∀ c ∈ (claims once schema fs).1, (∀ key m, c = ((.exact key, m), []) → (absent m).isSome = true) ∧
        ∀ f ∈ c.2, (convert f.2 c.1.2).isSome = true := by
  rw [← forall₂_congr fun c _ => exists_added, ← exists_forall₂, Option.isSome_iff_exists]
  simp only [convertFields_some]
  constructor
  · rintro ⟨out, ess, hess, -⟩
    exact ⟨ess, hess⟩
  · rintro ⟨ess, hess⟩
    exact ⟨_, ess, hess, rfl⟩

end

namespace Registry
variable {r : Registry} {target : Target}

/-- The conversion of the task comes to an end, given the answers for missing keys. -/
def Ends (r : Registry) (target : Target) (absent : Absent) (p : Task) : Prop :=
  (r.convertWith target absent p.1 p.2).isSome = true

/-- The keys that the conversion finds missing get answers, and its calls come to an end. -/
structure Settled (r : Registry) (target : Target) (absent : Absent) (p : Task) : Prop where
  lacks : ∀ m, Lacks p m → (absent m).isSome = true
  calls : ∀ q, r.Calls target p q → r.Ends target absent q

section
variable {absent : Absent}

theorem ends_alone {p : Task} (h : r.Ends target absent p) (hl : ∀ m, ¬ Lacks p m) (hc : ∀ q, ¬ r.Calls target p q) :
    r.Ends target absent p ↔ r.Settled target absent p :=
  ⟨fun _ => ⟨fun m h => absurd h (hl m), fun q h => absurd h (hc q)⟩, fun _ => h⟩

theorem ends_through {p q : Task} (h : r.Ends target absent p ↔ r.Ends target absent q) (hl : ∀ m, ¬ Lacks p m)
    (hc : r.Calls target p q) (hu : ∀ q', r.Calls target p q' → q' = q) :
    r.Ends target absent p ↔ r.Settled target absent p :=
  ⟨fun hp => ⟨fun m h => absurd h (hl m), fun q' hq => hu q' hq ▸ h.mp hp⟩, fun hp => h.mpr (hp.calls q hc)⟩

theorem ends_bare {v : Value} {d : Descriptor} (hb : d.Bare) :
    r.Ends target absent (v, d) ↔ r.Settled target absent (v, d) := by
  refine ends_alone ?_ (fun m h => ?_) fun q h => ?_
  · rw [Ends, convert_bare hb]
    rfl
  · cases h; cases hb
  · cases h <;> cases hb

theorem ends_keyed (v : Value) (schema : Schema) (t : Traits) :
    r.Ends target absent (v, .keyed schema t) ↔ r.Settled target absent (v, .keyed schema t) := by
  by_cases hf : v.fields?.isSome = true
  · rw [Ends, convert_keyed, if_pos hf, Option.isSome_map, convertFields_isSome]
    constructor
    · refine fun h => ⟨fun m hm => ?_, fun q hq => ?_⟩
      · cases hm with
        | entry _ hc => exact (h _ hc).1 _ _ rfl
      · cases hq with
        | field _ hc hx => exact (h _ hc).2 _ hx
    · rintro ⟨hl, hq⟩ c hc
      exact ⟨fun key m he => hl m (.entry hf (he ▸ hc)), fun f hx => hq _ (.field hf hc hx)⟩
  · refine ends_alone ?_ (fun m hm => ?_) fun q hq => ?_
    · rw [Ends, convert_keyed, if_neg hf]
      rfl
    · cases hm with
      | entry h => exact hf h
    · cases hq with
      | field h => exact hf h

theorem ends_arrayOf (v : Value) (items : Descriptor) (t : Traits) :
    r.Ends target absent (v, .arrayOf items t) ↔ r.Settled target absent (v, .arrayOf items t) := by
  by_cases ha : v.isArray = true
  · rw [Ends, convert_arrayOf, if_pos ha, Option.isSome_map, mapM_isSome]
    refine ⟨fun h => ⟨nofun, fun q hq => ?_⟩, fun h e he => h.calls _ (.element he)⟩
    cases hq with
    | element he => exact h _ he
  · refine ends_alone ?_ nofun fun q hq => ?_
    · rw [Ends, convert_arrayOf, if_neg ha]
      rfl
    · cases hq with
      | element he =>
        cases v with
        | array es => exact ha rfl
        | _ => cases he

theorem ends_mix (v : Value) (choices : List Descriptor) (s : Strategy) (t : Traits) :
    r.Ends target absent (v, .mix choices s t) ↔ r.Settled target absent (v, .mix choices s t) := by
  have alone : r.convertWith target absent v (.mix choices s t) = some (target.copy v) →
      (∀ q, ¬ r.Calls target (v, .mix choices s t) q) →
      (r.Ends target absent (v, .mix choices s t) ↔ r.Settled target absent (v, .mix choices s t)) :=
    fun h => ends_alone (by rw [Ends, h]; rfl) nofun
  by_cases hcopy : s = .not ∨ choices.find? (r.accepts v) = none
  · refine alone (convert_copied hcopy) fun q hq => ?_
    cases hq with
    | choice _ hs hc =>
      refine hcopy.elim hs fun h => ?_
      rw [hc] at h
      cases h
  · obtain ⟨hs, hf⟩ := not_or.mp hcopy
    obtain ⟨c, hf⟩ := Option.ne_none_iff_exists'.mp hf
    cases hn : v.isNull with
    | true =>
      refine alone (by rw [convert_mix, hn]; rfl) fun q hq => ?_
      cases hq with
      | choice h => rw [hn] at h; cases h
    | false =>
      refine ends_through (by rw [Ends, Ends, convert_chosen hn hs hf]) nofun (.choice hn hs hf) fun q hq => ?_
      cases hq with
      | choice _ _ h => cases hf.symm.trans h; rfl

/-- An instance of the shape is made plain as its content, or stays. -/
theorem ends_carried (hg : r.Grounded) {v : Value} {id : ShapeId} {t : Traits} {k : Class} {d : Descriptor}
    (hn : v.isNull = false) (hc : r.class? id = some k) (hd : r.description? id = some d) (hv : v.carries k = true) :
    r.Ends target absent (v, .model id t) ↔ r.Settled target absent (v, .model id t) := by
  cases target with
  | instances =>
    refine ends_alone (by rw [Ends, convert_own hg hn hc hv]; rfl) nofun fun q hq => ?_
    cases hq with
    | shape _ hc' _ hv' => cases hc.symm.trans hc'; rw [hv] at hv'; cases hv'
    | content h => cases h
  | plain =>
    refine ends_through (by rw [Ends, Ends, convert_opened hg hn hc hd hv]) nofun (.content rfl hc hd hv) fun q hq => ?_
    cases hq with
    | shape _ hc' _ hv' => cases hc.symm.trans hc'; rw [hv] at hv'; cases hv'
    | content _ _ hd' => cases hd.symm.trans hd'; rfl

theorem ends_model (hg : r.Grounded) (v : Value) (id : ShapeId) (t : Traits) :
    r.Ends target absent (v, .model id t) ↔ r.Settled target absent (v, .model id t) := by
  cases hn : v.isNull with
  | true =>
    cases Value.eq_null hn
    refine ends_alone (by rw [Ends, convert_null hg]; rfl) nofun fun q hq => ?_
    cases hq with
    | shape h => cases h
    | content _ _ _ hv => cases hv
  | false =>
    by_cases hdef : ∃ k d, r.class? id = some k ∧ r.description? id = some d
    · obtain ⟨k, d, hc, hd⟩ := hdef
      cases hv : v.carries k with
      | true => exact ends_carried hg hn hc hd hv
      | false =>
        refine ends_through (by rw [Ends, Ends, convert_shape hg hn hc hd hv, Option.isSome_map]) nofun
          (.shape hn hc hd hv) fun q hq => ?_
        cases hq with
        | shape _ _ hd' => cases hd.symm.trans hd'; rfl
        | content _ hc' _ hv' => cases hc.symm.trans hc'; rw [hv] at hv'; cases hv'
    · have hcopy : r.convertWith target absent v (.model id t) = some (target.copy v) :=
        convert_undescribed hg hn fun k d hc hd => hdef ⟨k, d, hc, hd⟩
      refine ends_alone (by rw [Ends, hcopy]; rfl) nofun fun q hq => ?_
      cases hq with
      | shape _ hc hd => exact hdef ⟨_, _, hc, hd⟩
      | content _ hc hd => exact hdef ⟨_, _, hc, hd⟩

theorem ends_step (hg : r.Grounded) (p : Task) : r.Ends target absent p ↔ r.Settled target absent p := by
  obtain ⟨v, d⟩ := p
  cases d with
  | primitive p t => exact ends_bare (.primitive p t)
  | openObject t => exact ends_bare (.openObject t)
  | openArray t => exact ends_bare (.openArray t)
  | cls c t => exact ends_bare (.cls c t)
  | keyed schema t => exact ends_keyed v schema t
  | arrayOf items t => exact ends_arrayOf v items t
  | mix choices s t => exact ends_mix v choices s t
  | model id t => exact ends_model hg v id t

/-! ## Ends of conversions -/

/-- The conversion of the task, or one that it comes to, lacks the key of this descriptor. -/
def Asks (r : Registry) (target : Target) (p : Task) (m : Descriptor) : Prop := ∃ q, r.Comes target p q ∧ Lacks q m

/-- A conversion comes to an end just if every key that it asks for gets an answer. -/
theorem ends_iff (hg : r.Grounded) (p : Task) :
    r.Ends target absent p ↔ ∀ m, r.Asks target p m → (absent m).isSome = true := by
  induction p using induction_calls target hg with
  | h p ih =>
    rw [ends_step hg]
    constructor
    · rintro ⟨hl, hc⟩ m ⟨q, hq, hm⟩
      rcases hq.cases_head with rfl | ⟨p', hp, hq⟩
      · exact hl m hm
      · exact (ih p' hp).mp (hc p' hp) m ⟨q, hq, hm⟩
    · refine fun h => ⟨fun m hm => h m ⟨p, .refl, hm⟩, fun q hq => (ih q hq).mpr fun m hm => ?_⟩
      obtain ⟨q', hq', hm⟩ := hm
      exact h m ⟨q', .head hq hq', hm⟩

end

end Registry

end Conformance
