import Conformance.Proofs.Calls
import Conformance.Proofs.Congruence
import Conformance.Proofs.Reclaims
import Conformance.Proofs.Slots

/-!
# Conversions keep acceptance

A value that a descriptor accepts is accepted again after its conversion, if the conversions that it
comes to are firm and coherent. A sound descriptor is so for all values. Conversions into instances
ask little of descriptors and nothing of the instances that a value brings along. Conversions into
plain values open instances, so these must be of described shapes that accept their content. The
induction is on the calls of the converter.
-/

namespace Conformance

namespace Registry
variable {r : Registry}

/-! ## Good values -/

/-- The class is that of a described shape, which accepts the fields as its content. -/
def Fits (r : Registry) (c : Class) (fs : Entries Value) : Prop :=
  ∃ id k d, r.class? id = some k ∧ k.same c = true ∧ r.description? id = some d ∧
    r.accepts (d.content fs) d = true

/-- Keys are unique, and each instance in the value fits, if that is asked. -/
structure Good (r : Registry) (fitting : Prop) (v : Value) : Prop where
  distinct : v.Distinct
  instances : fitting → ∀ c fs, Value.Node (.inst c fs) v → r.Fits c fs

theorem Fits.description {id : ShapeId} {c k : Class} {fs : Entries Value} (h : r.Fits k fs)
    (hc : r.class? id = some c) (hs : c.same k = true) :
    ∃ d, r.description? id = some d ∧ r.accepts (d.content fs) d = true := by
  obtain ⟨id', c', d, hc', hs', hd, ha⟩ := h
  exact ⟨d, class?_same hc hc' hs hs' ▸ hd, ha⟩

section
variable {fitting : Prop}

theorem Good.part {v p : Value} (h : r.Good fitting v) (hp : p ∈ v.parts) : r.Good fitting p :=
  ⟨h.distinct.part hp, fun hf c fs hn => h.instances hf c fs (.part hp hn)⟩

theorem Good.of_plain {v : Value} (hp : v.Plain) (hd : v.Distinct) : r.Good fitting v :=
  ⟨hd, fun _ _ _ hn => by cases hp _ hn⟩

theorem good_of_parts {v : Value} (hk : (Entries.keys v.fields).Nodup) (hp : ∀ p ∈ v.parts, r.Good fitting p)
    (hi : ∀ c fs, v = .inst c fs → r.Fits c fs) : r.Good fitting v := by
  refine ⟨Value.distinct_of_parts hk fun p h => (hp p h).distinct, fun hf c fs hn => ?_⟩
  generalize hx : Value.inst c fs = x at hn
  cases hn with
  | root => exact hi c fs hx.symm
  | part h hn => subst hx; exact (hp _ h).instances hf c fs hn

theorem good_array {es : List Value} (h : ∀ e ∈ es, r.Good fitting e) : r.Good fitting (.array es) :=
  good_of_parts List.nodup_nil (by simpa using h) nofun

theorem good_object {fs : Entries Value} (hk : (Entries.keys fs).Nodup) (h : ∀ f ∈ fs, r.Good fitting f.2) :
    r.Good fitting (.object fs) :=
  good_of_parts hk (by rw [Value.parts_object, List.forall_mem_map]; exact h) nofun

theorem good_copy {v : Value} (h : r.Good fitting v) (t : Target) : r.Good fitting (t.copy v) := by
  cases t with
  | instances => exact h
  | plain => exact .of_plain v.flatten_plain (v.flatten_distinct h.distinct)

theorem good_content {d : Descriptor} {fs : Entries Value} (hk : (Entries.keys fs).Nodup)
    (h : ∀ f ∈ fs, r.Good fitting f.2) : r.Good fitting (d.content fs) := by
  have hparts : ∀ p ∈ fs.map Prod.snd, r.Good fitting p := List.forall_mem_map.mpr h
  unfold Descriptor.content
  split
  · exact good_array hparts
  · exact good_object hk h

/-! ## Instances -/

theorem good_instantiate (hg : r.Grounded) {id : ShapeId} {c : Class} {d : Descriptor} {u : Value}
    (hc : r.class? id = some c) (hd : r.description? id = some d) (ha : r.accepts u d = true)
    (hu : r.Good fitting u) (target : Target) : r.Good fitting (instantiate target c u) := by
  have fits : ∀ fs, r.accepts (d.content fs) d = true → r.Fits c fs := fun fs h =>
    ⟨id, c, d, hc, by simp [Class.same], hd, h⟩
  cases target with
  | plain => exact hu
  | instances =>
    cases u with
    | object fs =>
      refine good_of_parts hu.distinct.keys (fun p hp => hu.part hp) fun _ _ h => ?_
      cases h
      exact fits fs (content_fields ha ▸ ha)
    | array es =>
      refine good_of_parts (Entries.nodup_indexed es) (fun p hp => hu.part ?_) fun _ _ h => ?_
      · have hp : p ∈ (Entries.indexed es).map Prod.snd := hp
        rw [Entries.values_indexed] at hp
        rwa [Value.parts_array]
      · cases h
        exact fits _ (content_indexed (hg id d hd).1 ha ▸ ha)
    | _ => exact hu

end

theorem instantiate_isNull (target : Target) (c : Class) (u : Value) : (instantiate target c u).isNull = u.isNull := by
  cases target <;> cases u <;> rfl

theorem checkShape_instantiate {id : ShapeId} {c : Class} {d : Descriptor} {u : Value} (hc : r.class? id = some c)
    (hd : r.description? id = some d) (ha : r.accepts u d = true) (target : Target) :
    r.checkShape id (instantiate target c u) = true := by
  have same : ∀ fs, (Value.inst c fs).carries c = true := fun fs => by
    simp [Value.carries, Value.class?, Class.same]
  rw [checkShape, hc, hd, Option.any_some, Option.any_some, Bool.or_eq_true]
  cases target with
  | plain => exact .inr ha
  | instances =>
    cases u with
    | object fs => exact .inl (same fs)
    | array es => exact .inl (same _)
    | _ => exact .inr ha

/-! ## Sound descriptors -/

/-- What conversions for the target ask of a node. A union of items whose strategy judges the array
as a whole may take its elements apart; classes and refusals see that an instance has become plain. -/
structure Sound (r : Registry) (target : Target) (fitting : Prop) (n : Descriptor) : Prop where
  noClass : target = .plain → ∀ c t, n ≠ .cls c t
  noRefusal : target = .plain → ∀ cs t, n ≠ .mix cs .not t
  items : ∀ cs s t t', n = .arrayOf (.mix cs s t) t' → s ≠ .one ∧ s ≠ .all
  validator : n.traits.validator ≠ none → n.kind = .string ∨ n.kind = .number
  keys : n.UniqueKeys
  unshadowed : ∀ schema t, n = .keyed schema t → Unshadowed schema
  default : ∀ u, n.traits.default? = some u → r.accepts u n = true ∧ r.Good fitting u

def Throughout (r : Registry) (target : Target) (fitting : Prop) (d : Descriptor) : Prop :=
  ∀ n, Descriptor.Node n d → r.Sound target fitting n

/-- What they ask of a node whatever the strategy of unions. -/
structure Firm (r : Registry) (target : Target) (fitting : Prop) (n : Descriptor) : Prop where
  noClass : target = .plain → ∀ c t, n ≠ .cls c t
  validator : n.traits.validator ≠ none → n.kind = .string ∨ n.kind = .number
  keys : n.UniqueKeys
  unshadowed : ∀ schema t, n = .keyed schema t → Unshadowed schema
  default : ∀ u, n.traits.default? = some u → r.accepts u n = true ∧ r.Good fitting u

section
variable {target : Target} {fitting : Prop}

theorem Throughout.root {d : Descriptor} (h : r.Throughout target fitting d) : r.Sound target fitting d := h d .root

theorem Throughout.part {d c : Descriptor} (h : r.Throughout target fitting d) (hc : c ∈ d.parts) :
    r.Throughout target fitting c :=
  fun n hn => h n (.part hc hn)

theorem Sound.firm {d : Descriptor} (h : r.Sound target fitting d) : r.Firm target fitting d :=
  ⟨h.noClass, h.validator, h.keys, h.unshadowed, h.default⟩

theorem Firm.isValid {d : Descriptor} (h : r.Firm target fitting d) (hk : d.kind ≠ .string ∧ d.kind ≠ .number)
    (v : Value) : d.traits.isValid v = true := by
  cases hv : d.traits.validator with
  | none => simp [Traits.isValid, hv]
  | some w =>
    rcases h.validator (by simp [hv]) with h | h
    · exact absurd h hk.1
    · exact absurd h hk.2

theorem Sound.isValid {d : Descriptor} (h : r.Sound target fitting d) (hk : d.kind ≠ .string ∧ d.kind ≠ .number)
    (v : Value) : d.traits.isValid v = true :=
  h.firm.isValid hk v

end

/-! ## Items -/

/-- The verdict of a union on a value, its own null and validator apart. -/
def unionVerdict (r : Registry) (choices : List Descriptor) (s : Strategy) (v : Value) : Bool :=
  (s != .not) == choices.any (r.accepts v)

theorem unionVerdict_of_ne {choices : List Descriptor} {s : Strategy} (hs : s ≠ .not) (v : Value) :
    r.unionVerdict choices s v = choices.any (r.accepts v) := by
  rw [unionVerdict, bne_iff_ne.mpr hs, Bool.true_beq]

theorem unionVerdict_not (choices : List Descriptor) (v : Value) :
    r.unionVerdict choices .not v = !choices.any (r.accepts v) :=
  Bool.false_beq _

/-- What is asked of one element under the descriptor of the items. -/
def acceptsItem (r : Registry) (e : Value) : Descriptor → Bool
  | .mix choices s _ => r.unionVerdict choices s e
  | items => r.accepts e items

theorem acceptsItem_iff {choices : List Descriptor} {s : Strategy} {t : Traits} (hs : s ≠ .not) (e : Value) :
    r.acceptsItem e (.mix choices s t) = true ↔ ∃ c ∈ choices, r.accepts e c = true := by
  rw [acceptsItem, unionVerdict_of_ne hs, List.any_eq_true]

theorem primitive_single {p : Primitive} {t : Traits} : (Descriptor.primitive p t).kind ≠ .mix := by
  cases p <;> simp [Descriptor.kind, Primitive.kind]

theorem acceptsItem_single {d : Descriptor} (hd : d.kind ≠ .mix) (e : Value) : r.acceptsItem e d = r.accepts e d := by
  cases d with
  | mix choices s t => exact absurd rfl hd
  | _ => rfl

theorem elementsMatch_items {items : Descriptor} (hs : ∀ cs s t, items = .mix cs s t → s ≠ .one ∧ s ≠ .all)
    (es : List Value) : elementsMatch (es.map r.accepts) items = es.all (r.acceptsItem · items) := by
  cases items with
  | mix cs s t =>
    obtain ⟨hone, hall⟩ := hs cs s t rfl
    cases s with
    | one => exact absurd rfl hone
    | all => exact absurd rfl hall
    | any => simp [elementsMatch, acceptsItem, unionVerdict_of_ne, Function.comp_def]
    | not => simp [elementsMatch, acceptsItem, unionVerdict_not, Function.comp_def, List.not_any_eq_all_not]
  | _ => simp [elementsMatch, acceptsItem, Function.comp_def]

/-- The strategies `one` and `all` ask more than each element by itself: one choice for all elements,
or an element for each choice. -/
theorem elementsMatch_iff {items : Descriptor} {es : List Value} : elementsMatch (es.map r.accepts) items = true ↔
    (∀ e ∈ es, r.acceptsItem e items = true) ∧
      (∀ cs t, items = .mix cs .one t → ∃ c ∈ cs, ∀ e ∈ es, r.accepts e c = true) ∧
        ∀ cs t, items = .mix cs .all t → ∀ c ∈ cs, ∃ e ∈ es, r.accepts e c = true := by
  cases items with
  | mix choices s t =>
    cases s with
    | any => simp [elementsMatch, acceptsItem, unionVerdict_of_ne]
    | not => simp [elementsMatch, acceptsItem, unionVerdict_not]
    | one =>
      rw [elementsMatch_union]
      constructor
      · intro hone
        refine ⟨fun e he => (acceptsItem_iff (by decide) e).mpr (hone.any_of_one e he), ?_, by rintro _ _ ⟨⟩⟩
        rintro cs t' ⟨⟩
        exact hone
      · exact fun h => h.2.1 choices t rfl
    | all =>
      rw [elementsMatch_union]
      refine and_congr (forall₂_congr fun e _ => (acceptsItem_iff (by decide) e).symm) ?_
      constructor
      · intro h
        refine ⟨by rintro _ _ ⟨⟩, ?_⟩
        rintro cs t' ⟨⟩
        exact h
      · exact fun h => h.2 choices t rfl
  | _ => simp [elementsMatch, acceptsItem]

/-- The descriptor accepts the value alone, or as an element. -/
def Suits (r : Registry) (v : Value) (d : Descriptor) : Prop := r.accepts v d = true ∨ r.acceptsItem v d = true

theorem Suits.single {v : Value} {d : Descriptor} (h : r.Suits v d) (hd : d.kind ≠ .mix) : r.accepts v d = true :=
  h.elim id fun h => acceptsItem_single hd v ▸ h

theorem Suits.union {v : Value} {choices : List Descriptor} {s : Strategy} {t : Traits}
    (h : r.Suits v (.mix choices s t)) (hn : v.isNull = false) : r.unionVerdict choices s v = true := by
  rcases h with h | h
  · rw [accepts_mix hn, Bool.and_eq_true] at h
    exact h.1
  · exact h

/-! ## Tasks that keep acceptance -/

/-- The choice accepts what the element is converted to: it is the choice that the element is converted
by, or it takes the outcome. -/
def Stays (r : Registry) (target : Target) (choices : List Descriptor) (s : Strategy) (t : Traits) (c : Descriptor)
    (e : Value) : Prop :=
  choices.find? (r.accepts e) = some c ∨ ∀ x, r.Converts target e (.mix choices s t) x → r.accepts x c = true

/-- What the strategies `one` and `all` ask of the converted elements together: one choice takes all
outcomes, or each choice takes some outcome. -/
structure Joint (r : Registry) (target : Target) (choices : List Descriptor) (s : Strategy) (t : Traits)
    (es : List Value) : Prop where
  one : s = .one → ∃ c ∈ choices, ∀ e ∈ es, r.Stays target choices s t c e
  all : s = .all → ∀ c ∈ choices, ∃ e ∈ es, r.Stays target choices s t c e

/-- What a conversion asks of the values at unions: elements stay together, and what is refused is
refused when it is plain. -/
structure Coherent (r : Registry) (target : Target) (p : Task) : Prop where
  joint : ∀ cs s t t', p.2 = .arrayOf (.mix cs s t) t' → r.Joint target cs s t p.1.elements
  refusal : target = .plain → ∀ cs t, p.2 = .mix cs .not t → r.unionVerdict cs .not p.1 = true →
    r.unionVerdict cs .not p.1.flatten = true

/-- Tasks with `T` are firm and coherent, and so are the conversions that they come to. -/
structure Tame (r : Registry) (target : Target) (fitting : Prop) (T : Task → Prop) : Prop where
  call : ∀ {p q}, T p → r.Calls target p q → T q
  fill : ∀ {p m u}, T p → Lacks p m → m.traits.default? = some u → T (u, m)
  firm : ∀ {p}, T p → r.Firm target fitting p.2
  coherent : ∀ {p}, T p → r.Coherent target p

/-- What a conversion of `v` to `w` keeps. -/
structure Kept (r : Registry) (fitting : Prop) (v : Value) (d : Descriptor) (w : Value) : Prop where
  accepted : r.accepts w d = true
  good : r.Good fitting w
  isNull : w.isNull = v.isNull

/-- What a conversion keeps of the verdicts on its value, alone and as an element. -/
structure Lasts (r : Registry) (fitting : Prop) (p : Task) (w : Value) : Prop where
  alone : r.accepts p.1 p.2 = true → r.accepts w p.2 = true
  item : r.acceptsItem p.1 p.2 = true → r.acceptsItem w p.2 = true
  chosen : ∀ cs s t c, p.2 = .mix cs s t → s ≠ .not → cs.find? (r.accepts p.1) = some c → r.accepts w c = true
  good : r.Good fitting w
  isNull : w.isNull = p.1.isNull

def Lasting (r : Registry) (target : Target) (fitting : Prop) (absent : Absent) (p : Task) : Prop :=
  r.Good fitting p.1 → r.Suits p.1 p.2 → ∀ w, r.convertWith target absent p.1 p.2 = some w → r.Lasts fitting p w

section
variable {target : Target} {fitting : Prop} {absent : Absent}

theorem Lasting.kept {p : Task} (h : r.Lasting target fitting absent p) (hv : r.Good fitting p.1)
    (ha : r.accepts p.1 p.2 = true) {w : Value} (hw : r.convertWith target absent p.1 p.2 = some w) :
    r.Kept fitting p.1 p.2 w :=
  have hl := h hv (.inl ha) w hw
  ⟨hl.alone ha, hl.good, hl.isNull⟩

theorem Kept.lasts {v w : Value} {d : Descriptor} (h : r.Kept fitting v d w) (hd : d.kind ≠ .mix) :
    r.Lasts fitting (v, d) w := by
  refine ⟨fun _ => h.accepted, fun _ => ?_, ?_, h.good, h.isNull⟩
  · rw [acceptsItem_single hd]
    exact h.accepted
  · rintro cs s t c rfl
    exact absurd rfl hd

end

section
variable {target : Target} {fitting : Prop} {absent : Absent} {v w : Value} (hv : r.Good fitting v)
include hv

theorem kept_bare {d : Descriptor} (hd : d.Bare) (hs : r.Firm target fitting d) (ha : r.accepts v d = true)
    (hn : v.isNull = false) (hw : r.convertWith target absent v d = some w) : r.Kept fitting v d w := by
  rw [convert_bare hd] at hw
  cases hw
  have hc : (target.copy v).isNull = v.isNull := target.copy_isNull v
  refine ⟨?_, good_copy hv target, hc⟩
  cases hd with
  | primitive p t =>
    by_cases hp : p = .any
    · subst hp
      have hvalid : t.isValid (target.copy v) = true := hs.isValid (by simp [Descriptor.kind, Primitive.kind]) _
      simp [accepts_primitive (hc.trans hn), hvalid]
    · have hkind : v.kind.kind? = some p.kind ∧ t.isValid v = true := by simpa [accepts_primitive hn, hp] using ha
      rw [Target.copy_of_kind hkind.1]
      exact ha
  | openArray t =>
    have hvalid : t.isValid (target.copy v) = true := hs.isValid (by simp [Descriptor.kind]) _
    have harray : v.isArray = true ∧ t.isValid v = true := by simpa [accepts_openArray hn] using ha
    simp [accepts_openArray (hc.trans hn), hvalid, target.copy_isArray, harray.1]
  | openObject t =>
    have hvalid : t.isValid (target.copy v) = true := hs.isValid (by simp [Descriptor.kind]) _
    have hobject : v.fields?.isSome = true ∧ t.isValid v = true := by simpa [accepts_openObject hn] using ha
    simp [accepts_openObject (hc.trans hn), hvalid, target.copy_fields?, hobject.1]
  | cls c t =>
    cases target with
    | instances => exact ha
    | plain => exact absurd rfl (hs.noClass rfl c t)

theorem kept_keyed {schema : Schema} {t : Traits} (hs : r.Firm target fitting (.keyed schema t))
    (hdefault : ∀ d x, absent d = some (some x) → d.traits.default.isSome = true)
    (habsent : ∀ m x, Lacks (v, .keyed schema t) m → absent m = some (some x) →
      r.accepts x m = true ∧ r.Good fitting x)
    (ih : ∀ q, r.Calls target (v, .keyed schema t) q → r.Lasting target fitting absent q)
    (ha : r.accepts v (.keyed schema t) = true) (hn : v.isNull = false)
    (hw : r.convertWith target absent v (.keyed schema t) = some w) : r.Kept fitting v (.keyed schema t) w := by
  rw [accepts_keyed hn, Bool.and_eq_true, Bool.and_eq_true, fieldVerdicts_eq] at ha
  obtain ⟨⟨hf, hm⟩, -⟩ := ha
  obtain ⟨out, hout, rfl⟩ := converted_keyed hf hw
  have hnew : Reclaimed (fun d x => r.accepts x d = true ∧ r.Good fitting x) t.matchOnce schema out := by
    refine convertFields_reclaimed hdefault hv.distinct.keys hs.keys (hs.unshadowed schema t rfl) hout hm
      (fun c hc x hx hxc q hq => ?_) fun key d hc q hq => habsent d q (.entry hf hc) hq
    have hk := (ih _ (.field hf hc hx)).kept (hv.part (Value.field_part (claims_subset hc hx))) hxc hq
    exact ⟨hk.accepted, hk.good⟩
  have hfields : fieldsMatch t.matchOnce schema (Entries.mapValues r.accepts out) = true :=
    hnew.fieldsMatch fun _ _ h => h.1
  refine ⟨?_, good_object hnew.nodup fun f hf => ?_, hn.symm⟩
  · have hvalid : t.isValid (.object out) = true := hs.isValid (by simp [Descriptor.kind]) _
    rw [accepts_keyed_object, hfields, hvalid]
    rfl
  · obtain ⟨e, -, h⟩ := hnew.field hf
    exact h.2

omit hv in
/-- Elements that last one by one are accepted together just if they stay together. -/
theorem elementsMatch_joint {choices : List Descriptor} {s : Strategy} {t : Traits} {es qs : List Value}
    (hstep : es.Forall₂ (fun e q => r.convertWith target absent e (.mix choices s t) = some q) qs)
    (hconverts : ∀ e q, r.convertWith target absent e (.mix choices s t) = some q →
      r.Converts target e (.mix choices s t) q)
    (hlasts : ∀ e ∈ es, ∀ q, r.convertWith target absent e (.mix choices s t) = some q →
      r.Lasts fitting (e, .mix choices s t) q)
    (hitem : ∀ e ∈ es, r.acceptsItem e (.mix choices s t) = true) :
    elementsMatch (qs.map r.accepts) (.mix choices s t) = true ↔ r.Joint target choices s t es := by
  have outcome : ∀ e ∈ es, ∀ q, r.convertWith target absent e (.mix choices s t) = some q → s ≠ .not →
      ∀ c, r.Stays target choices s t c e ↔ r.accepts q c = true := by
    intro e he q hq hnot c
    constructor
    · rintro (hc | hc)
      · exact (hlasts e he q hq).chosen choices s t c rfl hnot hc
      · exact hc q (hconverts e q hq)
    · intro hqc
      refine .inr fun x hx => ?_
      cases hx.unique (hconverts e q hq)
      exact hqc
  rw [elementsMatch_iff]
  constructor
  · rintro ⟨-, hone, hall⟩
    refine ⟨?_, ?_⟩
    · rintro rfl
      obtain ⟨c, hc, hqs⟩ := hone choices t rfl
      refine ⟨c, hc, fun e he => ?_⟩
      obtain ⟨q, hq, heq⟩ := forall₂_mem_left hstep he
      exact (outcome e he q heq nofun c).mpr (hqs q hq)
    · rintro rfl c hc
      obtain ⟨q, hq, hqc⟩ := hall choices t rfl c hc
      obtain ⟨e, he, heq⟩ := forall₂_mem_right hstep hq
      exact ⟨e, he, (outcome e he q heq nofun c).mpr hqc⟩
  · intro h
    refine ⟨fun q hq => ?_, ?_, ?_⟩
    · obtain ⟨e, he, heq⟩ := forall₂_mem_right hstep hq
      exact (hlasts e he q heq).item (hitem e he)
    · rintro cs t' ⟨⟩
      obtain ⟨c, hc, hes⟩ := h.one rfl
      refine ⟨c, hc, fun q hq => ?_⟩
      obtain ⟨e, he, heq⟩ := forall₂_mem_right hstep hq
      exact (outcome e he q heq nofun c).mp (hes e he)
    · rintro cs t' ⟨⟩ c hc
      obtain ⟨e, he, hstay⟩ := h.all rfl c hc
      obtain ⟨q, hq, heq⟩ := forall₂_mem_left hstep he
      exact ⟨q, hq, (outcome e he q heq nofun c).mp hstay⟩

theorem kept_arrayOf {items : Descriptor} {t : Traits} (hs : r.Firm target fitting (.arrayOf items t))
    (hcoherent : r.Coherent target (v, .arrayOf items t))
    (hconverts : ∀ e x, r.convertWith target absent e items = some x → r.Converts target e items x)
    (ih : ∀ q, r.Calls target (v, .arrayOf items t) q → r.Lasting target fitting absent q)
    (ha : r.accepts v (.arrayOf items t) = true) (hn : v.isNull = false)
    (hw : r.convertWith target absent v (.arrayOf items t) = some w) : r.Kept fitting v (.arrayOf items t) w := by
  rw [accepts_arrayOf hn, Bool.and_eq_true, Bool.and_eq_true, elementsMatch_iff] at ha
  obtain ⟨⟨har, hm, -⟩, -⟩ := ha
  obtain ⟨qs, hstep, rfl⟩ := converted_arrayOf har hw
  have hvalid : t.isValid (.array qs) = true := hs.isValid (by simp [Descriptor.kind]) _
  have hlasts : ∀ e ∈ v.elements, ∀ q, r.convertWith target absent e items = some q → r.Lasts fitting (e, items) q :=
    fun e he q hq => ih _ (.element he) (hv.part (Value.element_part he)) (.inr (hm e he)) q hq
  refine ⟨?_, good_array fun q hq => ?_, hn.symm⟩
  · have hmatch : elementsMatch (qs.map r.accepts) items = true := by
      by_cases hmix : items.kind = .mix
      · obtain ⟨choices, s, t', rfl⟩ := Descriptor.mix_of_kind hmix
        exact (elementsMatch_joint hstep hconverts hlasts hm).mpr (hcoherent.joint choices s t' t rfl)
      · rw [elementsMatch_single hmix, List.all_map, List.all_eq_true]
        intro q hq
        obtain ⟨e, he, hc⟩ := forall₂_mem_right hstep hq
        exact (acceptsItem_single hmix q).symm.trans ((hlasts e he q hc).item (hm e he))
    rw [accepts_arrayOf rfl, hvalid, Value.elements, hmatch]
    rfl
  · obtain ⟨e, he, hc⟩ := forall₂_mem_right hstep hq
    exact (hlasts e he q hc).good

theorem lasts_mix {choices : List Descriptor} {s : Strategy} {t : Traits}
    (hs : r.Firm target fitting (.mix choices s t)) (hcoherent : r.Coherent target (v, .mix choices s t))
    (ih : ∀ q, r.Calls target (v, .mix choices s t) q → r.Lasting target fitting absent q)
    (ha : r.Suits v (.mix choices s t)) (hn : v.isNull = false)
    (hw : r.convertWith target absent v (.mix choices s t) = some w) : r.Lasts fitting (v, .mix choices s t) w := by
  have hunion : r.unionVerdict choices s v = true := ha.union hn
  -- all but the verdict on the outcome follows from it
  have lasts : ∀ u : Value, r.unionVerdict choices s u = true → r.Good fitting u → u.isNull = v.isNull →
      (∀ c, s ≠ .not → choices.find? (r.accepts v) = some c → r.accepts u c = true) →
      r.Lasts fitting (v, .mix choices s t) u := by
    intro u hu hgood hnull hchosen
    refine ⟨fun _ => ?_, fun _ => hu, ?_, hgood, hnull⟩
    · have hvalid : t.isValid u = true := hs.isValid (by simp [Descriptor.kind]) u
      rw [accepts_mix (hnull.trans hn), hvalid, Bool.and_true]
      exact hu
    · rintro cs s' t' c ⟨⟩
      exact hchosen c
  by_cases hnot : s = .not
  · subst hnot
    rw [convert_copied (.inl rfl)] at hw
    cases hw
    refine lasts _ ?_ (good_copy hv target) (target.copy_isNull v) fun _ h => absurd rfl h
    cases target with
    | instances => exact hunion
    | plain => exact hcoherent.refusal rfl choices t rfl hunion
  · have hany := hunion
    rw [unionVerdict_of_ne hnot] at hany
    obtain ⟨c, hf⟩ := Option.isSome_iff_exists.mp (List.find?_isSome.mpr (List.any_eq_true.mp hany))
    rw [convert_chosen hn hnot hf] at hw
    have hk := (ih _ (.choice hn hnot hf)).kept hv (List.find?_some hf) hw
    refine lasts w ?_ hk.good hk.isNull fun c' _ hf' => ?_
    · rw [unionVerdict_of_ne hnot]
      exact List.any_eq_true.mpr ⟨c, List.mem_of_find?_eq_some hf, hk.accepted⟩
    · cases hf.symm.trans hf'
      exact hk.accepted

theorem kept_model (hg : r.Grounded) (hfit : target = .plain → fitting) {id : ShapeId} {t : Traits}
    (hs : r.Firm target fitting (.model id t))
    (ih : ∀ q, r.Calls target (v, .model id t) q → r.Lasting target fitting absent q)
    (ha : r.accepts v (.model id t) = true) (hn : v.isNull = false)
    (hw : r.convertWith target absent v (.model id t) = some w) : r.Kept fitting v (.model id t) w := by
  have kept : ∀ u, r.checkShape id u = true → r.Good fitting u → u.isNull = false →
    r.Kept fitting v (.model id t) u := by
    intro u hc hu hun
    have hvalid : t.isValid u = true := hs.isValid (by simp [Descriptor.kind]) u
    exact ⟨by rw [accepts_model hun hg, hc, hvalid]; rfl, hu, hun.trans hn.symm⟩
  rw [accepts_model hn hg, Bool.and_eq_true] at ha
  have hcheck := ha.1
  rw [checkShape, Bool.or_eq_true, Option.any_eq_true, Option.any_eq_true] at hcheck
  by_cases hcar : ∃ c, r.class? id = some c ∧ v.carries c = true
  · obtain ⟨c, hc, hvc⟩ := hcar
    cases target with
    | instances =>
      rw [convert_own hg hn hc hvc] at hw
      cases hw
      exact kept _ ha.1 hv hn
    | plain =>
      obtain ⟨k, fs, rfl, hs⟩ := Value.carries_inst hvc
      obtain ⟨d, hd, had⟩ := (hv.instances (hfit rfl) k fs .root).description hc hs
      rw [convert_opened hg hn hc hd hvc] at hw
      have hcontent : r.Good fitting (d.content fs) :=
        good_content hv.distinct.keys fun f hf => hv.part (Value.field_part (v := .inst k fs) hf)
      have hi := (ih _ (.content rfl hc hd hvc)).kept hcontent had hw
      refine kept w ?_ hi.good (hi.isNull.trans (d.content_isNull _))
      rw [checkShape, hd, Option.any_some, hi.accepted, Bool.or_true]
  · obtain ⟨d, hd, had⟩ := hcheck.resolve_left hcar
    obtain ⟨c, hc⟩ := class?_of_description hd
    have hvc : v.carries c = false := Bool.eq_false_iff.mpr fun hvc => hcar ⟨c, hc, hvc⟩
    rw [convert_shape hg hn hc hd hvc] at hw
    obtain ⟨u, hu, rfl⟩ := Option.map_eq_some_iff.mp hw
    have hk := (ih _ (.shape hn hc hd hvc)).kept hv had hu
    exact kept _ (checkShape_instantiate hc hd hk.accepted target)
      (good_instantiate hg hc hd hk.accepted hk.good target)
      ((instantiate_isNull target c u).trans (hk.isNull.trans hn))

end

/-! ## Conversions of all tasks -/

section
variable {target : Target} {fitting : Prop} (hg : r.Grounded) (hfit : target = .plain → fitting) {T : Task → Prop}
  (ht : r.Tame target fitting T)
include hg hfit ht

theorem lasting_with {n : Nat} (habsent : ∀ p m x, T p → Lacks p m → r.absent target n m = some (some x) →
    r.accepts x m = true ∧ r.Good fitting x) (p : Task) : T p → r.Lasting target fitting (r.absent target n) p := by
  induction p using induction_calls target hg with
  | h p ih =>
    intro hT hv ha w hw
    obtain ⟨v, d⟩ := p
    have ih : ∀ q, r.Calls target (v, d) q → r.Lasting target fitting (r.absent target n) q :=
      fun q hq => ih q hq (ht.call hT hq)
    cases hn : v.isNull with
    | true =>
      cases Value.eq_null hn
      rw [convert_null hg] at hw
      cases hw
      exact ⟨id, id, fun _ _ _ _ _ _ hf => List.find?_some hf, hv, rfl⟩
    | false =>
      have hfirm := ht.firm hT
      cases d with
      | keyed schema t =>
        exact (kept_keyed hv hfirm absent_default (fun m x => habsent _ m x hT) ih (ha.single nofun) hn hw).lasts nofun
      | arrayOf items t =>
        exact (kept_arrayOf hv hfirm (ht.coherent hT) (fun e x hx => ⟨n, hx⟩) ih (ha.single nofun) hn hw).lasts nofun
      | model id t => exact (kept_model hv hg hfit hfirm ih (ha.single nofun) hn hw).lasts nofun
      | mix choices s t => exact lasts_mix hv hfirm (ht.coherent hT) ih ha hn hw
      | primitive p t =>
        exact (kept_bare hv (.primitive p t) hfirm (ha.single primitive_single) hn hw).lasts primitive_single
      | openArray t => exact (kept_bare hv (.openArray t) hfirm (ha.single nofun) hn hw).lasts nofun
      | openObject t => exact (kept_bare hv (.openObject t) hfirm (ha.single nofun) hn hw).lasts nofun
      | cls c t => exact (kept_bare hv (.cls c t) hfirm (ha.single nofun) hn hw).lasts nofun

theorem kept_absent (n : Nat) : ∀ p m x, T p → Lacks p m → r.absent target n m = some (some x) →
    r.accepts x m = true ∧ r.Good fitting x := by
  induction n with
  | zero =>
    intro p m x _ _ h
    rw [absent] at h
    split at h <;> cases h
  | succ n ih =>
    intro p m x hT hm h
    rw [absent] at h
    cases hu : m.traits.default? with
    | none => rw [hu] at h; cases h
    | some u =>
      rw [hu] at h
      obtain ⟨y, hy, hx⟩ := Option.map_eq_some_iff.mp h
      cases hx
      have hfill := ht.fill hT hm hu
      obtain ⟨ha, hgood⟩ := (ht.firm hfill).default u hu
      have hk := (lasting_with hg hfit ht ih (u, m) hfill).kept hgood ha hy
      exact ⟨hk.accepted, hk.good⟩

/-- Elements whose conversions are tame last one by one, and together just if they stay together. -/
theorem kept_elements {n : Nat} {choices : List Descriptor} {s : Strategy} {t t' : Traits} {es : List Value} {w : Value}
    (hs : r.Firm target fitting (.arrayOf (.mix choices s t) t')) (hT : ∀ e ∈ es, T (e, .mix choices s t))
    (hes : ∀ e ∈ es, r.Good fitting e ∧ r.acceptsItem e (.mix choices s t) = true)
    (hw : r.convertWith target (r.absent target n) (.array es) (.arrayOf (.mix choices s t) t') = some w) :
    ∃ qs, w = .array qs ∧ (∀ q ∈ qs, r.Good fitting q ∧ r.acceptsItem q (.mix choices s t) = true) ∧
      (r.accepts w (.arrayOf (.mix choices s t) t') = true ↔ r.Joint target choices s t es) := by
  obtain ⟨qs, hstep, rfl⟩ := converted_arrayOf rfl hw
  have hlasts : ∀ e ∈ es, ∀ q, r.convertWith target (r.absent target n) e (.mix choices s t) = some q →
      r.Lasts fitting (e, .mix choices s t) q := fun e he q hq =>
    lasting_with hg hfit ht (kept_absent hg hfit ht n) (e, .mix choices s t) (hT e he) (hes e he).1
      (.inr (hes e he).2) q hq
  refine ⟨qs, rfl, fun q hq => ?_, ?_⟩
  · obtain ⟨e, he, heq⟩ := forall₂_mem_right hstep hq
    exact ⟨(hlasts e he q heq).good, (hlasts e he q heq).item (hes e he).2⟩
  · have hvalid : t'.isValid (.array qs) = true := hs.isValid (by simp [Descriptor.kind]) _
    rw [accepts_arrayOf rfl, hvalid, Bool.and_true]
    exact elementsMatch_joint hstep (fun e q hq => ⟨n, hq⟩) hlasts fun e he => (hes e he).2

theorem kept_tame {v w : Value} {d : Descriptor} (hT : T (v, d)) (hv : r.Good fitting v) (ha : r.accepts v d = true)
    (hw : r.Converts target v d w) : r.Kept fitting v d w := by
  obtain ⟨n, hw⟩ := hw
  exact (lasting_with hg hfit ht (kept_absent hg hfit ht n) (v, d) hT).kept hv ha hw

end

/-! ## Conversions under sound descriptors -/

section
variable {target : Target} {fitting : Prop} (hg : r.Grounded) (hfit : target = .plain → fitting)
  (hdesc : ∀ id d, r.description? id = some d → r.Throughout target fitting d)
include hdesc

theorem tame_throughout : r.Tame target fitting fun p => r.Throughout target fitting p.2 where
  call hp hq := by
    cases hq with
    | element => exact hp.part (List.mem_singleton_self _)
    | field _ hc => exact hp.part (List.mem_map_of_mem (f := Prod.snd) (claims_entry hc))
    | choice _ _ hc => exact hp.part (List.mem_of_find?_eq_some hc)
    | shape _ _ hd => exact hdesc _ _ hd
    | content _ _ hd => exact hdesc _ _ hd
  fill hp hm _ := by
    cases hm with
    | entry _ hc => exact hp.part (List.mem_map_of_mem (f := Prod.snd) (claims_entry hc))
  firm hp := hp.root.firm
  coherent hp := {
    joint := fun cs s t t' h =>
      ⟨fun hs => absurd hs (hp.root.items cs s t t' h).1, fun hs => absurd hs (hp.root.items cs s t t' h).2⟩
    refusal := fun ht cs t h => absurd h (hp.root.noRefusal ht cs t) }

include hg hfit

theorem kept {n : Nat} {v w : Value} {d : Descriptor} (hv : r.Good fitting v) (hs : r.Throughout target fitting d)
    (ha : r.accepts v d = true) (hw : r.convertWith target (r.absent target n) v d = some w) :
    r.Kept fitting v d w :=
  kept_tame hg hfit (tame_throughout hdesc) hs hv ha ⟨n, hw⟩

end

end Registry

end Conformance
