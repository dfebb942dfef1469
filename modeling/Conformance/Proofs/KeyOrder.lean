import Conformance.Proofs.Congruence
import Conformance.Proofs.Readers
import Conformance.Proofs.Slots
import Conformance.Proofs.Worlds

/-!
# The order of keys

Where patterns take all keys that match, the first entry that accepts a key judges its value,
whatever the order in which keys come. So a verdict does not tell two values apart that differ in
the order of keys alone.
-/

namespace Conformance

/-! ## Reordering -/

namespace Value

/-- The second value is the first one with the keys of its objects and instances in some order. -/
inductive Reordered : Value → Value → Prop
  | refl (v : Value) : Reordered v v
  | array {xs ys : List Value} (h : xs.Forall₂ Reordered ys) : Reordered (.array xs) (.array ys)
  | object {fs gs : Entries Value} (hk : (Entries.keys fs).Perm (Entries.keys gs))
      (h : ∀ k x y, (k, x) ∈ fs → (k, y) ∈ gs → Reordered x y) : Reordered (.object fs) (.object gs)
  | inst (c : Class) {fs gs : Entries Value} (hk : (Entries.keys fs).Perm (Entries.keys gs))
      (h : ∀ k x y, (k, x) ∈ fs → (k, y) ∈ gs → Reordered x y) : Reordered (.inst c fs) (.inst c gs)

namespace Reordered
variable {v w : Value} (h : v.Reordered w)
include h

theorem kind : v.kind = w.kind := by
  cases h <;> rfl

theorem isNull : v.isNull = w.isNull := by
  cases h <;> rfl

theorem isArray : v.isArray = w.isArray := by
  cases h <;> rfl

theorem hasFields : v.fields?.isSome = w.fields?.isSome := by
  cases h <;> rfl

theorem class? : v.class? = w.class? := by
  cases h <;> rfl

theorem elements : v.elements.Forall₂ Reordered w.elements := by
  cases h with
  | refl => exact List.forall₂_same.mpr fun e _ => .refl e
  | array h => exact h
  | _ => exact .nil

theorem keys : (Entries.keys v.fields).Perm (Entries.keys w.fields) := by
  cases h with
  | object hk | inst _ hk => exact hk
  | _ => exact .refl _

theorem field (hv : v.Distinct) {k : String} {x y : Value} (hx : (k, x) ∈ v.fields) (hy : (k, y) ∈ w.fields) :
    x.Reordered y := by
  cases h with
  | refl => rw [Entries.mem_unique hv.keys hx hy]; exact .refl y
  | array => cases hx
  | object _ h | inst _ _ h => exact h k x y hx hy

theorem pattern (p : Regex) : (Validator.pattern p).accepts v = (Validator.pattern p).accepts w := by
  cases h <;> rfl

omit h in
/-- Values reordered in place, then the keys. -/
theorem of_perm {fs fs' gs : Entries Value} (hn : (Entries.keys fs).Nodup) (hg : fs'.Perm gs)
    (h : fs.Forall₂ (fun x y => x.1 = y.1 ∧ x.2.Reordered y.2) fs') :
    (Value.object fs).Reordered (.object gs) := by
  have hkeys : Entries.keys fs = Entries.keys fs' := Entries.keys_of_forall₂ (fun _ _ h => h.1) h
  refine .object (hkeys ▸ hg.map _) fun k x y hx hy => ?_
  obtain ⟨⟨k', y'⟩, hm, hk, hxy⟩ := forall₂_mem_left h hx
  cases hk
  rwa [Entries.mem_unique (hkeys ▸ hn) hm (hg.mem_iff.mpr hy)] at hxy

end Reordered

end Value

def KeyMatcher.isExact : KeyMatcher → Bool
  | .exact _ => true
  | .pattern _ => false

namespace Descriptor

/-- A node that cannot see the order of keys: patterns take all they match, and a predicate gives
the same answer for every order. -/
structure OrderlessNode (n : Descriptor) : Prop where
  matchOnce : n.traits.matchOnce = false
  validator : ∀ p, n.traits.validator = some (.predicate p) → ∀ v w : Value, v.Distinct → v.Reordered w →
    (Validator.predicate p).accepts v = (Validator.predicate p).accepts w

def Orderless (d : Descriptor) : Prop := ∀ n, Node n d → n.OrderlessNode

theorem Orderless.part {d c : Descriptor} (h : d.Orderless) (hc : c ∈ d.parts) : c.Orderless :=
  fun n hn => h n (.part hc hn)

/-- What the verdict on a value needs of a node so as not to see the order of keys: patterns take all
they match or there are none, and predicates as in `OrderlessNode`. -/
structure EvenNode (n : Descriptor) : Prop where
  fields : ∀ schema t, n = .keyed schema t → t.matchOnce = false ∨ ∀ e ∈ schema, e.1.isExact = true
  validator : ∀ p, n.traits.validator = some (.predicate p) → ∀ v w : Value, v.Distinct → v.Reordered w →
    (Validator.predicate p).accepts v = (Validator.predicate p).accepts w

/-- Descriptors with `Q` have even nodes throughout. -/
structure Evenly (Q : Descriptor → Prop) : Prop where
  node : ∀ {d}, Q d → d.EvenNode
  part : ∀ {d c}, Q d → c ∈ d.parts → Q c

theorem Orderless.evenly : Evenly Orderless where
  node h := ⟨fun _ _ he => .inl (by have h := (h _ .root).matchOnce; rwa [he] at h), (h _ .root).validator⟩
  part := Orderless.part

theorem EvenNode.isValid {d : Descriptor} (hd : d.EvenNode) {v w : Value} (hv : v.Distinct) (h : v.Reordered w) :
    d.traits.isValid v = d.traits.isValid w := by
  unfold Traits.isValid
  cases hu : d.traits.validator with
  | none => rfl
  | some u =>
    cases u with
    | predicate p => exact hd.validator p hu v w hv h
    | pattern p => exact h.pattern p

end Descriptor

/-! ## Maps with the same keys -/

/-- The same keys, each once and in some order, over related values. -/
structure Entries.Agree {α β : Type} (R : α → β → Prop) (fs : Entries α) (gs : Entries β) : Prop where
  nodup : (keys fs).Nodup
  perm : (keys fs).Perm (keys gs)
  values : ∀ k x y, (k, x) ∈ fs → (k, y) ∈ gs → R x y

section
variable {α β : Type} {R : α → β → Prop} {fs : Entries α} {gs : Entries β}

theorem Entries.filter_key {fs : Entries α} (hn : (keys fs).Nodup) (key : String) :
    fs.filter (fun f => f.1 = key) = (get? fs key).toList.map (Prod.mk key) := by
  induction fs with
  | nil => rfl
  | cons f fs ih =>
    obtain ⟨k, x⟩ := f
    obtain ⟨hk, hn⟩ := List.nodup_cons.mp hn
    rw [get?]
    by_cases h : k = key
    · subst h
      rw [List.filter_cons_of_pos (by simp), if_pos rfl, ih hn, get?_eq_none.mpr hk]
      rfl
    · rw [List.filter_cons_of_neg (by simpa using h), if_neg h, ih hn]

namespace Entries.Agree
variable (h : Agree R fs gs)
include h

theorem taken (key : String) : (fs.filter fun f => f.1 = key).Forall₂ (fun x y => x.1 = y.1 ∧ R x.2 y.2)
    (gs.filter fun f => f.1 = key) := by
  have hget := rel_get? h.nodup h.perm.symm h.values key
  rw [filter_key h.nodup, filter_key (h.perm.nodup_iff.mp h.nodup)]
  generalize get? fs key = x, get? gs key = y at hget
  cases hget with
  | none => exact .nil
  | some hxy => exact .cons ⟨rfl, hxy⟩ .nil

theorem left (p : String → Bool) : Agree R (fs.filter fun f => p f.1) (gs.filter fun f => p f.1) where
  nodup := h.nodup.sublist (List.filter_sublist.map _)
  perm := by
    have hkeys : ∀ {γ : Type} (es : Entries γ), keys (es.filter fun f => p f.1) = (keys es).filter p := fun es => by
      rw [keys, keys, List.filter_map]
      rfl
    rw [hkeys, hkeys]
    exact h.perm.filter p
  values k x y hx hy := h.values k x y (List.mem_filter.mp hx).1 (List.mem_filter.mp hy).1

end Entries.Agree

/-- Entries with exact keys claim alike from maps with the same keys. -/
theorem claims_agree {δ : Type} (once : Bool) {schema : List (KeyMatcher × δ)} (he : ∀ e ∈ schema, e.1.isExact = true)
    {fs : Entries α} {gs : Entries β} (h : Entries.Agree R fs gs) :
    (claims once schema fs).1.Forall₂
        (fun c c' => c.1 = c'.1 ∧ c.2.Forall₂ (fun x y => x.1 = y.1 ∧ R x.2 y.2) c'.2) (claims once schema gs).1 ∧
      Entries.Agree R (claims once schema fs).2 (claims once schema gs).2 := by
  induction schema generalizing fs gs with
  | nil => exact ⟨.nil, h⟩
  | cons e schema ih =>
    obtain ⟨m, d⟩ := e
    obtain ⟨hm, hschema⟩ := List.forall_mem_cons.mp he
    cases m with
    | pattern r => cases hm
    | exact key =>
      rw [claims_cons, claims_cons, KeyMatcher.claim_exact, KeyMatcher.claim_exact, takeFirst_eq_filter h.nodup,
        takeFirst_eq_filter (h.perm.nodup_iff.mp h.nodup)]
      obtain ⟨hclaims, hrest⟩ := ih hschema (h.left fun k => !decide (k = key))
      exact ⟨.cons ⟨rfl, h.taken key⟩ hclaims, hrest⟩

end

/-! ## Fields -/

section
variable {f : Value → Verdict} {schema : Schema} {fs gs : Entries Value}

theorem fieldsMatch_of_perm (hn : (Entries.keys fs).Nodup) (hk : (Entries.keys fs).Perm (Entries.keys gs))
    (h : ∀ k x y, (k, x) ∈ fs → (k, y) ∈ gs → ∀ e ∈ schema, f x e.2 = f y e.2)
    (hm : fieldsMatch false schema (Entries.mapValues f fs) = true) :
    fieldsMatch false schema (Entries.mapValues f gs) = true := by
  obtain ⟨judged, absent⟩ := (fieldsMatch_values hn).mp hm
  refine (fieldsMatch_values (hk.nodup_iff.mp hn)).mpr ⟨?_, fun j e hj hfree => ?_⟩
  · rintro ⟨k, y⟩ hy
    obtain ⟨x, hx⟩ := Entries.exists_mem (hk.mem_iff.mpr (Entries.mem_keys hy))
    obtain ⟨e, he, hfx⟩ := judged _ hx
    exact ⟨e, he, h k x y hx hy e (List.mem_of_find?_eq_some he) ▸ hfx⟩
  · exact absent j e hj fun k hm => hfree k (hk.mem_iff.mp hm)

theorem fieldsMatch_perm (hn : (Entries.keys fs).Nodup) (hk : (Entries.keys fs).Perm (Entries.keys gs))
    (h : ∀ k x y, (k, x) ∈ fs → (k, y) ∈ gs → ∀ e ∈ schema, f x e.2 = f y e.2) :
    fieldsMatch false schema (Entries.mapValues f fs) = fieldsMatch false schema (Entries.mapValues f gs) := by
  apply Bool.eq_iff_iff.mpr
  constructor
  · exact fieldsMatch_of_perm hn hk h
  · exact fieldsMatch_of_perm (hk.nodup_iff.mp hn) hk.symm fun k y x hy hx e he => (h k x y hx hy e he).symm

end

/-- Where keys are exact, taking one key or all makes no difference. -/
theorem fieldsMatch_agree (once : Bool) {f : Value → Verdict} {schema : Schema}
    (he : ∀ e ∈ schema, e.1.isExact = true) {fs gs : Entries Value}
    (h : Entries.Agree (fun x y => ∀ e ∈ schema, f x e.2 = f y e.2) fs gs) :
    fieldsMatch once schema (Entries.mapValues f fs) = fieldsMatch once schema (Entries.mapValues f gs) := by
  obtain ⟨hclaims, hrest⟩ := claims_agree once he h
  have hempty : (claims once schema fs).2.isEmpty = (claims once schema gs).2.isEmpty := by
    have hlen := hrest.perm.length_eq
    rw [Entries.keys, Entries.keys, List.length_map, List.length_map] at hlen
    rw [Bool.eq_iff_iff, List.isEmpty_iff_length_eq_zero, List.isEmpty_iff_length_eq_zero, hlen]
  unfold fieldsMatch
  rw [claims_map, claims_map]
  dsimp only
  rw [Entries.mapValues, Entries.mapValues, List.isEmpty_map, List.isEmpty_map, hempty, List.all_map, List.all_map]
  refine congrArg _ (all_step (forall₂_imp_of_mem hclaims fun c hc c' _ hcc => ?_))
  obtain ⟨e, taken⟩ := c
  obtain ⟨e', taken'⟩ := c'
  obtain ⟨rfl, htaken⟩ := hcc
  have hall := all_step (p := fun x => f x.2 e.2) (q := fun x => f x.2 e.2) (htaken.imp fun _ _ hxy =>
    hxy.2 e (claims_entry hc))
  cases htaken with
  | nil => rfl
  | cons => simpa [Entries.mapValues, Function.comp_def] using hall

/-! ## Verdicts -/

namespace Registry
variable {r : Registry}

section
variable {Q : Descriptor → Prop} (hQ : Descriptor.Evenly Q)
include hQ

section
variable {v w : Value} (hv : v.Distinct) (h : v.Reordered w)
  (hp : ∀ p ∈ v.parts, ∀ p', p.Reordered p' → ∀ d : Descriptor, Q d → r.accepts p d = r.accepts p' d)
include hv h hp

theorem accepts_container_even {d : Descriptor} (hc : d.Container) (hd : Q d) :
    r.accepts v d = r.accepts w d := by
  have hvalid := (hQ.node hd).isValid hv h
  by_cases hn : v.isNull = true
  · rw [Value.eq_null hn, Value.eq_null (h.isNull.symm.trans hn)]
  · simp only [Bool.not_eq_true] at hn
    have hn' := h.isNull.symm.trans hn
    cases hc with
    | openArray t => rw [accepts_openArray hn, accepts_openArray hn', h.isArray]; exact congrArg _ hvalid
    | openObject t => rw [accepts_openObject hn, accepts_openObject hn', h.hasFields]; exact congrArg _ hvalid
    | arrayOf items t =>
      have hitems : Q items := hQ.part hd (List.mem_singleton_self _)
      have hsame : Items (fun c c' => c = c' ∧ Q c) items items :=
        .same ⟨rfl, hitems⟩ fun c hc => ⟨rfl, hQ.part hitems hc⟩
      have hes := elementsMatch_step (f := r.accepts) (g := r.accepts) hsame <| forall₂_imp_of_mem h.elements <| by
        rintro a ha b - hab c _ ⟨rfl, hc⟩
        exact hp a (Value.element_part ha) b hab c hc
      rw [accepts_arrayOf hn, accepts_arrayOf hn', hes, h.isArray]
      exact congrArg _ hvalid
    | keyed schema t =>
      have hvalues : ∀ k x y, (k, x) ∈ v.fields → (k, y) ∈ w.fields → ∀ e ∈ schema, r.accepts x e.2 = r.accepts y e.2 :=
        fun k x y hx hy e he =>
          hp x (Value.field_part hx) y (h.field hv hx hy) e.2 (hQ.part hd (List.mem_map_of_mem he))
      have hfs : fieldsMatch t.matchOnce schema (Entries.mapValues r.accepts v.fields) =
          fieldsMatch t.matchOnce schema (Entries.mapValues r.accepts w.fields) := by
        rcases (hQ.node hd).fields schema t rfl with honce | hexact
        · rw [honce]
          exact fieldsMatch_perm hv.keys h.keys hvalues
        · exact fieldsMatch_agree _ hexact ⟨hv.keys, h.keys, hvalues⟩
      rw [accepts_keyed hn, accepts_keyed hn', fieldVerdicts_eq, fieldVerdicts_eq, hfs, h.hasFields]
      exact congrArg _ hvalid

theorem checkShape_even (hg : r.Grounded) (hr : ∀ id e, r.description? id = some e → Q e) (id : ShapeId) :
    r.checkShape id v = r.checkShape id w := by
  have hcarries : (fun c => v.carries c) = fun c => w.carries c := by
    unfold Value.carries
    rw [h.class?]
  unfold checkShape
  rw [hcarries]
  cases hd : r.description? id with
  | none => rfl
  | some d =>
    rw [Option.any_some, Option.any_some,
      accepts_container_even hQ hv h hp (Descriptor.container_of_kind (hg id d hd).1) (hr id d hd)]

end

theorem accepts_even (hg : r.Grounded) (hr : ∀ id e, r.description? id = some e → Q e) {v w : Value}
    (hv : v.Distinct) (h : v.Reordered w) {d : Descriptor} (hd : Q d) : r.accepts v d = r.accepts w d := by
  induction v using Value.induction_parts generalizing w d with
  | h v hp =>
    have parts : ∀ p ∈ v.parts, ∀ p', p.Reordered p' → ∀ d : Descriptor, Q d →
        r.accepts p d = r.accepts p' d := fun p hm p' h d hd => hp p hm (hv.part hm) h hd
    induction d using Descriptor.induction_parts with
    | h d ih =>
      have hvalid := (hQ.node hd).isValid hv h
      by_cases hn : v.isNull = true
      · rw [Value.eq_null hn, Value.eq_null (h.isNull.symm.trans hn)]
      · simp only [Bool.not_eq_true] at hn
        have hn' := h.isNull.symm.trans hn
        cases d with
        | primitive p t => rw [accepts_primitive hn, accepts_primitive hn', h.kind]; exact congrArg _ hvalid
        | cls c t =>
          rw [accepts_cls hn, accepts_cls hn', Value.isInstanceOf, Value.isInstanceOf, h.class?]
          exact congrArg _ hvalid
        | model id t =>
          rw [accepts_model hn hg, accepts_model hn' hg, checkShape_even hQ hv h parts hg hr]
          exact congrArg _ hvalid
        | mix choices s t =>
          have hany : choices.any (r.accepts v) = choices.any (r.accepts w) :=
            any_congr fun c hc => ih c hc (hQ.part hd hc)
          rw [accepts_mix hn, accepts_mix hn', hany]
          exact congrArg _ hvalid
        | _ =>
          exact accepts_container_even hQ hv h parts (Descriptor.container_of_kind (by simp [Descriptor.kind])) hd

end

/-! ## Orderless descriptors -/

theorem checkShape_reordered {v w : Value} (hv : v.Distinct) (h : v.Reordered w)
    (hp : ∀ p ∈ v.parts, ∀ p', p.Reordered p' → ∀ d : Descriptor, d.Orderless → r.accepts p d = r.accepts p' d)
    (hg : r.Grounded) (hr : ∀ id e, r.description? id = some e → e.Orderless) (id : ShapeId) :
    r.checkShape id v = r.checkShape id w :=
  checkShape_even Descriptor.Orderless.evenly hv h hp hg hr id

theorem accepts_reordered (hg : r.Grounded) (hr : ∀ id e, r.description? id = some e → e.Orderless) {v w : Value}
    (hv : v.Distinct) (h : v.Reordered w) {d : Descriptor} (hd : d.Orderless) : r.accepts v d = r.accepts w d :=
  accepts_even Descriptor.Orderless.evenly hg hr hv h hd

end Registry

/-- In any guard that nowhere sets `matchOnce` and whose predicates do not see the order of keys,
no verdict sees it, however the entries of a schema overlap. -/
theorem key_order_unseen [RegexEngine] (requests : List Request) {k : Nat} {g : Guard}
    (hk : (World.after requests).guards[k]? = some g)
    (hr : ∀ id e, g.description? id = some e → e.Orderless) {v w : Value} (hv : v.Distinct) (h : v.Reordered w) :
    (∀ d : Descriptor, d.Orderless → g.matches? w d = g.matches? v d) ∧
      ∀ id, g.registry.checkShape id w = g.registry.checkShape id v := by
  have hg := ((World.after_sound requests).guards g (List.mem_of_getElem? hk)).grounded
  have hr : ∀ id e, g.registry.description? id = some e → e.Orderless := fun id e he =>
    hr id e (g.registry_description? id ▸ he)
  constructor
  · intro d hd
    exact (Registry.accepts_reordered hg hr hv h hd).symm
  · intro id
    refine (Registry.checkShape_reordered hv h (fun p hm p' hp d hd => ?_) hg hr id).symm
    exact Registry.accepts_reordered hg hr (hv.part hm) hp hd

/-! A board whose key `ab` is claimed by the exact key or by the pattern, with a board inside. -/

def boards : List Request :=
  [.opening, .call 0 (.model "Board" (.keyed
    [("ab", .token "string"), ("/^ax|ab$/", .token "boolean"), ("boards", .arrayOf (.token "Board"))]))]

def board (fields : Entries Value) : Value := .object [("boards", .array [.inst (.base (.free 7) "Post") fields]),
  ("ax", .bool true), ("ab", .string "outer")]

def post : Entries Value := [("ab", .string "inner"), ("ax", .bool false), ("boards", .array [])]

/-- A board of three fields. -/
def threeFields : Descriptor :=
  .model ⟨1, 0⟩ { Options.traits {} with validator := some (.predicate fun v => some (v.fields.length == 3)) }

theorem threeFields_orderless : threeFields.Orderless := by
  intro n hn
  cases hn with
  | part hc => cases hc
  | root =>
    refine ⟨rfl, fun p hp v w _ h => ?_⟩
    cases hp
    have hl := h.keys.length_eq
    simp only [Entries.keys, List.length_map] at hl
    simp only [Validator.accepts, hl]

theorem board_reversed : (board post).Reordered (.object [("ab", .string "outer"), ("ax", .bool true),
    ("boards", .array [.inst (.base (.free 7) "Post") post.reverse])]) := by
  have hn : (Entries.keys post).Nodup := by decide
  have inner : (Value.inst (.base (.free 7) "Post") post).Reordered (.inst (.base (.free 7) "Post") post.reverse) := by
    refine .inst _ (by decide) fun k x y hx hy => ?_
    rw [Entries.mem_unique hn hx (List.mem_reverse.mp hy)]
    exact .refl y
  refine .object (by decide) fun k x y hx hy => ?_
  simp only [List.mem_cons, Prod.mk.injEq, List.not_mem_nil, or_false] at hx hy
  rcases hx with ⟨rfl, rfl⟩ | ⟨rfl, rfl⟩ | ⟨rfl, rfl⟩ <;> simp at hy <;> subst hy
  · exact .array (.cons inner .nil)
  · exact .refl _
  · exact .refl _

theorem key_order_unseen_boards : ∃ g, (World.after boards).guards[0]? = some g ∧
    g.matches? (board post) threeFields = true ∧
    g.matches? (.object [("ab", .string "outer"), ("ax", .bool true),
      ("boards", .array [.inst (.base (.free 7) "Post") post.reverse])]) threeFields = true := by
  obtain ⟨g, hg⟩ : ∃ g, (World.after boards).guards[0]? = some g := ⟨_, rfl⟩
  have hplain : g.registry.everywhere (fun n => !n.traits.matchOnce && n.traits.validator.isNone) = true := by
    cases hg
    decide +kernel
  have hr : ∀ id e, g.description? id = some e → e.Orderless := by
    intro id e he n hn
    have h := Registry.everywhere_iff.mp hplain id e (g.registry_description? id ▸ he) n hn
    simp only [Bool.and_eq_true, Bool.not_eq_true', Option.isNone_iff_eq_none] at h
    exact ⟨h.1, fun p hp => by rw [h.2] at hp; cases hp⟩
  have hv : g.matches? (board post) threeFields = true := by
    cases hg
    decide +kernel
  refine ⟨g, hg, hv, ?_⟩
  rw [(key_order_unseen boards hg hr (by decide) board_reversed).1 threeFields threeFields_orderless]
  exact hv

end Conformance
