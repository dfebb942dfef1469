import Conformance.Proofs.Congruence
import Conformance.Proofs.Distinct
import Conformance.Proofs.Worlds
import Mathlib.Logic.Relation

/-!
# Handles and their descriptions

The handle of a shape may give way to what describes the shape. A handle also takes the instances
of its shape; where a candidate holds none, handles can be unfolded at any place and any number of
times, and the verdict stays. A shape that refers to itself keeps handles in every copy.
-/

namespace Conformance

/-! ## Unfolding -/

/-- What the owner of `u` says of absence and null, as a node with `t` says it. -/
def Traits.placed (t u : Traits) : Traits :=
  { u with required := t.required, allowNull := t.allowNull, default := t.default }

/-- The descriptor in the place of a node with the traits `t`. -/
def Descriptor.placed (t : Traits) : Descriptor → Descriptor
  | .primitive p u => .primitive p (t.placed u)
  | .openArray u => .openArray (t.placed u)
  | .arrayOf items u => .arrayOf items (t.placed u)
  | .openObject u => .openObject (t.placed u)
  | .keyed schema u => .keyed schema (t.placed u)
  | .cls c u => .cls c (t.placed u)
  | .model id u => .model id (t.placed u)
  | .mix choices s u => .mix choices s (t.placed u)

/-- The second descriptor is the first one with the description of `id` in the place of some of
its handles without validator. -/
inductive Registry.Unfolds (r : Registry) (id : ShapeId) : Descriptor → Descriptor → Prop
  | kept (d : Descriptor) : Unfolds r id d d
  | handle {d : Descriptor} (hd : r.description? id = some d) {t : Traits} (ht : t.validator = none) :
      Unfolds r id (.model id t) (d.placed t)
  | arrayOf {items items' : Descriptor} (h : Unfolds r id items items') (t : Traits) :
      Unfolds r id (.arrayOf items t) (.arrayOf items' t)
  | keyed {schema schema' : Schema} (hm : schema.map Prod.fst = schema'.map Prod.fst)
      (h : (schema.map Prod.snd).Forall₂ (Unfolds r id) (schema'.map Prod.snd)) (t : Traits) :
      Unfolds r id (.keyed schema t) (.keyed schema' t)
  | mix {choices choices' : List Descriptor} (h : choices.Forall₂ (Unfolds r id) choices') (s : Strategy) (t : Traits) :
      Unfolds r id (.mix choices s t) (.mix choices' s t)

/-- No instance of the shape stands in the value. -/
def Registry.Without (r : Registry) (id : ShapeId) (v : Value) : Prop :=
  ∀ n, Value.Node n v → ((r.class? id).any fun c => n.carries c) = false

theorem Registry.Without.part {r : Registry} {id : ShapeId} {v p : Value} (h : r.Without id v) (hp : p ∈ v.parts) :
    r.Without id p :=
  fun n hn => h n (.part hp hn)

instance (r : Registry) (id : ShapeId) (v : Value) : Decidable (r.Without id v) :=
  decidable_of_iff (Value.allNodes (fun n => !(r.class? id).any fun c => n.carries c) v = true) <| by
    simp only [Value.allNodes_iff, Bool.not_eq_true']; rfl

/-! ## Placed descriptions -/

section
variable (t : Traits)

@[simp] theorem Traits.placed_isValid (u : Traits) (v : Value) : (t.placed u).isValid v = u.isValid v := rfl

@[simp] theorem Traits.placed_allowNull (u : Traits) : (t.placed u).allowNull = t.allowNull := rfl

@[simp] theorem Traits.placed_matchOnce (u : Traits) : (t.placed u).matchOnce = u.matchOnce := rfl

@[simp] theorem Traits.placed_toleratesAbsence (u : Traits) : (t.placed u).toleratesAbsence = t.toleratesAbsence := rfl

theorem Descriptor.placed_traits (d : Descriptor) : (d.placed t).traits = t.placed d.traits := by
  cases d <;> rfl

theorem Descriptor.placed_kind (d : Descriptor) : (d.placed t).kind = d.kind := by
  cases d <;> rfl

theorem Registry.accepts_placed (r : Registry) {v : Value} (hv : v.isNull = false) {d : Descriptor} (hd : d.Container) :
    r.accepts v (d.placed t) = r.accepts v d := by
  cases hd <;>
    simp [Descriptor.placed, accepts_keyed hv, accepts_openObject hv, accepts_arrayOf hv, accepts_openArray hv]

end

/-! ## Verdicts -/

namespace Registry
variable {r : Registry} {id : ShapeId}

theorem Unfolds.toleratesAbsence {d d' : Descriptor} (h : r.Unfolds id d d') :
    d.toleratesAbsence = d'.toleratesAbsence := by
  cases h with
  | handle =>
    unfold Descriptor.toleratesAbsence
    rw [Descriptor.placed_traits, Traits.placed_toleratesAbsence, Descriptor.traits]
  | _ => rfl

theorem Unfolds.allowNull {d d' : Descriptor} (h : r.Unfolds id d d') : d.traits.allowNull = d'.traits.allowNull := by
  cases h with
  | handle => rw [Descriptor.placed_traits, Traits.placed_allowNull, Descriptor.traits]
  | _ => rfl

section
variable (hg : r.Grounded)
include hg

/-- What describes a shape is no union, so its place in an array is that of a single item. -/
theorem Unfolds.items {d d' : Descriptor} (h : r.Unfolds id d d') : Items (r.Unfolds id) d d' := by
  cases h with
  | kept => exact .same (.kept _) fun c _ => .kept c
  | @handle d hd t ht =>
    refine .single (by simp [Descriptor.kind]) ?_ (.handle hd ht)
    rw [Descriptor.placed_kind]
    rcases (hg id d hd).1 with hk | hk <;> simp [hk]
  | arrayOf h t => exact .single (by simp [Descriptor.kind]) (by simp [Descriptor.kind]) (.arrayOf h t)
  | keyed hm h t => exact .single (by simp [Descriptor.kind]) (by simp [Descriptor.kind]) (.keyed hm h t)
  | mix h s t => exact .union h s t t

theorem accepts_unfolds {d d' : Descriptor} (h : r.Unfolds id d d') {v : Value} (hv : r.Without id v) :
    r.accepts v d = r.accepts v d' := by
  induction v using Value.induction_parts generalizing d d' with
  | h v hp =>
    have parts : ∀ p ∈ v.parts, ∀ c c', r.Unfolds id c c' → r.accepts p c = r.accepts p c' :=
      fun p hm c c' hc => hp p hm hc (hv.part hm)
    induction d using Descriptor.induction_parts generalizing d' with
    | h d ih =>
      by_cases hn : v.isNull = true
      · rw [Value.eq_null hn, accepts_null, accepts_null, h.allowNull]
      · simp only [Bool.not_eq_true] at hn
        cases h with
        | kept => rfl
        | @handle d hd t ht =>
          rw [accepts_model hn hg, accepts_placed t r hn (Descriptor.container_of_kind (hg id d hd).1), checkShape, hd,
            hv v .root]
          simp [Traits.isValid, ht]
        | arrayOf h t =>
          rw [accepts_arrayOf hn, accepts_arrayOf hn, elementsMatch_step (h.items hg)]
          exact List.forall₂_same.mpr fun e he => parts e (Value.element_part he)
        | keyed hm h t =>
          have hs := (forall₂_entries hm h).imp fun e e' he => And.intro he.1 (And.intro he.2.toleratesAbsence he.2)
          rw [accepts_keyed hn, accepts_keyed hn, fieldVerdicts_eq,
            fieldsMatch_step t.matchOnce hs fun x hx => parts x.2 (Value.field_part hx)]
        | mix h s t =>
          have hany := any_step (forall₂_imp_of_mem h fun c hc c' _ hcc' => ih c hc hcc')
          rw [accepts_mix hn, accepts_mix hn, hany]

theorem accepts_unfolded {d d' : Descriptor} (h : Relation.ReflTransGen (r.Unfolds id) d d') {v : Value}
    (hv : r.Without id v) : r.accepts v d = r.accepts v d' := by
  induction h with
  | refl => rfl
  | tail _ hstep ih => rw [ih, accepts_unfolds hg hstep hv]

end

end Registry

/-- In any guard a handle means the schema of its shape. To unfold handles of a shape, any of them
any number of times, changes no verdict on a candidate without instances of the shape. -/
theorem unfolding_keeps_verdicts [RegexEngine] (requests : List Request) {k : Nat} {g : Guard}
    (hk : (World.after requests).guards[k]? = some g) {id : ShapeId} {d d' : Descriptor}
    (h : Relation.ReflTransGen (g.registry.Unfolds id) d d') (v : Option Value)
    (hv : ∀ u, v = some u → g.registry.Without id u) : g.registry.matches? v d' = g.registry.matches? v d := by
  have hg := ((World.after_sound requests).guards g (List.mem_of_getElem? hk)).grounded
  cases v with
  | none => rfl
  | some u => exact (Registry.accepts_unfolded hg h (hv u rfl)).symm

/-! Trees of trees, where an item may be missing. -/

def plain : Traits := Options.traits {}

def nullable : Traits := { plain with allowNull := true }

def trees : List Request := [.opening, .call 0 (.model "Tree" (.keyed [("children", .arrayOf (.token "Tree"))]))]

/-- A tree whose children are `d`. -/
def treeOf (d : Descriptor) : Descriptor := .keyed [(.exact "children", .arrayOf d plain)] plain

def grove : Value :=
  .array [.null, .object [("children", .array [.object [("children", .array [])], .object [("children", .array [])]])]]

theorem unfolding_keeps_verdicts_trees : ∃ g, (World.after trees).guards[0]? = some g ∧
    g.registry.Without ⟨1, 0⟩ grove ∧
    g.registry.matches? (some grove) (.arrayOf (.model ⟨1, 0⟩ nullable) plain) = true ∧
    g.registry.matches? (some grove)
      (.arrayOf ((treeOf (treeOf (.model ⟨1, 0⟩ plain))).placed nullable) plain) = true := by
  obtain ⟨g, hg⟩ : ∃ g, (World.after trees).guards[0]? = some g := ⟨_, rfl⟩
  have hd : g.registry.description? ⟨1, 0⟩ = some (treeOf (.model ⟨1, 0⟩ plain)) := by
    cases hg
    rfl
  have hw : g.registry.Without ⟨1, 0⟩ grove := by
    cases hg
    decide +kernel
  have hv : g.registry.matches? (some grove) (.arrayOf (.model ⟨1, 0⟩ nullable) plain) = true := by
    cases hg
    decide +kernel
  have once : g.registry.Unfolds ⟨1, 0⟩ (.arrayOf (.model ⟨1, 0⟩ nullable) plain)
      (.arrayOf ((treeOf (.model ⟨1, 0⟩ plain)).placed nullable) plain) := .arrayOf (.handle hd rfl) plain
  have again : g.registry.Unfolds ⟨1, 0⟩ (.arrayOf ((treeOf (.model ⟨1, 0⟩ plain)).placed nullable) plain)
      (.arrayOf ((treeOf (treeOf (.model ⟨1, 0⟩ plain))).placed nullable) plain) := by
    have inner : g.registry.Unfolds ⟨1, 0⟩ (.arrayOf (.model ⟨1, 0⟩ plain) plain)
        (.arrayOf (treeOf (.model ⟨1, 0⟩ plain)) plain) := .arrayOf (.handle hd rfl) plain
    apply Registry.Unfolds.arrayOf
    apply Registry.Unfolds.keyed
    · rfl
    · exact .cons inner .nil
  refine ⟨g, hg, hw, hv, ?_⟩
  rw [unfolding_keeps_verdicts trees hg (.tail (.single once) again) (some grove) fun u hu =>
    Option.some_inj.mp hu ▸ hw]
  exact hv

end Conformance
