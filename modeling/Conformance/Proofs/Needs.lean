import Conformance.Proofs.Calls
import Conformance.Proofs.Slots
import Mathlib.Order.WellFounded

/-!
# Defaults that need each other

The conversion of a default may ask for other defaults, and then needs them to come to an end. A
conversion has no end just if it asks for a default that needs defaults without end. The
converter gives up when defaults are nested deeper than there are nodes with a default; no
conversion that would come to an end is given up.
-/

namespace Conformance

/-! ## Nodes -/

namespace Descriptor

mutual

def nodes : Descriptor → List Descriptor
  | .arrayOf items t => .arrayOf items t :: nodes items
  | .keyed schema t => .keyed schema t :: schemaNodes schema
  | .mix choices s t => .mix choices s t :: choicesNodes choices
  | d => [d]

def schemaNodes : List (KeyMatcher × Descriptor) → List Descriptor
  | [] => []
  | (_, d) :: rest => nodes d ++ schemaNodes rest

def choicesNodes : List Descriptor → List Descriptor
  | [] => []
  | d :: rest => nodes d ++ choicesNodes rest

end

theorem schemaNodes_eq : ∀ s, schemaNodes s = (s.map Prod.snd).flatMap nodes
  | [] => rfl
  | (m, d) :: rest => by rw [schemaNodes, schemaNodes_eq rest]; rfl

theorem choicesNodes_eq : ∀ ds, choicesNodes ds = ds.flatMap nodes
  | [] => rfl
  | d :: rest => by rw [choicesNodes, choicesNodes_eq rest]; rfl

theorem nodes_eq (d : Descriptor) : d.nodes = d :: d.parts.flatMap nodes := by
  cases d <;> simp [nodes, schemaNodes_eq, choicesNodes_eq, parts]

theorem mem_nodes {n d : Descriptor} (h : Node n d) : n ∈ d.nodes := by
  induction h with
  | root => rw [nodes_eq]; exact List.mem_cons_self
  | part hc _ ih => rw [nodes_eq]; exact List.mem_cons_of_mem _ (List.mem_flatMap.mpr ⟨_, hc, ih⟩)

def hasDefault (d : Descriptor) : Bool := d.traits.default.isSome

end Descriptor

namespace Registry

-- counts are sums from the zero of the core library
attribute [local instance (high)] Zero.ofOfNat0

theorem schemaDefaultCount_eq : ∀ s, schemaDefaultCount s = ((s.map Prod.snd).map defaultCount).sum
  | [] => rfl
  | (m, d) :: rest => by rw [schemaDefaultCount, schemaDefaultCount_eq rest]; rfl

theorem choicesDefaultCount_eq : ∀ ds, choicesDefaultCount ds = (ds.map defaultCount).sum
  | [] => rfl
  | d :: rest => by rw [choicesDefaultCount, choicesDefaultCount_eq rest]; rfl

theorem defaultCount_eq (d : Descriptor) :
    defaultCount d = defaultCount.count d.traits + (d.parts.map defaultCount).sum := by
  cases d <;>
    simp [defaultCount, schemaDefaultCount_eq, choicesDefaultCount_eq, Descriptor.parts, Descriptor.traits]

theorem countP_nodes (d : Descriptor) : d.nodes.countP Descriptor.hasDefault = defaultCount d := by
  induction d using Descriptor.induction_parts with
  | h d ih =>
    have hparts : d.parts.map (List.countP Descriptor.hasDefault ∘ Descriptor.nodes) = d.parts.map defaultCount :=
      List.map_congr_left ih
    rw [Descriptor.nodes_eq, List.countP_cons, List.countP_flatMap, hparts, defaultCount_eq, Nat.add_comm]
    rfl

/-! ## The nodes that a conversion may come to -/

/-- A node of the descriptor or of a description. -/
def InScope (r : Registry) (d n : Descriptor) : Prop :=
  n.Node d ∨ ∃ id d', r.description? id = some d' ∧ n.Node d'

def scope (r : Registry) (d : Descriptor) : List Descriptor :=
  d.nodes ++ r.slots.flatMap fun s => (s.description.map Descriptor.nodes).getD []

theorem countP_scope (r : Registry) (d : Descriptor) : (r.scope d).countP Descriptor.hasDefault = r.defaultDepth d := by
  have hslots :
      r.slots.map (List.countP Descriptor.hasDefault ∘ fun s => (s.description.map Descriptor.nodes).getD []) =
      r.slots.map fun s => (s.description.map defaultCount).getD 0 := by
    refine List.map_congr_left fun s _ => ?_
    cases hs : s.description with
    | none => simp [hs]
    | some d => simp [hs, countP_nodes]
  rw [scope, List.countP_append, List.countP_flatMap, countP_nodes, hslots, defaultDepth]

variable {r : Registry} {target : Target} {d : Descriptor}

theorem InScope.mem_scope {n : Descriptor} (h : r.InScope d n) : n ∈ r.scope d := by
  rcases h with h | ⟨id, d', hd, h⟩
  · exact List.mem_append_left _ (Descriptor.mem_nodes h)
  · obtain ⟨s, hs, hd⟩ := description?_slot hd
    refine List.mem_append_right _ (List.mem_flatMap.mpr ⟨s, hs, ?_⟩)
    rw [hd]
    exact Descriptor.mem_nodes h

theorem InScope.part {n c : Descriptor} (h : r.InScope d n) (hc : c ∈ n.parts) : r.InScope d c := by
  rcases h with h | ⟨id, d', hd, h⟩
  · exact .inl (h.snoc hc)
  · exact .inr ⟨id, d', hd, h.snoc hc⟩

theorem Calls.inScope {p q : Task} (hp : r.InScope d p.2) (h : r.Calls target p q) : r.InScope d q.2 := by
  cases h with
  | element => exact hp.part (List.mem_singleton_self _)
  | field _ hc => exact hp.part (List.mem_map_of_mem (f := Prod.snd) (claims_entry hc))
  | choice _ _ hc => exact hp.part (List.mem_of_find?_eq_some hc)
  | shape _ _ hd => exact .inr ⟨_, _, hd, .root⟩
  | content _ _ hd => exact .inr ⟨_, _, hd, .root⟩

theorem comes_inScope {p q : Task} (hp : r.InScope d p.2) (h : r.Comes target p q) : r.InScope d q.2 := by
  induction h with
  | refl => exact hp
  | tail _ hc ih => exact hc.inScope ih

theorem Asks.inScope {p : Task} {m : Descriptor} (hp : r.InScope d p.2) (h : r.Asks target p m) : r.InScope d m := by
  obtain ⟨q, hq, hm⟩ := h
  have hscope := comes_inScope hp hq
  cases hm with
  | entry _ hc => exact hscope.part (List.mem_map_of_mem (f := Prod.snd) (claims_entry hc))

/-! ## Needs -/

/-- The conversion of the default of `m` asks for the default of `m'`. -/
def Needs (r : Registry) (target : Target) (m m' : Descriptor) : Prop :=
  ∃ u, m.traits.default? = some u ∧ r.Asks target (u, m) m'

/-- The default needs a default that needs a default, and so on without end. -/
def Endless (r : Registry) (target : Target) (m : Descriptor) : Prop :=
  ∃ f : Nat → Descriptor, f 0 = m ∧ ∀ n, r.Needs target (f n) (f (n + 1))

theorem endless_iff {m : Descriptor} : r.Endless target m ↔ ¬ Acc (fun m' m => r.Needs target m m') m :=
  (not_acc_iff_exists_descending_chain (r := fun m' m => r.Needs target m m')).symm

theorem absent_zero {m : Descriptor} : (r.absent target 0 m).isSome = true ↔ m.traits.default? = none := by
  rw [absent]
  cases m.traits.default? <;> simp

theorem absent_step (hg : r.Grounded) {n : Nat} {m : Descriptor} :
    (r.absent target (n + 1) m).isSome = true ↔ ∀ m', r.Needs target m m' → (r.absent target n m').isSome = true := by
  rw [absent]
  cases hu : m.traits.default? with
  | none =>
    refine ⟨fun _ m' hm => ?_, fun _ => rfl⟩
    obtain ⟨u, hu', -⟩ := hm
    rw [hu] at hu'
    cases hu'
  | some u =>
    dsimp only
    rw [Option.isSome_map]
    refine (ends_iff hg (u, m)).trans ⟨fun h m' hm => ?_, fun h m' hm => h m' ⟨u, hu, hm⟩⟩
    obtain ⟨u', hu', hm⟩ := hm
    cases hu.symm.trans hu'
    exact h m' hm

theorem Endless.absent (hg : r.Grounded) (n : Nat) : ∀ {m : Descriptor}, r.Endless target m →
    ¬ (r.absent target n m).isSome = true := by
  induction n with
  | zero =>
    rintro m ⟨f, rfl, hf⟩ h
    obtain ⟨u, hu, -⟩ := hf 0
    rw [absent_zero.mp h] at hu
    cases hu
  | succ n ih =>
    rintro m ⟨f, rfl, hf⟩ h
    exact ih ⟨fun k => f (k + 1), rfl, fun k => hf (k + 1)⟩ ((absent_step hg).mp h (f 1) (hf 0))

theorem absent_of_hasDefault {n : Nat} {m : Descriptor} (h : m.hasDefault = false) :
    (r.absent target n m).isSome = true := by
  have hd : m.traits.default? = none := by
    rw [Traits.default?, Option.not_isSome_iff_eq_none.mp (Bool.eq_false_iff.mp h)]
    rfl
  cases n <;> rw [absent, hd] <;> rfl

/-- Defaults that need each other to an end are needed once each on the way, so they are nested
no deeper than they are many. -/
theorem absent_of_acc (hg : r.Grounded) (n : Nat) : ∀ (l : List Descriptor), l.length = n → ∀ {m : Descriptor},
    Acc (fun m' m => r.Needs target m m') m →
    (∀ m', Relation.ReflTransGen (r.Needs target) m m' → m'.hasDefault = true → m' ∈ l) →
    (r.absent target n m).isSome = true := by
  induction n with
  | zero =>
    intro l hl m _ hm
    cases h : m.hasDefault with
    | false => exact absent_of_hasDefault h
    | true =>
      rw [List.length_eq_zero_iff.mp hl] at hm
      exact absurd (hm m .refl h) List.not_mem_nil
  | succ n ih =>
    intro l hl m ha hm
    cases h : m.hasDefault with
    | false => exact absent_of_hasDefault h
    | true =>
      obtain ⟨l₁, l₂, rfl⟩ := List.append_of_mem (hm m .refl h)
      refine (absent_step hg).mpr fun m' hm' => ih (l₁ ++ l₂) ?_ (ha.inv hm') fun x hx hd => ?_
      · simp only [List.length_append, List.length_cons] at hl ⊢
        omega
      · -- a default that is needed on the way to itself would be needed without end
        have hne : x ≠ m := by
          rintro rfl
          have hcycle : Relation.TransGen (fun m' m => r.Needs target m m') x x :=
            Relation.transGen_swap.mpr (.head' hm' hx)
          exact not_acc_iff_exists_descending_chain.mpr ⟨fun _ => x, rfl, fun _ => hcycle⟩ ha.transGen
        have hl := hm x (.head hm' hx) hd
        simp only [List.mem_append, List.mem_cons] at hl ⊢
        exact hl.imp_right fun h => h.resolve_left hne

theorem absent_enough (hg : r.Grounded) {m : Descriptor} (hm : r.InScope d m) (he : ¬ r.Endless target m) :
    (r.absent target (r.defaultDepth d) m).isSome = true := by
  rw [endless_iff, not_not] at he
  refine absent_of_acc hg _ ((r.scope d).filter Descriptor.hasDefault) ?_ he fun m' hm' hd => ?_
  · rw [← List.countP_eq_length_filter, countP_scope]
  · have hscope : r.InScope d m' := by
      clear hd
      induction hm' with
      | refl => exact hm
      | tail _ h ih =>
        obtain ⟨u, -, ha⟩ := h
        exact ha.inScope ih
    exact List.mem_filter.mpr ⟨hscope.mem_scope, hd⟩

/-- A conversion comes to an end just if it asks for no default that needs defaults without end. -/
theorem convert_isSome (hg : r.Grounded) (v : Value) (d : Descriptor) :
    (r.convert target v d).isSome = true ↔ ∀ m, r.Asks target (v, d) m → ¬ r.Endless target m := by
  refine (ends_iff hg (v, d)).trans ⟨fun h m hm he => ?_, fun h m hm => ?_⟩
  · exact he.absent hg _ (h m hm)
  · exact absent_enough hg (hm.inScope (.inl .root)) (h m hm)

/-- A conversion that comes to an end is not given up. -/
theorem Converts.convert (hg : r.Grounded) {v : Value} {d : Descriptor} {w : Value} (h : r.Converts target v d w) :
    r.convert target v d = some w := by
  have hends : (r.convert target v d).isSome = true := by
    refine (convert_isSome hg v d).mpr fun m hm he => ?_
    obtain ⟨n, hn⟩ := h
    exact he.absent hg n ((ends_iff hg (v, d)).mp (Option.isSome_of_mem hn) m hm)
  obtain ⟨w', hw'⟩ := Option.isSome_iff_exists.mp hends
  rw [hw', Converts.unique ⟨_, hw'⟩ h]

end Registry

end Conformance
