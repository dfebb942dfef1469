import Conformance.Proofs.Declared
import Conformance.Proofs.Stability

/-!
# Regular registries

In a regular registry unions have the strategy `any`, defaults are accepted where they stand, and
no pattern accepts the exact key of a default that is written later. Each node of a description
is judged alone, so it is decided whether a registry is regular.
-/

namespace Conformance

namespace Registry
variable {r : Registry}

/-! ## Nodes -/

/-- A union has the strategy `any`, a default is accepted by the node that carries it, and no pattern
accepts the exact key of a default that is written later. -/
structure Proper (r : Registry) (n : Descriptor) : Prop where
  strategy : ∀ cs s t, n = .mix cs s t → s = .any
  accepted : ∀ u, n.traits.default? = some u → r.accepts u n = true
  unshadowed : ∀ schema t, n = .keyed schema t → Unshadowed schema

def isProper (r : Registry) (n : Descriptor) : Bool :=
  n.traits.default?.all (r.accepts · n) &&
    match n with
    | .mix _ s _ => s = .any
    | .keyed schema _ => Unshadowed schema
    | _ => true

theorem isProper_iff {n : Descriptor} : r.isProper n = true ↔ r.Proper n := by
  unfold isProper
  rw [Bool.and_eq_true, Option.all_eq_true]
  constructor
  · rintro ⟨ha, h⟩
    refine ⟨?_, ha, ?_⟩
    · rintro cs s t rfl
      exact of_decide_eq_true h
    · rintro schema t rfl
      exact of_decide_eq_true h
  · rintro ⟨hs, ha, hu⟩
    refine ⟨ha, ?_⟩
    cases n with
    | mix choices s t => exact decide_eq_true (hs choices s t rfl)
    | keyed schema t => exact decide_eq_true (hu schema t rfl)
    | _ => rfl

/-! ## Descriptions -/

/-- Every node of every description is proper. -/
def Regular (r : Registry) : Prop :=
  ∀ id d, r.description? id = some d → ∀ n, Descriptor.Node n d → r.Proper n

instance (r : Registry) : Decidable r.Regular :=
  decidable_of_iff (∀ s ∈ r.slots, ∀ d ∈ s.description, d.allNodes r.isProper = true) <| by
    unfold Regular
    simp only [← isProper_iff, ← everywhere_iff, everywhere, List.all_eq_true, Option.all_eq_true]
    rfl

/-! ## Documents -/

theorem Regular.throughout [RegexEngine] (h : r.Regular) (hr : Loaded r) (target : Target)
    (fitting : Prop) (id : ShapeId)
    (d : Descriptor) (hd : r.description? id = some d) : r.Throughout target fitting d := by
  intro n hn
  have hdeclared := hr.declared hd hn
  have hproper := h id d hd n hn
  refine ⟨fun _ => hdeclared.noClass, ?_, ?_, hdeclared.validator, hdeclared.keys, hproper.unshadowed, fun u hu => ?_⟩
  · rintro - cs t rfl
    cases hproper.strategy cs .not t rfl
  · rintro cs s t t' rfl
    have hitems : Descriptor.Node (.mix cs s t) d := hn.snoc (List.mem_singleton_self _)
    rw [(h id d hd _ hitems).strategy cs s t rfl]
    exact ⟨nofun, nofun⟩
  · obtain ⟨hp, hu'⟩ := hdeclared.default u hu
    exact ⟨hproper.accepted u hu, .of_plain hp hu'⟩

end Registry

end Conformance
