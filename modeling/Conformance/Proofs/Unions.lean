import Conformance.Proofs.Stability
import Conformance.Proofs.Worlds

/-!
# Unions of items

An array judges a union of its items by the choices alone. What the union itself says, whether it
allows null and which values its validator refuses, counts only where the union stands alone.
-/

namespace Conformance

/-- The union without a say of its own: null is what its choices make of it, and nothing else
refuses a value. -/
def Descriptor.ofChoices (choices : List Descriptor) (s : Strategy) (t : Traits) : Descriptor :=
  .mix choices s { t with
    allowNull := (s != .not) == choices.any (·.traits.allowNull)
    validator := none }

namespace Registry

variable {r : Registry} {choices : List Descriptor} {s : Strategy} {t : Traits}

theorem unionVerdict_null : r.unionVerdict choices s .null = ((s != .not) == choices.any (·.traits.allowNull)) := by
  rw [unionVerdict, funext (r.accepts_null)]

theorem accepts_ofChoices (e : Value) :
    r.accepts e (.ofChoices choices s t) = r.unionVerdict choices s e := by
  cases hn : e.isNull with
  | true => rw [Value.eq_null hn, accepts_null, unionVerdict_null, Descriptor.ofChoices, Descriptor.traits]
  | false => rw [Descriptor.ofChoices, accepts_mix hn, Traits.isValid, Option.all_none, Bool.and_true, unionVerdict]

/-- Where each element is judged for itself, the union of the items counts as its choices say. -/
theorem accepts_unions (hs : s = .any ∨ s = .not) {t' : Traits} (ht : t'.validator = none) (es : List Value) :
    r.accepts (.array es) (.arrayOf (.mix choices s t) t') = es.all (r.unionVerdict choices s) := by
  have hstrategy : ∀ cs s' t', Descriptor.mix choices s t = .mix cs s' t' → s' ≠ .one ∧ s' ≠ .all := by
    intro cs s' t' he
    cases he
    rcases hs with rfl | rfl <;> exact ⟨by decide, by decide⟩
  rw [accepts_arrayOf rfl, Traits.isValid, ht, Option.all_none, Bool.and_true]
  exact elementsMatch_items hstrategy es

/-- Alone, a union takes what its choices say if it allows null as they do and its validator passes
all else that they let through. -/
theorem accepts_mix_iff : (∀ e, r.accepts e (.mix choices s t) = r.unionVerdict choices s e) ↔
    t.allowNull = ((s != .not) == choices.any (·.traits.allowNull)) ∧
      ∀ e, e.isNull = false → r.unionVerdict choices s e = true → t.isValid e = true := by
  constructor
  · intro h
    refine ⟨?_, fun e hn he => ?_⟩
    · rw [← unionVerdict_null (r := r), ← h, accepts_null]
      rfl
    · have hunion := h e
      rw [accepts_mix hn, ← unionVerdict, he, Bool.true_and] at hunion
      exact hunion
  · rintro ⟨hnull, hvalid⟩ e
    cases hn : e.isNull with
    | true => rw [Value.eq_null hn, accepts_null, unionVerdict_null, Descriptor.traits, hnull]
    | false =>
      rw [accepts_mix hn, ← unionVerdict]
      cases he : r.unionVerdict choices s e with
      | false => rfl
      | true => rw [hvalid e hn he]; rfl

end Registry

/-- An array whose items are a union takes the elements that the choices of the union take. For
all arrays this is what the union alone takes exactly if the union has no say of its own. -/
theorem union_of_items (g : Guard) (choices : List Descriptor) {s : Strategy} (hs : s = .any ∨ s = .not) (t : Traits)
    {t' : Traits} (ht : t'.validator = none) :
    (∀ es, g.matches? (.array es) (.arrayOf (.mix choices s t) t') = true ↔
      ∀ e ∈ es, g.matches? e (.ofChoices choices s t) = true) ∧
    ((∀ es, g.matches? (.array es) (.arrayOf (.mix choices s t) t') = true ↔
        ∀ e ∈ es, g.matches? e (.mix choices s t) = true) ↔
      t.allowNull = ((s != .not) == choices.any (·.traits.allowNull)) ∧
        ∀ e, e.isNull = false → g.matches? e (.ofChoices choices s t) = true → t.isValid e = true) := by
  have hitems : ∀ es, g.matches? (.array es) (.arrayOf (.mix choices s t) t') = true ↔
      ∀ e ∈ es, g.matches? e (.ofChoices choices s t) = true := by
    intro es
    have hall : g.matches? (.array es) (.arrayOf (.mix choices s t) t') = es.all (g.registry.unionVerdict choices s) :=
      Registry.accepts_unions hs ht es
    rw [hall, List.all_eq_true]
    exact forall₂_congr fun e _ => by rw [← Registry.accepts_ofChoices (t := t)]; rfl
  refine ⟨hitems, ?_⟩
  have hsole : (∀ es, g.matches? (.array es) (.arrayOf (.mix choices s t) t') = true ↔
      ∀ e ∈ es, g.matches? e (.mix choices s t) = true) ↔
      ∀ e, g.registry.accepts e (.mix choices s t) = g.registry.unionVerdict choices s e := by
    constructor
    · intro h e
      have he := (h [e]).symm.trans (hitems [e])
      rw [List.forall_mem_singleton, List.forall_mem_singleton] at he
      rw [← Registry.accepts_ofChoices (t := t)]
      exact Bool.eq_iff_iff.mpr he
    · intro h es
      rw [hitems es]
      exact forall₂_congr fun e _ => by
        rw [Guard.matches?, Registry.matches?, Option.any_some, Registry.accepts_ofChoices, ← h e]; rfl
  rw [hsole, Registry.accepts_mix_iff]
  simp only [Guard.matches?, Registry.matches?, Option.any_some, Registry.accepts_ofChoices]

/-- A name, or null. -/
def optionalName : Descriptor :=
  .mix [.primitive .string (Options.traits {})] .any { Options.traits {} with allowNull := true }

theorem union_of_items_names : ∃ g, (World.after [.opening]).guards[0]? = some g ∧
    g.matches? (.array [.string "Ada", .string "Alan"]) (.arrayOf optionalName (Options.traits {})) = true ∧
    ¬ ∀ es, g.matches? (.array es) (.arrayOf optionalName (Options.traits {})) = true ↔
      ∀ e ∈ es, g.matches? e optionalName = true := by
  obtain ⟨g, hg⟩ : ∃ g, (World.after [.opening]).guards[0]? = some g := ⟨_, rfl⟩
  have h := union_of_items g [.primitive .string (Options.traits {})] (.inl rfl)
    { Options.traits {} with allowNull := true } (rfl : (Options.traits {}).validator = none)
  refine ⟨g, hg, (h.1 _).mpr ?_, mt h.2.mp ?_⟩
  · cases hg
    decide +kernel
  · rintro ⟨hnull, -⟩
    cases hnull

/-- Null is such a name, but not among the elements of an array of such names. -/
theorem union_of_items_null : ∃ g, (World.after [.opening]).guards[0]? = some g ∧
    g.registry.compile (.mix [.token "string"]) { allowNull := true } = .ok optionalName ∧
    g.registry.compile (.arrayOf (.described optionalName)) {} = .ok (.arrayOf optionalName (Options.traits {})) ∧
    (∀ e ∈ [Value.null], g.matches? e optionalName = true) ∧
    g.matches? (.array [.null]) (.arrayOf optionalName (Options.traits {})) = false :=
  ⟨_, rfl, rfl, rfl, by decide, by decide⟩

end Conformance
