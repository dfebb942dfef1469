import Conformance.Pattern.Parser
import Conformance.Proofs.Needs
import Conformance.Proofs.Runs
import Conformance.Proofs.Shapes

/-!
# Creation that returns

Creating an instance and making it plain come to an end just if no key that is missing on the way
has a default that needs defaults without end. A shape with a default of its own kind has such a
default, if the default leaves out its own key.
-/

namespace Conformance

/-- An accepted candidate becomes an instance just if it is one already or its conversion asks for
no endless default, and an instance that was made becomes plain just if the conversion of its
content asks for none. -/
theorem creation_returns [RegexEngine] {r : Registry} (hr : Reachable r) {id : ShapeId} {s : Shape}
    (hs : r.shape? id = some s) {v : Value} (hc : s.check v = true) :
    ((∃ i, s.create v = .ok i) ↔ v.carries s.cls = true ∨
      ∀ m, r.Asks .instances (v, s.description) m → ¬ r.Endless .instances m) ∧
    ∀ i, s.create v = .ok i → ((∃ w, s.toObject i = .ok w) ↔
      ∀ m, r.Asks .plain (s.description.content i.fields, s.description) m → ¬ r.Endless .plain m) := by
  obtain ⟨-, -, -, hdesc⟩ := Registry.shape?_ok hs
  have hg := hr.grounded
  refine ⟨?_, fun i hi => ?_⟩
  · rw [Shape.create_isOk hs hc, Registry.convert_isSome hg]
  · rw [Shape.toObject_isOk hs (Shape.create_cls hs hi), Registry.toPlain_eq (hg id _ hdesc).1,
      Registry.convert_isSome hg]

/-- Each doll has one inside, if it is not said otherwise. -/
def dolls : Registry := .ofModels
  [("Doll", .object [("name", .object [("$type", .string "string"), ("$default", .string "doll")]),
    ("inner", .object [("$type", .string "Doll"), ("$allowNull", .bool true), ("$default", .object [])])])]

def emptyDoll : Value := .object []

def smallestDoll : Value := .object [("inner", .null)]

theorem dolls_shape : ∃ s, dolls.shape? (dolls.idAt 0) = some s ∧ s.check emptyDoll = true ∧
    (s.create emptyDoll).toOption.isNone = true ∧ s.check smallestDoll = true ∧
    (s.create smallestDoll).toOption.any (fun i => (s.toObject i).toOption.isSome) = true := by
  have h : (dolls.shape? (dolls.idAt 0)).any (fun s => s.check emptyDoll && (s.create emptyDoll).toOption.isNone &&
      s.check smallestDoll && (s.create smallestDoll).toOption.any fun i => (s.toObject i).toOption.isSome) = true := by
    decide +kernel
  obtain ⟨s, hs, h⟩ := (Option.any_eq_true _ _).mp h
  simp only [Bool.and_eq_true] at h
  exact ⟨s, hs, h.1.1.1, h.1.1.2, h.1.2, h.2⟩

theorem dolls_reachable : Reachable dolls := (Registry.ofModels_loaded _).reachable

theorem creation_returns_dolls : ∃ s, dolls.shape? (dolls.idAt 0) = some s ∧ s.check emptyDoll = true ∧
    (∃ m, dolls.Asks .instances (emptyDoll, s.description) m ∧ dolls.Endless .instances m) ∧
    s.check smallestDoll = true ∧
    ∀ m, dolls.Asks .instances (smallestDoll, s.description) m → ¬ dolls.Endless .instances m := by
  obtain ⟨s, hs, hc, hn, hc', hi⟩ := dolls_shape
  refine ⟨s, hs, hc, ?_, hc', ?_⟩
  · by_contra hno
    have hends : ∀ m, dolls.Asks .instances (emptyDoll, s.description) m → ¬ dolls.Endless .instances m :=
      fun m hm he => hno ⟨m, hm, he⟩
    obtain ⟨i, hi⟩ := (creation_returns dolls_reachable hs hc).1.mpr (.inr hends)
    rw [hi] at hn
    cases hn
  · obtain ⟨i, hi, -⟩ := ok_of_toOption hi
    exact ((creation_returns dolls_reachable hs hc').1.mp ⟨i, hi⟩).resolve_left nofun

/-- What is accepted need not become an instance. -/
theorem creation_endless : ¬ ∀ r : Registry, Reachable r → ∀ id s, r.shape? id = some s → ∀ v : Value, v.Distinct →
    s.check v = true → ∃ i, s.create v = .ok i := by
  intro h
  obtain ⟨s, hs, hc, hn, -⟩ := dolls_shape
  obtain ⟨i, hi⟩ := h dolls dolls_reachable _ s hs emptyDoll (by decide) hc
  rw [hi] at hn
  cases hn

end Conformance
