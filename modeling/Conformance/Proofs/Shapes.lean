import Conformance.Proofs.Compiled
import Conformance.Proofs.Verdicts
import Conformance.Shape

/-!
# Calls of shapes

What the checks of a shape look at, and what a finished call has done.
-/

namespace Conformance

theorem Class.same_comm (c d : Class) : c.same d = d.same c := by
  rw [same, same]; exact decide_eq_decide.mpr eq_comm

theorem ok_of_toOption {ε α : Type} {x : Except ε α} {p : α → Bool} (h : x.toOption.any p = true) :
    ∃ a, x = .ok a ∧ p a = true := by
  cases x with
  | error e => cases h
  | ok a => exact ⟨a, rfl, h⟩

theorem Registry.shape?_ok {r : Registry} {id : ShapeId} {s : Shape} (h : r.shape? id = some s) :
    s.registry = r ∧ s.id = id ∧ r.class? id = some s.cls ∧ r.description? id = some s.description := by
  obtain ⟨slot, hs, h⟩ := Option.bind_eq_some_iff.mp h
  obtain ⟨d, hd, h⟩ := Option.bind_eq_some_iff.mp h
  cases h
  exact ⟨rfl, rfl, by rw [class?, hs]; rfl, by rw [description?, hs]; exact hd⟩

namespace Shape

theorem create_plain (s : Shape) {v : Value} (hv : v.class? = none) : s.create v =
    if s.check v then ended (s.registry.buildFields v s.description) >>= fun fs => .ok ⟨s.cls, fs⟩
    else .error .invalidObject := by
  unfold create
  split
  · split
    · cases hv
    · rfl
  · rfl

variable {r : Registry} {id : ShapeId} {s : Shape} (hs : r.shape? id = some s)
include hs

theorem check_eq (v : Value) : s.check v = (v.carries s.cls || r.accepts v s.description) := by
  obtain ⟨rfl, rfl, hc, hd⟩ := Registry.shape?_ok hs
  rw [check, Registry.checkShape, hc, hd, Option.any_some, Option.any_some]

theorem create_ok {v : Value} {i : Instance} (h : s.create v = .ok i) :
    s.check v = true ∧ ((v.carries s.cls = true ∧ v = .inst i.cls i.fields) ∨
      v.carries s.cls = false ∧ i.cls = s.cls ∧ r.buildFields v s.description = some i.fields) := by
  obtain ⟨rfl, rfl, -, -⟩ := Registry.shape?_ok hs
  unfold create at h
  split at h
  · rename_i hc
    refine ⟨hc, ?_⟩
    have built : ∀ {v : Value}, (do .ok ⟨s.cls, ← ended (s.registry.buildFields v s.description)⟩) =
        (.ok i : Except ShapeError Instance) →
        i.cls = s.cls ∧ s.registry.buildFields v s.description = some i.fields := by
      intro v h
      cases hb : s.registry.buildFields v s.description with
      | none => rw [hb] at h; cases h
      | some fs => rw [hb] at h; cases h; exact ⟨rfl, rfl⟩
    split at h
    · rename_i c fs
      split at h
      · rename_i hsame
        cases h
        exact .inl ⟨by rw [Value.carries, Value.class?, Option.any_some, Class.same_comm]; exact hsame, rfl⟩
      · rename_i hsame
        refine .inr ⟨?_, built h⟩
        rw [Value.carries, Value.class?, Option.any_some, Class.same_comm]
        exact Bool.eq_false_iff.mpr hsame
    · rename_i hne
      refine .inr ⟨?_, built h⟩
      cases v with
      | inst c fs => exact absurd rfl (hne c fs)
      | _ => rfl
  · cases h

theorem create_built {v : Value} (hv : v.carries s.cls = false) {i : Instance} (h : s.create v = .ok i) :
    r.accepts v s.description = true ∧ r.buildFields v s.description = some i.fields := by
  obtain ⟨hcheck, hcase⟩ := create_ok hs h
  rw [check_eq hs, hv, Bool.false_or] at hcheck
  obtain ⟨-, -, hb⟩ := hcase.resolve_left fun h => by rw [hv] at h; cases h.1
  exact ⟨hcheck, hb⟩

theorem create_cls {v : Value} {i : Instance} (h : s.create v = .ok i) : i.cls.same s.cls = true := by
  rcases (create_ok hs h).2 with ⟨hv, rfl⟩ | ⟨-, hc, -⟩
  · rwa [Class.same_comm]
  · rw [hc, Class.same, decide_eq_true_eq]

/-- An accepted candidate that is no instance of the shape becomes one if its conversion ends. -/
theorem create_isOk {v : Value} (hc : s.check v = true) :
    (∃ i, s.create v = .ok i) ↔ v.carries s.cls = true ∨ (r.convert .instances v s.description).isSome = true := by
  obtain ⟨rfl, rfl, -, -⟩ := Registry.shape?_ok hs
  have built : (∃ i, (do .ok ⟨s.cls, ← ended (s.registry.buildFields v s.description)⟩ : Except ShapeError Instance) =
      .ok i) ↔ (s.registry.convert .instances v s.description).isSome = true := by
    rw [Registry.buildFields]
    cases s.registry.convert .instances v s.description with
    | none => exact ⟨fun ⟨_, h⟩ => (nomatch h), nofun⟩
    | some u => exact ⟨fun _ => rfl, fun _ => ⟨_, rfl⟩⟩
  unfold create
  rw [if_pos hc]
  cases v with
  | inst c fs =>
    have hcar : (Value.inst c fs).carries s.cls = c.same s.cls := Class.same_comm ..
    dsimp only
    rw [hcar]
    cases c.same s.cls with
    | true => exact ⟨fun _ => .inl rfl, fun _ => ⟨_, rfl⟩⟩
    | false => exact built.trans ⟨.inr, fun h => h.resolve_left nofun⟩
  | _ => exact built.trans ⟨.inr, fun h => h.resolve_left nofun⟩

theorem toObject_isOk {i : Instance} (hi : i.cls.same s.cls = true) :
    (∃ w, s.toObject i = .ok w) ↔ (r.toPlain i s.description).isSome = true := by
  obtain ⟨rfl, rfl, -, -⟩ := Registry.shape?_ok hs
  unfold toObject owns
  rw [if_pos hi]
  cases s.registry.toPlain i s.description with
  | none => exact ⟨fun ⟨_, h⟩ => (nomatch h), nofun⟩
  | some u => exact ⟨fun _ => rfl, fun _ => ⟨_, rfl⟩⟩

theorem toObject_ok {i : Instance} {w : Value} (h : s.toObject i = .ok w) :
    i.cls.same s.cls = true ∧ r.toPlain i s.description = some w := by
  obtain ⟨rfl, rfl, -, -⟩ := Registry.shape?_ok hs
  obtain ⟨_, ho, h⟩ := bind_eq_ok.mp h
  refine ⟨?_, ?_⟩
  · unfold owns at ho
    split at ho
    · assumption
    · cases ho
  · cases hp : s.registry.toPlain i s.description with
    | none => rw [hp] at h; cases h
    | some x => rw [hp] at h; cases h; rfl

end Shape

end Conformance
