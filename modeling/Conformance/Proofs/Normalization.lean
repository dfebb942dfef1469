import Conformance.Proofs.Regular
import Conformance.Proofs.Shapes

/-!
# Normalized values are accepted

A candidate that a shape of a regular registry accepts is accepted again after it was made an
instance and the instance was made plain.
-/

namespace Conformance

namespace Registry
variable {r : Registry}

/-! ## New instances -/

theorem accepts_inst {target : Target} {fitting : Prop} {d : Descriptor} (hs : r.Sound target fitting d)
    (hk : d.kind = .object) (c : Class) (fs : Entries Value) :
    r.accepts (.inst c fs) d = r.accepts (.object fs) d := by
  have hvalid := hs.isValid (by simp [hk])
  cases Descriptor.container_of_kind (.inl hk) with
  | keyed schema t =>
    have ht : ∀ v, t.isValid v = true := hvalid
    rw [accepts_keyed rfl, accepts_keyed rfl, ht, ht]
    rfl
  | openObject t =>
    have ht : ∀ v, t.isValid v = true := hvalid
    rw [accepts_openObject rfl, accepts_openObject rfl, ht, ht]
    rfl
  | _ => cases hk

theorem content_built {target : Target} {fitting : Prop} {d : Descriptor} (hd : d.kind = .object ∨ d.kind = .array)
    (hs : r.Sound target fitting d) {v : Value} {fs : Entries Value} (hn : v.isNull = false)
    (hk : ∀ u, r.convert .instances v d = some u → r.Kept fitting v d u) (hb : r.buildFields v d = some fs) :
    r.accepts (d.content fs) d = true ∧ r.Good fitting (d.content fs) := by
  obtain ⟨u, hu, hf⟩ := Option.map_eq_some_iff.mp hb
  obtain ⟨hu, hgood, hnull⟩ := hk u hu
  have hun := hnull.trans hn
  cases u with
  | object gs => cases hf; rw [content_fields hu]; exact ⟨hu, hgood⟩
  | array es => cases hf; rw [content_indexed hd hu]; exact ⟨hu, hgood⟩
  | inst c gs =>
    cases hf
    have hkind : d.kind = .object := hd.resolve_right fun hk => by cases accepts_array hun hk hu
    rw [accepts_inst hs hkind] at hu
    rw [content_fields hu]
    exact ⟨hu, good_object hgood.distinct.keys fun f hf => hgood.part (Value.field_part hf)⟩
  | _ =>
    rcases hd with hk | hk
    · cases accepts_object hun hk hu
    · cases accepts_array hun hk hu

end Registry

/-- What is made of an accepted candidate is accepted again when it is plain. -/
theorem normalized_accepted [RegexEngine] {r : Registry} (hr : Loaded r) (ha : r.Regular) {id : ShapeId} {s : Shape}
    (hs : r.shape? id = some s) {v : Value} (hp : v.Plain) (hd : v.Distinct) {i : Instance} (hi : s.create v = .ok i)
    {w : Value} (hw : s.toObject i = .ok w) : s.check w = true := by
  obtain ⟨-, -, -, hdesc⟩ := Registry.shape?_ok hs
  have hg := hr.reachable.grounded
  have hall := fun target => ha.throughout hr target True
  have hkind := (hg id _ hdesc).1
  have hv : v.carries s.cls = false := by rw [Value.carries, hp.root]; rfl
  obtain ⟨hv, hb⟩ := Shape.create_built hs hv hi
  obtain ⟨hcontent, hgood⟩ := Registry.content_built hkind (hall .instances id _ hdesc).root (hg.isNull hdesc hv)
    (fun u hu => Registry.kept hg (fun _ => trivial) (hall .instances) (.of_plain hp hd) (hall .instances id _ hdesc)
      hv hu) hb
  have hplain := (Shape.toObject_ok hs hw).2
  rw [Registry.toPlain, Registry.fieldParts_eq, plainContent_eq hkind] at hplain
  have hk := Registry.kept hg (fun _ => trivial) (hall .plain) hgood (hall .plain id _ hdesc) hcontent hplain
  rw [Shape.check_eq hs, hk.accepted, Bool.or_true]

/-- Trees stand in trees and in rows of trees; the label has a default and a pattern, and the last
entry takes one key. -/
def forest : Registry := .ofModels
  [("Tree", .object [("$matchOnce", .bool true), ("$type", .object [
      ("label", .object [("$type", .string "string"), ("$default", .string "leaf"), ("$validator", .string "/^l|^$/")]),
      ("next", .object [("$type", .string "Tree"), ("$allowNull", .bool true)]),
      ("rows", .string "Rows"),
      ("/^.+$/", .object [("$mix", .array [.string "Rows", .string "any"])])])]),
    ("Rows", .array [.object [("$mix", .array [.string "number", .string "Tree"])]])]

def oak : Value := .ofJson <| .object [
  ("age", .array [.int 80]),
  ("rows", .array [.int 1, .object [("next", .null), ("rows", .array []), ("tag", .bool true)]]),
  ("next", .object [("label", .string "limb"), ("next", .null), ("rows", .array []), ("note", .string "low")])]

theorem normalized_accepted_forest : Loaded forest ∧ forest.Regular ∧ oak.Plain ∧ oak.Distinct ∧
    ∃ s i w, forest.shape? (forest.idAt 0) = some s ∧ s.create oak = .ok i ∧ s.toObject i = .ok w ∧
      s.check w = true := by
  have hr : Loaded forest := Registry.ofModels_loaded _
  have hp : oak.Plain := by decide
  have hd : oak.Distinct := by decide
  have h : (decide forest.Regular && (forest.shape? (forest.idAt 0)).any fun s =>
      (s.create oak).toOption.any fun i => (s.toObject i).toOption.any fun _ => true) = true := by decide +kernel
  rw [Bool.and_eq_true, decide_eq_true_eq] at h
  obtain ⟨ha, hs⟩ := h
  obtain ⟨s, hs, hi⟩ := (Option.any_eq_true _ _).mp hs
  obtain ⟨i, hi, hw⟩ := ok_of_toOption hi
  obtain ⟨w, hw, -⟩ := ok_of_toOption hw
  exact ⟨hr, ha, hp, hd, s, i, w, hs, hi, hw, normalized_accepted hr ha hs hp hd hi hw⟩

end Conformance
