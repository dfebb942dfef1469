import Conformance.Proofs.Trees
import Conformance.Registry

/-!
# Descriptions and their slots

A description stands in a slot of the registry, so what is asked of all nodes of all descriptions
is decided by going over the slots.
-/

namespace Conformance

namespace Registry
variable {r : Registry}

theorem class?_of_description {id : ShapeId} {d : Descriptor} (h : r.description? id = some d) :
    ∃ c, r.class? id = some c := by
  obtain ⟨slot, hs, -⟩ := Option.bind_eq_some_iff.mp h
  exact ⟨_, Option.map_eq_some_iff.mpr ⟨slot, hs, rfl⟩⟩

/-- A class belongs to one shape. -/
theorem class?_same {id id' : ShapeId} {c c' k : Class} (h : r.class? id = some c) (h' : r.class? id' = some c')
    (hs : c.same k = true) (hs' : c'.same k = true) : id = id' := by
  obtain ⟨slot, _, rfl⟩ := Option.map_eq_some_iff.mp h
  obtain ⟨slot', _, rfl⟩ := Option.map_eq_some_iff.mp h'
  rw [Class.same, decide_eq_true_eq] at hs hs'
  simpa [Class.id] using hs.trans hs'.symm

theorem description?_slot {id : ShapeId} {d : Descriptor} (h : r.description? id = some d) :
    ∃ s ∈ r.slots, s.description = some d := by
  obtain ⟨s, hs, hd⟩ := Option.bind_eq_some_iff.mp h
  unfold slot? at hs
  split at hs
  · exact ⟨s, List.mem_of_getElem? hs, hd⟩
  · cases hs

theorem slot_description? {s : Slot} {d : Descriptor} (hs : s ∈ r.slots) (hd : s.description = some d) :
    ∃ id, r.description? id = some d := by
  obtain ⟨i, hi⟩ := List.mem_iff_getElem?.mp hs
  refine ⟨r.idAt i, Option.bind_eq_some_iff.mpr ⟨s, ?_, hd⟩⟩
  rw [slot?, idAt, if_pos rfl]
  exact hi

def everywhere (r : Registry) (p : Descriptor → Bool) : Bool :=
  r.slots.all fun s => s.description.all (Descriptor.allNodes p)

theorem everywhere_iff {p : Descriptor → Bool} : r.everywhere p = true ↔
    ∀ id d, r.description? id = some d → ∀ n, Descriptor.Node n d → p n = true := by
  simp only [everywhere, List.all_eq_true, Option.all_eq_true, Descriptor.allNodes_iff]
  constructor
  · intro h id d hd
    obtain ⟨s, hs, hd⟩ := description?_slot hd
    exact h s hs d hd
  · intro h s hs d hd
    obtain ⟨id, hid⟩ := slot_description? hs hd
    exact h id d hid

end Registry

end Conformance
