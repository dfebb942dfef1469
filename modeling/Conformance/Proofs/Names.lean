import Conformance.Proofs.Runs

/-!
# Names of a registry

The names stand in the order of their declaration. Looking up a name and resolving an id are
inverse where names are distinct, which every call keeps.
-/

namespace Conformance

theorem findIdx?_of_nodup {α β : Type} [DecidableEq β] {f : α → β} {l : List α} (hn : (l.map f).Nodup) {i : Nat} {a : α}
    (h : l[i]? = some a) : (l.findIdx? fun x => f x = f a) = some i := by
  obtain ⟨hlt, rfl⟩ := List.getElem?_eq_some_iff.mp h
  refine List.findIdx?_eq_some_iff_getElem.mpr ⟨hlt, decide_eq_true rfl, fun j hj => ?_⟩
  have hne := (List.pairwise_iff_getElem.mp hn) j i (by simp; omega) (by simpa using hlt) hj
  simpa using hne

theorem map_set_same {α β : Type} {f : α → β} {l : List α} {i : Nat} {a b : α} (h : l[i]? = some a) (hf : f b = f a) :
    (l.set i b).map f = l.map f := by
  obtain ⟨hlt, rfl⟩ := List.getElem?_eq_some_iff.mp h
  rw [List.map_set, hf, ← List.map_set, List.set_getElem_self]

namespace Registry
variable {r r' : Registry}

/-! ## Names and ids -/

def names (r : Registry) : List String := r.slots.map (·.name)

theorem size_names (r : Registry) : r.names.length = r.size := List.length_map ..

theorem name?_eq (r : Registry) (id : ShapeId) :
    r.name? id = if id.registry = r.serial then r.names[id.index]? else none := by
  rw [name?, slot?, names, List.getElem?_map]
  split <;> rfl

theorem lookup_eq (r : Registry) (name : String) : r.lookup name = (r.names.findIdx? (· = name)).map r.idAt := by
  rw [lookup, names, List.findIdx?_map]
  rfl

theorem owns_eq (r : Registry) (id : ShapeId) : r.owns id = (r.name? id).isSome := (Option.isSome_map ..).symm

theorem class?_eq (r : Registry) (id : ShapeId) : r.class? id = (r.name? id).map (.base (.shape id)) := by
  rw [class?, name?, Option.map_map]
  rfl

theorem owns_iff (r : Registry) (id : ShapeId) : r.owns id = true ↔ id.registry = r.serial ∧ id.index < r.size := by
  rw [owns_eq, name?_eq, ← size_names]
  split <;> simp_all

theorem lookup_name {name : String} {id : ShapeId} (h : r.lookup name = some id) : r.name? id = some name := by
  rw [lookup_eq] at h
  obtain ⟨i, hi, rfl⟩ := Option.map_eq_some_iff.mp h
  obtain ⟨hlt, hname, -⟩ := List.findIdx?_eq_some_iff_getElem.mp hi
  rw [name?_eq, idAt, if_pos rfl, List.getElem?_eq_getElem hlt, of_decide_eq_true hname]

theorem lookup_none {name : String} : r.lookup name = none ↔ name ∉ r.names := by
  rw [lookup_eq, Option.map_eq_none_iff, List.findIdx?_eq_none_iff]
  simp only [decide_eq_false_iff_not]
  exact ⟨fun h hm => h name hm rfl, fun h _ hx e => h (e ▸ hx)⟩

theorem lookup_some {name : String} (h : name ∈ r.names) : ∃ id, r.lookup name = some id :=
  Option.ne_none_iff_exists'.mp fun hn => lookup_none.mp hn h

theorem lookup_of_name (hn : r.names.Nodup) {name : String} {id : ShapeId} (h : r.name? id = some name) :
    r.lookup name = some id := by
  rw [name?_eq] at h
  split at h
  · rename_i hid
    rw [lookup_eq, findIdx?_of_nodup (f := fun x => x) (by rwa [List.map_id']) h, Option.map_some, idAt, ← hid]
  · cases h

/-! ## Registries with the same names -/

/-- Both registries have issued the same ids for the same names. -/
structure SameNames (r r' : Registry) : Prop where
  serial : r'.serial = r.serial
  names : r'.names = r.names

theorem SameNames.refl (r : Registry) : r.SameNames r := ⟨rfl, rfl⟩

theorem SameNames.trans {r₁ r₂ r₃ : Registry} (h : r₁.SameNames r₂) (h' : r₂.SameNames r₃) : r₁.SameNames r₃ :=
  ⟨h'.serial.trans h.serial, h'.names.trans h.names⟩

section
variable (h : r.SameNames r')
include h

theorem SameNames.size : r'.size = r.size := by rw [← size_names, ← size_names, h.names]

theorem SameNames.name? (id : ShapeId) : r'.name? id = r.name? id := by
  rw [name?_eq, name?_eq, h.serial, h.names]

theorem SameNames.lookup (name : String) : r'.lookup name = r.lookup name := by
  have hid : r'.idAt = r.idAt := funext fun i => congrArg (ShapeId.mk · i) h.serial
  rw [lookup_eq, lookup_eq, h.names, hid]

end

/-! ## Declaring a name -/

/-- The name is free, or reserved without a description. -/
def Open (r : Registry) (name : String) : Prop :=
  match r.lookup name with
  | some id => r.isDefined id = false
  | none => validName name = true

theorem declare_ok {name : String} {id : ShapeId} (h : r.declare name = .ok (r', id)) :
    (r.lookup name = some id ∧ r.isDefined id = false ∧ r' = r) ∨
      (r.lookup name = none ∧ validName name = true ∧ id = r.idAt r.size ∧
        r' = { r with slots := r.slots ++ [⟨name, none⟩] }) := by
  unfold declare at h
  cases hl : r.lookup name with
  | some i =>
    rw [hl] at h
    dsimp only at h
    split at h
    · cases h
    · rename_i hd
      cases h
      exact .inl ⟨rfl, Bool.eq_false_iff.mpr hd, rfl⟩
  | none =>
    rw [hl] at h
    obtain ⟨_, hv, h⟩ := bind_eq_ok.mp h
    cases h
    unfold validateName at hv
    split at hv
    · rename_i hvalid
      exact .inr ⟨rfl, hvalid, rfl, rfl⟩
    · cases hv

theorem declare_isOk {name : String} : (∃ r' id, r.declare name = .ok (r', id)) ↔ r.Open name := by
  constructor
  · rintro ⟨r', id, h⟩
    rcases declare_ok h with ⟨hl, hd, -⟩ | ⟨hl, hv, -⟩
    · rw [Open, hl]; exact hd
    · rw [Open, hl]; exact hv
  · unfold Open declare
    cases r.lookup name with
    | some id =>
      intro (h : r.isDefined id = false)
      exact ⟨r, id, by simp [h]⟩
    | none =>
      intro (h : validName name = true)
      exact ⟨_, _, by rw [validateName, if_pos h]; rfl⟩

section
variable {name : String} {id : ShapeId} (h : r.declare name = .ok (r', id))
include h

theorem declare_serial : r'.serial = r.serial := by
  rcases declare_ok h with ⟨-, -, rfl⟩ | ⟨-, -, -, rfl⟩ <;> rfl

theorem declare_names : r'.names = if name ∈ r.names then r.names else r.names ++ [name] := by
  rcases declare_ok h with ⟨hl, -, rfl⟩ | ⟨hl, -, -, rfl⟩
  · rw [if_pos]
    by_contra hn
    rw [lookup_none.mpr hn] at hl
    cases hl
  · rw [if_neg (lookup_none.mp hl), names, names, List.map_append]
    rfl

theorem declare_mem {m : String} : m ∈ r'.names ↔ m ∈ r.names ∨ m = name := by
  rw [declare_names h]
  split <;> simp_all

theorem declare_nodup (hn : r.names.Nodup) : r'.names.Nodup := by
  rw [declare_names h]
  split
  · exact hn
  · rename_i hname
    rw [← List.concat_eq_append]
    exact hn.concat hname

/-- The ids issued before keep their names. -/
theorem declare_name? {i : ShapeId} {m : String} (hi : r.name? i = some m) : r'.name? i = some m := by
  rw [name?_eq] at hi ⊢
  rw [declare_serial h, declare_names h]
  split at hi
  · rename_i hs
    rw [if_pos hs]
    split
    · exact hi
    · rw [List.getElem?_append_left (List.getElem?_eq_some_iff.mp hi).1, hi]
  · cases hi

theorem declare_lookup (hn : r.names.Nodup) : r'.lookup name = some id := by
  rcases declare_ok h with ⟨hl, -, rfl⟩ | ⟨hl, -, rfl, rfl⟩
  · exact hl
  · refine lookup_of_name (declare_nodup h hn) ?_
    rw [name?_eq, idAt, if_pos rfl, names, List.map_append, ← size_names r]
    exact List.getElem?_concat_length

end

end Registry

end Conformance
