import Conformance.Proofs.Flattening
import Mathlib.Data.List.Zip
import Mathlib.Data.Option.Basic

/-!
# Values alike

A value is alike another one if they differ in the order of keys alone, at every depth. Loosely
alike, an array may also have become the object of its elements under their positions, as the
instances of array-shaped shapes hold them.
-/

namespace Conformance

/-! ## Likeness -/

/-- What a value holds under keys: its fields or, loosely, its elements under their positions. -/
inductive Stands (loose : Prop) : Value → Entries Value → Prop
  | object (fs : Entries Value) : Stands loose (.object fs) fs
  | array (h : loose) (es : List Value) : Stands loose (.array es) (Entries.indexed es)

/-- The second value is the first one with its keys in some order and, loosely, with some of its
arrays as objects. -/
inductive Alike (loose : Prop) : Value → Value → Prop
  | refl (v : Value) : Alike loose v v
  | array {xs ys : List Value} (hl : xs.length = ys.length) (h : ∀ p ∈ xs.zip ys, Alike loose p.1 p.2) :
      Alike loose (.array xs) (.array ys)
  | object {v : Value} {fs gs : Entries Value} (hs : Stands loose v fs) (hk : (Entries.keys gs).Perm (Entries.keys fs))
      (h : ∀ k x y, (k, x) ∈ fs → (k, y) ∈ gs → Alike loose x y) : Alike loose v (.object gs)

section
variable {loose loose' : Prop} {v w : Value}

theorem Stands.mono {fs : Entries Value} (h : Stands loose v fs) (hl : loose → loose') : Stands loose' v fs := by
  cases h with
  | object => exact .object _
  | array h es => exact .array (hl h) es

theorem Stands.part {fs : Entries Value} (h : Stands loose v fs) {f : String × Value} (hf : f ∈ fs) :
    f.2 ∈ v.parts := by
  cases h with
  | object => exact Value.field_part hf
  | array _ es =>
    have hm := List.mem_map_of_mem (f := Prod.snd) hf
    rw [Entries.values_indexed] at hm
    exact Value.element_part hm

theorem Stands.nodup {fs : Entries Value} (h : Stands loose v fs) (hv : v.Distinct) : (Entries.keys fs).Nodup := by
  cases h with
  | object => exact hv.keys
  | array _ es => exact Entries.nodup_indexed es

theorem Alike.mono (h : Alike loose v w) (hl : loose → loose') : Alike loose' v w := by
  induction h with
  | refl v => exact .refl v
  | array he _ ih => exact .array he ih
  | object hs hk _ ih => exact .object (hs.mono hl) hk ih

end

/-! ## Likeness and equality -/

namespace Value

/-- No number in the value is the one that equals nothing. -/
def Comparable (v : Value) : Prop := ∀ n, Node n v → n.number? ≠ some .nan

instance (v : Value) : Decidable v.Comparable :=
  decidable_of_iff (allNodes (fun n => decide (n.number? ≠ some .nan)) v = true) <| by
    simp only [allNodes_iff, decide_eq_true_eq]; rfl

theorem Comparable.part {v p : Value} (h : v.Comparable) (hp : p ∈ v.parts) : p.Comparable :=
  fun n hn => h n (.part hp hn)

theorem eqvElements_iff : ∀ {xs ys : List Value}, eqvElements xs ys = true ↔ xs.Forall₂ (fun x y => x.eqv y = true) ys
  | [], [] => by simp [eqvElements]
  | [], _ :: _ => by simp [eqvElements]
  | _ :: _, [] => by simp [eqvElements]
  | x :: xs, y :: ys => by rw [eqvElements, Bool.and_eq_true, List.forall₂_cons, eqvElements_iff]

theorem eqvFields_iff {gs : Entries Value} : ∀ {fs : Entries Value},
    eqvFields fs gs = true ↔ ∀ f ∈ fs, ∃ w, Entries.get? gs f.1 = some w ∧ f.2.eqv w = true
  | [] => by simp [eqvFields]
  | (k, v) :: fs => by
    rw [eqvFields, Bool.and_eq_true, List.forall_mem_cons, eqvFields_iff]
    cases Entries.get? gs k <;> simp

theorem eqv_refl (v : Value) : v.Distinct → v.Comparable → v.eqv v = true := by
  induction v using induction_parts with
  | h v ih =>
    intro hd hc
    have hfields : eqvFields v.fields v.fields = true := eqvFields_iff.mpr fun f hf =>
      ⟨f.2, Entries.get?_of_mem hd.keys hf, ih _ (field_part hf) (hd.part (field_part hf)) (hc.part (field_part hf))⟩
    cases v with
    | array es =>
      refine eqvElements_iff.mpr (List.forall₂_same.mpr fun e he => ?_)
      have hp : e ∈ (Value.array es).parts := element_part he
      exact ih e hp (hd.part hp) (hc.part hp)
    | object fs => rw [eqv, beq_self_eq_true, Bool.true_and]; exact hfields
    | inst c fs => rw [eqv, beq_self_eq_true, Class.same, decide_eq_true rfl]; exact hfields
    | number n => exact Number.eqv_self fun h => hc _ .root (h ▸ rfl)
    | regexp r => exact beq_self_eq_true r.source
    | _ => simp [eqv]

end Value

/-- A value is equal to each one that it is alike. -/
theorem Alike.eqv {v w : Value} (h : Alike False v w) : v.Distinct → v.Comparable → w.eqv v = true := by
  induction h with
  | refl v => exact v.eqv_refl
  | array hl h ih =>
    intro hd hc
    refine Value.eqvElements_iff.mpr (List.forall₂_iff_zip.mpr ⟨hl.symm, fun {y x} hyx => ?_⟩)
    have hxy := List.mem_map_of_mem (f := Prod.swap) hyx
    rw [List.zip_swap] at hxy
    have hp : x ∈ (Value.array _).parts := Value.element_part (List.of_mem_zip hxy).1
    exact ih _ hxy (hd.part hp) (hc.part hp)
  | object hs hk _ ih =>
    intro hd hc
    have hn := hs.nodup hd
    cases hs with
    | array h => exact absurd h id
    | object =>
      have hlen := hk.length_eq
      rw [Entries.keys, Entries.keys, List.length_map, List.length_map] at hlen
      rw [Value.eqv, hlen, beq_self_eq_true, Bool.true_and]
      refine Value.eqvFields_iff.mpr fun f hf => ?_
      obtain ⟨x, hx⟩ := Entries.exists_mem (hk.subset (Entries.mem_keys hf))
      have hp := Value.field_part (v := .object _) hx
      exact ⟨x, Entries.get?_of_mem hn hx, ih _ x f.2 hx hf (hd.part hp) (hc.part hp)⟩

/-! ## Likeness and positions -/

namespace Value

def step? (v : Value) : Step → Option Value
  | .key k => v.get? k
  | .index i => v.elements[i]?
  | .unknown => none

/-- What stands in the value at the end of the steps. -/
def at? (v : Value) : List Step → Option Value
  | [] => some v
  | s :: steps => (v.step? s).bind (·.at? steps)

/-- How many elements the array at the end of the steps has; nothing where no array stands. -/
def lengthAt? (v : Value) (steps : List Step) : Option Nat :=
  (v.at? steps).bind fun
    | .array es => some es.length
    | _ => none

end Value

theorem Value.step?_distinct {v p : Value} {s : Step} (hd : v.Distinct) (hp : v.step? s = some p) : p.Distinct := by
  cases s with
  | key k =>
    obtain ⟨fs, hf, hp⟩ := Option.bind_eq_some_iff.mp hp
    have hm := Entries.mem_of_get? hp
    cases v with
    | object => cases hf; exact hd.part (Value.field_part (v := .object _) hm)
    | inst => cases hf; exact hd.part (Value.field_part (v := .inst _ _) hm)
    | _ => cases hf
  | index i => exact hd.part (Value.element_part (List.mem_of_getElem? hp))
  | unknown => cases hp

theorem Alike.step? {v w : Value} (h : Alike False v w) (hd : v.Distinct) (s : Step) :
    Option.Rel (Alike False) (v.step? s) (w.step? s) := by
  cases h with
  | refl =>
    cases v.step? s with
    | none => exact .none
    | some p => exact .some (.refl p)
  | array hl h =>
    cases s with
    | index i => exact forall₂_getElem? (List.forall₂_iff_zip.mpr ⟨hl, fun hp => h _ hp⟩) i
    | _ => exact .none
  | object hs hk h =>
    have hn := hs.nodup hd
    cases hs with
    | array hf => exact absurd hf id
    | object =>
      cases s with
      | key k => exact Entries.rel_get? hn hk h k
      | _ => exact .none

theorem Alike.at? : ∀ {steps : List Step} {v w : Value}, Alike False v w → v.Distinct →
    Option.Rel (Alike False) (v.at? steps) (w.at? steps)
  | [], _, _, h, _ => .some h
  | s :: steps, v, w, h, hd => by
    have hs := h.step? hd s
    rw [Value.at?, Value.at?]
    generalize hx : v.step? s = x, w.step? s = y at hs
    cases hs with
    | none => exact .none
    | some h => exact h.at? (Value.step?_distinct hd hx)

/-- Arrays stand at the same positions, with as many elements. -/
theorem Alike.lengthAt? {v w : Value} (h : Alike False v w) (hd : v.Distinct) (steps : List Step) :
    w.lengthAt? steps = v.lengthAt? steps := by
  have ha : Option.Rel (Alike False) (v.at? steps) (w.at? steps) := h.at? hd
  unfold Value.lengthAt?
  generalize v.at? steps = x, w.at? steps = y at ha
  cases ha with
  | none => rfl
  | some hx =>
    cases hx with
    | refl => rfl
    | array hl => exact congrArg some hl.symm
    | object hs =>
      cases hs with
      | array hf => exact absurd hf id
      | object => rfl

end Conformance
