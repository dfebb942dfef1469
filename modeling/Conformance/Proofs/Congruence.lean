import Conformance.Proofs.Coverage
import Conformance.Proofs.Walks

/-!
# Descriptors in step

The checker asks of a part only what it answers for the items, choices and entries that it meets.
So two descriptors of the same form get the same verdict where their parts do, and parts that
answer alike may stand for each other.
-/

namespace Conformance

/-! ## Lists in step -/

section
variable {α β : Type} {p : α → Bool} {q : β → Bool} {l : List α} {m : List β}

theorem all_congr {p q : α → Bool} (h : ∀ a ∈ l, p a = q a) : l.all p = l.all q := by
  simpa using congrArg (List.all · id) (List.map_congr_left h)

theorem any_congr {p q : α → Bool} (h : ∀ a ∈ l, p a = q a) : l.any p = l.any q := by
  simpa using congrArg (List.any · id) (List.map_congr_left h)

theorem all_step (h : l.Forall₂ (fun a b => p a = q b) m) : l.all p = m.all q := by
  induction h with
  | nil => rfl
  | cons hab _ ih => rw [List.all_cons, List.all_cons, hab, ih]

theorem any_step (h : l.Forall₂ (fun a b => p a = q b) m) : l.any p = m.any q := by
  induction h with
  | nil => rfl
  | cons hab _ ih => rw [List.any_cons, List.any_cons, hab, ih]

end

/-! ## Items -/

/-- Items that are judged alike where descriptors with `S` are: no unions, or unions whose choices
go in step. -/
inductive Items (S : Descriptor → Descriptor → Prop) : Descriptor → Descriptor → Prop
  | single {d d' : Descriptor} (hd : d.kind ≠ .mix) (hd' : d'.kind ≠ .mix) (h : S d d') : Items S d d'
  | union {choices choices' : List Descriptor} (h : choices.Forall₂ S choices') (s : Strategy) (t t' : Traits) :
      Items S (.mix choices s t) (.mix choices' s t')

theorem Items.same {S : Descriptor → Descriptor → Prop} {d : Descriptor} (h : S d d) (hp : ∀ c ∈ d.parts, S c c) :
    Items S d d := by
  by_cases hm : d.kind = .mix
  · obtain ⟨choices, s, t, rfl⟩ := Descriptor.mix_of_kind hm
    exact .union (List.forall₂_same.mpr hp) s t t
  · exact .single hm hm h

theorem elementsMatch_single {d : Descriptor} (h : d.kind ≠ .mix) (vs : List Verdict) :
    elementsMatch vs d = vs.all fun a => a d := by
  cases d with
  | mix choices s t => simp [Descriptor.kind] at h
  | _ => rfl

/-- A union judges the array as a whole, and still asks each element for each choice alone. -/
theorem elementsMatch_step {α β : Type} {S : Descriptor → Descriptor → Prop} {f : α → Verdict} {g : β → Verdict}
    {items items' : Descriptor} (hi : Items S items items') {es : List α} {es' : List β}
    (he : es.Forall₂ (fun a b => ∀ c c', S c c' → f a c = g b c') es') :
    elementsMatch (es.map f) items = elementsMatch (es'.map g) items' := by
  have each : ∀ c c', S c c' → (es.map f).Forall₂ (fun a b => a c = b c') (es'.map g) := fun c c' h =>
    List.forall₂_map_left_iff.mpr (List.forall₂_map_right_iff.mpr (he.imp fun a b hab => hab c c' h))
  cases hi with
  | single hd hd' h =>
    rw [elementsMatch_single hd, elementsMatch_single hd']
    exact all_step (each _ _ h)
  | @union choices choices' h s t t' =>
    have some_choice : (es.map f).Forall₂ (fun a b => choices.any a = choices'.any b) (es'.map g) :=
      List.forall₂_map_left_iff.mpr (List.forall₂_map_right_iff.mpr (he.imp fun a b hab => any_step (h.imp hab)))
    cases s with
    | any => exact all_step some_choice
    | not => exact congrArg not (any_step some_choice)
    | one => exact any_step (h.imp fun c c' h => all_step (each c c' h))
    | all =>
      have used := all_step (h.imp fun c c' h => any_step (each c c' h))
      rw [elementsMatch_all, elementsMatch_all, all_step some_choice, used]

/-! ## Entries -/

theorem fieldsMatch_step {α : Type} {S : Descriptor → Descriptor → Prop} {f g : α → Verdict} (once : Bool)
    {schema schema' : Schema}
    (hs : schema.Forall₂ (fun e e' => e.1 = e'.1 ∧ e.2.toleratesAbsence = e'.2.toleratesAbsence ∧ S e.2 e'.2) schema')
    {fs : Entries α} (hf : ∀ x ∈ fs, ∀ c c', S c c' → f x.2 c = g x.2 c') :
    fieldsMatch once schema (Entries.mapValues f fs) = fieldsMatch once schema' (Entries.mapValues g fs) := by
  induction hs generalizing fs with
  | nil => simp [fieldsMatch_nil, Entries.mapValues]
  | @cons e e' _ _ he _ ih =>
    obtain ⟨m, d⟩ := e
    obtain ⟨m', d'⟩ := e'
    obtain ⟨hm, ht, hd⟩ := he
    simp only at hm ht hd
    subst hm
    have hrest : ∀ x ∈ (m.claim once fs).2, ∀ c c', S c c' → f x.2 c = g x.2 c' := fun x hx =>
      hf x ((m.claim_perm once fs).subset (List.mem_append_right _ hx))
    have hleft := ih hrest
    have htaken : ((m.claim once fs).1.all fun x => f x.2 d) = (m.claim once fs).1.all fun x => g x.2 d' :=
      all_congr (fun x hx => hf x (m.claim_subset once fs hx) d d' hd)
    rw [fieldsMatch_cons, fieldsMatch_cons, KeyMatcher.claim_map, KeyMatcher.claim_map, hleft]
    simp only [Entries.mapValues, List.isEmpty_map, List.all_map, Function.comp_def, htaken, ht]

end Conformance
