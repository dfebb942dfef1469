import Mathlib.Data.List.Forall2
import Mathlib.Data.List.Nodup
import Mathlib.Data.Option.Defs

/-!
# Lists

Bounds, order and lists that go in step.
-/

namespace Conformance

/-! ## Members -/

theorem le_foldr_max {l : List Nat} {n : Nat} (h : n ∈ l) : n ≤ l.foldr max 0 := by
  induction l with
  | nil => cases h
  | cons m l ih =>
    rw [List.foldr_cons]
    rcases List.mem_cons.mp h with rfl | h
    · exact Nat.le_max_left _ _
    · exact Nat.le_trans (ih h) (Nat.le_max_right _ _)

theorem pair_sublist {α : Type} {a b : α} : ∀ {l : List α}, a ∈ l → b ∈ l → a ≠ b → [a, b].Sublist l ∨ [b, a].Sublist l
  | [], ha, _, _ => (List.not_mem_nil ha).elim
  | c :: l, ha, hb, hne => by
    rcases List.mem_cons.mp ha with rfl | ha' <;> rcases List.mem_cons.mp hb with rfl | hb'
    · exact absurd rfl hne
    · exact .inl ((List.singleton_sublist.mpr hb').cons_cons _)
    · exact .inr ((List.singleton_sublist.mpr ha').cons_cons _)
    · exact (pair_sublist ha' hb' hne).imp (·.cons _) (·.cons _)

theorem exists_unique_of_flatten {α : Type} {ls : List (List α)} (hn : ls.flatten.Nodup) {a : α}
    (ha : a ∈ ls.flatten) : ∃! j : Nat, ∃ l, ls[j]? = some l ∧ a ∈ l := by
  obtain ⟨l, hl, ha⟩ := List.mem_flatten.mp ha
  obtain ⟨j, hj⟩ := List.mem_iff_getElem?.mp hl
  refine ⟨j, ⟨l, hj, ha⟩, ?_⟩
  rintro i ⟨m, hi, hm⟩
  obtain ⟨hlt, rfl⟩ := List.getElem?_eq_some_iff.mp hj
  obtain ⟨hlt', rfl⟩ := List.getElem?_eq_some_iff.mp hi
  have hd := List.pairwise_iff_getElem.mp (List.nodup_flatten.mp hn).2
  by_contra hne
  rcases Nat.lt_or_gt_of_ne hne with h | h
  · exact hd i j hlt' hlt h hm ha
  · exact hd j i hlt hlt' h ha hm

/-! ## Lists in step -/

theorem forall₂_mem_right {α β : Type} {R : α → β → Prop} {l : List α} {m : List β}
    (h : l.Forall₂ R m) {b : β} (hb : b ∈ m) : ∃ a ∈ l, R a b := by
  induction h with
  | nil => cases hb
  | cons hr _ ih =>
    rcases List.mem_cons.mp hb with rfl | hb
    · exact ⟨_, List.mem_cons_self, hr⟩
    · obtain ⟨a, ha, hab⟩ := ih hb
      exact ⟨a, List.mem_cons_of_mem _ ha, hab⟩

theorem forall₂_split {α β : Type} {R : α → β → Prop} {a : α} {l' : List α} : ∀ {l : List α} {m : List β},
    (l ++ a :: l').Forall₂ R m → ∃ m₁ b m₂, m = m₁ ++ b :: m₂ ∧ R a b ∧ l'.Forall₂ R m₂
  | [], _, .cons hab h => ⟨[], _, _, rfl, hab, h⟩
  | _ :: _, _, .cons _ h => by
    obtain ⟨m₁, b, m₂, rfl, hab, h⟩ := forall₂_split h
    exact ⟨_ :: m₁, b, m₂, rfl, hab, h⟩

theorem forall₂_mem_left {α β : Type} {R : α → β → Prop} {l : List α} {m : List β} (h : l.Forall₂ R m) {a : α}
    (ha : a ∈ l) : ∃ b ∈ m, R a b :=
  forall₂_mem_right h.flip ha

theorem mapM_some {α β : Type} {f : α → Option β} : ∀ {l : List α} {ys : List β},
    l.mapM f = some ys ↔ l.Forall₂ (fun x y => f x = some y) ys
  | [], ys => by
    rw [List.forall₂_nil_left_iff, eq_comm (a := ys)]
    exact Option.some_inj
  | x :: l, ys => by
    rw [List.mapM_cons, List.forall₂_cons_left_iff]
    constructor
    · intro h
      obtain ⟨y, hy, h⟩ := Option.bind_eq_some_iff.mp h
      obtain ⟨ys', hys, h⟩ := Option.bind_eq_some_iff.mp h
      cases h
      exact ⟨y, ys', hy, mapM_some.mp hys, rfl⟩
    · rintro ⟨y, ys', hy, hys, rfl⟩
      rw [hy, mapM_some.mpr hys]
      rfl

theorem forall₂_imp_of_mem {α β : Type} {R S : α → β → Prop} {l : List α} {l' : List β} (h : l.Forall₂ R l')
    (hs : ∀ a ∈ l, ∀ b ∈ l', R a b → S a b) : l.Forall₂ S l' := by
  induction h with
  | nil => exact .nil
  | cons hab _ ih =>
    exact .cons (hs _ List.mem_cons_self _ List.mem_cons_self hab)
      (ih fun a ha b hb => hs a (List.mem_cons_of_mem _ ha) b (List.mem_cons_of_mem _ hb))

theorem forall₂_through {α β γ : Type} {R : α → β → Prop} {S : β → γ → Prop} {T : α → γ → Prop} {l : List α}
    {m : List β} {n : List γ} (hl : l.Forall₂ R m) (hm : m.Forall₂ S n)
    (h : ∀ a ∈ l, ∀ b ∈ m, ∀ c, R a b → S b c → T a c) : l.Forall₂ T n := by
  induction hl generalizing n with
  | nil => cases hm; exact .nil
  | cons hab _ ih =>
    cases hm with
    | cons hbc hm =>
      exact .cons (h _ List.mem_cons_self _ List.mem_cons_self _ hab hbc)
        (ih hm fun a ha b hb => h a (List.mem_cons_of_mem _ ha) b (List.mem_cons_of_mem _ hb))

theorem forall₂_entries {κ α β : Type} {R : α → β → Prop} : ∀ {l : List (κ × α)} {m : List (κ × β)},
    l.map Prod.fst = m.map Prod.fst → (l.map Prod.snd).Forall₂ R (m.map Prod.snd) →
    l.Forall₂ (fun x y => x.1 = y.1 ∧ R x.2 y.2) m
  | [], [], _, _ => .nil
  | [], _ :: _, hk, _ => nomatch hk
  | _ :: _, [], hk, _ => nomatch hk
  | _ :: _, _ :: _, hk, .cons hab h => by
    obtain ⟨hxy, hk⟩ := List.cons.inj hk
    exact .cons ⟨hxy, hab⟩ (forall₂_entries hk h)

theorem forall₂_getElem? {α β : Type} {R : α → β → Prop} {l : List α} {m : List β} (h : l.Forall₂ R m) (i : Nat) :
    Option.Rel R l[i]? m[i]? := by
  induction h generalizing i with
  | nil => exact .none
  | cons hab _ ih =>
    cases i with
    | zero => exact .some hab
    | succ i => exact ih i

theorem exists_forall₂ {α β : Type} {R : α → β → Prop} : ∀ {l : List α},
    (∃ m, l.Forall₂ R m) ↔ ∀ a ∈ l, ∃ b, R a b
  | [] => ⟨fun _ _ h => (List.not_mem_nil h).elim, fun _ => ⟨[], .nil⟩⟩
  | a :: l => by
    rw [List.forall_mem_cons, ← exists_forall₂]
    constructor
    · rintro ⟨_, h⟩
      cases h with
      | cons hab h => exact ⟨⟨_, hab⟩, _, h⟩
    · rintro ⟨⟨b, hab⟩, m, h⟩
      exact ⟨b :: m, .cons hab h⟩

theorem mapM_isSome {α β : Type} {f : α → Option β} {l : List α} :
    (l.mapM f).isSome = true ↔ ∀ a ∈ l, (f a).isSome = true := by
  simp only [Option.isSome_iff_exists, mapM_some]
  exact exists_forall₂

theorem mapM_below {α β : Type} {l : List α} {f g : α → Option β} (h : ∀ x ∈ l, ∀ y, f x = some y → g x = some y)
    {ys : List β} (hys : l.mapM f = some ys) : l.mapM g = some ys :=
  mapM_some.mpr (forall₂_imp_of_mem (mapM_some.mp hys) fun x hx y _ => h x hx y)

theorem mapM_step {α β γ : Type} {f : α → Option γ} {g : β → Option γ} {l : List α} {m : List β}
    (h : l.Forall₂ (fun a b => f a = g b) m) : l.mapM f = m.mapM g := by
  induction h with
  | nil => rfl
  | cons hab _ ih => rw [List.mapM_cons, List.mapM_cons, hab, ih]

theorem foldlM_step {σ α β : Type} {f : σ → α → Option σ} {g : σ → β → Option σ} {l : List α} {m : List β}
    (h : l.Forall₂ (fun a b => ∀ s, f s a = g s b) m) (s : σ) : l.foldlM f s = m.foldlM g s := by
  induction h generalizing s with
  | nil => rfl
  | cons hab _ ih =>
    rw [List.foldlM_cons, List.foldlM_cons, hab]
    exact congrArg _ (funext ih)

end Conformance
