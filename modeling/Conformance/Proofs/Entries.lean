import Conformance.Entries
import Conformance.Proofs.Lists

/-!
# Keyed entries

What is under a key after an insertion, after many insertions, and after a change of all values.
-/

namespace Conformance

/-! ## Lookup and insertion -/

namespace Entries

theorem mem_of_get? {α : Type} {es : Entries α} {k : String} {a : α} (h : get? es k = some a) :
    (k, a) ∈ es := by
  induction es with
  | nil => cases h
  | cons e es ih =>
    obtain ⟨k', b⟩ := e
    rw [get?] at h
    split at h
    · rename_i hk; cases h; rw [hk]; exact List.mem_cons_self
    · exact List.mem_cons_of_mem _ (ih h)

theorem mem_insert {α : Type} {es : Entries α} {k : String} {a : α} {e : String × α}
    (h : e ∈ insert es k a) : e = (k, a) ∨ e ∈ es := by
  induction es with
  | nil => exact .inl (List.mem_singleton.mp h)
  | cons e' es ih =>
    obtain ⟨k', b⟩ := e'
    by_cases hk : k' = k
    · rw [insert, if_pos hk] at h
      exact (List.mem_cons.mp h).imp_right (List.mem_cons_of_mem _)
    · rw [insert, if_neg hk] at h
      rcases List.mem_cons.mp h with rfl | h
      · exact .inr List.mem_cons_self
      · exact (ih h).imp_right (List.mem_cons_of_mem _)

theorem nodup_insert {α : Type} {es : Entries α} (h : (keys es).Nodup) (k : String) (a : α) :
    (keys (insert es k a)).Nodup := by
  rw [keys_insert]
  split
  · exact h
  · rename_i hk
    exact List.nodup_append.mpr ⟨h, List.pairwise_singleton _ k, fun x hx y hy e => by
      rw [List.mem_singleton.mp hy] at e; exact hk (e ▸ hx)⟩

/-! ## Values under keys -/

variable {α β : Type}

def mapValues (g : α → β) (es : Entries α) : Entries β := es.map fun e => (e.1, g e.2)

@[simp] theorem keys_nil : keys ([] : Entries α) = [] := rfl

@[simp] theorem keys_cons (e : String × α) (es : Entries α) : keys (e :: es) = e.1 :: keys es := rfl

@[simp] theorem mapValues_nil (g : α → β) : mapValues g [] = [] := rfl

@[simp] theorem mapValues_cons (g : α → β) (e : String × α) (es : Entries α) :
    mapValues g (e :: es) = (e.1, g e.2) :: mapValues g es := rfl

@[simp] theorem keys_mapValues (g : α → β) (es : Entries α) : keys (mapValues g es) = keys es := by
  rw [keys, mapValues, List.map_map]; rfl

theorem keys_of_forall₂ {R : String × α → String × β → Prop} (hr : ∀ x y, R x y → x.1 = y.1) {es : Entries α}
    {es' : Entries β} (h : es.Forall₂ R es') : keys es = keys es' := by
  induction h with
  | nil => rfl
  | cons hx _ ih => rw [keys_cons, keys_cons, hr _ _ hx, ih]

theorem mem_keys {es : Entries α} {k : String} {a : α} (h : (k, a) ∈ es) : k ∈ keys es :=
  List.mem_map_of_mem (f := Prod.fst) h

theorem get?_of_mem {es : Entries α} (hn : (keys es).Nodup) {k : String} {a : α} (h : (k, a) ∈ es) :
    get? es k = some a := by
  induction es with
  | nil => cases h
  | cons e es ih =>
    obtain ⟨k', b⟩ := e
    obtain ⟨hk, hn⟩ := List.nodup_cons.mp hn
    rw [get?]
    rcases List.mem_cons.mp h with h | h
    · cases h; rw [if_pos rfl]
    · have hne : k' ≠ k := by
        intro e
        have hm := List.mem_map_of_mem (f := Prod.fst) h
        exact hk (e ▸ hm)
      rw [if_neg hne, ih hn h]

theorem mem_unique {es : Entries α} (hn : (keys es).Nodup) {k : String} {a b : α} (h : (k, a) ∈ es) (h' : (k, b) ∈ es) :
    a = b :=
  Option.some_inj.mp ((get?_of_mem hn h).symm.trans (get?_of_mem hn h'))

theorem exists_mem {es : Entries α} {k : String} (h : k ∈ keys es) : ∃ a, (k, a) ∈ es := by
  obtain ⟨⟨_, a⟩, hm, rfl⟩ := List.mem_map.mp h
  exact ⟨a, hm⟩

theorem get?_isSome {es : Entries α} {k : String} : (get? es k).isSome = true ↔ k ∈ keys es := by
  induction es with
  | nil => simp [get?]
  | cons e es ih =>
    rw [get?, keys_cons, List.mem_cons]
    split
    · rename_i h; simp [h]
    · rename_i h; simp [ih, Ne.symm h]

theorem get?_eq_none {es : Entries α} {k : String} : get? es k = none ↔ k ∉ keys es := by
  rw [← get?_isSome, Option.not_isSome_iff_eq_none]

theorem rel_get? {R : α → β → Prop} {es : Entries α} {es' : Entries β} (hn : (keys es).Nodup)
    (hk : (keys es').Perm (keys es)) (h : ∀ k a b, (k, a) ∈ es → (k, b) ∈ es' → R a b) (k : String) :
    Option.Rel R (get? es k) (get? es' k) := by
  cases ha : get? es k with
  | none =>
    have hfree : k ∉ keys es' := mt hk.mem_iff.mp (get?_eq_none.mp ha)
    rw [get?_eq_none.mpr hfree]
    exact .none
  | some a =>
    have hm := mem_of_get? ha
    obtain ⟨b, hb⟩ := exists_mem (hk.mem_iff.mpr (mem_keys hm))
    rw [get?_of_mem (hk.nodup_iff.mpr hn) hb]
    exact .some (h _ _ _ hm hb)

/-! ## Insertions under one key -/

theorem insert_insert (es : Entries α) (k : String) (a b : α) : insert (insert es k a) k b = insert es k b := by
  induction es with
  | nil => simp [insert]
  | cons e es ih =>
    obtain ⟨k', c⟩ := e
    by_cases h : k' = k
    · simp [insert, h]
    · simp [insert, h, ih]

theorem insert_get? {es : Entries α} {k : String} {a : α} (h : get? es k = some a) : insert es k a = es := by
  induction es with
  | nil => cases h
  | cons e es ih =>
    obtain ⟨k', b⟩ := e
    rw [get?] at h
    by_cases hk : k' = k
    · rw [if_pos hk] at h; cases h; rw [insert, if_pos hk, hk]
    · rw [if_neg hk] at h; rw [insert, if_neg hk, ih h]

theorem insert_keys (es : Entries α) (k : String) (a b : α) : keys (insert es k a) = keys (insert es k b) := by
  rw [keys_insert, keys_insert]

theorem mem_insert_self (es : Entries α) (k : String) (a : α) : (k, a) ∈ insert es k a :=
  mem_of_get? (by rw [get?_insert, if_pos rfl])

/-- Entries under other keys are the same whatever is inserted. -/
theorem mem_insert_other {es : Entries α} {k : String} {a : α} {e : String × α} (h : e ∈ insert es k a) (b : α) :
    e = (k, a) ∨ e ∈ insert es k b := by
  induction es with
  | nil => exact .inl (List.mem_singleton.mp h)
  | cons e' es ih =>
    obtain ⟨k', c⟩ := e'
    by_cases hk : k' = k
    · rw [insert, if_pos hk] at h ⊢
      exact (List.mem_cons.mp h).imp_right (List.mem_cons_of_mem _)
    · rw [insert, if_neg hk] at h ⊢
      rcases List.mem_cons.mp h with rfl | h
      · exact .inr List.mem_cons_self
      · exact (ih h).imp_right (List.mem_cons_of_mem _)

/-! ## Many insertions -/

def insertAll (out es : Entries α) : Entries α := es.foldl (fun out e => insert out e.1 e.2) out

@[simp] theorem insertAll_nil (out : Entries α) : insertAll out [] = out := rfl

@[simp] theorem insertAll_cons (out : Entries α) (e : String × α) (es : Entries α) :
    insertAll out (e :: es) = insertAll (insert out e.1 e.2) es := rfl

theorem insertAll_append (out es es' : Entries α) :
    insertAll out (es ++ es') = insertAll (insertAll out es) es' := List.foldl_append

theorem insert_new {es : Entries α} {k : String} (h : k ∉ keys es) (a : α) : insert es k a = es ++ [(k, a)] := by
  induction es with
  | nil => rfl
  | cons e es ih =>
    obtain ⟨k', b⟩ := e
    obtain ⟨hk, h⟩ := not_or.mp (mt List.mem_cons.mpr h)
    rw [insert, if_neg (Ne.symm hk), ih h]
    rfl

theorem insertAll_new : ∀ {es out : Entries α}, (keys (out ++ es)).Nodup → insertAll out es = out ++ es
  | [], out, _ => (List.append_nil out).symm
  | (k, a) :: es, out, h => by
    have hk : k ∉ keys out := by
      rw [keys, List.map_append] at h
      exact fun hk => (List.nodup_append.mp h).2.2 k hk k List.mem_cons_self rfl
    rw [List.append_cons] at h ⊢
    rw [insertAll_cons, insert_new hk, insertAll_new h]

theorem get?_insertAll_of_not_mem {out es : Entries α} {k : String} (h : k ∉ keys es) :
    get? (insertAll out es) k = get? out k := by
  induction es generalizing out with
  | nil => rfl
  | cons e es ih =>
    obtain ⟨hk, h⟩ := not_or.mp (mt List.mem_cons.mpr h)
    rw [insertAll_cons, ih h, get?_insert, if_neg (Ne.symm hk)]

theorem mem_of_get?_insertAll {out es : Entries α} {k : String} {a : α} (h : get? (insertAll out es) k = some a) :
    (k, a) ∈ es ∨ get? out k = some a := by
  induction es generalizing out with
  | nil => exact .inr h
  | cons e es ih =>
    rcases ih h with h | h
    · exact .inl (List.mem_cons_of_mem _ h)
    · rw [get?_insert] at h
      split at h
      · rename_i hk; cases h; exact .inl (hk ▸ List.mem_cons_self)
      · exact .inr h

theorem get?_insertAll_last {out es es' : Entries α} {k : String} {a : α} (h : k ∉ keys es') :
    get? (insertAll out (es ++ (k, a) :: es')) k = some a := by
  rw [insertAll_append, insertAll_cons, get?_insertAll_of_not_mem h, get?_insert, if_pos rfl]

theorem get?_insertAll_of_mem {out es : Entries α} {k : String} {a : α} (hm : (k, a) ∈ es)
    (h : ∀ b, (k, b) ∈ es → b = a) : get? (insertAll out es) k = some a := by
  induction es generalizing out with
  | nil => cases hm
  | cons e es ih =>
    by_cases hk : k ∈ keys es
    · obtain ⟨⟨k', b⟩, hb, rfl⟩ := List.mem_map.mp hk
      cases h b (List.mem_cons_of_mem _ hb)
      exact ih hb fun b hb => h b (List.mem_cons_of_mem _ hb)
    · rcases List.mem_cons.mp hm with rfl | hm
      · rw [insertAll_cons, get?_insertAll_of_not_mem hk, get?_insert, if_pos rfl]
      · exact (hk (List.mem_map_of_mem (f := Prod.fst) hm)).elim

/-! ## Positions -/

theorem values_indexed (xs : List α) : (indexed xs).map Prod.snd = xs := by
  rw [indexed, List.map_map]
  exact List.zipIdx_map_fst 0 xs

theorem keys_indexed (xs : List α) : keys (indexed xs) = (List.range xs.length).map Nat.repr := by
  rw [keys, indexed, List.map_map, List.range_eq_range', ← List.zipIdx_map_snd 0 xs, List.map_map]
  rfl

theorem nodup_indexed (xs : List α) : (keys (indexed xs)).Nodup := by
  rw [keys_indexed]
  refine List.nodup_range.map fun i j h => ?_
  have h := congrArg (fun s => Nat.ofDigitChars 10 s.toList 0) h
  simpa using h

theorem forall₂_indexed {R : α → β → Prop} {xs : List α} {ys : List β} (h : xs.Forall₂ R ys) :
    (indexed xs).Forall₂ (fun a b => a.1 = b.1 ∧ R a.2 b.2) (indexed ys) := by
  have hfrom : ∀ n, (xs.zipIdx n).Forall₂ (fun a b => a.2 = b.2 ∧ R a.1 b.1) (ys.zipIdx n) := by
    induction h with
    | nil => exact fun _ => .nil
    | cons hab _ ih => exact fun n => .cons ⟨rfl, hab⟩ (ih (n + 1))
  rw [indexed, indexed, List.forall₂_map_left_iff, List.forall₂_map_right_iff]
  exact (hfrom 0).imp fun a b h => ⟨congrArg Nat.repr h.1, h.2⟩

end Entries

end Conformance
