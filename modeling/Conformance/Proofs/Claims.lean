import Conformance.Check
import Conformance.Proofs.Entries

/-!
# What the entries of a schema claim

Claims depend on keys and their order alone, so the claims of one map are those of every map with
the same keys. Together with what is left over they are the map again; a claimed key is accepted
by the entry that claims it.
-/

namespace Conformance

/-! ## One claim -/

section
variable {α β : Type}

theorem takeFirst_map (p : String → Bool) (g : α → β) : ∀ es : Entries α,
    takeFirst p (Entries.mapValues g es) =
      (Entries.mapValues g (takeFirst p es).1, Entries.mapValues g (takeFirst p es).2)
  | [] => rfl
  | e :: es => by
    have ih := takeFirst_map p g es
    simp only [Entries.mapValues, List.map_cons, takeFirst] at ih ⊢
    split
    · rfl
    · rw [ih]; rfl

theorem takeFirst_perm (p : String → Bool) : ∀ es : Entries α,
    ((takeFirst p es).1 ++ (takeFirst p es).2).Perm es
  | [] => .nil
  | e :: es => by
    rw [takeFirst]
    split
    · exact .refl _
    · exact List.perm_middle.trans ((takeFirst_perm p es).cons e)

theorem takeFirst_spec (p : String → Bool) : ∀ es : Entries α,
    (∀ e ∈ (takeFirst p es).1, p e.1 = true) ∧ (takeFirst p es).1.length ≤ 1 ∧
      ((takeFirst p es).1 = [] → ∀ e ∈ es, p e.1 = false) ∧ (takeFirst p es).2.Sublist es
  | [] => ⟨fun _ h => (List.not_mem_nil h).elim, Nat.zero_le _, fun _ _ h => (List.not_mem_nil h).elim, .slnil⟩
  | e :: es => by
    obtain ⟨ha, hl, hn, hs⟩ := takeFirst_spec p es
    rw [takeFirst]
    split
    · rename_i h
      exact ⟨fun f hf => by rw [List.mem_singleton.mp hf, h], Nat.le_refl _, fun h => (List.cons_ne_nil _ _ h).elim,
        List.sublist_cons_self _ _⟩
    · rename_i h
      refine ⟨ha, hl, fun h0 f hf => ?_, hs.cons_cons e⟩
      rcases List.mem_cons.mp hf with rfl | hf
      · exact Bool.eq_false_iff.mpr h
      · exact hn h0 f hf

namespace KeyMatcher

theorem claim_exact (key : String) (once : Bool) (fs : Entries α) :
    (KeyMatcher.exact key).claim once fs = takeFirst (· = key) fs := rfl

theorem claim_once (r : Regex) (fs : Entries α) :
    (KeyMatcher.pattern r).claim true fs = takeFirst r.isMatch fs := rfl

theorem claim_all (r : Regex) (fs : Entries α) :
    (KeyMatcher.pattern r).claim false fs =
      (fs.filter fun f => r.isMatch f.1, fs.filter fun f => !r.isMatch f.1) :=
  List.partition_eq_filter_filter

theorem claim_map (m : KeyMatcher) (once : Bool) (g : α → β) (fs : Entries α) :
    m.claim once (Entries.mapValues g fs) =
      (Entries.mapValues g (m.claim once fs).1, Entries.mapValues g (m.claim once fs).2) := by
  cases m with
  | exact key => exact takeFirst_map _ g fs
  | pattern r =>
    cases once with
    | true => exact takeFirst_map _ g fs
    | false =>
      simp only [claim_all, Entries.mapValues, List.filter_map]
      rfl

theorem claim_perm (m : KeyMatcher) (once : Bool) (fs : Entries α) :
    ((m.claim once fs).1 ++ (m.claim once fs).2).Perm fs := by
  cases m with
  | exact key => exact takeFirst_perm _ fs
  | pattern r =>
    cases once with
    | true => exact takeFirst_perm _ fs
    | false =>
      rw [claim_all]
      exact List.filter_append_perm _ fs

/-- Claimed keys are accepted; an entry that claims nothing accepts no key there is. -/
theorem claim_spec (m : KeyMatcher) (once : Bool) (fs : Entries α) :
    (∀ e ∈ (m.claim once fs).1, m.accepts e.1 = true) ∧
      ((m.claim once fs).1 = [] → ∀ e ∈ fs, m.accepts e.1 = false) ∧ (m.claim once fs).2.Sublist fs := by
  cases m with
  | exact key =>
    obtain ⟨ha, _, hn, hs⟩ := takeFirst_spec (· = key) fs
    simp only [accepts, eq_comm (a := key)]
    exact ⟨ha, hn, hs⟩
  | pattern r =>
    cases once with
    | true =>
      obtain ⟨ha, _, hn, hs⟩ := takeFirst_spec r.isMatch fs
      exact ⟨ha, hn, hs⟩
    | false =>
      rw [claim_all]
      refine ⟨fun e he => (List.mem_filter.mp he).2, fun h e he => ?_, List.filter_sublist⟩
      exact Bool.eq_false_iff.mpr (List.filter_eq_nil_iff.mp h e he)

theorem claim_subset (m : KeyMatcher) (once : Bool) (fs : Entries α) : (m.claim once fs).1 ⊆ fs :=
  fun _ h => (m.claim_perm once fs).subset (List.mem_append_left _ h)

end KeyMatcher

/-! ## All claims -/

theorem claims_cons {δ : Type} (once : Bool) (e : KeyMatcher × δ) (schema : List (KeyMatcher × δ))
    (fs : Entries α) :
    claims once (e :: schema) fs =
      ((e, (e.1.claim once fs).1) :: (claims once schema (e.1.claim once fs).2).1,
        (claims once schema (e.1.claim once fs).2).2) := rfl

theorem claims_map {δ : Type} (once : Bool) (g : α → β) : ∀ (schema : List (KeyMatcher × δ)) (fs : Entries α),
    claims once schema (Entries.mapValues g fs) =
      ((claims once schema fs).1.map fun c => (c.1, Entries.mapValues g c.2),
        Entries.mapValues g (claims once schema fs).2)
  | [], _ => rfl
  | e :: schema, fs => by
    rw [claims_cons, claims_cons, KeyMatcher.claim_map, claims_map once g schema]
    rfl

theorem claims_perm {δ : Type} (once : Bool) : ∀ (schema : List (KeyMatcher × δ)) (fs : Entries α),
    ((claims once schema fs).1.flatMap Prod.snd ++ (claims once schema fs).2).Perm fs
  | [], _ => .refl _
  | e :: schema, fs => by
    rw [claims_cons, List.flatMap_cons, List.append_assoc]
    exact ((claims_perm once schema (e.1.claim once fs).2).append_left _).trans (e.1.claim_perm once fs)

theorem claims_subset {δ : Type} {once : Bool} {schema : List (KeyMatcher × δ)} {fs : Entries α}
    {c : (KeyMatcher × δ) × Entries α} (hc : c ∈ (claims once schema fs).1) : c.2 ⊆ fs := fun _ hx =>
  (claims_perm once schema fs).subset (List.mem_append_left _ (List.mem_flatMap.mpr ⟨c, hc, hx⟩))

theorem claims_entries {δ : Type} (once : Bool) : ∀ (schema : List (KeyMatcher × δ)) (fs : Entries α),
    (claims once schema fs).1.map Prod.fst = schema
  | [], _ => rfl
  | e :: schema, fs => by rw [claims_cons, List.map_cons, claims_entries once schema]

theorem claims_entry {δ : Type} {once : Bool} {schema : List (KeyMatcher × δ)} {fs : Entries α}
    {c : (KeyMatcher × δ) × Entries α} (h : c ∈ (claims once schema fs).1) : c.1 ∈ schema := by
  rw [← claims_entries once schema fs]
  exact List.mem_map_of_mem h

/-- What an entry that takes nothing accepts is taken by no later entry. -/
theorem claims_pairwise {δ : Type} (once : Bool) : ∀ (schema : List (KeyMatcher × δ)) (fs : Entries α),
    (claims once schema fs).1.Pairwise fun c c' => c.2 = [] → ∀ x ∈ c'.2, c.1.1.accepts x.1 = false
  | [], _ => .nil
  | e :: schema, fs => by
    rw [claims_cons]
    refine .cons (fun c hc he x hx => ?_) (claims_pairwise once schema _)
    obtain ⟨-, hn, hs⟩ := e.1.claim_spec once fs
    exact hn he x (hs.subset (claims_subset hc hx))

theorem claims_accept {δ : Type} {once : Bool} : ∀ {schema : List (KeyMatcher × δ)} {fs : Entries α}
    {c : (KeyMatcher × δ) × Entries α}, c ∈ (claims once schema fs).1 → ∀ x ∈ c.2, c.1.1.accepts x.1 = true
  | [], _, _, hc, _, _ => (List.not_mem_nil hc).elim
  | e :: schema, fs, c, hc, x, hx => by
    rcases List.mem_cons.mp hc with rfl | hc
    · exact (e.1.claim_spec once fs).1 x hx
    · exact claims_accept hc x hx

theorem claims_unique {δ : Type} {once : Bool} {schema : List (KeyMatcher × δ)} {fs : Entries α}
    (hn : (Entries.keys fs).Nodup) {c c' : (KeyMatcher × δ) × Entries α} (hc : c ∈ (claims once schema fs).1)
    (hc' : c' ∈ (claims once schema fs).1) {k : String} (hk : k ∈ Entries.keys c.2) (hk' : k ∈ Entries.keys c'.2) :
    c = c' := by
  have hp := (claims_perm once schema fs).map Prod.fst
  rw [List.map_append, List.map_flatMap] at hp
  have hd := (List.nodup_flatMap.mp (List.nodup_append.mp (hp.nodup_iff.mpr hn)).1).2
  by_contra hne
  rcases pair_sublist hc hc' hne with h | h
  · exact hd.forall_sublist h hk hk'
  · exact hd.forall_sublist h hk' hk

theorem claims_zip {δ : Type} (once : Bool) (schema : List (KeyMatcher × δ)) (fs : Entries α) :
    schema.zip ((claims once schema fs).1.map fun c => Entries.keys c.2) =
      (claims once schema fs).1.map fun c => (c.1, Entries.keys c.2) := by
  have h := List.zip_map' (l := (claims once schema fs).1) (f := Prod.fst) (g := fun c => Entries.keys c.2)
  rwa [claims_entries] at h

end

end Conformance
