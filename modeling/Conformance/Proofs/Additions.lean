import Conformance.Proofs.Compiled
import Conformance.Proofs.Conversions

/-!
# What claims add

Under each key of a converted object stands what the claim of the key has added: the conversion
of the field that it took, or the default of an exact key that took nothing.
-/

namespace Conformance

/-! ## What a claim adds -/

section
variable {convert : Value → Descriptor → Option Value} {absent : Absent}
  {c : (KeyMatcher × Descriptor) × Entries Value} {es : Entries Value}

theorem Added.of_mem (h : Added convert absent c es) {k : String} {v : Value} (hm : (k, v) ∈ c.2) :
    ∃ w, convert v c.1.2 = some w ∧ (k, w) ∈ es := by
  cases h with
  | taken _ h =>
    obtain ⟨⟨k', w⟩, hw, hk, hc⟩ := forall₂_mem_left h hm
    cases hk
    exact ⟨w, hc, hw⟩
  | _ => cases hm

theorem Added.nil (h : Added convert absent c es) (he : es = []) : c.2 = [] := by
  cases h with
  | taken _ h => rw [he] at h; exact List.forall₂_nil_right_iff.mp h
  | filled => cases he
  | missing => rfl

theorem Added.mem (h : Added convert absent c es) {k : String} {w : Value} (hm : (k, w) ∈ es) :
    (∃ v, (k, v) ∈ c.2 ∧ convert v c.1.2 = some w) ∨
      ∃ d, c = ((.exact k, d), []) ∧ absent d = some (some w) := by
  cases h with
  | taken _ h =>
    obtain ⟨⟨k', v⟩, hv, hk, hc⟩ := forall₂_mem_right h hm
    cases hk
    exact .inl ⟨v, hv, hc⟩
  | filled h => cases List.mem_singleton.mp hm; exact .inr ⟨_, rfl, h⟩
  | missing => cases hm

end

/-! ## What all claims add -/

section
variable {convert : Value → Descriptor → Option Value} {absent : Absent} {once : Bool} {schema : Schema}
  {fs : Entries Value} {ess : List (Entries Value)}
  (h : (claims once schema fs).1.Forall₂ (Added convert absent) ess)
include h

theorem mem_added {k : String} {w : Value} (hm : (k, w) ∈ ess.flatten) :
    (∃ c ∈ (claims once schema fs).1, ∃ v, (k, v) ∈ c.2 ∧ convert v c.1.2 = some w) ∨
      ∃ d, ((.exact k, d), []) ∈ (claims once schema fs).1 ∧ absent d = some (some w) := by
  obtain ⟨es, hes, hm⟩ := List.mem_flatten.mp hm
  obtain ⟨c, hc, ha⟩ := forall₂_mem_right h hes
  rcases ha.mem hm with ⟨v, hv, hw⟩ | ⟨d, rfl, hd⟩
  · exact .inl ⟨c, hc, v, hv, hw⟩
  · exact .inr ⟨d, hc, hd⟩

theorem get?_taken (hn : (Entries.keys fs).Nodup) {c : (KeyMatcher × Descriptor) × Entries Value}
    (hc : c ∈ (claims once schema fs).1) {k : String} {v : Value} (hv : (k, v) ∈ c.2)
    (hd : ∀ d w, ((.exact k, d), []) ∈ (claims once schema fs).1 → absent d ≠ some (some w)) :
    ∃ w, convert v c.1.2 = some w ∧ Entries.get? (Entries.insertAll [] ess.flatten) k = some w := by
  obtain ⟨es, hes, ha⟩ := forall₂_mem_left h hc
  obtain ⟨w, hw, hm⟩ := ha.of_mem hv
  refine ⟨w, hw, Entries.get?_insertAll_of_mem (List.mem_flatten.mpr ⟨es, hes, hm⟩) fun b hb => ?_⟩
  rcases mem_added h hb with ⟨c', hc', v', hv', hb⟩ | ⟨d, hc', hb⟩
  · have hk := List.mem_map_of_mem (f := Prod.fst) hv
    have hk' := List.mem_map_of_mem (f := Prod.fst) hv'
    cases claims_unique hn hc hc' hk hk'
    cases Entries.mem_unique hn (claims_subset hc hv) (claims_subset hc hv')
    exact Option.some_inj.mp (hb.symm.trans hw)
  · exact absurd hb (hd d b hc')

/-- A default stands under its key, whether or not the candidate has the key. -/
theorem get?_filled (hu : (schema.map fun e => e.1.text).Nodup) {k : String} {d : Descriptor}
    (hc : ((.exact k, d), []) ∈ (claims once schema fs).1) :
    absent d = some none ∨ ∃ w, absent d = some (some w) ∧
      Entries.get? (Entries.insertAll [] ess.flatten) k = some w := by
  obtain ⟨cs, cs', hl⟩ := List.append_of_mem hc
  have hlater := claims_pairwise once schema fs
  have htexts : (((claims once schema fs).1.map Prod.fst).map fun e => e.1.text).Nodup := by
    rw [claims_entries]; exact hu
  rw [hl] at h hlater htexts
  obtain ⟨ess₁, es, ess₂, rfl, ha, h₂⟩ := forall₂_split h
  have hk : k ∉ Entries.keys ess₂.flatten := by
    intro hk
    obtain ⟨⟨k', w⟩, hm, rfl⟩ := List.mem_map.mp hk
    obtain ⟨es', hes', hm⟩ := List.mem_flatten.mp hm
    obtain ⟨c, hc', ha'⟩ := forall₂_mem_right h₂ hes'
    rcases ha'.mem hm with ⟨v, hv, -⟩ | ⟨d', rfl, -⟩
    · have hne := (List.pairwise_cons.mp (List.pairwise_append.mp hlater).2.1).1 c hc' rfl _ hv
      simp [KeyMatcher.accepts] at hne
    · simp only [List.map_append, List.map_cons] at htexts
      have hne := (List.nodup_cons.mp (List.nodup_append.mp htexts).2.1).1
      exact hne (List.mem_map.mpr ⟨_, List.mem_map_of_mem hc', rfl⟩)
  cases ha with
  | taken hm => exact absurd rfl (hm rfl k)
  | missing hd => exact .inl hd
  | filled hd =>
    refine .inr ⟨_, hd, ?_⟩
    rw [List.flatten_append, List.flatten_cons]
    exact Entries.get?_insertAll_last hk

theorem get?_new {k : String} {w : Value} (hk : k ∉ Entries.keys fs)
    (hg : Entries.get? (Entries.insertAll [] ess.flatten) k = some w) :
    ∃ d, ((.exact k, d), []) ∈ (claims once schema fs).1 ∧ absent d = some (some w) := by
  have hm := (Entries.mem_of_get?_insertAll hg).resolve_right nofun
  rcases mem_added h hm with ⟨c, hc, v, hv, -⟩ | hd
  · exact absurd (List.mem_map_of_mem (f := Prod.fst) (claims_subset hc hv)) hk
  · exact hd

end

end Conformance
