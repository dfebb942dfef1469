import Conformance.Proofs.Conversions

/-!
# Walks over an object schema

The checker and the converter each walk over a schema with the keys that are left, and take keys
entry by entry. Both walks are written out here key by key, with the list of the keys that each
entry takes, and shown to be what runs.
-/

namespace Conformance

/-! ## The walk of the checker -/

def taking (keys : List String) : Option (Option (List (List String))) → Option (Option (List (List String))) :=
  Option.map (Option.map (keys :: ·))

/-- What each entry takes of the keys that are left, or a refusal. Questions may have no answer,
and then the walk has none. -/
def checkWalk (ask : Option Value → Descriptor → Option Bool) (once : Bool) (fields : Entries Value) :
    Schema → List String → Option (Option (List (List String)))
  | [], remaining => some (if remaining.isEmpty then some [] else none)
  | (.exact key, d) :: rest, remaining =>
    if remaining.contains key then do
      if ← ask (Entries.get? fields key) d then
        taking [key] (checkWalk ask once fields rest (remaining.erase key))
      else some none
    else if d.toleratesAbsence then taking [] (checkWalk ask once fields rest remaining)
    else some none
  | (.pattern r, d) :: rest, remaining =>
    let candidates := remaining.filter r.isMatch
    let matched := if once then candidates.take 1 else candidates
    if matched.isEmpty then
      if d.toleratesAbsence then taking [] (checkWalk ask once fields rest remaining) else some none
    else do
      if ← matched.allM fun key => ask (Entries.get? fields key) d then
        taking matched (checkWalk ask once fields rest (matched.foldl List.erase remaining))
      else some none

/-! ## The walk of the converter -/

/-- What each entry takes of the keys that are left, and the fields it adds to `out`. -/
def convertWalk (convert : Value → Descriptor → Option Value) (absent : Absent) (once : Bool)
    (fields : Entries Value) :
    Schema → List String → Option (Entries Value) → List (List String) × Option (Entries Value)
  | [], _, out => ([], out)
  | (.exact key, d) :: rest, remaining, out =>
    match Entries.get? fields key, remaining.contains key with
    | some v, true =>
      let (taken, out) := convertWalk convert absent once fields rest (remaining.erase key) do
        some (Entries.insert (← out) key (← convert v d))
      ([key] :: taken, out)
    | _, _ =>
      let (taken, out) := convertWalk convert absent once fields rest remaining do
        match ← absent d with
        | some v => some (Entries.insert (← out) key v)
        | none => out
      ([] :: taken, out)
  | (.pattern r, d) :: rest, remaining, out =>
    let candidates := remaining.filter r.isMatch
    let matched := if once then candidates.take 1 else candidates
    let (taken, out) := convertWalk convert absent once fields rest (matched.foldl List.erase remaining)
      (matched.foldl (fun out key => match Entries.get? fields key with
        | some v => do some (Entries.insert (← out) key (← convert v d))
        | none => out) out)
    (matched :: taken, out)

/-! ## Keys of claims -/

theorem foldl_erase_cons {k : String} : ∀ {l : List String}, k ∉ l → ∀ m : List String,
    l.foldl List.erase (k :: m) = k :: l.foldl List.erase m
  | [], _, _ => rfl
  | x :: l, h, m => by
    have hx : k ≠ x := fun e => h (e ▸ List.mem_cons_self)
    simp only [List.foldl_cons, List.erase_cons, beq_iff_eq, hx, ite_false]
    exact foldl_erase_cons (fun hk => h (List.mem_cons_of_mem _ hk)) _

theorem foldl_erase_filter (p : String → Bool) : ∀ ks : List String,
    (ks.filter p).foldl List.erase ks = ks.filter fun k => !p k
  | [] => rfl
  | k :: ks => by
    by_cases h : p k = true
    · simp [h, foldl_erase_filter p ks]
    · have hk : k ∉ ks.filter p := fun hm => h (List.mem_filter.mp hm).2
      rw [List.filter_cons_of_neg h, foldl_erase_cons hk, foldl_erase_filter p ks]
      simp [h]

section
variable {α : Type}

theorem keys_takeFirst (p : String → Bool) : ∀ es : Entries α,
    Entries.keys (takeFirst p es).1 = ((Entries.keys es).filter p).take 1 ∧
    Entries.keys (takeFirst p es).2 = (((Entries.keys es).filter p).take 1).foldl List.erase (Entries.keys es)
  | [] => ⟨rfl, rfl⟩
  | e :: es => by
    obtain ⟨ht, hl⟩ := keys_takeFirst p es
    rw [takeFirst]
    by_cases h : p e.1 = true
    · simp [h, Entries.keys]
    · rw [if_neg h]
      simp only [Entries.keys, List.map_cons, List.filter_cons_of_neg h] at ht hl ⊢
      have hk : e.1 ∉ ((es.map Prod.fst).filter p).take 1 := fun hm =>
        h (List.mem_filter.mp (List.mem_of_mem_take hm)).2
      exact ⟨ht, by rw [hl, foldl_erase_cons hk]⟩

theorem keys_claim_pattern (r : Regex) (once : Bool) (fs : Entries α) :
    let matched := if once then ((Entries.keys fs).filter r.isMatch).take 1 else (Entries.keys fs).filter r.isMatch
    Entries.keys ((KeyMatcher.pattern r).claim once fs).1 = matched ∧
      Entries.keys ((KeyMatcher.pattern r).claim once fs).2 = matched.foldl List.erase (Entries.keys fs) := by
  cases once with
  | true => exact keys_takeFirst r.isMatch fs
  | false =>
    simp only [Bool.false_eq_true, ite_false, KeyMatcher.claim_all, foldl_erase_filter]
    simp only [Entries.keys, List.filter_map]
    exact ⟨rfl, rfl⟩

theorem claim_exact_cases (key : String) (once : Bool) (fs : Entries α) :
    (∃ a, (key, a) ∈ fs ∧ ((KeyMatcher.exact key).claim once fs).1 = [(key, a)] ∧ key ∈ Entries.keys fs ∧
      Entries.keys ((KeyMatcher.exact key).claim once fs).2 = (Entries.keys fs).erase key) ∨
    (key ∉ Entries.keys fs ∧ (KeyMatcher.exact key).claim once fs = ([], fs)) := by
  rw [KeyMatcher.claim_exact]
  induction fs with
  | nil => exact .inr ⟨List.not_mem_nil, rfl⟩
  | cons e fs ih =>
    obtain ⟨k, a⟩ := e
    rw [takeFirst]
    by_cases h : k = key
    · subst h
      exact .inl ⟨a, by simp [Entries.keys]⟩
    · simp only [h, decide_false, Bool.false_eq_true, ite_false]
      rcases ih with ⟨b, hm, ht, hk, hl⟩ | ⟨hk, ht⟩
      · refine .inl ⟨b, List.mem_cons_of_mem _ hm, ht, List.mem_cons_of_mem _ hk, ?_⟩
        simp only [Entries.keys, List.map_cons, List.erase_cons, beq_iff_eq, h, ite_false] at hl ⊢
        rw [hl]
      · refine .inr ⟨fun hm => ?_, by rw [ht]⟩
        rcases List.mem_cons.mp hm with e | hm
        · exact h e.symm
        · exact hk hm

end

/-! ## The walks are what runs -/

theorem fieldsMatch_nil (once : Bool) (fs : Entries Verdict) : fieldsMatch once [] fs = fs.isEmpty := by
  simp [fieldsMatch, claims]

theorem fieldsMatch_cons (once : Bool) (m : KeyMatcher) (d : Descriptor) (schema : Schema) (fs : Entries Verdict) :
    fieldsMatch once ((m, d) :: schema) fs =
      ((if (m.claim once fs).1.isEmpty then d.toleratesAbsence else (m.claim once fs).1.all fun f => f.2 d) &&
        fieldsMatch once schema (m.claim once fs).2) := by
  unfold fieldsMatch
  rw [claims_cons]
  simp only [List.all_cons]
  rw [Bool.and_left_comm]

/-- The fields of an object by what the entries claim of them. -/
theorem fieldsMatch_iff_claims {once : Bool} {schema : Schema} {f : Value → Verdict} {fs : Entries Value} :
    fieldsMatch once schema (Entries.mapValues f fs) = true ↔
      (claims once schema fs).2 = [] ∧ ∀ c ∈ (claims once schema fs).1,
        (c.2 = [] → c.1.2.toleratesAbsence = true) ∧ ∀ x ∈ c.2, f x.2 c.1.2 = true := by
  have hclaim : ∀ c : (KeyMatcher × Descriptor) × Entries Value,
      (if (Entries.mapValues f c.2).isEmpty then c.1.2.toleratesAbsence
        else (Entries.mapValues f c.2).all fun x => x.2 c.1.2) = true ↔
        (c.2 = [] → c.1.2.toleratesAbsence = true) ∧ ∀ x ∈ c.2, f x.2 c.1.2 = true := by
    rintro ⟨e, taken⟩
    cases taken with
    | nil => simp
    | cons x xs => simp [Entries.mapValues]
  rw [fieldsMatch, claims_map, Bool.and_eq_true, List.isEmpty_iff, List.all_eq_true, List.forall_mem_map]
  exact and_congr List.map_eq_nil_iff (forall₂_congr fun c _ => hclaim c)

theorem fieldsMatch_unclaimed {once : Bool} {schema : Schema} {f : Value → Verdict} {fs : Entries Value}
    (h : fieldsMatch once schema (Entries.mapValues f fs) = true) : (claims once schema fs).2 = [] :=
  (fieldsMatch_iff_claims.mp h).1

theorem taking_some (keys : List String) (b : Bool) (l : List (List String)) :
    taking keys (some (if b then some l else none)) = some (if b then some (keys :: l) else none) := by
  cases b <;> rfl

section
variable {fields : Entries Value} (hn : (Entries.keys fields).Nodup)
include hn

theorem allM_fields {ask : Option Value → Descriptor → Option Bool} {f : Value → Descriptor → Bool}
    {d : Descriptor} (ha : ∀ x ∈ fields, ask (some x.2) d = some (f x.2 d)) : ∀ es : Entries Value, es ⊆ fields →
    (Entries.keys es).allM (fun key => ask (Entries.get? fields key) d) = some (es.all fun x => f x.2 d)
  | [], _ => rfl
  | x :: es, hs => by
    have hx := hs List.mem_cons_self
    rw [Entries.keys_cons, List.allM, Entries.get?_of_mem hn hx, ha x hx, List.all_cons]
    cases f x.2 d with
    | false => rfl
    | true => exact allM_fields ha es fun y hy => hs (List.mem_cons_of_mem _ hy)

/-- The walk of the checker, on fields that are left, answers as the claims do. -/
theorem checkWalk_eq {ask : Option Value → Descriptor → Option Bool} {f : Value → Descriptor → Bool} (once : Bool) :
    ∀ (schema : Schema) (fs : Entries Value), fs.Sublist fields →
      (∀ e ∈ schema, ∀ x ∈ fields, ask (some x.2) e.2 = some (f x.2 e.2)) →
      checkWalk ask once fields schema (Entries.keys fs) =
        some (if fieldsMatch once schema (Entries.mapValues f fs) then
          some ((claims once schema fs).1.map fun c => Entries.keys c.2) else none)
  | [], fs, _, _ => by
    rw [checkWalk, fieldsMatch_nil]
    cases fs <;> rfl
  | (.exact key, d) :: rest, fs, hs, ha => by
    have hl := ((KeyMatcher.exact key).claim_spec once fs).2.2.trans hs
    have ih := checkWalk_eq once rest _ hl fun e he => ha e (List.mem_cons_of_mem _ he)
    rw [checkWalk, fieldsMatch_cons, KeyMatcher.claim_map, claims_cons]
    rcases claim_exact_cases key once fs with ⟨a, hm, ht, hk, hl⟩ | ⟨hk, ht⟩
    · rw [hl] at ih
      rw [if_pos (List.contains_iff_mem.mpr hk), Entries.get?_of_mem hn (hs.subset hm),
        ha _ List.mem_cons_self _ (hs.subset hm), ht]
      cases hf : f a d with
      | true => simp [ih, taking_some, hf]
      | false => simp [hf]
    · rw [ht] at ih ⊢
      rw [if_neg (mt List.contains_iff_mem.mp hk)]
      cases hd : d.toleratesAbsence with
      | true => simp [ih, taking_some]
      | false => simp
  | (.pattern r, d) :: rest, fs, hs, ha => by
    have hl := ((KeyMatcher.pattern r).claim_spec once fs).2.2.trans hs
    have ih := checkWalk_eq once rest _ hl fun e he => ha e (List.mem_cons_of_mem _ he)
    have hs' := List.Subset.trans ((KeyMatcher.pattern r).claim_subset once fs) hs.subset
    obtain ⟨ht, hr⟩ := keys_claim_pattern r once fs
    rw [checkWalk, fieldsMatch_cons, KeyMatcher.claim_map, claims_cons]
    dsimp only
    rw [← ht] at hr ⊢
    rw [allM_fields hn (ha _ List.mem_cons_self) _ hs']
    have hall : (Entries.mapValues f ((KeyMatcher.pattern r).claim once fs).1).all (fun x => x.2 d) =
        ((KeyMatcher.pattern r).claim once fs).1.all fun x => f x.2 d := List.all_map
    rw [hall]
    cases hc : ((KeyMatcher.pattern r).claim once fs).1 with
    | nil =>
      rw [hc] at hr
      rw [show Entries.keys fs = _ from hr.symm, ih]
      cases d.toleratesAbsence <;> simp [taking_some]
    | cons x xs =>
      rw [← hc, ← hr, ih]
      cases ((KeyMatcher.pattern r).claim once fs).1.all fun x => f x.2 d <;> simp [hc, taking_some]

theorem checkWalk_accepts (r : Registry) (once : Bool) (schema : Schema) :
    checkWalk (fun v d => some (r.matches? v d)) once fields schema (Entries.keys fields) =
      some (if fieldsMatch once schema (Entries.mapValues r.accepts fields) then
        some ((claims once schema fields).1.map fun c => Entries.keys c.2) else none) :=
  checkWalk_eq hn once schema fields (.refl fields) fun _ _ _ _ => rfl

theorem foldl_convert (convert : Value → Descriptor → Option Value) (d : Descriptor) : ∀ es : Entries Value,
    es ⊆ fields → ∀ out : Option (Entries Value),
    (Entries.keys es).foldl (fun out key => match Entries.get? fields key with
        | some v => do some (Entries.insert (← out) key (← convert v d))
        | none => out) out =
      out.bind ((Entries.mapValues (Part.of convert) es).foldlM
        fun out f => (f.2.convert d).map (Entries.insert out f.1))
  | [], _, out => by cases out <;> rfl
  | x :: es, hs, out => by
    have hx := hs List.mem_cons_self
    rw [Entries.keys_cons, List.foldl_cons, foldl_convert convert d es fun y hy => hs (List.mem_cons_of_mem _ hy),
      Entries.get?_of_mem hn hx, Entries.mapValues_cons]
    cases out with
    | none => rfl
    | some out =>
      simp only [Option.bind_some, List.foldlM_cons, Part.of_convert]
      cases convert x.2 d <;> rfl

theorem convertWalk_eq (convert : Value → Descriptor → Option Value) (absent : Absent) (once : Bool) :
    ∀ (schema : Schema) (fs : Entries Value), fs.Sublist fields → ∀ out : Option (Entries Value),
      convertWalk convert absent once fields schema (Entries.keys fs) out =
        ((claims once schema fs).1.map fun c => Entries.keys c.2,
          out.bind ((claims once schema (Entries.mapValues (Part.of convert) fs)).1.foldlM
            (convertClaim absent)))
  | [], fs, _, out => by
    cases out <;> rfl
  | (.exact key, d) :: rest, fs, hs, out => by
    have hl := ((KeyMatcher.exact key).claim_spec once fs).2.2.trans hs
    have ih := convertWalk_eq convert absent once rest _ hl
    rw [convertWalk, claims_cons, claims_cons, KeyMatcher.claim_map]
    rcases claim_exact_cases key once fs with ⟨a, hm, ht, hk, hl⟩ | ⟨hk, ht⟩
    · rw [Entries.get?_of_mem hn (hs.subset hm), List.contains_iff_mem.mpr hk, ht, ← hl]
      dsimp only
      rw [ih]
      cases out with
      | none => rfl
      | some out =>
        rw [Option.bind_some, Entries.mapValues_cons, Entries.mapValues_nil, List.foldlM_cons,
          convertClaim_taken absent out d fun h => (List.cons_ne_nil _ _ h).elim, List.foldlM_cons, Part.of_convert]
        cases convert a d <;> rfl
    · have hout : (do
          match ← absent d with
          | some v => some (Entries.insert (← out) key v)
          | none => out) = out.bind fun out => convertClaim absent out ((.exact key, d), []) := by
        simp only [convertClaim_absent]
        cases out with
        | none => rcases absent d with _ | _ | _ <;> rfl
        | some out => rcases absent d with _ | _ | _ <;> rfl
      rw [ht] at ih ⊢
      rw [Bool.eq_false_iff.mpr (mt List.contains_iff_mem.mp hk)]
      cases Entries.get? fields key <;> dsimp only <;> rw [hout, ih] <;> cases out <;> rfl
  | (.pattern r, d) :: rest, fs, hs, out => by
    have hl := ((KeyMatcher.pattern r).claim_spec once fs).2.2.trans hs
    have ih := convertWalk_eq convert absent once rest _ hl
    have hs' := List.Subset.trans ((KeyMatcher.pattern r).claim_subset once fs) hs.subset
    obtain ⟨ht, hr⟩ := keys_claim_pattern r once fs
    rw [convertWalk, claims_cons, claims_cons, KeyMatcher.claim_map]
    dsimp only
    rw [← ht] at hr ⊢
    rw [← hr, foldl_convert hn convert d _ hs', ih]
    cases out with
    | none => rfl
    | some out =>
      rw [Option.bind_some, Option.bind_some, List.foldlM_cons, convertClaim_taken absent out d fun _ _ h => by cases h]
      rfl

end

end Conformance
