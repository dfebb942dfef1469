import Conformance.Proofs.Updates

/-!
# What an update stores

An update checks the object with the value as it is given; there the entries of the schema take
keys in turn. Then it converts the value under the first entry that accepts the key. Both are the
same entry, unless a pattern that takes one key alone comes first and has taken another key.
-/

namespace Conformance

/-! ## The first entry for a key -/

/-- The first entry that accepts a key takes it, or is a pattern that takes another key alone. -/
theorem claims_of_first {once : Bool} {k : String} : ∀ {schema : Schema} {fs : Entries Value} {a : Nat},
    k ∈ Entries.keys fs → schema.findIdx? (·.1.accepts k) = some a →
    ∃ e taken, (claims once schema fs).1[a]? = some (e, taken) ∧
      (k ∈ Entries.keys taken ∨ once = true ∧ ∃ p f, e.1 = .pattern p ∧ taken = [f] ∧ f.1 ≠ k)
  | [], _, _, _, ha => by cases ha
  | e :: schema, fs, a, hk, ha => by
    rw [claims_cons]
    rw [List.findIdx?_cons] at ha
    split at ha
    · rename_i he
      cases ha
      refine ⟨e, _, rfl, ?_⟩
      obtain ⟨m, d⟩ := e
      cases m with
      | exact key =>
        obtain rfl : key = k := of_decide_eq_true he
        rcases claim_exact_cases key once fs with ⟨a, -, ht, -, -⟩ | ⟨hno, -⟩
        · exact .inl (by rw [ht]; exact List.mem_cons_self)
        · exact absurd hk hno
      | pattern p =>
        have hmatch : k ∈ (Entries.keys fs).filter p.isMatch := List.mem_filter.mpr ⟨hk, he⟩
        have htaken := (keys_claim_pattern p once fs).1
        cases once with
        | false => exact .inl (by rw [htaken]; exact hmatch)
        | true =>
          rw [if_pos rfl] at htaken
          -- one key is taken, the first that the pattern accepts
          cases ht : ((KeyMatcher.pattern p).claim true fs).1 with
          | nil =>
            rw [ht, Entries.keys_nil, eq_comm, List.take_eq_nil_iff] at htaken
            rw [htaken.resolve_left Nat.one_ne_zero] at hmatch
            cases hmatch
          | cons f rest =>
            have hlength := congrArg List.length htaken
            rw [ht, Entries.keys, List.length_map, List.length_cons, List.length_take] at hlength
            obtain rfl : rest = [] := List.length_eq_zero_iff.mp (by omega)
            by_cases hf : f.1 = k
            · exact .inl (by rw [← hf]; exact List.mem_cons_self)
            · exact .inr ⟨rfl, p, f, rfl, rfl, hf⟩
    · rename_i he
      obtain ⟨a', ha', rfl⟩ := Option.map_eq_some_iff.mp ha
      have hleft : k ∈ Entries.keys (e.1.claim once fs).2 := by
        obtain ⟨x, hx⟩ := Entries.exists_mem hk
        have hx := List.mem_append.mp ((e.1.claim_perm once fs).mem_iff.mpr hx)
        refine Entries.mem_keys (hx.resolve_left ?_)
        exact fun ht => he ((e.1.claim_spec once fs).1 _ ht)
      exact claims_of_first hleft ha'

/-- A pattern that takes one key alone is the first entry for the key and has taken another key. -/
def Outrun (once : Bool) (schema : Schema) (taken : List (List String)) (k : String) : Prop :=
  once = true ∧ ∃ a p d other, schema.findIdx? (·.1.accepts k) = some a ∧ schema[a]? = some (.pattern p, d) ∧
    taken[a]? = some [other] ∧ other ≠ k

theorem taker_of_first {once : Bool} {schema : Schema} {fs : Entries Value} (hn : (Entries.keys fs).Nodup)
    (hall : (claims once schema fs).2 = []) {k : String} (hk : k ∈ Entries.keys fs) {a : Nat}
    (ha : schema.findIdx? (·.1.accepts k) = some a) :
    let taken := (claims once schema fs).1.map fun c => Entries.keys c.2
    ∃ b c, (claims once schema fs).1[b]? = some c ∧ k ∈ Entries.keys c.2 ∧
      (∀ j keys, taken[j]? = some keys → k ∈ keys → j = b) ∧
      (a = b ∧ ¬ Outrun once schema taken k ∨ a < b ∧ Outrun once schema taken k) := by
  intro taken
  have hp := claims_keys_perm hall
  obtain ⟨b, ⟨keys, hb, hkb⟩, hu⟩ := exists_unique_of_flatten (hp.nodup_iff.mpr hn) (hp.mem_iff.mpr hk)
  obtain ⟨c, hc, rfl⟩ : ∃ c, (claims once schema fs).1[b]? = some c ∧ Entries.keys c.2 = keys := by
    simpa using hb
  have hunique : ∀ j keys, taken[j]? = some keys → k ∈ keys → j = b := fun j keys hj hk => hu j ⟨keys, hj, hk⟩
  refine ⟨b, c, hc, hkb, hunique, ?_⟩
  have htaken : ∀ j e fs', (claims once schema fs).1[j]? = some (e, fs') → taken[j]? = some (Entries.keys fs') :=
    fun j e fs' h => by rw [List.getElem?_map, h]; rfl
  obtain ⟨e, fs', hea, hcase⟩ := @claims_of_first once k schema fs a hk ha
  have hschema : schema[a]? = some e := by
    rw [← claims_entries once schema fs, List.getElem?_map, hea]
    rfl
  rcases hcase with hka | ⟨rfl, p, f, hep, rfl, hf⟩
  · obtain rfl := hunique a _ (htaken a e fs' hea) hka
    refine .inl ⟨rfl, ?_⟩
    rintro ⟨-, a', p, d, other, ha', -, hother, hne⟩
    cases ha.symm.trans ha'
    rw [Option.some_inj.mp ((htaken a e fs' hea).symm.trans hother)] at hka
    exact hne (List.mem_singleton.mp hka).symm
  · refine .inr ⟨?_, rfl, a, p, e.2, f.1, ha, hschema.trans (congrArg some (Prod.ext hep rfl)), htaken a e [f] hea, hf⟩
    -- no entry before the first accepts the key, and the first did not take it
    have hle : a ≤ b := by
      by_contra hlt
      obtain ⟨x, hx⟩ := Entries.exists_mem hkb
      have haccept := claims_accept (List.mem_of_getElem? hc) _ hx
      have hcb : schema[b]? = some c.1 := by
        rw [← claims_entries true schema fs, List.getElem?_map, hc]
        rfl
      obtain ⟨hb', hcb⟩ := List.getElem?_eq_some_iff.mp hcb
      have hbefore := (List.findIdx?_eq_some_iff_getElem.mp ha).2.2 b (Nat.lt_of_not_le hlt)
      rw [hcb] at hbefore
      exact hbefore haccept
    refine Nat.lt_of_le_of_ne hle fun hab => ?_
    subst hab
    rw [hea] at hc
    cases hc
    exact hf (List.mem_singleton.mp hkb).symm

/-! ## Stored values -/

/-- Where an update succeeds, the checker's walk over the object gives the key to one entry. What is
stored is the conversion of the value under that entry, unless a pattern that comes first and takes
one key alone has taken another; what is stored then is the conversion under that pattern. -/
theorem update_commits {s : Shape} {schema : Schema} {t : Traits} (hd : s.description = .keyed schema t)
    {i j : Instance} (hn : (Entries.keys i.fields).Nodup) {k : String} {v : Value} (h : s.update i k v = .ok j) :
    ∃ taken b e keys w,
      checkWalk (fun v d => some (s.registry.matches? v d)) t.matchOnce (Entries.insert i.fields k v) schema
        (Entries.keys (Entries.insert i.fields k v)) = some (some taken) ∧
      schema[b]? = some e ∧ taken[b]? = some keys ∧ k ∈ keys ∧
      (∀ b' keys', taken[b']? = some keys' → k ∈ keys' → b' = b) ∧
      j = ⟨i.cls, Entries.insert i.fields k w⟩ ∧
      (¬ Outrun t.matchOnce schema taken k → s.registry.convert .instances v e.2 = some w) ∧
      (Outrun t.matchOnce schema taken k → ∃ a p d, a < b ∧ schema.findIdx? (·.1.accepts k) = some a ∧
        schema[a]? = some (.pattern p, d) ∧ s.registry.convert .instances v d = some w) := by
  obtain ⟨d, w, hkey, ha, hw, rfl⟩ := Shape.update_ok h
  rw [hd, describeKey?_keyed, List.find?_eq_bind_findIdx?_getElem?] at hkey
  obtain ⟨e₀, he₀, rfl⟩ := Option.map_eq_some_iff.mp hkey
  obtain ⟨a, hfirst, hea⟩ := Option.bind_eq_some_iff.mp he₀
  rw [hd, Registry.accepts_keyed_object, Bool.and_eq_true] at ha
  have hstaged : (Entries.keys (Entries.insert i.fields k v)).Nodup := Entries.nodup_insert hn k v
  have hwalk := checkWalk_accepts hstaged s.registry t.matchOnce schema
  rw [if_pos ha.1] at hwalk
  obtain ⟨b, c, hc, hk, hunique, hcase⟩ := taker_of_first hstaged (fieldsMatch_unclaimed ha.1)
    (Entries.mem_keys (Entries.mem_insert_self i.fields k v)) hfirst
  have hcb : schema[b]? = some c.1 := by
    rw [← claims_entries t.matchOnce schema (Entries.insert i.fields k v), List.getElem?_map, hc]
    rfl
  refine ⟨_, b, c.1, Entries.keys c.2, w, hwalk, hcb, by rw [List.getElem?_map, hc]; rfl, hk, hunique, rfl, ?_, ?_⟩
  · rcases hcase with ⟨rfl, -⟩ | ⟨-, ho⟩
    · cases hea.symm.trans hcb
      exact fun _ => hw
    · exact fun hno => absurd ho hno
  · rintro ⟨honce, a', p, d, other, ha', hp, hother, hne⟩
    cases hfirst.symm.trans ha'
    cases hea.symm.trans hp
    rcases hcase with ⟨-, hno⟩ | ⟨hlt, -⟩
    · exact absurd ⟨honce, a, p, d, other, ha', hp, hother, hne⟩ hno
    · exact ⟨a, p, d, hlt, hfirst, hp, hw⟩

/-- A crate has a label under one key and, it may be, an item under another. -/
def crates : Registry := .ofModels
  [("Item", .object [("name", .string "string")]),
    ("Crate", .object [("$matchOnce", .bool true), ("$type", .object [
      ("/^.+$/", .string "any"),
      ("/^item.*$/", .object [("$type", .string "Item"), ("$required", .bool false)])])])]

def labelled : Value := .object [("label", .string "fragile")]

def cup : Value := .object [("name", .string "cup")]

/-- The cup can replace the label and can be an item; as an item it is stored as it is. -/
theorem crates_updates : ∃ s schema t i j j' e w, crates.shape? (crates.idAt 1) = some s ∧
    s.description = .keyed schema t ∧ i.cls.same s.cls = true ∧ (Value.object i.fields).Distinct ∧
    s.update i "label" cup = .ok j ∧ s.update i "item" cup = .ok j' ∧
    checkWalk (fun v d => some (crates.matches? v d)) t.matchOnce (Entries.insert i.fields "label" cup) schema
      (Entries.keys (Entries.insert i.fields "label" cup)) = some (some [["label"], []]) ∧
    checkWalk (fun v d => some (crates.matches? v d)) t.matchOnce (Entries.insert i.fields "item" cup) schema
      (Entries.keys (Entries.insert i.fields "item" cup)) = some (some [["label"], ["item"]]) ∧
    schema[1]? = some e ∧ Entries.get? j'.fields "item" = some w ∧ crates.convert .instances cup e.2 ≠ some w := by
  have h : (crates.shape? (crates.idAt 1)).any (fun s => s.description.schema?.any fun schema => schema[1]?.any fun e =>
      (s.create labelled).toOption.any fun i => i.cls.same s.cls && decide (Value.object i.fields).Distinct &&
        (s.update i "label" cup).toOption.isSome &&
        checkWalk (fun v d => some (crates.matches? v d)) s.description.traits.matchOnce
          (Entries.insert i.fields "label" cup) schema (Entries.keys (Entries.insert i.fields "label" cup)) ==
            some (some [["label"], []]) &&
        checkWalk (fun v d => some (crates.matches? v d)) s.description.traits.matchOnce
          (Entries.insert i.fields "item" cup) schema (Entries.keys (Entries.insert i.fields "item" cup)) ==
            some (some [["label"], ["item"]]) &&
        (s.update i "item" cup).toOption.any fun j => (Entries.get? j.fields "item").any fun w =>
          w.class?.isNone && (crates.convert .instances cup e.2).all (·.class?.isSome)) = true := by
    decide +kernel
  obtain ⟨s, hs, h⟩ := (Option.any_eq_true _ _).mp h
  obtain ⟨schema, hschema, h⟩ := (Option.any_eq_true _ _).mp h
  obtain ⟨e, he, h⟩ := (Option.any_eq_true _ _).mp h
  obtain ⟨i, -, h⟩ := (Option.any_eq_true _ _).mp h
  simp only [Bool.and_eq_true, decide_eq_true_eq, beq_iff_eq] at h
  obtain ⟨⟨⟨⟨⟨hc, hi⟩, hj⟩, hlabel⟩, hwalk⟩, hj'⟩ := h
  obtain ⟨j, hj, -⟩ := ok_of_toOption (p := fun _ => true) (by simpa using hj)
  obtain ⟨j', hj', h⟩ := ok_of_toOption hj'
  obtain ⟨w, hw, h⟩ := (Option.any_eq_true _ _).mp h
  obtain ⟨hplain, hinst⟩ := Bool.and_eq_true_iff.mp h
  cases hd : s.description with
  | keyed schema' t =>
    rw [hd] at hschema hlabel hwalk
    cases hschema
    refine ⟨s, schema, t, i, j, j', e, w, hs, hd, hc, hi, hj, hj', hlabel, hwalk, he, hw, fun hcon => ?_⟩
    rw [hcon, Option.all_some, Option.isSome_iff_ne_none] at hinst
    exact hinst (Option.isNone_iff_eq_none.mp hplain)
  | _ => rw [hd] at hschema; cases hschema

theorem crates_reachable : Reachable crates := (Registry.ofModels_loaded _).reachable

theorem update_commits_label : ∃ s schema t i j, crates.shape? (crates.idAt 1) = some s ∧
    s.description = .keyed schema t ∧ (Entries.keys i.fields).Nodup ∧ s.update i "label" cup = .ok j ∧
    ∃ taken, ∃ (b : Nat) (e : KeyMatcher × Descriptor) (keys : List String) (w : Value),
      checkWalk (fun v d => some (s.registry.matches? v d)) t.matchOnce (Entries.insert i.fields "label" cup) schema
        (Entries.keys (Entries.insert i.fields "label" cup)) = some (some taken) ∧
      schema[b]? = some e ∧ taken[b]? = some keys ∧ "label" ∈ keys ∧ j = ⟨i.cls, Entries.insert i.fields "label" w⟩ ∧
      s.registry.convert .instances cup e.2 = some w := by
  obtain ⟨s, schema, t, i, j, -, -, -, hs, hd, -, hi, hj, -, hlabel, -⟩ := crates_updates
  obtain ⟨taken, b, e, keys, w, hwalk, he, hkeys, hk, -, hw, hown, -⟩ := update_commits hd hi.keys hj
  have htaken := hwalk
  rw [(Registry.shape?_ok hs).1, hlabel] at htaken
  cases htaken
  have hfirst : ¬ Outrun t.matchOnce schema [["label"], []] "label" := by
    rintro ⟨-, a, p, d, other, -, -, hother, hne⟩
    obtain hmem | hmem := List.mem_pair.mp (List.mem_of_getElem? hother)
    · cases hmem
      exact hne rfl
    · cases hmem
  exact ⟨s, schema, t, i, j, hs, hd, hi.keys, hj, _, b, e, keys, w, hwalk, he, hkeys, hk, hw, hown hfirst⟩

/-- What is stored need not be the conversion under the entry that took the key in the check. -/
theorem update_outrun : ¬ ∀ r : Registry, Reachable r → ∀ id s, r.shape? id = some s →
    ∀ schema t, s.description = .keyed schema t → ∀ i : Instance, i.cls.same s.cls = true →
    (Value.object i.fields).Distinct → ∀ k v j, s.update i k v = .ok j →
    ∀ taken, checkWalk (fun v d => some (r.matches? v d)) t.matchOnce (Entries.insert i.fields k v) schema
      (Entries.keys (Entries.insert i.fields k v)) = some (some taken) →
    ∀ (b : Nat) (e : KeyMatcher × Descriptor) keys, schema[b]? = some e → taken[b]? = some keys → k ∈ keys →
    ∃ w, Entries.get? j.fields k = some w ∧ r.convert .instances v e.2 = some w := by
  intro h
  obtain ⟨s, schema, t, i, -, j, e, w, hs, hd, hc, hi, -, hj, -, hwalk, he, hw, hne⟩ := crates_updates
  obtain ⟨w', hw', hconv⟩ := h crates crates_reachable _ s hs schema t hd i hc hi "item" cup j hj _ hwalk 1 e ["item"]
    he rfl (List.mem_singleton_self _)
  cases hw.symm.trans hw'
  exact hne hconv

end Conformance
