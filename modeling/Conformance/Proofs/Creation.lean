import Conformance.Pattern.Parser
import Conformance.Proofs.Additions
import Conformance.Proofs.Runs
import Conformance.Proofs.Shapes
import Conformance.Proofs.Walks

/-!
# The fields of a new instance

A new instance has what the claims of the check add: every field of the candidate, converted
under the entry that took its key, and the defaults of exact keys that took nothing. An exact
key takes nothing also if a pattern before it has taken the key, and then its default stands
over the value of the candidate.
-/

namespace Conformance

/-! ## New instances -/

/-- A default stands over the value of a key: a pattern takes the key, and the entry of the key
itself comes later. -/
def Overwrites (claimed : List ((KeyMatcher × Descriptor) × List String)) (key : String) (d : Descriptor)
    (u : Value) : Prop :=
  (∃ (p : Regex) (d₀ : Descriptor) (keys : List String), key ∈ keys ∧
    [((.pattern p, d₀), keys), ((.exact key, d), [])].Sublist claimed) ∧ d.traits.default? = some u

section
variable {once : Bool} {schema : Schema} {fs : Entries Value}

/-- Only the default of a key with an entry of its own stands over a value. -/
theorem Overwrites.entry {schema : Schema} {taken : List (List String)} {key : String} {d : Descriptor} {u : Value}
    (h : Overwrites (schema.zip taken) key d u) : (.exact key, d) ∈ schema := by
  obtain ⟨⟨p, d₀, keys, -, hsub⟩, -⟩ := h
  exact (List.of_mem_zip (hsub.subset (List.mem_cons_of_mem _ (List.mem_singleton_self _)))).1

/-- The entry of an exact key that took nothing comes after the entry that took the key, which is
a pattern. -/
theorem taken_before (hu : (schema.map fun e => e.1.text).Nodup)
    {c : (KeyMatcher × Descriptor) × Entries Value} (hc : c ∈ (claims once schema fs).1) {k : String}
    (hk : k ∈ Entries.keys c.2) {d : Descriptor} (hd : ((.exact k, d), []) ∈ (claims once schema fs).1) :
    ∃ p d₀, c.1 = (.pattern p, d₀) ∧ [c, ((.exact k, d), [])].Sublist (claims once schema fs).1 := by
  obtain ⟨⟨m, d₀⟩, taken⟩ := c
  obtain ⟨x, hx, rfl⟩ := List.mem_map.mp hk
  have hne : ((m, d₀), taken) ≠ ((.exact x.1, d), []) := by
    rintro h; cases h; cases hx
  cases m with
  | pattern p =>
    refine ⟨p, d₀, rfl, (pair_sublist hc hd hne).resolve_right fun h => ?_⟩
    have := (claims_pairwise once schema fs).forall_sublist h rfl x hx
    simp [KeyMatcher.accepts] at this
  | exact key =>
    have hkey : key = x.1 := by simpa [KeyMatcher.accepts] using claims_accept hc x hx
    subst hkey
    have htexts : ((claims once schema fs).1.map fun c => c.1.1.text).Nodup := by
      rw [← claims_entries once schema fs, List.map_map] at hu
      exact hu
    exact absurd (List.inj_on_of_nodup_map htexts hc hd rfl) hne

end

theorem Value.fields_of_fields? {v : Value} {fs : Entries Value} (h : v.fields? = some fs) : v.fields = fs := by
  cases v with
  | object gs => cases h; rfl
  | inst c gs => cases h; rfl
  | _ => cases h

theorem built_fields {r : Registry} (hg : r.Grounded) {id : ShapeId} {s : Shape} (hs : r.shape? id = some s)
    {schema : Schema} {t : Traits} (hd : s.description = .keyed schema t) {v : Value} (hv : v.carries s.cls = false)
    {i : Instance} (hi : s.create v = .ok i) :
    ∃ fs n, v.fields? = some fs ∧ fieldsMatch t.matchOnce schema (r.fieldVerdicts fs) = true ∧
      convertFields (r.absent .instances n) t.matchOnce schema
        (Entries.mapValues (Part.of (r.convertWith .instances (r.absent .instances n))) fs) = some i.fields := by
  obtain ⟨-, -, -, hdesc⟩ := Registry.shape?_ok hs
  obtain ⟨ha, hb⟩ := Shape.create_built hs hv hi
  have hn := hg.isNull hdesc ha
  rw [hd, Registry.accepts_keyed hn, Bool.and_eq_true, Bool.and_eq_true] at ha
  obtain ⟨⟨hf, hm⟩, -⟩ := ha
  obtain ⟨fs, hfs⟩ := Option.isSome_iff_exists.mp hf
  rw [hd] at hb
  obtain ⟨w, hw, h⟩ := Option.map_eq_some_iff.mp hb
  obtain ⟨out, hout, rfl⟩ := Registry.converted_keyed hf hw
  rw [Value.fields_of_fields? hfs] at hm hout
  exact ⟨fs, r.defaultDepth (.keyed schema t), hfs, hm, hout.trans (congrArg some h)⟩

theorem mem_claimed_nil {e : KeyMatcher × Descriptor} {cs : List ((KeyMatcher × Descriptor) × Entries Value)} :
    (e, []) ∈ cs.map (fun c => (c.1, Entries.keys c.2)) ↔ (e, []) ∈ cs := by
  constructor
  · intro h
    obtain ⟨⟨e', taken⟩, hc, heq⟩ := List.mem_map.mp h
    obtain ⟨rfl, hk⟩ := Prod.mk.inj heq
    have ht : taken = [] := List.map_eq_nil_iff.mp hk
    rwa [ht] at hc
  · exact fun h => List.mem_map_of_mem (f := fun c => (c.1, Entries.keys c.2)) h

/-! ## The value under a key -/

section
variable {r : Registry} {n : Nat} {once : Bool} {schema : Schema} {fs : Entries Value} {ess : List (Entries Value)}
  (hess : (claims once schema fs).1.Forall₂
    (Added (r.convertWith .instances (r.absent .instances n)) (r.absent .instances n)) ess)
  (hu : (schema.map fun e => e.1.text).Nodup)
include hess hu

theorem default_stands {k : String} {d : Descriptor} {u : Value} (hc : ((.exact k, d), []) ∈ (claims once schema fs).1)
    (hd : d.traits.default? = some u) :
    ∃ x, Entries.get? (Entries.insertAll [] ess.flatten) k = some x ∧ r.Converts .instances u d x := by
  rcases get?_filled hess hu hc with ha | ⟨x, ha, hx⟩
  · rw [Registry.absent_none ha] at hd
    cases hd
  · obtain ⟨u', hu', hconv⟩ := Registry.absent_some ha
    rw [hd] at hu'
    cases hu'
    exact ⟨x, hx, hconv⟩

theorem overwriting_stands {k : String} {d : Descriptor} {u x : Value}
    (ho : Overwrites ((claims once schema fs).1.map fun c => (c.1, Entries.keys c.2)) k d u)
    (hx : Entries.get? (Entries.insertAll [] ess.flatten) k = some x) : r.Converts .instances u d x := by
  obtain ⟨⟨p, d₀, keys, -, hsub⟩, hdu⟩ := ho
  have hcd := mem_claimed_nil.mp (hsub.subset (List.mem_cons_of_mem _ (List.mem_singleton_self _)))
  obtain ⟨x', hx', hconv⟩ := default_stands hess hu hcd hdu
  rw [hx] at hx'
  cases hx'
  exact hconv

theorem own_stands (hn : (Entries.keys fs).Nodup) {c : (KeyMatcher × Descriptor) × Entries Value}
    (hc : c ∈ (claims once schema fs).1) {k : String} {w : Value} (hw : (k, w) ∈ c.2) :
    ∃ x, Entries.get? (Entries.insertAll [] ess.flatten) k = some x ∧
      ((∀ d u, ¬ Overwrites ((claims once schema fs).1.map fun c => (c.1, Entries.keys c.2)) k d u) →
        r.Converts .instances w c.1.2 x) := by
  have hk := List.mem_map_of_mem (f := Prod.fst) hw
  by_cases hov : ∃ d x, ((.exact k, d), []) ∈ (claims once schema fs).1 ∧ r.absent .instances n d = some (some x)
  · obtain ⟨d, x, hcd, ha⟩ := hov
    obtain ⟨u, hdu, -⟩ := Registry.absent_some ha
    obtain ⟨x', hx', -⟩ := default_stands hess hu hcd hdu
    refine ⟨x', hx', fun hno => ?_⟩
    obtain ⟨p, d₀, hp, hsub⟩ := taken_before hu hc hk hcd
    refine (hno d u ⟨⟨p, d₀, Entries.keys c.2, hk, ?_⟩, hdu⟩).elim
    rw [← hp]
    exact hsub.map fun c => (c.1, Entries.keys c.2)
  · obtain ⟨x, hx, hget⟩ := get?_taken hess hn hc hw fun d x hcd ha => hov ⟨d, x, hcd, ha⟩
    exact ⟨x, hget, fun _ => ⟨n, hx⟩⟩

end

/-! ## All fields -/

/-- A new instance of an object shape has every key of the candidate. Under it stands the
conversion of the value of the candidate under the entry that took the key in the check, unless
that entry is a pattern and the entry of the key itself, written later, produces a default: then
the conversion of the default stands there. Any other key of the instance is an exact key that
the candidate does not have, with its default. -/
theorem create_fields [RegexEngine] {r : Registry} (hr : Reachable r) {id : ShapeId} {s : Shape}
    (hs : r.shape? id = some s)
    {schema : Schema} {t : Traits} (hd : s.description = .keyed schema t) {v : Value} (hv : v.Distinct)
    (hnew : v.carries s.cls = false) {i : Instance} (hi : s.create v = .ok i) :
    ∃ fs taken, v.fields? = some fs ∧
      checkWalk (fun v d => some (r.matches? v d)) t.matchOnce fs schema (Entries.keys fs) = some (some taken) ∧
      (∀ k w, Entries.get? fs k = some w → ∃ e keys w', (e, keys) ∈ schema.zip taken ∧ k ∈ keys ∧
        Entries.get? i.fields k = some w' ∧
        ((∀ d u, ¬ Overwrites (schema.zip taken) k d u) → r.Converts .instances w e.2 w') ∧
        ∀ d u, Overwrites (schema.zip taken) k d u → r.Converts .instances u d w') ∧
      ∀ k w', Entries.get? i.fields k = some w' → k ∉ Entries.keys fs → ∃ d u,
        ((.exact k, d), []) ∈ schema.zip taken ∧ d.traits.default? = some u ∧ r.Converts .instances u d w' := by
  obtain ⟨-, -, -, hdesc⟩ := Registry.shape?_ok hs
  obtain ⟨fs, n, hfs, hm, hout⟩ := built_fields hr.grounded hs hd hnew hi
  have hn : (Entries.keys fs).Nodup := Value.fields_of_fields? hfs ▸ hv.keys
  have hu : (schema.map fun e => e.1.text).Nodup := (hd ▸ hr.uniqueKeys hdesc .root :)
  obtain ⟨ess, hess, heq⟩ := convertFields_some.mp hout
  rw [show r.fieldVerdicts fs = Entries.mapValues r.accepts fs from r.fieldVerdicts_eq fs] at hm
  have hwalk := checkWalk_accepts hn r t.matchOnce schema
  rw [if_pos hm] at hwalk
  have hp := (claims_perm t.matchOnce schema fs).symm
  rw [fieldsMatch_unclaimed hm, List.append_nil] at hp
  refine ⟨fs, _, hfs, hwalk, ?_⟩
  rw [claims_zip, heq]
  refine ⟨fun k w hk => ?_, fun k w' hk hkn => ?_⟩
  · obtain ⟨c, hc, hw⟩ := List.mem_flatMap.mp (hp.subset (Entries.mem_of_get? hk))
    obtain ⟨x, hx, hown⟩ := own_stands hess hu hn hc hw
    exact ⟨c.1, Entries.keys c.2, x, List.mem_map_of_mem (f := fun c => (c.1, Entries.keys c.2)) hc,
      List.mem_map_of_mem (f := Prod.fst) hw, hx, hown, fun d u ho => overwriting_stands hess hu ho hx⟩
  · obtain ⟨d, hc, ha⟩ := get?_new hess hkn hk
    obtain ⟨u, hdu, hconv⟩ := Registry.absent_some ha
    exact ⟨d, u, mem_claimed_nil.mpr hc, hdu, hconv⟩

/-! ## A default over a value -/

def anonymous : Registry := .ofModels
  [("M", .object [("/^.+$/", .string "string"),
    ("name", .object [("$type", .string "string"), ("$default", .string "anon")])])]

def ada : Value := .object [("name", .string "Ada"), ("city", .string "London")]

theorem anonymous_create : ∃ s schema t i, anonymous.shape? (anonymous.idAt 0) = some s ∧
    s.description = .keyed schema t ∧ (∀ e ∈ schema, e.2.kind = .string ∧ e.1.text ≠ "city") ∧
    ada.carries s.cls = false ∧ s.create ada = .ok i ∧ Entries.get? i.fields "name" = some (.string "anon") := by
  have h : (anonymous.shape? (anonymous.idAt 0)).any (fun s =>
      s.description.schema?.any (fun schema => schema.all fun e => e.2.kind = .string && e.1.text ≠ "city") &&
        !ada.carries s.cls &&
        (s.create ada).toOption.any fun i => ((Entries.get? i.fields "name").bind Value.string?) == some "anon") =
      true := by decide +kernel
  obtain ⟨s, hs, h⟩ := (Option.any_eq_true _ _).mp h
  rw [Bool.and_eq_true, Bool.and_eq_true] at h
  obtain ⟨⟨hd, hc⟩, hi⟩ := h
  obtain ⟨schema, hd, hall⟩ := (Option.any_eq_true _ _).mp hd
  obtain ⟨i, hi, hname⟩ := ok_of_toOption hi
  obtain ⟨w, hw, hn⟩ := Option.bind_eq_some_iff.mp (eq_of_beq hname)
  have hentries : ∀ e ∈ schema, e.2.kind = .string ∧ e.1.text ≠ "city" := fun e he => by
    have hand := Bool.and_eq_true_iff.mp (List.all_eq_true.mp hall e he)
    exact ⟨of_decide_eq_true hand.1, of_decide_eq_true hand.2⟩
  have hstring : w = .string "anon" := by
    cases w with
    | string x => cases hn; rfl
    | _ => cases hn
  cases hdesc : s.description with
  | keyed schema' t =>
    rw [hdesc] at hd
    cases hd
    exact ⟨s, schema, t, i, hs, hdesc, hentries, by simpa using hc, hi, hstring ▸ hw⟩
  | _ => rw [hdesc] at hd; cases hd

theorem anonymous_reachable : Reachable anonymous := (Registry.ofModels_loaded _).reachable

theorem ada_distinct : ada.Distinct := by decide

theorem create_fields_ada : ∃ s schema t i, anonymous.shape? (anonymous.idAt 0) = some s ∧
    s.description = .keyed schema t ∧ ada.carries s.cls = false ∧ s.create ada = .ok i ∧
    ∃ taken, ∃ (e : KeyMatcher × Descriptor) (keys : List String) (w : Value),
      (e, keys) ∈ schema.zip taken ∧ "city" ∈ keys ∧ Entries.get? i.fields "city" = some w ∧
      anonymous.Converts .instances (.string "London") e.2 w := by
  obtain ⟨s, schema, t, i, hs, hd, hentries, hc, hi, -⟩ := anonymous_create
  obtain ⟨fs, taken, hfs, -, hkeys, -⟩ := create_fields anonymous_reachable hs hd ada_distinct hc hi
  cases hfs
  obtain ⟨e, keys, w, he, hk, hw, hown, -⟩ := hkeys "city" (.string "London") rfl
  have hkept : ∀ d u, ¬ Overwrites (schema.zip taken) "city" d u := fun d u ho => (hentries _ ho.entry).2 rfl
  exact ⟨s, schema, t, i, hs, hd, hc, hi, taken, e, keys, w, he, hk, hw, hown hkept⟩

/-- The own value of a key may be lost, whatever entry of the schema it is converted under. -/
theorem create_overwrites : ¬ ∀ r : Registry, Reachable r → ∀ id s, r.shape? id = some s →
    ∀ schema t, s.description = .keyed schema t → ∀ v : Value, v.Distinct → v.carries s.cls = false →
    ∀ i, s.create v = .ok i → ∀ fs, v.fields? = some fs → ∀ k w, Entries.get? fs k = some w →
    ∃ e ∈ schema, ∃ w', r.Converts .instances w e.2 w' ∧ Entries.get? i.fields k = some w' := by
  intro h
  obtain ⟨s, schema, t, i, hs, hd, hentries, hc, hi, hname⟩ := anonymous_create
  obtain ⟨e, he, w, ⟨n, hw⟩, hget⟩ := h anonymous anonymous_reachable _ s hs schema t hd ada ada_distinct hc i hi _ rfl
    "name" (.string "Ada") rfl
  have hcopy : anonymous.convertWith .instances (anonymous.absent .instances n) (.string "Ada") e.2 =
      some (.string "Ada") := by
    have hk := (hentries e he).1
    cases hed : e.2 with
    | primitive p t => exact Registry.convert_bare (.primitive p t)
    | _ => rw [hed] at hk; cases hk
  rw [hcopy] at hw
  cases hw
  rw [hname] at hget
  simp at hget

end Conformance
