import Conformance.Proofs.Flattening
import Conformance.Proofs.Mirrors
import Conformance.Proofs.Needs
import Mathlib.Data.List.Find

/-!
# Conversions in registries that mirror each other

A conversion makes instances, so its result mentions shapes. In a registry that mirrors another
one, the conversion of the renamed value is the renamed conversion: instances are of the shape
that has the place.
-/

namespace Conformance

/-! ## Lists -/

section
variable {α α' β β' γ : Type} {g : β → β'} {h : γ → α} {k : γ → α'}

theorem foldlM_transport {f : β → α → Option β} {e : β' → α' → Option β'} : ∀ {l : List γ},
    (∀ b, ∀ c ∈ l, e (g b) (k c) = (f b (h c)).map g) →
    ∀ b, (l.map k).foldlM e (g b) = ((l.map h).foldlM f b).map g
  | [], _, _ => rfl
  | c :: l, hf, b => by
    rw [List.map_cons, List.map_cons, List.foldlM_cons, List.foldlM_cons, hf b c List.mem_cons_self]
    cases f b (h c) with
    | none => rfl
    | some b' => exact foldlM_transport (fun b c hc => hf b c (List.mem_cons_of_mem _ hc)) b'

theorem mapM_transport {f : α → Option β} {e : α' → Option β'} : ∀ {l : List γ},
    (∀ c ∈ l, e (k c) = (f (h c)).map g) → (l.map k).mapM e = ((l.map h).mapM f).map (List.map g)
  | [], _ => rfl
  | c :: l, hf => by
    rw [List.map_cons, List.map_cons, List.mapM_cons, List.mapM_cons, hf c List.mem_cons_self,
      mapM_transport fun c hc => hf c (List.mem_cons_of_mem _ hc)]
    cases f (h c) with
    | none => rfl
    | some b => cases (l.map h).mapM f <;> rfl

end

namespace Entries
variable {α β : Type}

theorem mapValues_insert (g : α → β) (k : String) (a : α) : ∀ es : Entries α,
    mapValues g (insert es k a) = insert (mapValues g es) k (g a)
  | [] => rfl
  | (k', b) :: es => by
    rw [insert, mapValues_cons, insert, ← mapValues_insert g k a es]
    split <;> rfl

theorem mapValues_indexed (g : α → β) (xs : List α) : mapValues g (indexed xs) = indexed (xs.map g) := by
  simp [mapValues, indexed, List.zipIdx_map]

end Entries

/-- What the entries of a schema carry has no part in what they claim. -/
theorem claims_relabel {α δ ε : Type} (once : Bool) (g : δ → ε) : ∀ (schema : List (KeyMatcher × δ)) (fs : Entries α),
    (claims once (schema.map fun e => (e.1, g e.2)) fs).1 =
      (claims once schema fs).1.map fun c => ((c.1.1, g c.1.2), c.2)
  | [], _ => rfl
  | e :: schema, fs => by
    rw [List.map_cons, claims_cons, claims_cons, claims_relabel once g schema]
    rfl

theorem Value.rename_flatten (ρ : Renaming) (v : Value) : (v.rename ρ).flatten = v.flatten := by
  induction v using induction_parts with
  | h v ih =>
    have hfields : ∀ fs : Entries Value, (∀ f ∈ fs, f.2 ∈ v.parts) →
        Entries.mapValues flatten (Entries.mapValues (rename ρ) fs) = Entries.mapValues flatten fs :=
      fun fs hfs => (Entries.mapValues_mapValues ..).trans (Entries.mapValues_congr fun f hf => ih f.2 (hfs f hf))
    cases v with
    | array es =>
      have hes : ∀ e ∈ es, (e.rename ρ).flatten = e.flatten := fun e he => ih e (element_part he)
      simpa [flatten, flattenElements_eq] using hes
    | object fs =>
      rw [rename_object, flatten, flatten, flattenFields_eq, flattenFields_eq, hfields fs fun f hf => field_part hf]
    | inst c fs =>
      rw [rename_inst, flatten, flatten, flattenFields_eq, flattenFields_eq, hfields fs fun f hf => field_part hf]
    | _ => rfl

theorem Target.rename_copy (ρ : Renaming) (target : Target) (v : Value) :
    target.copy (v.rename ρ) = (target.copy v).rename ρ := by
  cases target with
  | plain => rw [copy, copy, v.rename_flatten, Value.rename_of_plain ρ v.flatten_plain]
  | instances => rfl

theorem rename_instantiate (ρ : Renaming) (target : Target) (c : Class) (v : Value) :
    instantiate target (c.rename ρ) (v.rename ρ) = (instantiate target c v).rename ρ := by
  cases target with
  | plain => rfl
  | instances =>
    cases v <;>
      simp [instantiate, Value.rename, Entries.mapValues_indexed, Value.renameElements_eq, Value.renameFields_eq]

/-! ## Claims -/

section
variable {ρ : Renaming} {convert convert' : Value → Descriptor → Option Value} {absent absent' : Absent}

theorem convertClaim_rename {c : (KeyMatcher × Descriptor) × Entries Value}
    (ha : absent' (c.1.2.rename ρ) = (absent c.1.2).map (Option.map (Value.rename ρ)))
    (hc : ∀ x ∈ c.2, convert' (x.2.rename ρ) (c.1.2.rename ρ) = (convert x.2 c.1.2).map (Value.rename ρ))
    (out : Entries Value) :
    convertClaim absent' (Entries.mapValues (Value.rename ρ) out) ((c.1.1, c.1.2.rename ρ),
        Entries.mapValues (Part.of convert') (Entries.mapValues (Value.rename ρ) c.2)) =
      (convertClaim absent out (c.1, Entries.mapValues (Part.of convert) c.2)).map
        (Entries.mapValues (Value.rename ρ)) := by
  obtain ⟨⟨m, d⟩, taken⟩ := c
  by_cases hm : taken = [] → ∀ key, m ≠ .exact key
  · rw [convertClaim_taken absent' _ _ (by cases taken <;> simp_all),
      convertClaim_taken absent _ _ (by cases taken <;> simp_all), Entries.mapValues_mapValues]
    refine foldlM_transport (g := Entries.mapValues (Value.rename ρ)) (fun out x hx => ?_) out
    rw [Part.of_convert, Part.of_convert, hc x hx]
    cases convert x.2 d with
    | none => rfl
    | some w => simp [Entries.mapValues_insert]
  · obtain ⟨rfl, key, rfl⟩ : taken = [] ∧ ∃ key, m = .exact key := by simpa using hm
    simp only [Entries.mapValues_nil, convertClaim_absent, ha]
    rcases absent d with _ | (_ | w)
    · rfl
    · rfl
    · simp [Entries.mapValues_insert]

theorem convertFields_rename {once : Bool} {schema : Schema} {fs : Entries Value}
    (ha : ∀ e ∈ schema, absent' (e.2.rename ρ) = (absent e.2).map (Option.map (Value.rename ρ)))
    (hc : ∀ x ∈ fs, ∀ e ∈ schema, convert' (x.2.rename ρ) (e.2.rename ρ) = (convert x.2 e.2).map (Value.rename ρ)) :
    convertFields absent' once (schema.map fun e => (e.1, e.2.rename ρ))
        (Entries.mapValues (Part.of convert') (Entries.mapValues (Value.rename ρ) fs)) =
      (convertFields absent once schema (Entries.mapValues (Part.of convert) fs)).map
        (Entries.mapValues (Value.rename ρ)) := by
  rw [convertFields, convertFields, Entries.mapValues_mapValues, claims_map, claims_map]
  dsimp only
  rw [claims_relabel, List.map_map]
  refine foldlM_transport (g := Entries.mapValues (Value.rename ρ)) (fun out c hm => ?_) []
  have he := claims_entry hm
  have hclaim := convertClaim_rename (ha c.1 he) (fun x hx => hc x (claims_subset hm hx) c.1 he) out
  rwa [Entries.mapValues_mapValues] at hclaim

theorem plainContent_rename {d : Descriptor} {fs : Entries Value}
    (ha : ∀ c ∈ d.parts, absent' (c.rename ρ) = (absent c).map (Option.map (Value.rename ρ)))
    (hc : ∀ x ∈ fs, ∀ c ∈ d.parts, convert' (x.2.rename ρ) (c.rename ρ) = (convert x.2 c).map (Value.rename ρ)) :
    plainContent absent' (Entries.mapValues (Part.of convert') (Entries.mapValues (Value.rename ρ) fs)) (d.rename ρ) =
      (plainContent absent (Entries.mapValues (Part.of convert) fs) d).map (Value.rename ρ) := by
  have hflat : ∀ x : String × Value, (Value.flatten (x.2.rename ρ)) = x.2.flatten.rename ρ :=
    fun x => by rw [x.2.rename_flatten, Value.rename_of_plain ρ x.2.flatten_plain]
  cases d with
  | keyed schema t =>
    have hmem : ∀ e ∈ schema, e.2 ∈ (Descriptor.keyed schema t).parts := fun e he => List.mem_map_of_mem he
    rw [Descriptor.rename_keyed, plainContent, plainContent, Traits.rename_matchOnce,
      convertFields_rename (fun e he => ha e.2 (hmem e he)) fun x hx e he => hc x hx e.2 (hmem e he)]
    cases convertFields absent t.matchOnce schema (Entries.mapValues (Part.of convert) fs) <;> simp
  | arrayOf items t =>
    have hes := mapM_transport (l := fs) (g := Value.rename ρ)
      (h := fun (x : String × Value) => (x.1, Part.of convert x.2))
      (k := fun (x : String × Value) => (x.1, Part.of convert' (x.2.rename ρ)))
      (f := fun (x : String × Part) => x.2.convert items)
      (e := fun (x : String × Part) => x.2.convert (items.rename ρ))
      fun x hx => hc x hx items (List.mem_singleton_self _)
    rw [Descriptor.rename, plainContent, plainContent, Entries.mapValues_mapValues, Entries.mapValues, hes]
    unfold Entries.mapValues
    cases (fs.map fun x => (x.1, Part.of convert x.2)).mapM fun (x : String × Part) => x.2.convert items <;> simp
  | openArray t => simp [Descriptor.rename, plainContent, Entries.mapValues, Function.comp_def, Part.of, hflat]
  | _ => simp [Descriptor.rename, plainContent, Entries.mapValues, Function.comp_def, Part.of, hflat]

end

/-! ## Conversions -/

namespace Registry
variable {ρ : Renaming} {K : ShapeId → Prop} {r r' : Registry} {target : Target} {absent absent' : Absent}
  (ha : ∀ d, d.Within K → absent' (d.rename ρ) = (absent d).map (Option.map (Value.rename ρ)))
include ha

theorem convertWith_container {v : Value}
    (hp : ∀ p ∈ v.parts, ∀ d : Descriptor, d.Within K →
      r'.convertWith target absent' (p.rename ρ) (d.rename ρ) = (r.convertWith target absent p d).map (Value.rename ρ))
    {d : Descriptor} (hd : d.Container) (hk : d.Within K) :
    r'.convertWith target absent' (v.rename ρ) (d.rename ρ) =
      (r.convertWith target absent v d).map (Value.rename ρ) := by
  cases hd with
  | keyed schema t =>
    have hmem : ∀ e ∈ schema, e.2.Within K := fun e he => hk.part (List.mem_map_of_mem he)
    rw [Descriptor.rename_keyed, convert_keyed, convert_keyed, Value.rename_fields?, Value.rename_fields,
      Traits.rename_matchOnce, convertFields_rename (fun e he => ha e.2 (hmem e he))
        fun x hx e he => hp x.2 (Value.field_part hx) e.2 (hmem e he), target.rename_copy]
    split
    · cases convertFields absent t.matchOnce schema
        (Entries.mapValues (Part.of (r.convertWith target absent)) v.fields) <;> simp
    · rfl
  | arrayOf items t =>
    have hitems : items.Within K := hk.part (List.mem_singleton_self _)
    have hes := mapM_transport (g := Value.rename ρ) (l := v.elements) (h := id) (k := Value.rename ρ)
      (f := fun e => r.convertWith target absent e items)
      (e := fun e => r'.convertWith target absent' e (items.rename ρ))
      fun e he => hp e (Value.element_part he) items hitems
    rw [List.map_id] at hes
    rw [Descriptor.rename, convert_arrayOf, convert_arrayOf, Value.rename_isArray, Value.rename_elements, hes,
      target.rename_copy]
    split
    · cases v.elements.mapM fun e => r.convertWith target absent e items <;> simp
    · rfl
  | openArray t =>
    rw [Descriptor.rename, convert_bare (.openArray _), convert_bare (.openArray t), target.rename_copy]
    rfl
  | openObject t =>
    rw [Descriptor.rename, convert_bare (.openObject _), convert_bare (.openObject t), target.rename_copy]
    rfl

variable (h : r.Mirrors ρ K r') (hg : r.Grounded) (hg' : r'.Grounded)

include h hg in
theorem convertAs_of_parts {v : Value}
    (hp : ∀ p ∈ v.parts, ∀ d : Descriptor, d.Within K →
      r'.convertWith target absent' (p.rename ρ) (d.rename ρ) = (r.convertWith target absent p d).map (Value.rename ρ))
    {id : ShapeId} (hid : K id) :
    r'.convertAs target absent' (v.rename ρ) (ρ id) = (r.convertAs target absent v id).map (Value.rename ρ) := by
  unfold convertAs
  rw [h.cls id hid, h.description id hid, target.rename_copy]
  cases hc : r.class? id with
  | none => rfl
  | some c =>
    cases hd : r.description? id with
    | none => rfl
    | some d =>
      have hk := h.within id d hid hd
      have hconv := convertWith_container ha hp (Descriptor.container_of_kind (hg id d hd).1) hk
      simp only [Option.map_some, v.rename_carries]
      split
      · cases target with
        | instances => rfl
        | plain =>
          dsimp only
          rw [Value.rename_fields]
          exact plainContent_rename (fun c hc => ha c (hk.part hc))
            fun x hx c hc => hp x.2 (Value.field_part hx) c (hk.part hc)
      · rw [hconv]
        cases r.convertWith target absent v d with
        | none => rfl
        | some w => exact congrArg some (rename_instantiate ρ target c w)

include h hg hg'

theorem convertWith_mirrored (v : Value) : ∀ d : Descriptor, d.Within K →
    r'.convertWith target absent' (v.rename ρ) (d.rename ρ) =
      (r.convertWith target absent v d).map (Value.rename ρ) := by
  induction v using Value.induction_parts with
  | h v hp =>
    intro d
    induction d using Descriptor.induction_parts with
    | h d ih =>
      intro hk
      cases d with
      | primitive p t =>
        rw [Descriptor.rename, convert_bare (.primitive ..), convert_bare (.primitive ..), target.rename_copy]
        rfl
      | cls c t => rw [Descriptor.rename, convert_bare (.cls ..), convert_bare (.cls ..), target.rename_copy]; rfl
      | model id t =>
        rw [Descriptor.rename, convert_model hg, convert_model hg', Value.rename_isNull,
          convertAs_of_parts ha h hg hp (hk id t .root)]
        split <;> rfl
      | mix choices s t =>
        have hfind : (choices.map (Descriptor.rename ρ)).find? (r'.accepts (v.rename ρ)) =
            (choices.find? (r.accepts v)).map (Descriptor.rename ρ) := by
          have hverdict : ∀ c ∈ choices, r'.accepts (v.rename ρ) (c.rename ρ) = r.accepts v c :=
            fun c hc => accepts_mirrored h hg hg' v c (hk.part hc)
          rw [List.find?_map]
          exact congrArg _ (List.find?_congr hverdict)
        rw [Descriptor.rename_mix, convert_mix, convert_mix, Value.rename_isNull, target.rename_copy, hfind]
        split
        · rfl
        · cases hc : choices.find? (r.accepts v) with
          | none => rfl
          | some c =>
            have hm : c ∈ (Descriptor.mix choices s t).parts := List.mem_of_find?_eq_some hc
            exact ih c hm (hk.part hm)
      | _ => exact convertWith_container ha hp (Descriptor.container_of_kind (by simp [Descriptor.kind])) hk

omit ha

theorem absent_mirrored (target : Target) (n : Nat) : ∀ d : Descriptor, d.Within K →
    r'.absent target n (d.rename ρ) = (r.absent target n d).map (Option.map (Value.rename ρ)) := by
  induction n with
  | zero =>
    intro d _
    rw [absent, absent, Descriptor.rename_traits, Traits.rename_default?, Option.isSome_map]
    split <;> rfl
  | succ n ih =>
    intro d hk
    rw [absent, absent, Descriptor.rename_traits, Traits.rename_default?]
    cases d.traits.default? with
    | none => rfl
    | some u =>
      simp only [Option.map_some, convertWith_mirrored ih h hg hg' u d hk]
      cases r.convertWith target (r.absent target n) u d <;> rfl

section
variable {d : Descriptor} (hk : d.Within K) (hn : r'.defaultDepth (d.rename ρ) = r.defaultDepth d)
include hk hn

theorem convert_mirrored (target : Target) (v : Value) :
    r'.convert target (v.rename ρ) (d.rename ρ) = (r.convert target v d).map (Value.rename ρ) := by
  rw [convert, convert, hn]
  exact convertWith_mirrored (absent_mirrored h hg hg' target _) h hg hg' v d hk

theorem buildFields_mirrored (v : Value) : r'.buildFields (v.rename ρ) (d.rename ρ) =
    (r.buildFields v d).map (Entries.mapValues (Value.rename ρ)) := by
  rw [buildFields, buildFields, convert_mirrored h hg hg' hk hn]
  cases r.convert .instances v d with
  | none => rfl
  | some w => cases w <;> simp [Value.rename, Value.renameElements_eq, Value.renameFields_eq, Entries.mapValues_indexed]

theorem toPlain_mirrored (c : Class) (fs : Entries Value) :
    r'.toPlain ⟨c.rename ρ, Entries.mapValues (Value.rename ρ) fs⟩ (d.rename ρ) =
      (r.toPlain ⟨c, fs⟩ d).map (Value.rename ρ) := by
  have ha := absent_mirrored h hg hg' .plain (r.defaultDepth d)
  rw [toPlain, toPlain, hn]
  dsimp only
  rw [fieldParts_eq, fieldParts_eq]
  exact plainContent_rename (fun c hc => ha c (hk.part hc))
    fun x _ c hc => convertWith_mirrored ha h hg hg' x.2 c (hk.part hc)

end

end Registry

end Conformance
