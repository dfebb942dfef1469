import Conformance.Proofs.Congruence
import Conformance.Proofs.Renaming

/-!
# Registries that mirror each other

A verdict depends on the shapes that can be reached from the descriptor, and not on their places.
So it is the same in two registries that describe these shapes alike up to a renaming, whatever
else the registries hold.
-/

namespace Conformance

/-! ## Shapes that are named -/

/-- The descriptor names shapes of `K` alone. -/
def Descriptor.Within (K : ShapeId → Prop) (d : Descriptor) : Prop := ∀ id t, Node (.model id t) d → K id

theorem Descriptor.Within.part {K : ShapeId → Prop} {d c : Descriptor} (h : d.Within K) (hc : c ∈ d.parts) :
    c.Within K :=
  fun id t hn => h id t (.part hc hn)

/-- Up to the renaming `ρ` the registry `r'` has the shapes of `K` as `r` has them, and these are
described through each other alone. -/
structure Registry.Mirrors (ρ : Renaming) (K : ShapeId → Prop) (r r' : Registry) : Prop where
  cls : ∀ id, K id → r'.class? (ρ id) = (r.class? id).map (Class.rename ρ)
  description : ∀ id, K id → r'.description? (ρ id) = (r.description? id).map (Descriptor.rename ρ)
  within : ∀ id d, K id → r.description? id = some d → d.Within K

/-! ## Parts -/

section
variable {ρ : Renaming} {f g : Value → Verdict}

theorem elementsMatch_rename (es : List Value) (items : Descriptor)
    (h : ∀ e ∈ es, ∀ c, c = items ∨ c ∈ items.parts → g (e.rename ρ) (c.rename ρ) = f e c) :
    elementsMatch ((es.map (Value.rename ρ)).map g) (items.rename ρ) = elementsMatch (es.map f) items := by
  have hitems : Items (fun c c' => c' = c.rename ρ ∧ (c = items ∨ c ∈ items.parts)) items (items.rename ρ) := by
    by_cases hm : items.kind = .mix
    · obtain ⟨choices, s, t, rfl⟩ := Descriptor.mix_of_kind hm
      rw [Descriptor.rename_mix]
      exact .union (List.forall₂_map_right_iff.mpr (List.forall₂_same.mpr fun c hc => ⟨rfl, .inr hc⟩)) s t _
    · exact .single hm (by rwa [Descriptor.rename_kind]) ⟨rfl, .inl rfl⟩
  rw [List.map_map]
  refine (elementsMatch_step hitems (List.forall₂_same.mpr ?_)).symm
  rintro e he c _ ⟨rfl, hc⟩
  exact (h e he c hc).symm

theorem fieldsMatch_rename (once : Bool) (schema : Schema) (fs : Entries Value)
    (h : ∀ x ∈ fs, ∀ e ∈ schema, g (x.2.rename ρ) (e.2.rename ρ) = f x.2 e.2) :
    fieldsMatch once (schema.map fun e => (e.1, e.2.rename ρ))
      (Entries.mapValues g (Entries.mapValues (Value.rename ρ) fs)) =
    fieldsMatch once schema (Entries.mapValues f fs) := by
  rw [Entries.mapValues_mapValues]
  refine (fieldsMatch_step (S := fun c c' => c' = c.rename ρ ∧ c ∈ schema.map Prod.snd) once ?_ ?_).symm
  · refine List.forall₂_map_right_iff.mpr (List.forall₂_same.mpr fun e he => ⟨rfl, ?_, rfl, List.mem_map_of_mem he⟩)
    simp [Descriptor.toleratesAbsence]
  · rintro x hx c _ ⟨rfl, hc⟩
    obtain ⟨e, he, rfl⟩ := List.mem_map.mp hc
    exact (h x hx e he).symm

end

/-! ## Verdicts -/

namespace Registry
variable {ρ : Renaming} {K : ShapeId → Prop} {r r' : Registry} (h : r.Mirrors ρ K r') (hg : r.Grounded)
  (hg' : r'.Grounded)

theorem accepts_container {v : Value}
    (hp : ∀ p ∈ v.parts, ∀ d : Descriptor, d.Within K → r'.accepts (p.rename ρ) (d.rename ρ) = r.accepts p d)
    {d : Descriptor} (hd : d.Container) (hk : d.Within K) : r'.accepts (v.rename ρ) (d.rename ρ) = r.accepts v d := by
  cases hn : v.isNull with
  | true => simp [Value.eq_null hn, Value.rename, accepts_null]
  | false =>
    have hn' : (v.rename ρ).isNull = false := by rw [Value.rename_isNull, hn]
    cases hd with
    | openArray t => simp [Descriptor.rename, accepts_openArray hn, accepts_openArray hn']
    | openObject t => simp [Descriptor.rename, accepts_openObject hn, accepts_openObject hn']
    | arrayOf items t =>
      have hitems : items.Within K := hk.part (List.mem_singleton_self _)
      have hes := elementsMatch_rename (ρ := ρ) (f := r.accepts) (g := r'.accepts) v.elements items
        fun e he c hc => hp e (Value.element_part he) c <| by
          rcases hc with rfl | hc
          · exact hitems
          · exact hitems.part hc
      simp only [Descriptor.rename, accepts_arrayOf hn, accepts_arrayOf hn', Value.rename_isArray,
        Value.rename_elements, hes, Traits.rename_isValid]
    | keyed schema t =>
      have hfs := fieldsMatch_rename (ρ := ρ) (f := r.accepts) (g := r'.accepts) t.matchOnce schema v.fields
        fun x hx e he => hp x.2 (Value.field_part hx) e.2 (hk.part (List.mem_map_of_mem he))
      simp only [Descriptor.rename_keyed, accepts_keyed hn, accepts_keyed hn', fieldVerdicts_eq, Value.rename_fields?,
        Value.rename_fields, Traits.rename_matchOnce, hfs, Traits.rename_isValid]

include h hg

theorem checkShape_of_parts {v : Value}
    (hp : ∀ p ∈ v.parts, ∀ d : Descriptor, d.Within K → r'.accepts (p.rename ρ) (d.rename ρ) = r.accepts p d)
    {id : ShapeId} (hid : K id) : r'.checkShape (ρ id) (v.rename ρ) = r.checkShape id v := by
  have hc : ((r'.class? (ρ id)).any fun c => (v.rename ρ).carries c) = (r.class? id).any fun c => v.carries c := by
    rw [h.cls id hid]
    cases r.class? id with
    | none => rfl
    | some c => exact v.rename_carries ρ c
  have hd : (r'.description? (ρ id)).any (r'.accepts (v.rename ρ)) = (r.description? id).any (r.accepts v) := by
    rw [h.description id hid]
    cases hd : r.description? id with
    | none => rfl
    | some d => exact accepts_container hp (Descriptor.container_of_kind (hg id d hd).1) (h.within id d hid hd)
  rw [checkShape, checkShape, hc, hd]

include hg'

theorem accepts_mirrored (v : Value) : ∀ d : Descriptor, d.Within K →
    r'.accepts (v.rename ρ) (d.rename ρ) = r.accepts v d := by
  induction v using Value.induction_parts with
  | h v hp =>
    intro d
    induction d using Descriptor.induction_parts with
    | h d ih =>
      intro hk
      cases hn : v.isNull with
      | true => simp [Value.eq_null hn, Value.rename, accepts_null]
      | false =>
        have hn' : (v.rename ρ).isNull = false := by rw [Value.rename_isNull, hn]
        cases d with
        | primitive p t => simp [Descriptor.rename, accepts_primitive hn, accepts_primitive hn']
        | cls c t => simp [Descriptor.rename, accepts_cls hn, accepts_cls hn', Value.rename_isInstanceOf]
        | model id t =>
          rw [Descriptor.rename, accepts_model hn hg, accepts_model hn' hg', t.rename_isValid,
            checkShape_of_parts h hg hp (hk id t .root)]
        | mix choices s t =>
          have hany : (choices.any fun c => r'.accepts (v.rename ρ) (c.rename ρ)) = choices.any (r.accepts v) :=
            any_congr fun c hc => ih c hc (hk.part hc)
          rw [Descriptor.rename_mix, accepts_mix hn, accepts_mix hn', t.rename_isValid, List.any_map]
          exact congrArg (fun b => ((s != .not) == b) && t.isValid v) hany
        | _ => exact accepts_container hp (Descriptor.container_of_kind (by simp [Descriptor.kind])) hk

theorem checkShape_mirrored (v : Value) {id : ShapeId} (hid : K id) :
    r'.checkShape (ρ id) (v.rename ρ) = r.checkShape id v :=
  checkShape_of_parts h hg (fun p _ => accepts_mirrored h hg hg' p) hid

end Registry

end Conformance
