import Conformance.Proofs.Documents

/-!
# Calls that come in time

A class or an id comes into being when a registry issues it, so no call mentions a shape before
its declaration: its source tells no two ids apart that are yet to be issued. The descriptions of
a registry do not tell them apart either, whatever is declared later.
-/

namespace Conformance

/-- The renaming moves only ids that the registry has yet to issue. -/
def Registry.Spares (r : Registry) (ρ : Renaming) : Prop :=
  ∀ id, ¬ (id.registry = r.serial ∧ r.size ≤ id.index) → ρ id = id

/-- The source mentions no shape that the registry has yet to issue. -/
def Source.Timely (r : Registry) (s : Source) : Prop := ∀ ρ, r.Spares ρ → s.rename ρ = s

/-- The runs of calls that mention shapes after their declaration. -/
inductive Timely [RegexEngine] : Registry → Prop
  | empty (serial : Nat) : Timely (.empty serial)
  | declare {r r' : Registry} {name : String} {id : ShapeId} (hr : Timely r) (h : r.declare name = .ok (r', id)) :
      Timely r'
  | model {r r' : Registry} {name : String} {s : Source} {id : ShapeId} (hr : Timely r) (hs : s.Timely r)
      (h : r.model name s = .ok (r', id)) : Timely r'
  | load {r r' : Registry} {text : String} {ids : List ShapeId} (hr : Timely r) (h : r.load text = .ok (r', ids)) :
      Timely r'

namespace Registry
variable {r r' : Registry}

/-! ## What a call describes -/

theorem model_described [RegexEngine] {name : String} {s : Source} {id i : ShapeId} {d : Descriptor}
    (h : r.model name s = .ok (r', id)) (hd : r'.description? i = some d) :
    r.description? i = some d ∨ ∃ r₁ : Registry, r₁.SameNames r' ∧ r₁.compileTopLevel s = .ok d := by
  obtain ⟨r₁, d', h₁, h₂, h₃⟩ := model_ok h
  rw [define_description? h₃] at hd
  split at hd
  · cases hd
    exact .inr ⟨r₁, define_sameNames h₃, h₂⟩
  · exact .inl (declare_description? h₁ i ▸ hd)

theorem reading_ok [RegexEngine] {name : String} {node : Json} {d : Descriptor} (h : r.reading name node = .ok d) :
    ∃ s, r.compileTopLevel s = .ok d := by
  obtain ⟨s, -, h⟩ := bind_eq_ok.mp h
  exact ⟨s, located_ok h⟩

section
variable [RegexEngine] (hn : r.names.Nodup) {models : Entries Json} (hk : (Entries.keys models).Nodup)
  {ids : List ShapeId}
  (h : r.loadModels models = .ok (r', ids))
include hn hk h

theorem loadModels_described {i : ShapeId} {d : Descriptor} (hd : r'.description? i = some d) :
    r.description? i = some d ∨
      ∃ (r₁ : Registry) (name : String) (node : Json), r₁.SameNames r' ∧ r₁.reading name node = .ok d := by
  obtain ⟨r₁, h₁, h⟩ := loadModels_ok hn hk h
  by_cases hi : i ∈ ids
  · obtain ⟨m, hm, hl⟩ := forall₂_mem_right h.issued hi
    obtain ⟨id, d', hl', hread, hdesc⟩ := h.described m hm
    cases hl.symm.trans hl'
    cases hd.symm.trans hdesc
    exact .inr ⟨r₁, m.1, m.2, h.names, hread⟩
  · rw [h.kept i hi, declareAll_description? h₁] at hd
    exact .inl hd

theorem loadModels_grounded (hg : r.Grounded) : r'.Grounded := by
  intro id d hd
  rcases loadModels_described hn hk h hd with hd | ⟨r₁, name, node, -, hd⟩
  · exact hg id d hd
  · obtain ⟨s, hd⟩ := reading_ok hd
    exact (compileTopLevel_ok hd).2

end

/-! ## What a call keeps -/

/-- The registry `r'` has grown from `r`: it issues ids with the same serial, and names stay distinct. -/
structure Grows (r r' : Registry) : Prop where
  serial : r'.serial = r.serial
  nodup : r'.names.Nodup
  size : r.size ≤ r'.size

theorem Grows.same {r₁ : Registry} (h : r.Grows r₁) (hs : r₁.SameNames r') : r.Grows r' :=
  ⟨hs.serial.trans h.serial, hs.names ▸ h.nodup, hs.size ▸ h.size⟩

section
variable (hn : r.names.Nodup)
include hn

theorem declare_grows {name : String} {id : ShapeId} (h : r.declare name = .ok (r', id)) : r.Grows r' where
  serial := declare_serial h
  nodup := declare_nodup h hn
  size := by
    rw [← size_names, ← size_names, declare_names h]
    split
    · exact Nat.le_refl _
    · simp

theorem model_grows [RegexEngine] {name : String} {s : Source} {id : ShapeId}
    (h : r.model name s = .ok (r', id)) : r.Grows r' := by
  obtain ⟨r₁, d, h₁, -, h₃⟩ := model_ok h
  exact (declare_grows hn h₁).same (define_sameNames h₃)

theorem load_grows [RegexEngine] {text : String} {ids : List ShapeId} (h : r.load text = .ok (r', ids)) :
    r.Grows r' := by
  obtain ⟨models, -, hk, h⟩ := load_ok h
  obtain ⟨r₁, h₁, h⟩ := loadModels_ok hn hk h
  obtain ⟨hs, hnames⟩ := declareAll_ok h₁ hk
  have hsize : r.size ≤ r₁.size := by
    rw [← size_names, ← size_names, hnames, List.length_append]
    exact Nat.le_add_right ..
  exact Grows.same ⟨hs, (declareAll_name? h₁ hn).1, hsize⟩ h.names

end

end Registry

/-! ## Spared ids -/

namespace Registry
variable {r r' : Registry} {ρ : Renaming}

theorem Spares.of_grows (h : r'.Spares ρ) (hg : r.Grows r') : r.Spares ρ :=
  fun id hid => h id fun ⟨h₁, h₂⟩ => hid ⟨h₁.trans hg.serial, Nat.le_trans hg.size h₂⟩

theorem Spares.of_same (h : r'.Spares ρ) (hs : r.SameNames r') : r.Spares ρ :=
  fun id hid => h id fun ⟨h₁, h₂⟩ => hid ⟨h₁.trans hs.serial, hs.size ▸ h₂⟩

theorem Spares.owned (h : r.Spares ρ) {id : ShapeId} (ho : r.owns id = true) : ρ id = id :=
  h id fun ⟨_, hi⟩ => absurd ((owns_iff r id).mp ho).2 (Nat.not_lt.mpr hi)

/-- The registry does not see what has yet to be issued. -/
theorem Spares.echoes (h : r.Spares ρ) : r.Echoes ρ r where
  lookup name := by
    cases hl : r.lookup name with
    | none => rfl
    | some id => rw [Option.map_some, h.owned (by rw [owns_eq, lookup_name hl]; rfl)]
  owns id := by
    refine Bool.eq_iff_iff.mpr ⟨fun ho => ?_, fun ho => by rwa [h.owned ho]⟩
    rwa [ρ.injective (h.owned ho)] at ho

theorem compileTopLevel_fixed [RegexEngine] (h : r.Spares ρ) {s : Source} (hs : s.rename ρ = s) {d : Descriptor}
    (hd : r.compileTopLevel s = .ok d) : d.rename ρ = d := by
  have hrename := compileTopLevel_rename h.echoes s
  rw [hs, hd] at hrename
  exact (Except.ok.inj hrename).symm

theorem reading_fixed [RegexEngine] (h : r.Spares ρ) {name : String} {node : Json} {d : Descriptor}
    (hd : r.reading name node = .ok d) : d.rename ρ = d := by
  have hrename := reading_rename h.echoes name node
  rw [hd] at hrename
  exact (Except.ok.inj hrename).symm

end Registry

namespace Timely
variable [RegexEngine] {r : Registry}

theorem nodup (h : Timely r) : r.names.Nodup := by
  induction h with
  | empty serial => exact List.nodup_nil
  | declare _ h ih => exact (Registry.declare_grows ih h).nodup
  | model _ _ h ih => exact (Registry.model_grows ih h).nodup
  | load _ h ih => exact (Registry.load_grows ih h).nodup

theorem grounded (h : Timely r) : r.Grounded := by
  induction h with
  | empty serial =>
    intro id d hd
    simp [Registry.description?, Registry.slot?, Registry.empty] at hd
  | declare _ h ih => exact fun id d hd => ih id d (Registry.declare_description? h id ▸ hd)
  | model _ _ h ih =>
    intro id d hd
    rcases Registry.model_described h hd with hd | ⟨r₁, -, hd⟩
    · exact ih id d hd
    · exact (Registry.compileTopLevel_ok hd).2
  | load hr h ih =>
    obtain ⟨models, -, hk, h⟩ := Registry.load_ok h
    exact Registry.loadModels_grounded hr.nodup hk h ih

/-- A description does not change under a renaming of ids that have yet to be issued. -/
theorem description_fixed (h : Timely r) {ρ : Renaming} : r.Spares ρ →
    ∀ {id d}, r.description? id = some d → d.rename ρ = d := by
  induction h with
  | empty serial =>
    intro _ id d hd
    simp [Registry.description?, Registry.slot?, Registry.empty] at hd
  | declare hr h ih =>
    exact fun hρ _ _ hd => ih (hρ.of_grows (Registry.declare_grows hr.nodup h)) (Registry.declare_description? h _ ▸ hd)
  | model hr hs h ih =>
    intro hρ id d hd
    have hρ' := hρ.of_grows (Registry.model_grows hr.nodup h)
    rcases Registry.model_described h hd with hd | ⟨r₁, hsame, hd⟩
    · exact ih hρ' hd
    · exact Registry.compileTopLevel_fixed (hρ.of_same hsame) (hs ρ hρ') hd
  | load hr h ih =>
    intro hρ id d hd
    have hρ' := hρ.of_grows (Registry.load_grows hr.nodup h)
    obtain ⟨models, -, hk, h⟩ := Registry.load_ok h
    rcases Registry.loadModels_described hr.nodup hk h hd with hd | ⟨r₁, name, node, hsame, hd⟩
    · exact ih hρ' hd
    · exact Registry.reading_fixed (hρ.of_same hsame) hd

end Timely

end Conformance
