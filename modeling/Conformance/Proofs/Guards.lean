import Conformance.Guard
import Conformance.Proofs.Documents

/-!
# The tables of a guard

Names and cells are aligned after every call, finished or failed. What a call on the tables does
is what the call on the registry does that they stand for.
-/

namespace Conformance

namespace Guard
variable {g : Guard}

/-! ## The registry of a guard -/

theorem registry_slot? (g : Guard) (id : ShapeId) :
    g.registry.slot? id = (g.cell? id).map fun c => ⟨c.name, c.description⟩ := by
  rw [Registry.slot?, cell?, registry, List.getElem?_map]
  split <;> rfl

theorem registry_names (g : Guard) : g.registry.names = g.cells.map (·.name) := by
  rw [Registry.names, registry, List.map_map]
  rfl

theorem registry_size (g : Guard) : g.registry.size = g.cells.length := List.length_map ..

theorem registry_name? (g : Guard) (id : ShapeId) : g.registry.name? id = g.name? id := by
  rw [Registry.name?, registry_slot?, name?, Option.map_map]
  rfl

theorem registry_description? (g : Guard) (id : ShapeId) : g.registry.description? id = g.description? id := by
  rw [Registry.description?, registry_slot?, description?]
  cases g.cell? id <;> rfl

theorem registry_isDefined (g : Guard) (id : ShapeId) : g.registry.isDefined id = g.isDefined id :=
  congrArg Option.isSome (g.registry_description? id)

theorem registry_owns (g : Guard) (id : ShapeId) : g.registry.owns id = g.owns id := by
  rw [Registry.owns, registry_slot?, owns, Option.isSome_map]

/-! ## Places -/

theorem cell?_place {id : ShapeId} {c : Cell} (h : g.cell? id = some c) : g.cells[id.index]? = some c := by
  unfold cell? at h
  split at h
  · exact h
  · cases h

theorem cell?_idAt {id : ShapeId} {c : Cell} (h : g.cell? id = some c) : g.idAt id.index = id := by
  unfold cell? at h
  split at h
  · rename_i hserial
    exact congrArg (ShapeId.mk · id.index) hserial.symm
  · cases h

/-! ## Alignment -/

/-- The name at each place of the table is that of the cell at this place, and stands for its id.
Names differ and are valid, and so do classes. -/
structure Aligned (g : Guard) : Prop where
  table : g.names = (g.cells.map (·.name)).mapIdx fun i name => (name, g.idAt i)
  nodup : (g.cells.map (·.name)).Nodup
  valid : ∀ name ∈ g.cells.map (·.name), validName name = true
  classes : (g.cells.map fun c => c.cls.id).Nodup

theorem empty_aligned (serial : Nat) : (empty serial).Aligned := ⟨rfl, .nil, nofun, .nil⟩

section
variable (h : g.Aligned)
include h

theorem Aligned.registry_nodup : g.registry.names.Nodup := g.registry_names ▸ h.nodup

theorem Aligned.keys : Entries.keys g.names = g.cells.map (·.name) := by
  rw [h.table, Entries.keys]
  exact List.ext_getElem? fun i => by simp [List.getElem?_mapIdx, Function.comp_def]

theorem Aligned.lookup (name : String) : g.registry.lookup name = g.lookup name := by
  have hk : (Entries.keys g.names).Nodup := h.keys ▸ h.nodup
  cases hl : g.registry.lookup name with
  | none =>
    have hname : name ∉ Entries.keys g.names := by
      rw [h.keys, ← registry_names]
      exact Registry.lookup_none.mp hl
    exact (Option.not_isSome_iff_eq_none.mp fun hs => hname (Entries.get?_isSome.mp hs)).symm
  | some id =>
    have hname := Registry.lookup_name hl
    rw [Registry.name?_eq, registry_names] at hname
    split at hname
    · rename_i hid
      have hm : (name, id) ∈ g.names := by
        rw [h.table]
        refine List.mem_of_getElem? (i := id.index) ?_
        rw [List.getElem?_mapIdx, hname, Option.map_some, idAt]
        exact congrArg (fun i => some (name, i)) (congrArg (ShapeId.mk · id.index) hid.symm)
      exact (Entries.get?_of_mem hk hm).symm
    · cases hname

theorem Aligned.lookupClass {id : ShapeId} {c : Class} (hc : g.class? id = some c) : g.lookupClass c = some id := by
  obtain ⟨k, hk, rfl⟩ := Option.map_eq_some_iff.mp hc
  have hfind : (g.cells.findIdx? fun x => x.cls.same k.cls) = some id.index :=
    findIdx?_of_nodup h.classes (cell?_place hk)
  rw [Guard.lookupClass, hfind, Option.map_some, cell?_idAt hk]

end

end Guard

/-! ## Later states -/

/-- The cell keeps its name and its class, and a description once it has one. -/
structure Cell.Becomes (c c' : Cell) : Prop where
  name : c'.name = c.name
  cls : c'.cls = c.cls
  description : ∀ d, c.description = some d → c'.description = some d

theorem Cell.Becomes.refl (c : Cell) : c.Becomes c := ⟨rfl, rfl, fun _ h => h⟩

/-- Every cell of `g` has its place in `g'`. -/
structure Guard.Extends (g g' : Guard) : Prop where
  serial : g'.serial = g.serial
  cell : ∀ (i : Nat) (c : Cell), g.cells[i]? = some c → ∃ c' : Cell, g'.cells[i]? = some c' ∧ c.Becomes c'

namespace Guard
variable {g g' g₁ : Guard}

theorem Extends.refl (g : Guard) : g.Extends g := ⟨rfl, fun _ c h => ⟨c, h, .refl c⟩⟩

theorem Extends.trans (h : g.Extends g₁) (h' : g₁.Extends g') : g.Extends g' := by
  refine ⟨h'.serial.trans h.serial, fun i c hc => ?_⟩
  obtain ⟨c₁, hc₁, hb⟩ := h.cell i c hc
  obtain ⟨c', hc', hb'⟩ := h'.cell i c₁ hc₁
  exact ⟨c', hc', hb'.name.trans hb.name, hb'.cls.trans hb.cls, fun d hd => hb'.description d (hb.description d hd)⟩

theorem Extends.cell? (h : g.Extends g') {id : ShapeId} {c : Cell} (hc : g.cell? id = some c) :
    ∃ c', g'.cell? id = some c' ∧ c.Becomes c' := by
  unfold Guard.cell? at hc ⊢
  rw [h.serial]
  split at hc
  · rename_i hid
    rw [if_pos hid]
    exact h.cell id.index c hc
  · cases hc

/-! ## Describing a shape -/

theorem define_cases (g : Guard) (id : ShapeId) (d : Descriptor) :
    (∃ c, g.cell? id = some c ∧ c.description = none ∧
      g.define id d = (.ok (), { g with cells := g.cells.set id.index { c with description := some d } })) ∨
    ∃ e, g.define id d = (.error e, g) := by
  unfold define
  cases hc : g.cell? id with
  | none => exact .inr ⟨_, rfl⟩
  | some c =>
    cases hd : c.description with
    | none => exact .inl ⟨c, rfl, hd, by simp [hd]⟩
    | some e => exact .inr ⟨.duplicateModel c.name, by simp [hd]⟩

section
variable (id : ShapeId) (d : Descriptor)

/-- What does not look at descriptions does not change. -/
theorem define_map {α : Type} {f : Cell → α} (hf : ∀ c d, f { c with description := some d } = f c) :
    (g.define id d).2.cells.map f = g.cells.map f := by
  obtain ⟨c, hc, -, h⟩ | ⟨e, h⟩ := g.define_cases id d
  · rw [h]
    exact map_set_same (cell?_place hc) (hf c d)
  · rw [h]

theorem define_serial : (g.define id d).2.serial = g.serial ∧ (g.define id d).2.names = g.names := by
  obtain ⟨c, -, -, h⟩ | ⟨e, h⟩ := g.define_cases id d <;> rw [h] <;> exact ⟨rfl, rfl⟩

theorem define_aligned (h : g.Aligned) : (g.define id d).2.Aligned := by
  obtain ⟨hserial, hnames⟩ := g.define_serial id d
  have hid : (g.define id d).2.idAt = g.idAt := funext fun i => congrArg (ShapeId.mk · i) hserial
  have hmap := g.define_map id d (f := (·.name)) fun _ _ => rfl
  refine ⟨?_, hmap ▸ h.nodup, hmap ▸ h.valid, ?_⟩
  · rw [hnames, hmap, hid]
    exact h.table
  · rw [g.define_map id d (f := fun c => c.cls.id) fun _ _ => rfl]
    exact h.classes

theorem define_extends : g.Extends (g.define id d).2 := by
  refine ⟨(g.define_serial id d).1, fun i c hc => ?_⟩
  obtain ⟨k, hk, hu, h⟩ | ⟨e, h⟩ := g.define_cases id d
  · rw [h]
    have hk := cell?_place hk
    by_cases hi : id.index = i
    · subst hi
      cases hc.symm.trans hk
      refine ⟨_, List.getElem?_set_self (List.getElem?_eq_some_iff.mp hk).1, rfl, rfl, fun d hd => ?_⟩
      rw [hu] at hd
      cases hd
    · exact ⟨c, (List.getElem?_set_ne hi).trans hc, .refl c⟩
  · rw [h]
    exact ⟨c, hc, .refl c⟩

end

end Guard

/-! ## Sound guards -/

namespace Guard
variable {g g' : Guard}

/-- The tables are aligned, a cell has the class that its id stands for, and descriptions are objects
or arrays that refuse null. -/
structure Sound (g : Guard) : Prop where
  aligned : g.Aligned
  made : ∀ (i : Nat) (c : Cell), g.cells[i]? = some c → c.cls = .base (.shape (g.idAt i)) c.name
  topLevel : ∀ c ∈ g.cells, ∀ d, c.description = some d →
    (d.kind = .object ∨ d.kind = .array) ∧ d.traits.allowNull = false

/-- The guard `g'` is one that calls on `g` can lead to. -/
structure Leads (g g' : Guard) : Prop where
  sound : g'.Sound
  grown : g.Extends g'

theorem empty_sound (serial : Nat) : (empty serial).Sound := ⟨empty_aligned serial, nofun, nofun⟩

theorem Sound.grounded (h : g.Sound) : g.registry.Grounded := by
  intro id d hd
  rw [registry_description?] at hd
  obtain ⟨c, hc, hd⟩ := Option.bind_eq_some_iff.mp hd
  exact h.topLevel c (List.mem_of_getElem? (cell?_place hc)) d hd

theorem Sound.cell_class (h : g.Sound) {id : ShapeId} {c : Cell} (hc : g.cell? id = some c) :
    c.cls = .base (.shape id) c.name := by
  have hmade := h.made id.index c (cell?_place hc)
  rwa [cell?_idAt hc] at hmade

/-- Compiling, checking and converting know the class of a cell. -/
theorem Sound.registry_class? (h : g.Sound) (id : ShapeId) : g.registry.class? id = g.class? id := by
  rw [Registry.class?, registry_slot?, class?, Option.map_map]
  cases hc : g.cell? id with
  | none => rfl
  | some c => exact congrArg some (h.cell_class hc).symm

theorem Sound.registry_lookupClass (h : g.Sound) {id : ShapeId} {c : Class} (hc : g.class? id = some c) :
    g.registry.lookupClass c = some id := by
  obtain ⟨k, hk, rfl⟩ := Option.map_eq_some_iff.mp hc
  have ho : g.registry.owns id = true := by rw [registry_owns, owns, hk]; rfl
  rw [h.cell_class hk]
  exact if_pos ho

theorem Sound.leads (h : g.Sound) : g.Leads g := ⟨h, .refl _⟩

theorem Leads.trans {g₁ : Guard} (h : g.Leads g₁) (h' : g₁.Leads g') : g.Leads g' :=
  ⟨h'.sound, h.grown.trans h'.grown⟩

/-! ## Reserving a name -/

section
variable (h : g.Sound) {name : String} (hl : g.lookup name = none)
include h hl

theorem unlisted : name ∉ g.cells.map (·.name) := by
  rw [← h.aligned.keys, ← Entries.get?_isSome]
  exact Option.not_isSome_iff_eq_none.mpr hl

theorem reserve_names : (g.reserve name).names = g.names ++ [(name, g.idAt g.cells.length)] :=
  Entries.insert_new (h.aligned.keys ▸ unlisted h hl) _

theorem reserve_leads (hv : validName name = true) : g.Leads (g.reserve name) := by
  have hmap : (g.reserve name).cells.map (·.name) = g.cells.map (·.name) ++ [name] := by
    rw [reserve, List.map_append]; rfl
  have hclasses : ((g.reserve name).cells.map fun c => c.cls.id) =
      (g.cells.map fun c => c.cls.id) ++ [.shape (g.idAt g.cells.length)] := by
    rw [reserve, List.map_append]; rfl
  -- the id of the new cell is that of no other, and so is its class
  have hnew : ClassId.shape (g.idAt g.cells.length) ∉ g.cells.map fun c => c.cls.id := by
    intro hm
    obtain ⟨c, hc, he⟩ := List.mem_map.mp hm
    obtain ⟨i, hi⟩ := List.mem_iff_getElem?.mp hc
    rw [h.made i c hi] at he
    cases he
    exact Nat.lt_irrefl _ (List.getElem?_eq_some_iff.mp hi).1
  refine ⟨⟨⟨?_, ?_, ?_, ?_⟩, ?_, ?_⟩, rfl, ?_⟩
  · rw [reserve_names h hl, hmap, List.mapIdx_append, h.aligned.table]
    simp [idAt, reserve]
  · rw [hmap, ← List.concat_eq_append]
    exact h.aligned.nodup.concat (unlisted h hl)
  · rw [hmap]
    intro n hn
    rcases List.mem_append.mp hn with hn | hn
    · exact h.aligned.valid n hn
    · exact List.mem_singleton.mp hn ▸ hv
  · rw [hclasses, ← List.concat_eq_append]
    exact h.aligned.classes.concat hnew
  · intro i c hc
    by_cases hi : i < g.cells.length
    · exact h.made i c ((List.getElem?_append_left hi).symm.trans hc)
    · have hlast : i < (g.reserve name).cells.length := (List.getElem?_eq_some_iff.mp hc).1
      obtain rfl : i = g.cells.length := by
        rw [reserve, List.length_append, List.length_singleton] at hlast
        omega
      cases List.getElem?_concat_length.symm.trans hc
      rfl
  · intro c hc
    rcases List.mem_append.mp hc with hc | hc
    · exact h.topLevel c hc
    · cases List.mem_singleton.mp hc
      exact nofun
  · intro i c hc
    exact ⟨c, (List.getElem?_append_left (List.getElem?_eq_some_iff.mp hc).1).trans hc, .refl c⟩

end

theorem reserve_cell? (g : Guard) (name : String) : (g.reserve name).cell? (g.idAt g.cells.length) =
    some ⟨name, .base (.shape (g.idAt g.cells.length)) name, none⟩ := by
  rw [cell?]
  exact (if_pos rfl).trans List.getElem?_concat_length

/-- What is given up right after it was reserved leaves the tables as they were. -/
theorem retract_reserve (h : g.Sound) {name : String} (hl : g.lookup name = none) :
    (g.reserve name).retract (g.idAt g.cells.length) = g := by
  have hnames : (g.reserve name).names.eraseP (·.1 = name) = g.names := by
    rw [reserve_names h hl, List.eraseP_append_right]
    · simp
    · intro e he
      have hkey := List.mem_map_of_mem (f := Prod.fst) he
      have hne : e.1 ≠ name := fun e' => unlisted h hl (h.aligned.keys ▸ e' ▸ hkey)
      simpa using hne
  -- the cell is the last one and has no description, so it can be given up
  rw [retract, if_pos ⟨by simp [reserve, idAt], by rw [reserve_cell?]; rfl⟩]
  simp only [reserve, List.getLast?_concat, List.dropLast_concat]
  exact congrArg (fun names => { g with names }) hnames

end Guard

end Conformance
