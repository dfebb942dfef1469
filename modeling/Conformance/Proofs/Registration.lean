import Conformance.Proofs.Mirrors
import Conformance.Proofs.Worlds

/-!
# Registering shapes

A call that registers shapes does all that it was asked for, or leaves the guard as it was. It
describes the shapes it names and no others, and what is settled without them stays settled.
-/

namespace Conformance

/-! ## Verdicts that stay -/

namespace Guard
variable {g g' : Guard}

/-- The shapes that `d` names, those that their descriptions name, and so on. -/
inductive Reaches (g : Guard) (d : Descriptor) : ShapeId → Prop
  | named {id : ShapeId} {t : Traits} (hn : Descriptor.Node (.model id t) d) : Reaches g d id
  | through {id i : ShapeId} {c : Descriptor} {t : Traits} (hr : Reaches g d id) (hc : g.description? id = some c)
      (hn : Descriptor.Node (.model i t) c) : Reaches g d i

theorem owns_of_defined {id : ShapeId} (h : g.isDefined id = true) : g.owns id = true := by
  obtain ⟨d, hd⟩ := Option.isSome_iff_exists.mp h
  obtain ⟨c, hc, -⟩ := Option.bind_eq_some_iff.mp hd
  exact Option.isSome_iff_exists.mpr ⟨c, hc⟩

/-- A shape that is described does not change, so the guards mirror each other where all is described. -/
theorem Extends.mirrors (h : g.Extends g') {d : Descriptor} (hd : ∀ id, g.Reaches d id → g.isDefined id = true) :
    g.registry.Mirrors (.refl _) (g.Reaches d) g'.registry where
  cls id hid := by
    rw [Equiv.refl_apply, Registry.class?_eq, Registry.class?_eq, registry_name?, registry_name?,
      h.name? (owns_of_defined (hd id hid)), Option.map_map]
    rfl
  description id hid := by
    obtain ⟨c, hc⟩ := Option.isSome_iff_exists.mp (hd id hid)
    rw [Equiv.refl_apply, registry_description?, registry_description?, hc, h.description? hc, Option.map_some,
      c.rename_refl]
  within id c hid hc i t hn := .through hid (g.registry_description? id ▸ hc) hn

theorem Extends.matches? (h : g.Extends g') (hg : g.registry.Grounded) (hg' : g'.registry.Grounded) {d : Descriptor}
    (hd : ∀ id, g.Reaches d id → g.isDefined id = true) (v : Value) : g'.matches? v d = g.matches? v d := by
  have hv := Registry.accepts_mirrored (h.mirrors hd) hg hg' v d fun _ _ hn => .named hn
  rw [v.rename_refl, d.rename_refl] at hv
  exact hv

end Guard

/-! ## What is registered -/

/-- The registry `r'` is `r` with the shapes of the names described. -/
structure Registry.Registers (r r' : Registry) (names : List String) (ids : List ShapeId) : Prop where
  issued : names.map r'.lookup = ids.map some
  defined : ∀ id ∈ ids, r'.isDefined id = true
  others : ∀ id, id ∉ ids → r'.description? id = r.description? id
  grown : r'.size = r.size + (names.filter (· ∉ r.names)).length

namespace Registry
variable {r r' : Registry} (hn : r.names.Nodup)
include hn

theorem model_registers [RegexEngine] {name : String} {s : Source} {id : ShapeId} (h : r.model name s = .ok (r', id)) :
    r.Registers r' [name] [id] := by
  obtain ⟨r₁, d, h₁, -, h₃⟩ := model_ok h
  have hsame := define_sameNames h₃
  refine ⟨?_, ?_, fun i hi => ?_, ?_⟩
  · rw [List.map_singleton, List.map_singleton, hsame.lookup, declare_lookup h₁ hn]
  · intro i hi
    cases List.mem_singleton.mp hi
    rw [isDefined, define_description? h₃, if_pos rfl]
    rfl
  · rw [define_description? h₃, if_neg (mt List.mem_singleton.mpr hi), declare_description? h₁]
  · rw [hsame.size, ← size_names, ← size_names, declare_names h₁]
    by_cases hm : name ∈ r.names <;> simp [hm]

theorem loadModels_registers [RegexEngine] {models : Entries Json} (hk : (Entries.keys models).Nodup)
    {ids : List ShapeId}
    (h : r.loadModels models = .ok (r', ids)) : r.Registers r' (Entries.keys models) ids := by
  obtain ⟨r₁, h₁, h⟩ := loadModels_ok hn hk h
  refine ⟨?_, ?_, fun i hi => ?_, ?_⟩
  · have hissued := h.issued.imp fun m id hl => (h.names.lookup m.1).trans hl
    rw [Entries.keys, List.map_map, ← List.forall₂_eq_eq_eq, List.forall₂_map_left_iff, List.forall₂_map_right_iff]
    exact hissued
  · intro id hid
    obtain ⟨m, hm, hl⟩ := forall₂_mem_right h.issued hid
    obtain ⟨i, d, hi, -, hd⟩ := h.described m hm
    cases hl.symm.trans hi
    exact Option.isSome_iff_exists.mpr ⟨d, hd⟩
  · rw [h.kept i hi, declareAll_description? h₁]
  · rw [h.names.size, ← size_names, ← size_names, (declareAll_ok h₁ hk).2, List.length_append]

end Registry

/-- The guard `g'` is `g` with the shapes of the names described, which have the ids `ids`. -/
structure Guard.Registers (g g' : Guard) (names : List String) (ids : List ShapeId) : Prop where
  issued : names.map g'.lookup = ids.map some
  defined : ∀ id ∈ ids, g'.isDefined id = true
  kept : g.Extends g'
  others : ∀ id, id ∉ ids → g'.description? id = g.description? id
  grown : g'.cells.length = g.cells.length + (names.filter fun name => (g.lookup name).isNone).length
  verdicts : ∀ d, (∀ id, g.Reaches d id → g.isDefined id = true) → ∀ v, g'.matches? v d = g.matches? v d

theorem Guard.Leads.registers {g g' : Guard} (h : g.Sound) (h' : g.Leads g') {names : List String} {ids : List ShapeId}
    (hr : g.registry.Registers g'.registry names ids) : g.Registers g' names ids where
  issued := (List.map_congr_left fun name _ => (h'.sound.aligned.lookup name).symm).trans hr.issued
  defined id hid := (Guard.registry_isDefined ..).symm.trans (hr.defined id hid)
  kept := h'.grown
  others id hid := by
    rw [← Guard.registry_description?, hr.others id hid, Guard.registry_description?]
  grown := by
    have hnew : ∀ name ∈ names, decide (name ∉ g.registry.names) = (g.lookup name).isNone := by
      intro name _
      rw [← h.aligned.lookup, Bool.eq_iff_iff, decide_eq_true_eq, Option.isNone_iff_eq_none, Registry.lookup_none]
    rw [← Guard.registry_size, hr.grown, Guard.registry_size, List.filter_congr hnew]
  verdicts d hd v := h'.grown.matches? h.grounded h'.sound.grounded hd v

/-! ## All or nothing -/

namespace Guard
variable [RegexEngine] {g : Guard} (h : g.Sound)
include h

theorem model_registered (name : String) (s : Source) :
    (∃ e, (g.model name s).1 = .error e ∧ (g.model name s).2 = g) ∨
    ∃ id, (g.model name s).1 = .ok id ∧ g.Registers (g.model name s).2 [name] [id] := by
  have hn := h.aligned.registry_nodup
  have hmodel := registry_model h.aligned name s
  cases ha : (g.model name s).1 with
  | error e => exact .inl ⟨e, rfl, model_refused h ha⟩
  | ok id =>
    rw [ha] at hmodel
    exact .inr ⟨id, rfl, (model_leads h name s).registers h (Registry.model_registers hn hmodel)⟩

theorem load_registered (text : String) :
    (∃ e, (g.load text).1 = .error e ∧ (g.load text).2 = g) ∨
    ∃ models ids, Document.read text.toList = .ok models ∧ (g.load text).1 = .ok ids ∧
      g.Registers (g.load text).2 (Entries.keys models) ids := by
  have hn := h.aligned.registry_nodup
  have hload := registry_load h text
  cases ha : (g.load text).1 with
  | error e => exact .inl ⟨e, rfl, load_refused ha⟩
  | ok ids =>
    rw [ha] at hload
    obtain ⟨models, hread, hk, hload⟩ := Registry.load_ok hload
    exact .inr ⟨models, ids, hread, rfl, (load_leads h text).registers h (Registry.loadModels_registers hn hk hload)⟩

end Guard

/-- A call of `model` or `load` is refused and leaves the guard as it was, or registers the shapes
that it names. -/
theorem registered_whole [RegexEngine] (requests : List Request) {k : Nat} {g : Guard}
    (hg : (World.after requests).guards[k]? = some g) :
    (∀ name s, ∃ reply g', ((World.after requests).step (.call k (.model name s))).1 = reply ∧
      (World.after (requests ++ [.call k (.model name s)])).guards[k]? = some g' ∧
      ((∃ e, reply = .refused e ∧ g' = g) ∨ ∃ id, reply = .issued [id] ∧ g.Registers g' [name] [id])) ∧
    ∀ text, ∃ reply g', ((World.after requests).step (.call k (.load text))).1 = reply ∧
      (World.after (requests ++ [.call k (.load text)])).guards[k]? = some g' ∧
      ((∃ e, reply = .unloaded e ∧ g' = g) ∨ ∃ models ids, Document.read text.toList = .ok models ∧
        reply = .issued ids ∧ g.Registers g' (Entries.keys models) ids) := by
  have hsound := (World.after_sound requests).guards g (List.mem_of_getElem? hg)
  refine ⟨fun name s => ?_, fun text => ?_⟩ <;> rw [World.after_append] <;>
    refine ⟨_, _, World.step_reply hg _, World.step_guard hg _, ?_⟩
  · obtain ⟨e, he, hsame⟩ | ⟨id, hid, hr⟩ := Guard.model_registered hsound name s
    · exact .inl ⟨e, congrArg (Reply.of (fun id => .issued [id]) .refused) he, hsame⟩
    · exact .inr ⟨id, congrArg (Reply.of (fun id => .issued [id]) .refused) hid, hr⟩
  · obtain ⟨e, he, hsame⟩ | ⟨models, ids, hread, hids, hr⟩ := Guard.load_registered hsound text
    · exact .inl ⟨e, congrArg (Reply.of .issued .unloaded) he, hsame⟩
    · exact .inr ⟨models, ids, hread, congrArg (Reply.of .issued .unloaded) hids, hr⟩

/-! At the first of the inns a guest that is no object is refused, and so is the extension, since there
is a hall already. Visitors are registered: the yard is new, the guest was declared. -/

def visitors : Json := .object [("models", .object [
  ("Yard", .object [("halls", .array [.string "Hall"])]), ("Guest", .object [("in", .string "Yard")])])]

set_option maxRecDepth 2000 in
theorem registered_whole_inns : ∃ g g', (World.after inns).guards[0]? = some g ∧
    (World.after (inns ++ [.call 0 (.model "Guest" (.token "string"))])).guards[0]? = some g ∧
    (World.after (inns ++ [.call 0 (.load extension.compact)])).guards[0]? = some g ∧
    (World.after (inns ++ [.call 0 (.load visitors.compact)])).guards[0]? = some g' ∧
    g.Registers g' ["Yard", "Guest"] [⟨1, 2⟩, ⟨1, 0⟩] := by
  have hread : Document.read visitors.compact.toList = .ok
      [("Yard", .object [("halls", .array [.string "Hall"])]), ("Guest", .object [("in", .string "Yard")])] := by cbv
  have hread' : Document.read extension.compact.toList = .ok
      [("Yard", .string "object"), ("Hall", .string "object")] := by cbv
  have hrefused : ((World.after inns).step (.call 0 (.model "Guest" (.token "string")))).1.ids = [] := by
    decide +kernel
  have hunloaded : ((World.after inns).step (.call 0 (.load extension.compact))).1.ids = [] := by decide +kernel
  have hissued : ((World.after inns).step (.call 0 (.load visitors.compact))).1.ids = [⟨1, 2⟩, ⟨1, 0⟩] := by
    decide +kernel
  obtain ⟨g, hg⟩ := Option.isSome_iff_exists.mp (show ((World.after inns).guards[0]?).isSome from by decide +kernel)
  obtain ⟨hmodel, hload⟩ := registered_whole inns hg
  obtain ⟨reply, g₁, h₁, hg₁, hcases₁⟩ := hmodel "Guest" (.token "string")
  obtain ⟨reply', g₂, h₂, hg₂, hcases₂⟩ := hload extension.compact
  obtain ⟨reply'', g₃, h₃, hg₃, hcases₃⟩ := hload visitors.compact
  rw [h₁] at hrefused
  rw [h₂] at hunloaded
  rw [h₃] at hissued
  obtain ⟨e, rfl, rfl⟩ | ⟨id, rfl, -⟩ := hcases₁
  · obtain ⟨e', rfl, rfl⟩ | ⟨models, ids, hmodels, rfl, hr⟩ := hcases₂
    · obtain ⟨e'', rfl, -⟩ | ⟨models, ids, hmodels, rfl, hr⟩ := hcases₃
      · cases hissued
      · cases hread.symm.trans hmodels
        cases hissued
        exact ⟨_, _, hg, hg₁, hg₂, hg₃, hr⟩
    · cases hread'.symm.trans hmodels
      cases hunloaded
      cases hr.issued
  · cases hrefused

end Conformance
