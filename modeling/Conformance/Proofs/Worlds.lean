import Conformance.Proofs.Stores

/-!
# Ids of several guards

Guards share the source of their serials. So an id stands for one shape of one guard, from the call
that issued it on.
-/

namespace Conformance

/-! ## Ids that calls issue -/

namespace Guard
variable {g g' : Guard}

theorem owns_serial {id : ShapeId} (h : g.owns id = true) : id.registry = g.serial := by
  by_contra hne
  rw [owns, cell?, if_neg hne] at h
  cases h

theorem Extends.owns (h : g.Extends g') {id : ShapeId} (ho : g.owns id = true) : g'.owns id = true := by
  obtain ⟨c, hc⟩ := Option.isSome_iff_exists.mp ho
  obtain ⟨c', hc', -⟩ := h.cell? hc
  exact Option.isSome_iff_exists.mpr ⟨c', hc'⟩

/-- What a cell does not change in becoming another stays where the id is. -/
theorem Extends.map (h : g.Extends g') {id : ShapeId} (ho : g.owns id = true) {α : Type} {f : Cell → α}
    (hf : ∀ c c', c.Becomes c' → f c' = f c) : (g'.cell? id).map f = (g.cell? id).map f := by
  obtain ⟨c, hc⟩ := Option.isSome_iff_exists.mp ho
  obtain ⟨c', hc', hb⟩ := h.cell? hc
  rw [hc, hc', Option.map_some, Option.map_some, hf c c' hb]

theorem Extends.name? (h : g.Extends g') {id : ShapeId} (ho : g.owns id = true) : g'.name? id = g.name? id :=
  h.map ho fun _ _ hb => hb.name

theorem Extends.class? (h : g.Extends g') {id : ShapeId} (ho : g.owns id = true) : g'.class? id = g.class? id :=
  h.map ho fun _ _ hb => hb.cls

theorem Extends.description? (h : g.Extends g') {id : ShapeId} {d : Descriptor} (hd : g.description? id = some d) :
    g'.description? id = some d := by
  obtain ⟨c, hc, hd⟩ := Option.bind_eq_some_iff.mp hd
  obtain ⟨c', hc', hb⟩ := h.cell? hc
  exact Option.bind_eq_some_iff.mpr ⟨c', hc', hb.description d hd⟩

end Guard

/-- A reply has the ids of the call that was granted. -/
theorem Reply.of_ids {ε α : Type} {granted : α → Reply} {denied : ε → Reply} (hd : ∀ e, (denied e).ids = [])
    {x : Except ε α} {id : ShapeId} (h : id ∈ (Reply.of granted denied x).ids) :
    ∃ a, x = .ok a ∧ id ∈ (granted a).ids := by
  cases x with
  | ok a => exact ⟨a, rfl, h⟩
  | error e =>
    rw [Reply.of, hd] at h
    cases h

namespace Guard
variable {g : Guard} (h : g.Sound)
include h

theorem declare_issued {name : String} {id : ShapeId} (hd : (g.declare name).1 = .ok id) :
    (g.declare name).2.owns id = true := by
  have hd : g.declare name = (.ok id, (g.declare name).2) := Prod.ext hd rfl
  obtain ⟨c, hc, -⟩ := declared_cell h hd
  exact Option.isSome_iff_exists.mpr ⟨c, hc⟩

variable [RegexEngine]

theorem model_issued {name : String} {s : Source} {id : ShapeId} (hd : (g.model name s).1 = .ok id) :
    (g.model name s).2.owns id = true := by
  obtain ⟨e, hm⟩ | ⟨_, g₁, d, g', h₁, -, hg, hm⟩ := model_cases h name s <;> rw [hm] at hd ⊢ <;> cases hd
  obtain ⟨c, hc, -⟩ := declared_cell h h₁
  have hgrown := g₁.define_extends id d
  rw [hg] at hgrown
  exact hgrown.owns (Option.isSome_iff_exists.mpr ⟨c, hc⟩)

theorem load_issued {text : String} {ids : List ShapeId} (hd : (g.load text).1 = .ok ids) :
    ∀ id ∈ ids, (g.load text).2.owns id = true := by
  intro id hid
  have hload := registry_load h text
  rw [hd] at hload
  obtain ⟨models, -, hk, hload⟩ := Registry.load_ok hload
  obtain ⟨r, -, hr⟩ := Registry.loadModels_ok h.aligned.registry_nodup hk hload
  obtain ⟨model, -, hl⟩ := forall₂_mem_right hr.issued hid
  rw [← registry_owns, Registry.owns_eq, hr.names.name?, Registry.lookup_name hl]
  rfl

theorem call_issued {c : Call} {id : ShapeId} (hid : id ∈ (g.call c).1.ids) : (g.call c).2.owns id = true := by
  cases c with
  | declare name =>
    obtain ⟨i, hd, hid⟩ := Reply.of_ids (fun _ => rfl) hid
    exact declare_issued h (List.mem_singleton.mp hid ▸ hd)
  | model name s =>
    obtain ⟨i, hd, hid⟩ := Reply.of_ids (fun _ => rfl) hid
    exact model_issued h (List.mem_singleton.mp hid ▸ hd)
  | value s o =>
    obtain ⟨d, -, hid⟩ := Reply.of_ids (fun _ => rfl) hid
    cases hid
  | load text =>
    obtain ⟨ids, hd, hid⟩ := Reply.of_ids (fun _ => rfl) hid
    exact load_issued h hd id hid

end Guard

/-! ## Runs -/

namespace World
variable {w w' : World}

/-- The tables of the guards are aligned, and no two guards have the same serial. -/
structure Sound (w : World) : Prop where
  guards : ∀ g ∈ w.guards, g.Sound
  serials : (w.guards.map (·.serial)).Nodup
  issued : ∀ g ∈ w.guards, g.serial < w.serial

/-- Every guard of `w` has grown in its place. -/
def Extends (w w' : World) : Prop :=
  ∀ (k : Nat) (g : Guard), w.guards[k]? = some g → ∃ g', w'.guards[k]? = some g' ∧ g.Extends g'

theorem empty_sound : empty.Sound := ⟨nofun, .nil, nofun⟩

theorem Extends.refl (w : World) : w.Extends w := fun _ g h => ⟨g, h, .refl g⟩

theorem Extends.trans {w₁ : World} (h : w.Extends w₁) (h' : w₁.Extends w') : w.Extends w' := by
  intro k g hg
  obtain ⟨g₁, hg₁, he⟩ := h k g hg
  obtain ⟨g', hg', he'⟩ := h' k g₁ hg₁
  exact ⟨g', hg', he.trans he'⟩

/-- An id of one guard resolves to nothing in another. -/
theorem Sound.foreign (h : w.Sound) {k k' : Nat} {g g' : Guard} (hg : w.guards[k]? = some g)
    (hg' : w.guards[k']? = some g') (hk : k' ≠ k) {id : ShapeId} (ho : g.owns id = true) : g'.cell? id = none := by
  have hne : g.serial ≠ g'.serial := by
    intro he
    have hserial : (w.guards.map (·.serial))[k]? = some g.serial := by rw [List.getElem?_map, hg]; rfl
    have hserial' : (w.guards.map (·.serial))[k']? = some g.serial := by rw [List.getElem?_map, hg', he]; rfl
    exact hk ((List.getElem?_inj (List.getElem?_eq_some_iff.mp hserial').1 h.serials).mp (hserial'.trans hserial.symm))
  rw [Guard.cell?, if_neg fun he => hne ((g.owns_serial ho).symm.trans he)]

variable [RegexEngine]

section
variable {k : Nat} {g : Guard} (hk : w.guards[k]? = some g) (c : Call)
include hk

theorem step_reply : (w.step (.call k c)).1 = (g.call c).1 := by rw [step, hk]

theorem step_guard : (w.step (.call k c)).2.guards[k]? = some (g.call c).2 := by
  rw [step, hk]
  exact List.getElem?_set_self (List.getElem?_eq_some_iff.mp hk).1

end

theorem step_sound (h : w.Sound) (q : Request) : (w.step q).2.Sound := by
  cases q with
  | opening =>
    have hnew : w.serial ∉ w.guards.map (·.serial) := by
      intro hm
      obtain ⟨g, hg, he⟩ := List.mem_map.mp hm
      exact Nat.ne_of_lt (h.issued g hg) he
    refine ⟨?_, ?_, ?_⟩
    · intro g hg
      rcases List.mem_append.mp hg with hg | hg
      · exact h.guards g hg
      · cases List.mem_singleton.mp hg
        exact Guard.empty_sound w.serial
    · rw [step, List.map_append]
      change (_ ++ [w.serial]).Nodup
      rw [← List.concat_eq_append]
      exact h.serials.concat hnew
    · intro g hg
      rcases List.mem_append.mp hg with hg | hg
      · exact Nat.lt_succ_of_lt (h.issued g hg)
      · cases List.mem_singleton.mp hg
        exact Nat.lt_succ_self _
  | call k c =>
    cases hk : w.guards[k]? with
    | none => rw [step, hk]; exact h
    | some g =>
      have hg := List.mem_of_getElem? hk
      have hleads := Guard.call_leads (h.guards g hg) c
      have hserial : (g.call c).2.serial = g.serial := hleads.grown.serial
      rw [step, hk]
      dsimp only
      refine ⟨?_, ?_, ?_⟩
      · intro g' hg'
        rcases List.mem_or_eq_of_mem_set hg' with hg' | rfl
        · exact h.guards g' hg'
        · exact hleads.sound
      · rw [map_set_same hk hserial]
        exact h.serials
      · intro g' hg'
        rcases List.mem_or_eq_of_mem_set hg' with hg' | rfl
        · exact h.issued g' hg'
        · exact hserial ▸ h.issued g hg

theorem step_extends (h : w.Sound) (q : Request) : w.Extends (w.step q).2 := by
  intro k g hg
  cases q with
  | opening => exact ⟨g, (List.getElem?_append_left (List.getElem?_eq_some_iff.mp hg).1).trans hg, .refl g⟩
  | call j c =>
    by_cases hj : j = k
    · subst hj
      exact ⟨_, step_guard hg c, (Guard.call_leads (h.guards g (List.mem_of_getElem? hg)) c).grown⟩
    · refine ⟨g, ?_, .refl g⟩
      rw [step]
      cases w.guards[j]? with
      | none => exact hg
      | some _ => exact (List.getElem?_set_ne hj).trans hg

theorem run_sound (h : w.Sound) (requests : List Request) : (w.run requests).Sound ∧ w.Extends (w.run requests) := by
  induction requests generalizing w with
  | nil => exact ⟨h, .refl w⟩
  | cons q requests ih =>
    obtain ⟨hs, he⟩ := ih (step_sound h q)
    exact ⟨hs, (step_extends h q).trans he⟩

theorem after_sound (requests : List Request) : (after requests).Sound := (run_sound empty_sound requests).1

theorem after_append (earlier later : List Request) : after (earlier ++ later) = (after earlier).run later :=
  List.foldl_append

end World

/-- After any calls the tables of a guard are aligned, and compiling, checking and converting know its
shapes by the classes of its cells. What a call issues belongs to the guard, and what belongs to a
guard stands there for the same shape from then on, and for nothing elsewhere. -/
theorem ids_last [RegexEngine] (earlier : List Request) {k : Nat} {g : Guard}
    (hg : (World.after earlier).guards[k]? = some g) :
    g.Aligned ∧ (∀ id, g.owns id = true → ∃ c, g.class? id = some c ∧ g.lookupClass c = some id ∧
      g.registry.class? id = some c ∧ g.registry.lookupClass c = some id) ∧
    (∀ c, ∃ g', (World.after (earlier ++ [.call k c])).guards[k]? = some g' ∧
      ∀ id ∈ ((World.after earlier).step (.call k c)).1.ids, g'.owns id = true) ∧
    ∀ later, ∃ g', (World.after (earlier ++ later)).guards[k]? = some g' ∧ ∀ id, g.owns id = true →
      g'.name? id = g.name? id ∧ g'.class? id = g.class? id ∧
      (∀ d, g.description? id = some d → g'.description? id = some d) ∧
      ∀ k' g'', k' ≠ k → (World.after (earlier ++ later)).guards[k']? = some g'' → g''.cell? id = none := by
  have hworld := World.after_sound earlier
  have hsound := hworld.guards g (List.mem_of_getElem? hg)
  refine ⟨hsound.aligned, fun id ho => ?_, fun c => ?_, fun later => ?_⟩
  · obtain ⟨cell, hcell⟩ := Option.isSome_iff_exists.mp ho
    have hc : g.class? id = some cell.cls := by rw [Guard.class?, hcell]; rfl
    exact ⟨cell.cls, hc, hsound.aligned.lookupClass hc, (hsound.registry_class? id).trans hc,
      hsound.registry_lookupClass hc⟩
  · rw [World.after_append, World.step_reply hg]
    exact ⟨_, World.step_guard hg c, fun id hid => Guard.call_issued hsound hid⟩
  · rw [World.after_append]
    obtain ⟨hworld', hgrown⟩ := World.run_sound hworld later
    obtain ⟨g', hg', he⟩ := hgrown k g hg
    exact ⟨g', hg', fun id ho => ⟨he.name? ho, he.class? ho, fun d hd => he.description? hd,
      fun k' g'' hk hg'' => hworld'.foreign hg' hg'' hk (he.owns ho)⟩⟩

/-! Two inns. At one of them the id of a room that cannot be built goes to the hall, which stays the
hall when a document fails. -/

def inns : List Request :=
  [.opening, .opening, .call 0 (.declare "Guest"), .call 1 (.declare "Street"),
    .call 0 (.model "Room" (.token "string")), .call 0 (.model "Hall" (.keyed [("guests", .arrayOf (.token "Guest"))]))]

def extension : Json := .object [("models", .object [("Yard", .string "object"), ("Hall", .string "object")])]

def rebuilding : List Request :=
  [.call 0 (.load extension.compact), .call 1 (.declare "Yard"), .call 0 (.model "Guest" .openArray)]

theorem ids_last_inns : ∃ g g', (World.after inns).guards[0]? = some g ∧ g.lookup "Hall" = some ⟨1, 1⟩ ∧
    (World.after (inns ++ rebuilding)).guards[0]? = some g' ∧ g'.name? ⟨1, 1⟩ = g.name? ⟨1, 1⟩ ∧
    g'.lookup "Yard" = none ∧ g'.isDefined ⟨1, 0⟩ = true ∧
    ∀ g'', (World.after (inns ++ rebuilding)).guards[1]? = some g'' → g''.cell? ⟨1, 1⟩ = none := by
  have hinns : ((World.after inns).guards[0]?.any fun g => g.lookup "Hall" = some ⟨1, 1⟩ && g.owns ⟨1, 1⟩) = true := by
    decide +kernel
  have hrebuilt : ((World.after (inns ++ rebuilding)).guards[0]?.any fun g =>
      g.lookup "Yard" = none && g.isDefined ⟨1, 0⟩) = true := by decide +kernel
  obtain ⟨g, hg, h⟩ := (Option.any_eq_true ..).mp hinns
  obtain ⟨-, -, -, hlast⟩ := ids_last inns hg
  obtain ⟨g', hg', hids⟩ := hlast rebuilding
  rw [Bool.and_eq_true, decide_eq_true_eq] at h
  rw [hg', Option.any_some, Bool.and_eq_true, decide_eq_true_eq] at hrebuilt
  obtain ⟨hname, -, -, hforeign⟩ := hids ⟨1, 1⟩ h.2
  exact ⟨g, g', hg, h.1, hg', hname, hrebuilt.1, hrebuilt.2, fun g'' => hforeign 1 g'' (by decide)⟩

end Conformance
