import Conformance.Proofs.MirroredConversions
import Conformance.Proofs.Plainness
import Conformance.Proofs.Shapes
import Conformance.Proofs.Timely

/-!
# The order of models in a document

The order gives the shapes their places and decides which of them are described while a model is
read. Two orders of the same models give registries that mirror each other: the renaming takes
each shape to the one of the same name.
-/

namespace Conformance

namespace Registry
variable {r r' : Registry}

/-! ## Shapes of the same name -/

/-- Both registries know the same names, in orders of their own. -/
structure Reorders (r r' : Registry) : Prop where
  serial : r'.serial = r.serial
  names : r.names.Perm r'.names
  nodup : r.names.Nodup

theorem Reorders.symm (h : r.Reorders r') : r'.Reorders r :=
  ⟨h.serial.symm, h.names.symm, h.names.nodup_iff.mp h.nodup⟩

/-- The id that the name of the shape has in the other registry. -/
def counterpart (r r' : Registry) (id : ShapeId) : ShapeId := ((r.name? id).bind r'.lookup).getD id

theorem owns_of_description {id : ShapeId} {d : Descriptor} (h : r.description? id = some d) : r.owns id = true := by
  obtain ⟨s, hs, -⟩ := Option.bind_eq_some_iff.mp h
  rw [owns, hs]
  rfl

theorem name?_mem {id : ShapeId} {name : String} (h : r.name? id = some name) : name ∈ r.names := by
  rw [name?_eq] at h
  split at h
  · exact List.mem_of_getElem? h
  · cases h

section
variable (h : r.Reorders r')
include h

theorem Reorders.name? (id : ShapeId) : r'.name? (r.counterpart r' id) = r.name? id := by
  unfold counterpart
  cases hn : r.name? id with
  | none =>
    rw [Option.bind_none, Option.getD_none]
    rw [name?_eq] at hn ⊢
    rw [h.serial]
    split
    · rename_i hs
      rw [if_pos hs, List.getElem?_eq_none_iff, h.names.length_eq] at hn
      exact List.getElem?_eq_none hn
    · rfl
  | some name =>
    obtain ⟨id', hl⟩ := lookup_some (h.names.mem_iff.mp (name?_mem hn))
    rw [Option.bind_some, hl, Option.getD_some, lookup_name hl]

theorem Reorders.counterpart_counterpart (id : ShapeId) : r'.counterpart r (r.counterpart r' id) = id := by
  rw [counterpart, h.name?]
  cases hn : r.name? id with
  | none => rw [Option.bind_none, Option.getD_none, counterpart, hn]; rfl
  | some name => rw [Option.bind_some, lookup_of_name h.nodup hn, Option.getD_some]

def Reorders.renaming : Renaming :=
  ⟨r.counterpart r', r'.counterpart r, h.counterpart_counterpart, h.symm.counterpart_counterpart⟩

theorem Reorders.lookup (name : String) : r'.lookup name = (r.lookup name).map h.renaming := by
  cases hl : r.lookup name with
  | none => exact lookup_none.mpr fun hm => lookup_none.mp hl (h.names.mem_iff.mpr hm)
  | some id => exact lookup_of_name h.symm.nodup ((h.name? id).trans (lookup_name hl))

theorem Reorders.echoes : r.Echoes h.renaming r' where
  lookup := h.lookup
  owns id := by rw [owns_eq, owns_eq]; exact congrArg _ (h.name? id)

end

/-! ## Depth of defaults -/

-- counts are sums from the zero of the core library
attribute [local instance (high)] Zero.ofOfNat0

theorem defaultCount_rename (ρ : Renaming) (d : Descriptor) : defaultCount (d.rename ρ) = defaultCount d := by
  induction d using Descriptor.induction_parts with
  | h d ih =>
    have hparts : (d.parts.map (Descriptor.rename ρ)).map defaultCount = d.parts.map defaultCount := by
      rw [List.map_map]
      exact List.map_congr_left ih
    have hcount : defaultCount.count (d.traits.rename ρ) = defaultCount.count d.traits := by
      simp [defaultCount.count, Traits.rename]
    rw [defaultCount_eq, defaultCount_eq d, Descriptor.rename_parts, hparts, Descriptor.rename_traits, hcount]

/-- The nodes with a default in the description of the name. -/
def defaultsNamed (r : Registry) (name : String) : Nat :=
  (((r.lookup name).bind r.description?).map defaultCount).getD 0

theorem defaultDepth_eq (hn : r.names.Nodup) (d : Descriptor) :
    r.defaultDepth d = defaultCount d + (r.names.map r.defaultsNamed).sum := by
  have hslots : (r.slots.map fun s => (s.description.map defaultCount).getD 0) = r.names.map r.defaultsNamed := by
    rw [names, List.map_map]
    refine List.map_congr_left fun s hs => ?_
    obtain ⟨i, hi⟩ := List.mem_iff_getElem?.mp hs
    have hslot : r.slot? (r.idAt i) = some s := by rw [slot?, idAt, if_pos rfl]; exact hi
    have hl : r.lookup s.name = some (r.idAt i) := lookup_of_name hn (by rw [name?, hslot]; rfl)
    rw [Function.comp_apply, defaultsNamed, hl, Option.bind_some, description?, hslot]
    rfl
  rw [defaultDepth, hslots]

/-! ## Two orders of a document -/

section
variable {g d₁ d₂ r₁ r₂ : Registry} {models models' : Entries Json} {ids₁ ids₂ : List ShapeId}

theorem declared_reorders (hn : g.names.Nodup) (hk : (Entries.keys models).Nodup) (hp : models.Perm models')
    (h₁ : g.declareAll (Entries.keys models) = .ok d₁) (h₂ : g.declareAll (Entries.keys models') = .ok d₂) :
    d₁.Reorders d₂ := by
  have hkeys : (Entries.keys models).Perm (Entries.keys models') := hp.map Prod.fst
  obtain ⟨hs₁, hnames₁⟩ := declareAll_ok h₁ hk
  obtain ⟨hs₂, hnames₂⟩ := declareAll_ok h₂ (hkeys.nodup_iff.mp hk)
  refine ⟨hs₂.trans hs₁.symm, ?_, (declareAll_name? h₁ hn).1⟩
  rw [hnames₁, hnames₂]
  exact (hkeys.filter _).append_left _

/-- A shape of the guard keeps its place. -/
theorem declared_spares (hn : g.names.Nodup) {ns ns' : List String} (h₁ : g.declareAll ns = .ok d₁)
    (h₂ : g.declareAll ns' = .ok d₂) (hs : d₁.serial = g.serial) (h : d₁.Reorders d₂) : g.Spares h.renaming := by
  intro id hid
  change d₁.counterpart d₂ id = id
  unfold counterpart
  by_cases hserial : id.registry = g.serial
  · have ho : g.owns id = true := (owns_iff g id).mpr ⟨hserial, Nat.lt_of_not_le fun hi => hid ⟨hserial, hi⟩⟩
    rw [owns_eq] at ho
    obtain ⟨name, hname⟩ := Option.isSome_iff_exists.mp ho
    rw [(declareAll_name? h₁ hn).2 id name hname, Option.bind_some,
      lookup_of_name h.symm.nodup ((declareAll_name? h₂ hn).2 id name hname), Option.getD_some]
  · rw [name?_eq, if_neg (fun e => hserial (e.trans hs)), Option.bind_none, Option.getD_none]

section
variable [RegexEngine] (hg : Timely g) (h₁ : g.declareAll (Entries.keys models) = .ok d₁)
  (h₂ : g.declareAll (Entries.keys models') = .ok d₂) (hp : models.Perm models') (h : d₁.Reorders d₂)
  (hspares : g.Spares h.renaming)
  (hd₁ : d₁.Describes models r₁ ids₁) (hd₂ : d₂.Describes models' r₂ ids₂)
include hg h₁ h₂ hp hspares hd₁ hd₂

theorem described_description (id : ShapeId) :
    r₂.description? (h.renaming id) = (r₁.description? id).map (Descriptor.rename h.renaming) := by
  by_cases hid : id ∈ ids₁
  · obtain ⟨m, hm, hl⟩ := forall₂_mem_right hd₁.issued hid
    obtain ⟨i, e, hl', hread, hdesc⟩ := hd₁.described m hm
    cases hl.symm.trans hl'
    obtain ⟨i₂, e₂, hl₂, hread₂, hdesc₂⟩ := hd₂.described m (hp.mem_iff.mp hm)
    rw [h.lookup, hl] at hl₂
    cases hl₂
    rw [reading_rename h.echoes, hread] at hread₂
    cases hread₂
    rw [hdesc, hdesc₂]
    rfl
  · have hid₂ : h.renaming id ∉ ids₂ := by
      intro hm
      obtain ⟨m, hm, hl⟩ := forall₂_mem_right hd₂.issued hm
      obtain ⟨i, hi, hl₁⟩ := forall₂_mem_left hd₁.issued (hp.mem_iff.mpr hm)
      rw [h.lookup, hl₁] at hl
      exact hid (h.renaming.injective (Option.some_inj.mp hl) ▸ hi)
    rw [hd₁.kept id hid, hd₂.kept _ hid₂, declareAll_description? h₁, declareAll_description? h₂]
    -- what is left was described before, so it does not change
    cases hd : g.description? id with
    | some d =>
      rw [hspares.owned (owns_of_description hd), hd, Option.map_some, hg.description_fixed hspares hd]
    | none =>
      cases hd' : g.description? (h.renaming id) with
      | none => rfl
      | some d =>
        rw [h.renaming.injective (hspares.owned (owns_of_description hd')), hd] at hd'
        cases hd'

theorem described_mirrors : r₁.Mirrors h.renaming (fun _ => True) r₂ where
  cls id _ := by
    have hname : d₂.name? (h.renaming id) = d₁.name? id := h.name? id
    rw [class?_eq, class?_eq, hd₂.names.name?, hd₁.names.name?, hname]
    cases d₁.name? id <;> rfl
  description id _ := described_description hg h₁ h₂ hp h hspares hd₁ hd₂ id
  within := fun _ _ _ _ _ _ _ => trivial

theorem described_depth (d : Descriptor) : r₂.defaultDepth (d.rename h.renaming) = r₁.defaultDepth d := by
  have hnamed : ∀ name, r₂.defaultsNamed name = r₁.defaultsNamed name := by
    intro name
    rw [defaultsNamed, defaultsNamed, hd₂.names.lookup, hd₁.names.lookup, h.lookup]
    cases d₁.lookup name with
    | none => rfl
    | some id =>
      rw [Option.map_some, Option.bind_some, Option.bind_some, described_description hg h₁ h₂ hp h hspares hd₁ hd₂ id]
      cases r₁.description? id with
      | none => rfl
      | some e => exact defaultCount_rename _ e
  have hsum : (r₂.names.map r₂.defaultsNamed).sum = (r₁.names.map r₁.defaultsNamed).sum := by
    rw [hd₂.names.names, hd₁.names.names, List.map_congr_left fun name _ => hnamed name]
    exact (h.names.symm.map _).sum_nat
  rw [defaultDepth_eq (hd₂.names.names ▸ h.symm.nodup), defaultDepth_eq (hd₁.names.names ▸ h.nodup),
    defaultCount_rename, hsum]

end

end

end Registry

/-! ## Calls of shapes -/

namespace Shape

theorem ended_bind {α β γ : Type} {x : Option α} {mk : α → β} {f : β → Except ShapeError γ} {g : α → Option γ}
    (h : ∀ a, f (mk a) = ended (g a)) : ((ended x >>= fun a => .ok (mk a)) >>= f) = ended (x.bind g) := by
  cases x with
  | none => rfl
  | some a => exact h a

theorem toObject_own (s : Shape) (fs : Entries Value) :
    s.toObject ⟨s.cls, fs⟩ = ended (s.registry.toPlain ⟨s.cls, fs⟩ s.description) := by
  have hown : s.owns ⟨s.cls, fs⟩ = .ok () := by rw [owns, if_pos (by simp [Class.same])]
  rw [toObject, hown]
  rfl

/-- A plain candidate is built and made plain again, or refused. -/
theorem create_toObject (s : Shape) {v : Value} (hv : v.Plain) : (s.create v >>= s.toObject) =
    if s.check v then
      ended ((s.registry.buildFields v s.description).bind fun fs => s.registry.toPlain ⟨s.cls, fs⟩ s.description)
    else .error .invalidObject := by
  rw [create_plain s hv.root]
  split
  · exact ended_bind (toObject_own s)
  · rfl

section
variable {ρ : Renaming} {r r' : Registry} (h : r.Mirrors ρ (fun _ => True) r') (hg : r.Grounded) (hg' : r'.Grounded)
  (hdepth : ∀ d, r'.defaultDepth (d.rename ρ) = r.defaultDepth d)
  {id : ShapeId} {s s' : Shape} (hs : r.shape? id = some s) (hs' : r'.shape? (ρ id) = some s')
include h hg hg' hdepth hs hs'

/-- A candidate without instances does not tell a shape from its counterpart. -/
theorem mirrored {v : Value} (hv : v.Plain) :
    s.check v = s'.check v ∧ (s.create v >>= s.toObject) = (s'.create v >>= s'.toObject) := by
  obtain ⟨rfl, rfl, hc, hd⟩ := Registry.shape?_ok hs
  obtain ⟨rfl, hid', hc', hd'⟩ := Registry.shape?_ok hs'
  have hcheck : s'.check v = s.check v := by
    have hmirrored : s'.registry.checkShape (ρ s.id) (v.rename ρ) = s.registry.checkShape s.id v :=
      Registry.checkShape_mirrored h hg hg' v trivial
    rw [Value.rename_of_plain ρ hv] at hmirrored
    rw [check, check, hid', hmirrored]
  have hcls : s'.cls = s.cls.rename ρ := by
    rw [h.cls s.id trivial, hc] at hc'
    exact (Option.some_inj.mp hc').symm
  have hdesc : s'.description = s.description.rename ρ := by
    rw [h.description s.id trivial, hd] at hd'
    exact (Option.some_inj.mp hd').symm
  have hk : s.description.Within fun _ => True := fun _ _ _ => trivial
  have hbuild := Registry.buildFields_mirrored h hg hg' hk (hdepth _) v
  rw [Value.rename_of_plain ρ hv] at hbuild
  have hplain : ∀ fs, s'.registry.toPlain ⟨s.cls.rename ρ, Entries.mapValues (Value.rename ρ) fs⟩
      (s.description.rename ρ) = s.registry.toPlain ⟨s.cls, fs⟩ s.description := by
    intro fs
    rw [Registry.toPlain_mirrored h hg hg' hk (hdepth _)]
    cases hp : s.registry.toPlain ⟨s.cls, fs⟩ s.description with
    | none => rfl
    | some w => rw [Option.map_some, Value.rename_of_plain ρ (Registry.toPlain_plain hp)]
  refine ⟨hcheck.symm, ?_⟩
  rw [create_toObject s hv, create_toObject s' hv, hcheck, hdesc, hcls, hbuild]
  cases s.registry.buildFields v s.description with
  | none => rw [Option.map_none, Option.bind_none, Option.bind_none]
  | some fs => rw [Option.map_some, Option.bind_some, Option.bind_some, hplain fs]

end

end Shape

/-! ## Loading in any order -/

namespace Registry
variable {g r₁ r₂ : Registry} {models models' : Entries Json} {ids₁ ids₂ : List ShapeId}

theorem loadModels_perm [RegexEngine] (hg : Timely g) (hk : (Entries.keys models).Nodup) (hp : models.Perm models')
    (h : ∃ r ids, g.loadModels models = .ok (r, ids)) : ∃ r ids, g.loadModels models' = .ok (r, ids) := by
  have hkeys : (Entries.keys models).Perm (Entries.keys models') := hp.map Prod.fst
  have hk' := hkeys.nodup_iff.mp hk
  obtain ⟨d₁, h₁, hread⟩ := (loadModels_isOk hg.nodup hk).mp h
  have hopen := (declareAll_isOk hg.nodup).mp ⟨d₁, h₁⟩
  obtain ⟨d₂, h₂⟩ := (declareAll_isOk hg.nodup).mpr fun n hn => hopen n (hkeys.mem_iff.mpr hn)
  have hreorders := declared_reorders hg.nodup hk hp h₁ h₂
  refine (loadModels_isOk hg.nodup hk').mpr ⟨d₂, h₂, fun m hm => ?_⟩
  obtain ⟨d, hd⟩ := hread m (hp.mem_iff.mpr hm)
  exact ⟨d.rename hreorders.renaming, by rw [reading_rename hreorders.echoes, hd]; rfl⟩

theorem shape?_of_description {r : Registry} {id : ShapeId} {d : Descriptor} (h : r.description? id = some d) :
    ∃ s, r.shape? id = some s := by
  obtain ⟨slot, hs, hd⟩ := Option.bind_eq_some_iff.mp h
  exact ⟨⟨r, id, slot.name, d⟩, by rw [shape?, hs]; simp [hd]⟩

/-- Shapes of one name that two orders of the models describe. -/
theorem loadModels_shapes [RegexEngine] (hg : Timely g) (hk : (Entries.keys models).Nodup) (hp : models.Perm models')
    (h₁ : g.loadModels models = .ok (r₁, ids₁)) (h₂ : g.loadModels models' = .ok (r₂, ids₂)) {name : String}
    (hname : name ∈ Entries.keys models) : ∃ s₁ s₂, r₁.named? name = some s₁ ∧ r₂.named? name = some s₂ ∧
      ∀ v : Value, v.Plain →
        s₁.check v = s₂.check v ∧ (s₁.create v >>= s₁.toObject) = (s₂.create v >>= s₂.toObject) := by
  have hk' : (Entries.keys models').Nodup := (hp.map Prod.fst).nodup_iff.mp hk
  have hgrounded₁ := loadModels_grounded hg.nodup hk h₁ hg.grounded
  have hgrounded₂ := loadModels_grounded hg.nodup hk' h₂ hg.grounded
  obtain ⟨d₁, hd₁, h₁⟩ := loadModels_ok hg.nodup hk h₁
  obtain ⟨d₂, hd₂, h₂⟩ := loadModels_ok hg.nodup hk' h₂
  have hreorders := declared_reorders hg.nodup hk hp hd₁ hd₂
  have hspares := declared_spares hg.nodup hd₁ hd₂ (declareAll_ok hd₁ hk).1 hreorders
  obtain ⟨m, hm, rfl⟩ := List.mem_map.mp hname
  obtain ⟨id, d, hl, -, hdesc⟩ := h₁.described m hm
  obtain ⟨s₁, hs₁⟩ := shape?_of_description hdesc
  have hdesc₂ := described_description hg hd₁ hd₂ hp hreorders hspares h₁ h₂ id
  rw [hdesc, Option.map_some] at hdesc₂
  obtain ⟨s₂, hs₂⟩ := shape?_of_description hdesc₂
  refine ⟨s₁, s₂, ?_, ?_, fun v hv => ?_⟩
  · rw [named?, h₁.names.lookup, hl, Option.bind_some, hs₁]
  · rw [named?, h₂.names.lookup, hreorders.lookup, hl, Option.map_some, Option.bind_some, hs₂]
  · exact Shape.mirrored (described_mirrors hg hd₁ hd₂ hp hreorders hspares h₁ h₂) hgrounded₁ hgrounded₂
      (described_depth hg hd₁ hd₂ hp hreorders hspares h₁ h₂) hs₁ hs₂ hv

end Registry

/-- A document loads in one order of its models just if it loads in another, and then its shapes
give the same answers. -/
theorem reordered_load [RegexEngine] {g : Registry} (hg : Timely g) {text text' : String}
    {models models' : Entries Json}
    (hread : Document.read text.toList = .ok models) (hread' : Document.read text'.toList = .ok models')
    (hp : models.Perm models') :
    ((∃ r ids, g.load text = .ok (r, ids)) ↔ ∃ r ids, g.load text' = .ok (r, ids)) ∧
    ∀ {r₁ r₂ ids₁ ids₂}, g.load text = .ok (r₁, ids₁) → g.load text' = .ok (r₂, ids₂) →
      ∀ name ∈ Entries.keys models, ∃ s₁ s₂, r₁.named? name = some s₁ ∧ r₂.named? name = some s₂ ∧
        ∀ v : Value, v.Plain →
          s₁.check v = s₂.check v ∧ (s₁.create v >>= s₁.toObject) = (s₂.create v >>= s₂.toObject) := by
  have hk : (Entries.keys models).Nodup := by
    cases Document.read_distinct _ _ hread with | object hk _ => exact hk
  have hk' : (Entries.keys models').Nodup := (hp.map Prod.fst).nodup_iff.mp hk
  have hload : g.load text = g.loadModels models := by rw [Registry.load, hread]
  have hload' : g.load text' = g.loadModels models' := by rw [Registry.load, hread']
  rw [hload, hload']
  exact ⟨⟨Registry.loadModels_perm hg hk hp, Registry.loadModels_perm hg hk' hp.symm⟩,
    fun h₁ h₂ name hname => Registry.loadModels_shapes hg hk hp h₁ h₂ hname⟩

/-! A town that knows friends by name only, and a document that describes them in either order. -/

def Registry.after {ε α : Type} (r : Registry) (call : Registry → Except ε (Registry × α)) : Registry :=
  match call r with
  | .ok (r', _) => r'
  | .error _ => r

theorem Timely.after [RegexEngine] {ε α : Type} {r : Registry} (hr : Timely r)
    {call : Registry → Except ε (Registry × α)}
    (h : ∀ r' a, call r = .ok (r', a) → Timely r') : Timely (r.after call) := by
  unfold Registry.after
  split
  · rename_i r' a hcall; exact h r' a hcall
  · exact hr

def house : Source := .keyed [("tenants", .arrayOf (.token "Friend"))]

def town : Registry := ((Registry.empty 0).after (·.declare "Friend")).after (·.model "House" house)

def person : String × Json :=
  ("Person", .object [
    ("home", .string "House"), ("friend", .object [("$type", .string "Friend"), ("$allowNull", .bool true)])])

def friend : String × Json :=
  ("Friend", .object [
    ("of", .string "Person"), ("met", .object [("$type", .string "string"), ("$default", .string "here")])])

def townText (models : Entries Json) : String := (Json.object [("models", .object models)]).compact

def neighbour : Value := .ofJson <| .object [
  ("home", .object [("tenants", .array [])]),
  ("friend", .object [("of", .object [("home", .object [("tenants", .array [])]), ("friend", .null)])])]

set_option maxRecDepth 2000 in
theorem reordered_load_town : Timely town ∧ ∃ r₁ r₂ ids₁ ids₂ s₁ s₂ w,
    town.load (townText [person, friend]) = .ok (r₁, ids₁) ∧ town.load (townText [friend, person]) = .ok (r₂, ids₂) ∧
      r₁.named? "Person" = some s₁ ∧ r₂.named? "Person" = some s₂ ∧ neighbour.Plain ∧ s₂.check neighbour = true ∧
        (s₂.create neighbour >>= s₂.toObject) = .ok w := by
  have htown : Timely town :=
    .after (.after (.empty 0) fun _ _ h => .declare (.empty 0) h)
      fun _ _ h => .model (.after (.empty 0) fun _ _ h => .declare (.empty 0) h) (fun _ _ => rfl) h
  have hread : Document.read (townText [person, friend]).toList = .ok [person, friend] := by cbv
  have hread' : Document.read (townText [friend, person]).toList = .ok [friend, person] := by cbv
  have hplain : neighbour.Plain := by decide
  obtain ⟨hiff, hsame⟩ := reordered_load htown hread hread' (.swap friend person [])
  obtain ⟨⟨r₁, ids₁⟩, h₁, hcalls⟩ := ok_of_toOption (x := town.load (townText [person, friend]))
    (p := fun a => (a.1.named? "Person").any fun s =>
      s.check neighbour && (s.create neighbour >>= s.toObject).toOption.isSome) (by decide +kernel)
  obtain ⟨r₂, ids₂, h₂⟩ := hiff.mp ⟨r₁, ids₁, h₁⟩
  obtain ⟨s₁, s₂, hs₁, hs₂, hv⟩ := hsame h₁ h₂ "Person" (by decide)
  rw [hs₁, Option.any_some, Bool.and_eq_true] at hcalls
  obtain ⟨w, hw, -⟩ := ok_of_toOption (p := fun _ => true) (by simpa using hcalls.2)
  obtain ⟨hcheck, hcreate⟩ := hv neighbour hplain
  exact ⟨htown, r₁, r₂, ids₁, ids₂, s₁, s₂, w, h₁, h₂, hs₁, hs₂, hplain, hcheck ▸ hcalls.1, hcreate ▸ hw⟩

end Conformance
