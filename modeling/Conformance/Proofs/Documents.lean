import Conformance.Proofs.Names
import Conformance.Proofs.RenamedCompilation

/-!
# What loading a document does

All names are declared before the first model is read. So every model is read against the same
names, and a document loads if each of its names is open and each of its models can be read.
-/

namespace Conformance

namespace Registry
variable {r r' : Registry}

/-! ## Describing a shape -/

theorem define_sameNames {id : ShapeId} {d : Descriptor} (h : r.define id d = .ok r') : r.SameNames r' := by
  unfold define at h
  split at h
  · cases h
  · rename_i s hs
    split at h
    · cases h
    · cases h
      unfold slot? at hs
      split at hs
      · exact ⟨rfl, map_set_same hs rfl⟩
      · cases hs

theorem define_isOk {id : ShapeId} (ho : r.owns id = true) (hu : r.isDefined id = false) (d : Descriptor) :
    ∃ r', r.define id d = .ok r' := by
  obtain ⟨s, hs⟩ := Option.isSome_iff_exists.mp ho
  have hs' : s.description.isSome = false := by
    rw [isDefined, description?, hs] at hu
    exact hu
  exact ⟨_, by rw [define, hs]; simp only [hs', Bool.false_eq_true, if_false]; rfl⟩

theorem model_ok [RegexEngine] {name : String} {s : Source} {id : ShapeId} (h : r.model name s = .ok (r', id)) :
    ∃ r₁ d, r.declare name = .ok (r₁, id) ∧ r₁.compileTopLevel s = .ok d ∧ r₁.define id d = .ok r' := by
  obtain ⟨⟨r₁, id₁⟩, h₁, h⟩ := bind_eq_ok.mp h
  obtain ⟨d, h₂, h⟩ := bind_eq_ok.mp h
  obtain ⟨r₂, h₃, h⟩ := bind_eq_ok.mp h
  cases h
  exact ⟨r₁, d, h₁, h₂, h₃⟩

/-! ## Reading a model -/

theorem SameNames.echoes (h : r.SameNames r') : r.Echoes (.refl _) r' where
  lookup name := by rw [h.lookup]; exact (congrFun Option.map_id _).symm
  owns id := by rw [Equiv.refl_apply, owns_eq, owns_eq, h.name?]

section
variable [RegexEngine]

/-- The description that a model of a document stands for. -/
def reading (r : Registry) (name : String) (node : Json) : Except DeclarationError Descriptor := do
  let s ← lower r (modelPath name) node
  located (modelPath name) (r.compileTopLevel s)

theorem reading_rename {ρ : Renaming} (h : r.Echoes ρ r') (name : String) (node : Json) :
    r'.reading name node = (r.reading name node).map (Descriptor.rename ρ) := by
  rw [reading, reading, lower_rename h]
  exact bind_transport fun s => by rw [compileTopLevel_rename h, located_map]

theorem SameNames.reading (h : r.SameNames r') (name : String) (node : Json) :
    r'.reading name node = r.reading name node := by
  rw [reading_rename h.echoes]
  cases r.reading name node with
  | error e => rfl
  | ok d => exact congrArg Except.ok d.rename_refl

end

/-! ## Declaring the names -/

theorem declareAll_ok : ∀ {ns : List String} {r r' : Registry}, r.declareAll ns = .ok r' → ns.Nodup →
    r'.serial = r.serial ∧ r'.names = r.names ++ ns.filter (· ∉ r.names)
  | [], _, _, h, _ => by rw [declareAll] at h; cases h; simp
  | n :: ns, r, r', h, hn => by
    rw [declareAll] at h
    obtain ⟨⟨r₁, id⟩, h₁, h⟩ := bind_eq_ok.mp h
    have h₁ := located_ok h₁
    obtain ⟨hnew, hn⟩ := List.nodup_cons.mp hn
    obtain ⟨hs, hnames⟩ := declareAll_ok h hn
    have hfilter : ns.filter (· ∉ r₁.names) = ns.filter (· ∉ r.names) := List.filter_congr fun m hm => by
      have hne : m ≠ n := fun e => hnew (e ▸ hm)
      simp [declare_mem h₁, hne]
    refine ⟨hs.trans (declare_serial h₁), ?_⟩
    rw [hnames, hfilter, declare_names h₁]
    by_cases hm : n ∈ r.names <;> simp [hm]

theorem declare_undefined {name : String} {id : ShapeId} (h : r.declare name = .ok (r', id)) :
    r.isDefined id = false := by
  rcases declare_ok h with ⟨-, hu, -⟩ | ⟨-, -, rfl, -⟩
  · exact hu
  · have hunowned : r.name? (r.idAt r.size) = none := by
      rw [name?_eq, idAt, if_pos rfl]
      exact List.getElem?_eq_none (Nat.le_of_eq (size_names r))
    rw [isDefined, description?, Option.map_eq_none_iff.mp hunowned]
    rfl

section
variable (hn : r.names.Nodup)
include hn

theorem declare_kept {name m : String} {id i : ShapeId} (h : r.declare name = .ok (r', id)) (hi : r.lookup m = some i) :
    r'.lookup m = some i :=
  lookup_of_name (declare_nodup h hn) (declare_name? h (lookup_name hi))

/-- A call that declares a name leaves open what was open. -/
theorem declare_open {name : String} {id : ShapeId} (h : r.declare name = .ok (r', id)) (m : String) :
    r'.Open m ↔ r.Open m := by
  have hdefined : ∀ i, r'.isDefined i = r.isDefined i := fun i => by
    rw [isDefined, isDefined, declare_description? h]
  rcases declare_ok h with ⟨-, -, rfl⟩ | ⟨hnone, hvalid, -, -⟩
  · rfl
  · unfold Open
    by_cases hm : m = name
    · subst hm
      rw [declare_lookup h hn, hnone]
      dsimp only
      rw [hdefined, declare_undefined h, hvalid]
      simp
    · cases hl : r.lookup m with
      | some i =>
        rw [declare_kept hn h hl]
        dsimp only
        rw [hdefined]
      | none =>
        have hm' : r'.lookup m = none := lookup_none.mpr fun hmem =>
          ((declare_mem h).mp hmem).elim (lookup_none.mp hl) hm
        rw [hm']

theorem declareAll_isOk {ns : List String} : (∃ r', r.declareAll ns = .ok r') ↔ ∀ n ∈ ns, r.Open n := by
  induction ns generalizing r with
  | nil => exact ⟨nofun, fun _ => ⟨r, rfl⟩⟩
  | cons n ns ih =>
    rw [List.forall_mem_cons, ← declare_isOk]
    constructor
    · rintro ⟨r', h⟩
      rw [declareAll] at h
      obtain ⟨⟨r₁, id⟩, h₁, h⟩ := bind_eq_ok.mp h
      have h₁ := located_ok h₁
      refine ⟨⟨r₁, id, h₁⟩, fun m hm => (declare_open hn h₁ m).mp ?_⟩
      exact (ih (declare_nodup h₁ hn)).mp ⟨r', h⟩ m hm
    · rintro ⟨⟨r₁, id, h₁⟩, hns⟩
      obtain ⟨r', h⟩ := (ih (declare_nodup h₁ hn)).mpr fun m hm => (declare_open hn h₁ m).mpr (hns m hm)
      exact ⟨r', by rw [declareAll, h₁]; exact h⟩

end

theorem declareAll_name? : ∀ {ns : List String} {r r' : Registry}, r.declareAll ns = .ok r' → r.names.Nodup →
    r'.names.Nodup ∧ ∀ i m, r.name? i = some m → r'.name? i = some m
  | [], _, _, h, hn => by rw [declareAll] at h; cases h; exact ⟨hn, fun _ _ h => h⟩
  | n :: ns, r, r', h, hn => by
    rw [declareAll] at h
    obtain ⟨⟨r₁, id⟩, h₁, h⟩ := bind_eq_ok.mp h
    have h₁ := located_ok h₁
    obtain ⟨hn', hkept⟩ := declareAll_name? h (declare_nodup h₁ hn)
    exact ⟨hn', fun i m hi => hkept i m (declare_name? h₁ hi)⟩

/-- Every name is reserved and has no description yet. -/
def Awaits (r : Registry) (ns : List String) : Prop := ∀ n ∈ ns, ∃ id, r.lookup n = some id ∧ r.isDefined id = false

theorem declareAll_awaits : ∀ {ns : List String} {r r' : Registry}, r.declareAll ns = .ok r' → r.names.Nodup →
    r'.Awaits ns
  | [], _, _, _, _ => nofun
  | n :: ns, r, r', h, hn => by
    rw [declareAll] at h
    obtain ⟨⟨r₁, id⟩, h₁, h⟩ := bind_eq_ok.mp h
    have h₁ := located_ok h₁
    have hn₁ := declare_nodup h₁ hn
    obtain ⟨hn', hkept⟩ := declareAll_name? h hn₁
    refine List.forall_mem_cons.mpr ⟨⟨id, ?_, ?_⟩, declareAll_awaits h hn₁⟩
    · exact lookup_of_name hn' (hkept id n (lookup_name (declare_lookup h₁ hn)))
    · rw [isDefined, declareAll_description? h, declare_description? h₁]
      exact declare_undefined h₁

/-! ## Describing the models -/

variable [RegexEngine]

/-- The registry `r'` has the names of `r`, and the shapes of `models` are described as they read. -/
structure Describes (r : Registry) (models : Entries Json) (r' : Registry) (ids : List ShapeId) : Prop where
  names : r.SameNames r'
  issued : models.Forall₂ (fun m id => r.lookup m.1 = some id) ids
  described : ∀ m ∈ models, ∃ id d, r.lookup m.1 = some id ∧ r.reading m.1 m.2 = .ok d ∧ r'.description? id = some d
  kept : ∀ id, id ∉ ids → r'.description? id = r.description? id

section
variable {name : String} {id : ShapeId} (hl : r.lookup name = some id) (hu : r.isDefined id = false)
include hl hu

theorem model_awaited (s : Source) :
    r.model name s = r.compileTopLevel s >>= fun d => r.define id d >>= fun r' => .ok (r', id) := by
  rw [model, declare, hl]
  simp only [hu]
  rfl

/-- A model of a document is read, and its shape is described. -/
theorem defineAll_cons (node : Json) (rest : Entries Json) :
    r.defineAll ((name, node) :: rest) = r.reading name node >>= fun d =>
      located (modelPath name) (r.define id d) >>= fun r₁ =>
        r₁.defineAll rest >>= fun (r', ids) => .ok (r', id :: ids) := by
  rw [defineAll, reading]
  cases lower r (modelPath name) node with
  | error e => rfl
  | ok s =>
    change located _ (r.model name s) >>= _ = located _ (r.compileTopLevel s) >>= _
    rw [model_awaited hl hu]
    cases r.compileTopLevel s with
    | error e => rfl
    | ok d =>
      change located _ (r.define id d >>= _) >>= _ = located _ (r.define id d) >>= _
      cases r.define id d <;> rfl

omit [RegexEngine] in
theorem Awaits.define {ns : List String} {d : Descriptor} {r₁ : Registry} (h : r.define id d = .ok r₁)
    (ha : r.Awaits ns) (hnew : name ∉ ns) : r₁.Awaits ns := by
  intro n hn
  obtain ⟨i, hi, hundefined⟩ := ha n hn
  have hne : i ≠ id := by
    rintro rfl
    exact hnew (Option.some_inj.mp ((lookup_name hl).symm.trans (lookup_name hi)) ▸ hn)
  refine ⟨i, ((define_sameNames h).lookup n).trans hi, ?_⟩
  rw [isDefined, define_description? h, if_neg hne]
  exact hundefined

end

theorem defineAll_ok : ∀ {models : Entries Json} {r r' : Registry} {ids : List ShapeId},
    r.defineAll models = .ok (r', ids) → (Entries.keys models).Nodup → r.Awaits (Entries.keys models) →
    r.Describes models r' ids
  | [], r, _, _, h, _, _ => by
    rw [defineAll] at h
    cases h
    exact ⟨.refl r, .nil, fun _ hm => (List.not_mem_nil hm).elim, fun _ _ => rfl⟩
  | (name, node) :: rest, r, r', _, h, hn, ha => by
    obtain ⟨hnew, hn⟩ := List.nodup_cons.mp hn
    obtain ⟨⟨id, hl, hu⟩, ha⟩ := List.forall_mem_cons.mp ha
    rw [defineAll_cons hl hu] at h
    obtain ⟨d, hread, h⟩ := bind_eq_ok.mp h
    obtain ⟨r₁, hdef, h⟩ := bind_eq_ok.mp h
    obtain ⟨⟨r₂, ids⟩, h₂, h⟩ := bind_eq_ok.mp h
    cases h
    have hdef := located_ok hdef
    have hsame := define_sameNames hdef
    have ih := defineAll_ok h₂ hn (Awaits.define hl hu hdef ha hnew)
    -- the shape that was described first is none of the others
    have hother : id ∉ ids := by
      intro hm
      obtain ⟨m, hmem, hlm⟩ := forall₂_mem_right ih.issued hm
      rw [hsame.lookup] at hlm
      exact hnew (Option.some_inj.mp ((lookup_name hl).symm.trans (lookup_name hlm)) ▸ List.mem_map_of_mem hmem)
    refine ⟨hsame.trans ih.names, .cons hl (ih.issued.imp fun m i hi => (hsame.lookup m.1).symm.trans hi), ?_, ?_⟩
    · refine List.forall_mem_cons.mpr ⟨⟨id, d, hl, hread, ?_⟩, fun m hm => ?_⟩
      · rw [ih.kept id hother, define_description? hdef, if_pos rfl]
      · obtain ⟨i, d', hi, hd', hdesc⟩ := ih.described m hm
        exact ⟨i, d', (hsame.lookup m.1).symm.trans hi, (hsame.reading m.1 m.2).symm.trans hd', hdesc⟩
    · intro i hi
      obtain ⟨hne, hi⟩ := not_or.mp (mt List.mem_cons.mpr hi)
      rw [ih.kept i hi, define_description? hdef, if_neg hne]

theorem defineAll_isOk : ∀ {models : Entries Json} {r : Registry},
    (Entries.keys models).Nodup → r.Awaits (Entries.keys models) →
    ((∃ r' ids, r.defineAll models = .ok (r', ids)) ↔ ∀ m ∈ models, ∃ d, r.reading m.1 m.2 = .ok d)
  | [], r, _, _ => ⟨nofun, fun _ => ⟨r, [], rfl⟩⟩
  | (name, node) :: rest, r, hn, ha => by
    constructor
    · rintro ⟨r', ids, h⟩ m hm
      obtain ⟨-, d, -, hd, -⟩ := (defineAll_ok h hn ha).described m hm
      exact ⟨d, hd⟩
    · intro h
      obtain ⟨⟨d, hd⟩, h⟩ := List.forall_mem_cons.mp h
      obtain ⟨hnew, hn⟩ := List.nodup_cons.mp hn
      obtain ⟨⟨id, hl, hu⟩, ha⟩ := List.forall_mem_cons.mp ha
      have howns : r.owns id = true := by rw [owns_eq, lookup_name hl]; rfl
      obtain ⟨r₁, h₁⟩ := define_isOk howns hu d
      have hsame := define_sameNames h₁
      obtain ⟨r', ids, h⟩ := (defineAll_isOk hn (Awaits.define hl hu h₁ ha hnew)).mpr fun m hm => by
        rw [hsame.reading]
        exact h m hm
      exact ⟨r', id :: ids, by rw [defineAll_cons hl hu, hd]; simp [h₁, h, located, bind, Except.bind]⟩

/-! ## Loading -/

section
variable {models : Entries Json} (hn : r.names.Nodup) (hk : (Entries.keys models).Nodup)
include hn hk

theorem loadModels_ok {ids : List ShapeId} (h : r.loadModels models = .ok (r', ids)) :
    ∃ r₁, r.declareAll (Entries.keys models) = .ok r₁ ∧ r₁.Describes models r' ids := by
  obtain ⟨r₁, h₁, h⟩ := bind_eq_ok.mp h
  exact ⟨r₁, h₁, defineAll_ok h hk (declareAll_awaits h₁ hn)⟩

theorem loadModels_isOk : (∃ r' ids, r.loadModels models = .ok (r', ids)) ↔
    ∃ r₁, r.declareAll (Entries.keys models) = .ok r₁ ∧ ∀ m ∈ models, ∃ d, r₁.reading m.1 m.2 = .ok d := by
  constructor
  · rintro ⟨r', ids, h⟩
    obtain ⟨r₁, h₁, h⟩ := bind_eq_ok.mp h
    exact ⟨r₁, h₁, (defineAll_isOk hk (declareAll_awaits h₁ hn)).mp ⟨r', ids, h⟩⟩
  · rintro ⟨r₁, h₁, h⟩
    obtain ⟨r', ids, h⟩ := (defineAll_isOk hk (declareAll_awaits h₁ hn)).mpr h
    exact ⟨r', ids, by rw [loadModels, h₁]; exact h⟩

end

theorem load_ok {text : String} {ids : List ShapeId} (h : r.load text = .ok (r', ids)) :
    ∃ models, Document.read text.toList = .ok models ∧ (Entries.keys models).Nodup ∧
      r.loadModels models = .ok (r', ids) := by
  unfold load at h
  cases hread : Document.read text.toList with
  | error e => rw [hread] at h; cases h
  | ok models =>
    rw [hread] at h
    cases Document.read_distinct _ _ hread with | object hk _ => exact ⟨models, rfl, hk, h⟩

end Registry

end Conformance
