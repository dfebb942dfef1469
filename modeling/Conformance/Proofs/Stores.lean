import Conformance.Proofs.Guards

/-!
# Calls on the tables of a guard

A call on the tables gives the answer of the same call on the registry that they stand for, and
leaves tables that stand for its outcome. A call that is refused leaves the tables as they were.
-/

namespace Conformance

namespace Guard
variable {g : Guard}

theorem registry_define (g : Guard) (id : ShapeId) (d : Descriptor) :
    g.registry.define id d = (g.define id d).1.map fun _ => (g.define id d).2.registry := by
  rw [Registry.define, registry_slot?, define]
  cases g.cell? id with
  | none => rfl
  | some c =>
    cases hd : c.description with
    | some e => simp [hd, Except.map]
    | none => simp [hd, Except.map, registry, List.map_set]

/-! ## Declaring names -/

theorem declare_cases (g : Guard) (name : String) :
    (∃ id, g.lookup name = some id ∧ g.isDefined id = false ∧ g.declare name = (.ok id, g)) ∨
    (g.lookup name = none ∧ validName name = true ∧
      g.declare name = (.ok (g.idAt g.cells.length), g.reserve name)) ∨
    ∃ e, g.declare name = (.error e, g) := by
  unfold declare
  cases hl : g.lookup name with
  | some id =>
    cases hd : g.isDefined id with
    | false => exact .inl ⟨id, rfl, hd, by simp [hd]⟩
    | true => exact .inr (.inr ⟨.duplicateModel name, by simp [hd]⟩)
  | none =>
    cases hv : validName name with
    | true => exact .inr (.inl ⟨rfl, rfl, by simp [validateName, hv]⟩)
    | false => exact .inr (.inr ⟨.invalidModelName name, by simp [validateName, hv]⟩)

theorem declare_leads (h : g.Sound) (name : String) : g.Leads (g.declare name).2 := by
  obtain ⟨id, -, -, hd⟩ | ⟨hl, hv, hd⟩ | ⟨e, hd⟩ := g.declare_cases name <;> rw [hd]
  · exact h.leads
  · exact reserve_leads h hl hv
  · exact h.leads

theorem registry_declare (h : g.Aligned) (name : String) :
    g.registry.declare name = (g.declare name).1.map fun id => ((g.declare name).2.registry, id) := by
  rw [Registry.declare, h.lookup, declare]
  cases g.lookup name with
  | some id =>
    dsimp only
    rw [registry_isDefined]
    cases g.isDefined id <;> rfl
  | none =>
    dsimp only
    cases validateName name with
    | error e => rfl
    | ok _ => simp [Except.map, bind, Except.bind, reserve, registry, Registry.idAt, idAt, Registry.size]

theorem declare_refused {name : String} {e : CompileError} (h : (g.declare name).1 = .error e) :
    (g.declare name).2 = g := by
  obtain ⟨id, -, -, hd⟩ | ⟨-, -, hd⟩ | ⟨e, hd⟩ := g.declare_cases name
  · rw [hd]
  · rw [hd] at h; cases h
  · rw [hd]

theorem declareAll_leads (h : g.Sound) (names : List String) : g.Leads (g.declareAll names).2 := by
  induction names generalizing g with
  | nil => exact h.leads
  | cons name names ih =>
    have h₁ := declare_leads h name
    rw [declareAll]
    generalize g.declare name = answer at h₁ ⊢
    rcases answer with ⟨e | id, g₁⟩
    · exact h₁
    · exact h₁.trans (ih h₁.sound)

theorem registry_declareAll (h : g.Sound) (names : List String) :
    g.registry.declareAll names = (g.declareAll names).1.map fun _ => (g.declareAll names).2.registry := by
  induction names generalizing g with
  | nil => rfl
  | cons name names ih =>
    have h₁ := (declare_leads h name).sound
    rw [Registry.declareAll, registry_declare h.aligned, declareAll]
    generalize g.declare name = answer at h₁ ⊢
    rcases answer with ⟨e | id, g₁⟩
    · rfl
    · exact ih h₁

/-! ## Registering a shape -/

theorem define_leads (h : g.Sound) (id : ShapeId) {d : Descriptor}
    (hd : (d.kind = .object ∨ d.kind = .array) ∧ d.traits.allowNull = false) : g.Leads (g.define id d).2 := by
  refine ⟨⟨g.define_aligned id d h.aligned, ?_, ?_⟩, g.define_extends id d⟩ <;>
    obtain ⟨c, hc, -, hg⟩ | ⟨e, hg⟩ := g.define_cases id d <;> simp only [hg]
  · intro i c' hc'
    by_cases hi : id.index = i
    · subst hi
      cases (List.getElem?_set_self (List.getElem?_eq_some_iff.mp (cell?_place hc)).1).symm.trans hc'
      exact h.made id.index c (cell?_place hc)
    · exact h.made i c' ((List.getElem?_set_ne hi).symm.trans hc')
  · exact h.made
  · intro c' hc'
    rcases List.mem_or_eq_of_mem_set hc' with hc' | rfl
    · exact h.topLevel c' hc'
    · exact fun _ he => Option.some_inj.mp he ▸ hd
  · exact h.topLevel

section
variable {g₁ : Guard} (h : g.Sound) {name : String} {id : ShapeId} (hd : g.declare name = (.ok id, g₁))
include h hd

theorem declared_cell : ∃ c, g₁.cell? id = some c ∧ c.name = name ∧ c.description = none := by
  obtain ⟨i, hl, hu, hd'⟩ | ⟨-, -, hd'⟩ | ⟨e, hd'⟩ := g.declare_cases name <;> rw [hd] at hd' <;> cases hd'
  · have hname := Registry.lookup_name ((h.aligned.lookup name).trans hl)
    rw [registry_name?] at hname
    obtain ⟨c, hc, rfl⟩ := Option.map_eq_some_iff.mp hname
    rw [isDefined, description?, hc] at hu
    exact ⟨c, hc, rfl, Option.not_isSome_iff_eq_none.mp (Bool.eq_false_iff.mp hu)⟩
  · exact ⟨_, g.reserve_cell? name, rfl, rfl⟩

/-- A declaration for a model that does not compile can be undone. -/
theorem declare_undone : (if (g.lookup name).isSome then g₁ else g₁.retract id) = g := by
  obtain ⟨i, hl, -, hd'⟩ | ⟨hl, -, hd'⟩ | ⟨e, hd'⟩ := g.declare_cases name <;> rw [hd] at hd' <;> cases hd'
  · rw [hl]; rfl
  · rw [hl, retract_reserve h hl]; rfl

end

variable [RegexEngine]

/-- A call of `model` is refused, or describes the shape whose name it declares. -/
theorem model_cases (h : g.Sound) (name : String) (s : Source) :
    (∃ e, g.model name s = (.error e, g)) ∨
    ∃ id g₁ d g', g.declare name = (.ok id, g₁) ∧ g₁.registry.compileTopLevel s = .ok d ∧
      g₁.define id d = (.ok (), g') ∧ g.model name s = (.ok id, g') := by
  unfold model
  rcases hd : g.declare name with ⟨e | id, g₁⟩
  · have hg := declare_refused (congrArg Prod.fst hd)
    rw [hd] at hg
    cases hg
    exact .inl ⟨e, rfl⟩
  · cases hc : g₁.registry.compileTopLevel s with
    | error e => exact .inl ⟨e, by simp only [hc, declare_undone h hd]⟩
    | ok d =>
      obtain ⟨c, hcell, -, hu⟩ := declared_cell h hd
      obtain ⟨c', -, -, hg⟩ | ⟨e, hg⟩ := g₁.define_cases id d
      · exact .inr ⟨id, g₁, d, _, rfl, hc, hg, by simp only [hc, hg]⟩
      -- a shape that was just declared has no description yet
      · simp [define, hcell, hu] at hg

theorem model_leads (h : g.Sound) (name : String) (s : Source) : g.Leads (g.model name s).2 := by
  obtain ⟨e, hm⟩ | ⟨id, g₁, d, g', hd, hc, hg, hm⟩ := model_cases h name s <;> rw [hm]
  · exact h.leads
  · have h₁ := declare_leads h name
    rw [hd] at h₁
    have h₂ := define_leads h₁.sound id (Registry.compileTopLevel_ok hc).2
    rw [hg] at h₂
    exact h₁.trans h₂

theorem model_refused (h : g.Sound) {name : String} {s : Source} {e : CompileError}
    (he : (g.model name s).1 = .error e) :
    (g.model name s).2 = g := by
  obtain ⟨_, hm⟩ | ⟨id, g₁, d, g', -, -, -, hm⟩ := model_cases h name s <;> rw [hm] at he ⊢
  cases he

theorem registry_model (h : g.Aligned) (name : String) (s : Source) :
    g.registry.model name s = (g.model name s).1.map fun id => ((g.model name s).2.registry, id) := by
  rw [Registry.model, registry_declare h, model]
  rcases g.declare name with ⟨e | id, g₁⟩
  · rfl
  · simp only [Except.map, bind, Except.bind]
    cases g₁.registry.compileTopLevel s with
    | error e => rfl
    | ok d =>
      simp only [registry_define]
      rcases g₁.define id d with ⟨e | u, g'⟩ <;> rfl

/-! ## Registering the models of a document -/

theorem modelAll_leads (h : g.Sound) (models : List (String × Json)) : g.Leads (g.modelAll models).2 := by
  induction models generalizing g with
  | nil => exact h.leads
  | cons e models ih =>
    obtain ⟨name, node⟩ := e
    rw [modelAll]
    cases lower g.registry (modelPath name) node with
    | error e => exact h.leads
    | ok s =>
      have h₁ := model_leads h name s
      dsimp only
      generalize g.model name s = answer at h₁ ⊢
      rcases answer with ⟨e | id, g₁⟩
      · exact h₁
      · have h₂ := ih h₁.sound
        dsimp only at h₂ ⊢
        generalize g₁.modelAll models = answer at h₂ ⊢
        rcases answer with ⟨e | ids, g₂⟩ <;> exact h₁.trans h₂

theorem registry_modelAll (h : g.Sound) (models : List (String × Json)) :
    g.registry.defineAll models =
      (g.modelAll models).1.map fun ids => ((g.modelAll models).2.registry, ids) := by
  induction models generalizing g with
  | nil => rfl
  | cons e models ih =>
    obtain ⟨name, node⟩ := e
    rw [Registry.defineAll, modelAll]
    cases lower g.registry (modelPath name) node with
    | error e => rfl
    | ok s =>
      have h₁ := (model_leads h name s).sound
      simp only [bind, Except.bind, registry_model h.aligned]
      generalize g.model name s = answer at h₁ ⊢
      rcases answer with ⟨e | id, g₁⟩
      · rfl
      · have h₂ := ih h₁
        simp only [Except.map, located] at h₂ ⊢
        rw [h₂]
        generalize g₁.modelAll models = answer at h₂ ⊢
        rcases answer with ⟨e | ids, g₂⟩ <;> rfl

theorem loadModels_leads (h : g.Sound) (models : Entries Json) : g.Leads (g.loadModels models).2 := by
  have h₁ := declareAll_leads h (Entries.keys models)
  rw [loadModels]
  generalize g.declareAll (Entries.keys models) = answer at h₁ ⊢
  rcases answer with ⟨e | _, g₁⟩
  · exact h₁
  · exact h₁.trans (modelAll_leads h₁.sound models)

theorem registry_loadModels (h : g.Sound) (models : Entries Json) :
    g.registry.loadModels models =
      (g.loadModels models).1.map fun ids => ((g.loadModels models).2.registry, ids) := by
  have h₁ := (declareAll_leads h (Entries.keys models)).sound
  rw [Registry.loadModels, registry_declareAll h, loadModels]
  generalize g.declareAll (Entries.keys models) = answer at h₁ ⊢
  rcases answer with ⟨e | _, g₁⟩
  · rfl
  · exact registry_modelAll h₁ models

theorem load_leads (h : g.Sound) (text : String) : g.Leads (g.load text).2 := by
  rw [load]
  cases Document.read text.toList with
  | error e => exact h.leads
  | ok models =>
    have h₁ := loadModels_leads h models
    dsimp only
    generalize g.loadModels models = answer at h₁ ⊢
    rcases answer with ⟨e | ids, g₁⟩
    · exact h.leads
    · exact h₁

theorem registry_load (h : g.Sound) (text : String) :
    g.registry.load text = (g.load text).1.map fun ids => ((g.load text).2.registry, ids) := by
  rw [Registry.load, load]
  cases Document.read text.toList with
  | error e => rfl
  | ok models =>
    dsimp only
    rw [registry_loadModels h]
    rcases g.loadModels models with ⟨e | ids, g₁⟩ <;> rfl

theorem load_refused {text : String} {e : DeclarationError} (h : (g.load text).1 = .error e) :
    (g.load text).2 = g := by
  revert h
  rw [load]
  cases Document.read text.toList with
  | error e => exact fun _ => rfl
  | ok models =>
    dsimp only
    rcases g.loadModels models with ⟨e | ids, g₁⟩
    · exact fun _ => rfl
    · exact nofun

/-! ## Any call -/

theorem call_leads (h : g.Sound) : ∀ c : Call, g.Leads (g.call c).2
  | .declare name => declare_leads h name
  | .model name s => model_leads h name s
  | .value .. => h.leads
  | .load text => load_leads h text

omit [RegexEngine] in
theorem settle_map {ε α : Type} {granted : α → Reply} {denied : ε → Reply} {r r' : Registry} {x : Except ε α}
    (h : ∀ e, x = .error e → r' = r) :
    r.settle granted denied (x.map fun a => (r', a)) = (Reply.of granted denied x, r') := by
  cases x with
  | ok a => rfl
  | error e => rw [h e rfl]; rfl

/-- A call on the tables is the call on the registry that they stand for. -/
theorem registry_call (h : g.Sound) (c : Call) :
    g.registry.call c = ((g.call c).1, (g.call c).2.registry) := by
  cases c with
  | declare name =>
    rw [Registry.call, registry_declare h.aligned]
    exact settle_map fun e he => congrArg registry (declare_refused he)
  | model name s =>
    rw [Registry.call, registry_model h.aligned]
    exact settle_map fun e he => congrArg registry (model_refused h he)
  | value s o => rfl
  | load text =>
    rw [Registry.call, registry_load h]
    exact settle_map fun e he => congrArg registry (load_refused he)

end Guard

end Conformance
