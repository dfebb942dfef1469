import Conformance.Declaration
import Conformance.Proofs.Compiled
import Conformance.Proofs.Distinct
import Conformance.Proofs.Verdicts

/-!
# Registries that calls can reach

A registry starts empty and changes by declaring a name, describing one shape, or loading a
document. A call that fails leaves it as it is. Sources may quote descriptors that were compiled
in any reachable registry, so runs and compiled descriptors come in generations.
-/

namespace Conformance

def Options.Distinct (o : Options) : Prop := ∀ v, o.default.bind Default.produce = some v → v.Distinct

theorem Options.distinct_none : Options.Distinct {} := fun _ h => by cases h

/-! ## Runs -/

variable [RegexEngine]

/-- The runs of calls whose sources quote descriptors with `q` only. -/
inductive Run (q : Descriptor → Prop) : Registry → Prop
  | empty (serial : Nat) : Run q (.empty serial)
  | declare {r r' : Registry} {name : String} {id : ShapeId} (hr : Run q r)
      (h : r.declare name = .ok (r', id)) : Run q r'
  | model {r r' : Registry} {name : String} {s : Source} {id : ShapeId} (hr : Run q r)
      (hs : s.Over (fun _ => True) q) (h : r.model name s = .ok (r', id)) : Run q r'
  | load {r r' : Registry} {text : String} {ids : List ShapeId} (hr : Run q r)
      (h : r.load text = .ok (r', ids)) : Run q r'

/-- The descriptors of a generation are compiled in runs that quote earlier generations. -/
def Compiled : Nat → Descriptor → Prop
  | 0, _ => False
  | n + 1, d => ∃ r s o, Run (Compiled n) r ∧ s.Over (fun _ => True) (Compiled n) ∧ o.Distinct ∧
      r.compile s o = .ok d

def Reachable (r : Registry) : Prop := ∃ n, Run (Compiled n) r

/-- Registries made by loading documents alone. -/
inductive Loaded : Registry → Prop
  | empty (serial : Nat) : Loaded (.empty serial)
  | load {r r' : Registry} {text : String} {ids : List ShapeId} (hr : Loaded r)
      (h : r.load text = .ok (r', ids)) : Loaded r'

theorem Loaded.run {q : Descriptor → Prop} {r : Registry} (h : Loaded r) : Run q r := by
  induction h with
  | empty serial => exact .empty serial
  | load _ h ih => exact .load ih h

theorem Loaded.reachable {r : Registry} (h : Loaded r) : Reachable r := ⟨0, h.run⟩

def Registry.ofModels (models : Entries Json) : Registry :=
  match (Registry.empty 0).load (Json.object [("models", .object models)]).compact with
  | .ok (r, _) => r
  | .error _ => .empty 0

theorem Registry.ofModels_loaded (models : Entries Json) : Loaded (Registry.ofModels models) := by
  unfold Registry.ofModels
  split
  · rename_i h; exact .load (.empty 0) h
  · exact .empty 0

/-! ## Descriptions after a call -/

namespace Registry

omit [RegexEngine] in
theorem declare_description? {r r' : Registry} {name : String} {id : ShapeId}
    (h : r.declare name = .ok (r', id)) (i : ShapeId) : r'.description? i = r.description? i := by
  unfold declare at h
  split at h
  · split at h <;> cases h
    rfl
  · obtain ⟨_, _, h⟩ := bind_eq_ok.mp h
    cases h
    unfold description? slot?
    split
    · rw [List.getElem?_append]
      split
      · rfl
      · rename_i hi
        rw [List.getElem?_eq_none (Nat.le_of_not_lt hi)]
        cases hn : i.index - r.slots.length <;> simp
    · rfl

omit [RegexEngine] in
theorem define_description? {r r' : Registry} {id : ShapeId} {d : Descriptor}
    (h : r.define id d = .ok r') (i : ShapeId) :
    r'.description? i = if i = id then some d else r.description? i := by
  unfold define at h
  split at h
  · cases h
  · rename_i s hs
    split at h
    · cases h
    · cases h
      unfold slot? at hs
      split at hs
      · rename_i hid
        have hlt : id.index < r.slots.length := (List.getElem?_eq_some_iff.mp hs).1
        unfold description? slot?
        by_cases hi : i = id
        · subst hi
          simp [hid, hlt]
        · rw [if_neg hi]
          split
          · rename_i hir
            have hne : id.index ≠ i.index := fun e => hi (by
              obtain ⟨a, b⟩ := i
              obtain ⟨a', b'⟩ := id
              simp only at hir hid e
              rw [hir, hid, e])
            rw [List.getElem?_set_ne hne]
          · rfl
      · cases hs

theorem compileTopLevel_ok {r : Registry} {s : Source} {d : Descriptor}
    (h : r.compileTopLevel s = .ok d) :
    r.compile s {} = .ok d ∧ (d.kind = .object ∨ d.kind = .array) ∧ d.traits.allowNull = false := by
  unfold compileTopLevel at h
  obtain ⟨d', hc, h⟩ := bind_eq_ok.mp h
  split at h
  · cases h
  · rename_i hk
    split at h
    · cases h
    · rename_i hn
      cases h
      refine ⟨hc, ?_, by simpa using hn⟩
      by_cases ho : d.kind = .object
      · exact .inl ho
      · exact .inr (Classical.byContradiction fun ha => hk ⟨ho, ha⟩)

theorem model_description {r r' : Registry} {name : String} {s : Source} {id i : ShapeId}
    {d : Descriptor} (h : r.model name s = .ok (r', id)) (hd : r'.description? i = some d) :
    r.description? i = some d ∨ ∃ r₁ : Registry, r₁.compileTopLevel s = .ok d := by
  unfold model at h
  obtain ⟨⟨r₁, id₁⟩, h₁, h⟩ := bind_eq_ok.mp h
  obtain ⟨d', h₂, h⟩ := bind_eq_ok.mp h
  obtain ⟨r₂, h₃, h⟩ := bind_eq_ok.mp h
  cases h
  rw [define_description? h₃, declare_description? h₁] at hd
  split at hd
  · cases hd; exact .inr ⟨r₁, h₂⟩
  · exact .inl hd

end Registry

/-! ## Documents -/

omit [RegexEngine] in
theorem located_ok {α : Type} {p : Path} {x : Except CompileError α} {a : α} (h : located p x = .ok a) :
    x = .ok a := by
  cases x with
  | error e => cases h
  | ok b => cases h; rfl

theorem readOptions_ok (fields : Entries Json) (p : Path) : Ensures (readOptions fields p) fun o =>
    (∀ v, o.default = some v → ∃ j, Entries.get? fields "$default" = some j ∧ v = .constant (.ofJson j)) ∧
    ∀ v, o.validator = some v → ∃ r, v = .pattern r := by
  have validator : Ensures (readValidator fields p) fun o => ∀ v, o = some v → ∃ r, v = .pattern r := by
    unfold readValidator
    split
    · exact ensures_ok fun _ h => by cases h
    · exact ensures_after fun r => ensures_ok fun _ h => by cases h; exact ⟨r, rfl⟩
    · exact ensures_error
  unfold readOptions
  refine ensures_after fun required => ensures_after fun allowNull => ensures_after fun matchOnce => ?_
  refine ensures_bind validator fun w hw => ensures_after fun strategy => ensures_ok ⟨fun v hv => ?_, hw⟩
  obtain ⟨j, hj, rfl⟩ := Option.map_eq_some_iff.mp hv
  exact ⟨j, hj, rfl⟩

/-- Whatever is compiled from sources that quote `q`, under options with `ω`, has `q` again. -/
def Closed (c : Class → Prop) (ω : Options → Prop) (q : Descriptor → Prop) : Prop :=
  ∀ (r : Registry) s o d, s.Over c q → ω o → r.compile s o = .ok d → q d

namespace Registry

omit [RegexEngine] in
theorem declareAll_description? : ∀ {names : List String} {r r' : Registry},
    r.declareAll names = .ok r' → ∀ i, r'.description? i = r.description? i
  | [], _, _, h, _ => by rw [declareAll] at h; cases h; rfl
  | name :: names, r, r', h, i => by
    rw [declareAll] at h
    obtain ⟨⟨r₁, id⟩, h₁, h⟩ := bind_eq_ok.mp h
    rw [declareAll_description? h]
    exact declare_description? (located_ok h₁) i

end Registry

section
variable {c : Class → Prop} {ω : Options → Prop} {q : Descriptor → Prop} (hq : Closed c ω q)
  (hω : ∀ fields p, Json.Distinct (.object fields) → Ensures (readOptions fields p) ω)

omit [RegexEngine] in
theorem ensures_located {α : Type} {P : α → Prop} {p : Path} {x : Except CompileError α}
    (h : Ensures x P) : Ensures (located p x) P := by
  cases x with
  | error e => exact ensures_error
  | ok a => exact ensures_ok (h a rfl)

theorem lowerFields_over (r : Registry) (p : Path) : ∀ fs : List (String × Json),
    (∀ f ∈ fs, ∀ p, Ensures (lower r p f.2) fun s => s.Over c q) →
    Ensures (lowerFields r p fs) fun ss =>
      Entries.keys ss = Entries.keys fs ∧ ∀ s ∈ ss, s.2.Over c q
  | [], _ => by rw [lowerFields]; exact ensures_ok ⟨rfl, by simp⟩
  | (key, node) :: rest, h => by
    rw [lowerFields]
    split
    · exact ensures_error
    · refine ensures_bind (h _ List.mem_cons_self _) fun s hs => ?_
      refine ensures_bind (lowerFields_over r p rest fun f hf => h f (List.mem_cons_of_mem _ hf)) ?_
      intro ss ⟨hk, hss⟩
      exact ensures_ok ⟨congrArg (key :: ·) hk, List.forall_mem_cons.mpr ⟨hs, hss⟩⟩

theorem lowerAlternatives_over (r : Registry) (p : Path) : ∀ (es : List Json) (i : Nat),
    (∀ e ∈ es, ∀ p, Ensures (lower r p e) fun s => s.Over c q) →
    Ensures (lowerAlternatives r p i es) fun ss => ∀ s ∈ ss, s.Over c q
  | [], _, _ => by rw [lowerAlternatives]; exact ensures_ok (by simp)
  | e :: es, i, h => by
    rw [lowerAlternatives]
    refine ensures_bind (h _ List.mem_cons_self _) fun s hs => ?_
    refine ensures_bind (lowerAlternatives_over r p es _ fun e he => h e (List.mem_cons_of_mem _ he)) ?_
    intro ss hss
    exact ensures_ok (List.forall_mem_cons.mpr ⟨hs, hss⟩)

theorem lowerSubject_over (r : Registry) (p : Path) : ∀ fs : List (String × Json),
    (∀ f ∈ fs, (∀ p, Ensures (lower r p f.2) fun s => s.Over c q) ∧
      ∀ es, f.2 = .array es → ∀ p i, Ensures (lowerAlternatives r p i es) fun ss => ∀ s ∈ ss, s.Over c q) →
    Ensures (lowerSubject r p fs) fun s => s.Over c q
  | [], _ => by rw [lowerSubject]; exact ensures_error
  | (key, node) :: rest, h => by
    unfold lowerSubject
    obtain ⟨hn, ha⟩ := h _ List.mem_cons_self
    split
    · exact hn _
    · split
      · split
        · exact ensures_bind (ha _ rfl _ _) fun ss hss => ensures_ok (.mix hss)
        · exact ensures_error
      · exact lowerSubject_over r p rest fun f hf => h f (List.mem_cons_of_mem _ hf)

include hq hω

theorem lower_over (r : Registry) {j : Json} (hj : j.Distinct) :
    (∀ p, Ensures (lower r p j) fun s => s.Over c q) ∧
    ∀ es, j = .array es → ∀ p i, Ensures (lowerAlternatives r p i es) fun ss => ∀ s ∈ ss, s.Over c q := by
  induction hj with
  | string s => exact ⟨fun p => by rw [lower]; exact ensures_ok (.token s), fun es h => by cases h⟩
  | array _ ih =>
    rename_i es _
    refine ⟨fun p => ?_, fun es' h p i => ?_⟩
    · match es, ih with
      | [], _ => rw [lower]; exact ensures_ok .openArray
      | [item], ih =>
        rw [lower]
        exact ensures_bind ((ih item List.mem_cons_self).1 _) fun s hs => ensures_ok (.arrayOf hs)
      | _ :: _ :: _, _ => rw [lower]; exact ensures_error
    · cases h
      exact lowerAlternatives_over r p es i fun e he => (ih e he).1
  | object hk hf ih =>
    refine ⟨fun p => ?_, fun es h => by cases h⟩
    rw [lower]
    split
    · refine ensures_after fun _ => ?_
      refine ensures_bind (lowerSubject_over r p _ ih) fun s hs => ?_
      refine ensures_bind (hω _ p (.object hk hf)) fun o ho => ?_
      refine ensures_bind (ensures_located fun d hd => hq r s o d hs ho hd) fun d hd => ?_
      exact ensures_ok (.described hd)
    · refine ensures_bind (lowerFields_over r p _ fun f hf => (ih f hf).1) fun ss hss => ?_
      exact ensures_ok (.keyed (hss.1 ▸ hk) hss.2)
  | _ => exact ⟨fun p => by rw [lower]; exact ensures_error, fun es h => by cases h⟩

/-! ## Descriptions after a document -/

namespace Registry

theorem defineAll_description : ∀ {models : List (String × Json)} {r r' : Registry} {ids : List ShapeId},
    (∀ m ∈ models, Json.Distinct m.2) → r.defineAll models = .ok (r', ids) →
    ∀ {i d}, r'.description? i = some d →
      r.description? i = some d ∨ ∃ (r₁ : Registry) (s : Source), s.Over c q ∧ r₁.compileTopLevel s = .ok d
  | [], _, _, _, _, h, _, _, hd => by rw [defineAll] at h; cases h; exact .inl hd
  | (name, node) :: rest, r, r', _, hm, h, i, d, hd => by
    rw [defineAll] at h
    obtain ⟨s, hs, h⟩ := bind_eq_ok.mp h
    obtain ⟨⟨r₁, id⟩, h₁, h⟩ := bind_eq_ok.mp h
    obtain ⟨⟨r₂, ids⟩, h₂, h⟩ := bind_eq_ok.mp h
    cases h
    have hover := (lower_over hq hω r (hm _ List.mem_cons_self)).1 _ s hs
    rcases defineAll_description (fun m h => hm m (List.mem_cons_of_mem _ h)) h₂ hd with hd | hd
    · exact (model_description (located_ok h₁) hd).imp_right fun ⟨r₃, h₃⟩ => ⟨r₃, s, hover, h₃⟩
    · exact .inr hd

theorem load_description {r r' : Registry} {text : String} {ids : List ShapeId}
    (h : r.load text = .ok (r', ids)) {i : ShapeId} {d : Descriptor} (hd : r'.description? i = some d) :
    r.description? i = some d ∨ ∃ (r₁ : Registry) (s : Source), s.Over c q ∧ r₁.compileTopLevel s = .ok d := by
  unfold load at h
  split at h
  · rename_i models hread
    obtain ⟨r₁, h₁, h⟩ := bind_eq_ok.mp h
    have hm : ∀ m ∈ models, Json.Distinct m.2 := by
      cases Document.read_distinct _ _ hread with | object _ hm => exact hm
    rw [← declareAll_description? h₁ i]
    exact defineAll_description hq hω hm h hd
  · cases h

end Registry

end

/-! ## Descriptions of a run -/

theorem Loaded.description {ω : Options → Prop} {q : Descriptor → Prop}
    (hq : Closed (fun _ => False) ω q) (h₀ : ω {})
    (hω : ∀ fields p, Json.Distinct (.object fields) → Ensures (readOptions fields p) ω)
    {r : Registry} (h : Loaded r) {i : ShapeId} {d : Descriptor} (hd : r.description? i = some d) : q d := by
  induction h with
  | empty serial => simp [Registry.description?, Registry.slot?, Registry.empty] at hd
  | load _ h ih =>
    rcases Registry.load_description hq hω h hd with hd | ⟨r₁, s, hs, hd⟩
    · exact ih hd
    · exact hq r₁ s {} d hs h₀ (Registry.compileTopLevel_ok hd).1

theorem readOptions_distinct (fields : Entries Json) (p : Path) (h : Json.Distinct (.object fields)) :
    Ensures (readOptions fields p) Options.Distinct := by
  intro o ho v hv
  obtain ⟨w, hw, hv⟩ := Option.bind_eq_some_iff.mp hv
  obtain ⟨j, hj, rfl⟩ := (readOptions_ok fields p o ho).1 w hw
  cases hv
  cases h with | object _ h => exact (Value.ofJson_distinct (h _ (Entries.mem_of_get? hj))).1

theorem Run.description {q : Descriptor → Prop} (hq : Closed (fun _ => True) Options.Distinct q)
    {r : Registry} (h : Run q r) {i : ShapeId} {d : Descriptor} (hd : r.description? i = some d) :
    q d ∧ (d.kind = .object ∨ d.kind = .array) ∧ d.traits.allowNull = false := by
  induction h with
  | empty serial => simp [Registry.description?, Registry.slot?, Registry.empty] at hd
  | declare _ h ih => exact ih (Registry.declare_description? h i ▸ hd)
  | model _ hs h ih =>
    rcases Registry.model_description h hd with hd | ⟨r₁, hd⟩
    · exact ih hd
    · obtain ⟨hc, ht⟩ := Registry.compileTopLevel_ok hd
      exact ⟨hq r₁ _ {} d hs Options.distinct_none hc, ht⟩
  | load _ h ih =>
    rcases Registry.load_description hq readOptions_distinct h hd with hd | ⟨r₁, s, hs, hd⟩
    · exact ih hd
    · obtain ⟨hc, ht⟩ := Registry.compileTopLevel_ok hd
      exact ⟨hq r₁ s {} d hs Options.distinct_none hc, ht⟩

/-! ## Generations -/

theorem Run.mono {q q' : Descriptor → Prop} (h : ∀ d, q d → q' d) {r : Registry} (hr : Run q r) :
    Run q' r := by
  induction hr with
  | empty serial => exact .empty serial
  | declare _ hd ih => exact .declare ih hd
  | model _ hs hm ih => exact .model ih (hs.mono (fun _ h => h) h) hm
  | load _ hl ih => exact .load ih hl

section
variable {q : Descriptor → Prop} (hq : Closed (fun _ => True) Options.Distinct q)
include hq

theorem Compiled.closed : ∀ {n d}, Compiled n d → q d
  | 0, _, h => h.elim
  | _ + 1, _, ⟨r, s, o, _, hs, ho, h⟩ =>
    hq r s o _ (hs.mono (fun _ h => h) fun _ => Compiled.closed) ho h

theorem Reachable.run {r : Registry} (h : Reachable r) : Run q r := by
  obtain ⟨n, h⟩ := h
  exact h.mono fun _ => Compiled.closed hq

theorem Reachable.description {r : Registry} (h : Reachable r) {i : ShapeId} {d : Descriptor}
    (hd : r.description? i = some d) : q d :=
  ((h.run hq).description hq hd).1

end

theorem Reachable.grounded {r : Registry} (h : Reachable r) : r.Grounded := by
  obtain ⟨n, h⟩ := h
  exact fun i d hd => ((h.mono fun _ _ => trivial).description (fun _ _ _ _ _ _ _ => trivial) hd).2

/-! ## Keys -/

theorem uniqueKeys_closed (c : Class → Prop) (ω : Options → Prop) (h₀ : ω {}) :
    Closed c ω fun d => ∀ n, Descriptor.Node n d → n.UniqueKeys :=
  fun _ _ _ _ hs ho h _ hn =>
    compile_nodes h₀ (fun _ h => h) (fun _ _ _ hs _ hv he _ => uniqueKeys_of_view hs hv he) hs ho h hn

theorem Reachable.uniqueKeys {r : Registry} (hr : Reachable r) {id : ShapeId} {d n : Descriptor}
    (hd : r.description? id = some d) (hn : n.Node d) : n.UniqueKeys :=
  hr.description (uniqueKeys_closed _ _ Options.distinct_none) hd n hn

end Conformance
