import Conformance.Compile
import Conformance.Proofs.Trees

/-!
# What compilation makes of a source

`CompileView` says in one step what each form of source compiles to. An invariant of all nodes
of compiled descriptors (`compile_nodes`) then has to be shown for the node of one step only;
descriptors compiled earlier bring it along.
-/

namespace Conformance

theorem bind_eq_ok {ε α β : Type} {x : Except ε α} {f : α → Except ε β} {b : β} :
    x >>= f = .ok b ↔ ∃ a, x = .ok a ∧ f a = .ok b := by
  cases x with
  | error e => simp [bind, Except.bind]
  | ok a => simp [bind, Except.bind]

def Source.parts : Source → List Source
  | .arrayOf s => [s]
  | .keyed es => es.map Prod.snd
  | .mix ss => ss
  | .token _ | .cls _ | .openArray | .described _ => []

/-- A source whose maps have unique keys, and which names only classes with `c` and quotes only
descriptors with `q`. -/
inductive Source.Over (c : Class → Prop) (q : Descriptor → Prop) : Source → Prop
  | token (name : String) : Over c q (.token name)
  | cls {k : Class} (h : c k) : Over c q (.cls k)
  | openArray : Over c q .openArray
  | arrayOf {s : Source} (h : Over c q s) : Over c q (.arrayOf s)
  | keyed {es : List (String × Source)} (hk : (Entries.keys es).Nodup) (h : ∀ e ∈ es, Over c q e.2) :
      Over c q (.keyed es)
  | mix {ss : List Source} (h : ∀ s ∈ ss, Over c q s) : Over c q (.mix ss)
  | described {d : Descriptor} (h : q d) : Over c q (.described d)

theorem Source.Over.mono {c c' : Class → Prop} {q q' : Descriptor → Prop} (hc : ∀ k, c k → c' k)
    (hq : ∀ d, q d → q' d) {s : Source} (h : s.Over c q) : s.Over c' q' := by
  induction h with
  | token name => exact .token name
  | cls h => exact .cls (hc _ h)
  | openArray => exact .openArray
  | arrayOf _ ih => exact .arrayOf ih
  | keyed hk _ ih => exact .keyed hk ih
  | mix _ ih => exact .mix ih
  | described h => exact .described (hq _ h)

theorem Source.Over.part {c : Class → Prop} {q : Descriptor → Prop} {s s' : Source} (h : s.Over c q)
    (hs : s' ∈ s.parts) : s'.Over c q := by
  cases h with
  | arrayOf h => rw [List.mem_singleton.mp hs]; exact h
  | keyed _ h =>
    obtain ⟨e, he, rfl⟩ := List.mem_map.mp hs
    exact h e he
  | mix h => exact h _ hs
  | _ => cases hs

/-! ## Keys -/

theorem patternKey?_iff {key inner : String} : patternKey? key = some inner ↔
    ∃ s : String, '\n' ∉ s.toList ∧ key = "/^" ++ s ++ "$/" ∧ inner = "^" ++ s ++ "$" := by
  constructor
  · intro h
    unfold patternKey? at h
    split at h
    · rename_i rest hl
      split at h
      · rename_i inner' hr
        split at h
        · cases h
        · rename_i hfeed
          have hrest : rest = inner'.reverse ++ ['$', '/'] := by
            rw [← List.reverse_reverse rest, hr]
            simp
          cases h
          refine ⟨String.ofList inner'.reverse, by simpa using hfeed, ?_, ?_⟩
          · apply String.toList_inj.mp
            simp [hl, hrest]
          · apply String.toList_inj.mp
            simp
      · cases h
    · cases h
  · rintro ⟨s, hfeed, rfl, rfl⟩
    have hl : ("/^" ++ s ++ "$/").toList = '/' :: '^' :: (s.toList ++ ['$', '/']) := by simp
    have hr : (s.toList ++ ['$', '/']).reverse = '/' :: '$' :: s.toList.reverse := by simp
    have hfeed : s.toList.reverse.contains '\n' = false := by simpa using hfeed
    unfold patternKey?
    simp only [hl, hr, hfeed, Bool.false_eq_true, ite_false, Option.some.injEq]
    apply String.toList_inj.mp
    simp

theorem patternKey?_text {key inner : String} (h : patternKey? key = some inner) : "/" ++ inner ++ "/" = key := by
  obtain ⟨s, -, rfl, rfl⟩ := patternKey?_iff.mp h
  simp [String.ext_iff]

variable [RegexEngine]

theorem compileKey_text {key : String} {m : KeyMatcher} (h : compileKey key = .ok m) : m.text = key := by
  unfold compileKey at h
  split at h
  · cases h; rfl
  · rename_i inner hk
    split at h
    · rename_i rx hrx
      cases h
      obtain ⟨p, _, rfl⟩ := Option.map_eq_some_iff.mp hrx
      exact patternKey?_text hk
    · cases h

theorem compileKey_exact {k key : String} (h : compileKey k = .ok (.exact key)) : patternKey? key = none := by
  unfold compileKey at h
  split at h
  · rename_i hk
    cases h
    exact hk
  · split at h <;> cases h

/-! ## One step of compilation -/

/-- What the forms of a source compile to under options `o`. -/
inductive CompileView (r : Registry) (o : Options) : Source → Descriptor → Prop
  | described {d : Descriptor} (h : r.isLocal d = true) : CompileView r o (.described d) d
  | token {name : String} {node : Traits → Descriptor} (h : r.resolve name = .ok node) :
      CompileView r o (.token name) (node o.traits)
  | shape {c : Class} {id : ShapeId} (h : r.lookupClass c = some id) :
      CompileView r o (.cls c) (.model id o.traits)
  | cls {c : Class} (h : r.lookupClass c = none) : CompileView r o (.cls c) (.cls c o.traits)
  | openArray : CompileView r o .openArray (.openArray o.traits)
  | arrayOf {s : Source} {items : Descriptor} (h : r.compile s {} = .ok items) :
      CompileView r o (.arrayOf s) (.arrayOf items o.traits)
  | openObject : CompileView r o (.keyed []) (.openObject o.traits)
  | keyed {es : List (String × Source)} {schema : Schema} (hne : es ≠ [])
      (h : es.Forall₂ (fun e m => compileKey e.1 = .ok m.1 ∧ r.compile e.2 {} = .ok m.2) schema) :
      CompileView r o (.keyed es) (.keyed schema o.traits)
  | mix {ss : List Source} {ds : List Descriptor} (hne : ss ≠ [])
      (h : ss.Forall₂ (fun s d => r.compile s {} = .ok d) ds) :
      CompileView r o (.mix ss) (.mix ds (o.strategy.getD .any) o.traits)

omit [RegexEngine] in
theorem finish_ok {o : Options} {node : Traits → Descriptor} {d : Descriptor} (h : finish o node = .ok d) :
    d = node o.traits ∧ checkValidator d.kind o = .ok () := by
  unfold finish at h
  obtain ⟨_, hv, h⟩ := bind_eq_ok.mp h
  cases h
  exact ⟨rfl, hv⟩

omit [RegexEngine] in
theorem finish_of_ok {o : Options} {node : Traits → Descriptor} (h : checkValidator (node o.traits).kind o = .ok ()) :
    finish o node = .ok (node o.traits) := by
  unfold finish
  simp [h, bind, Except.bind]

namespace Registry
variable (r : Registry)

theorem compileEntries_forall₂ : ∀ {es : List (String × Source)} {schema : Schema},
    r.compileEntries es = .ok schema →
      es.Forall₂ (fun e m => compileKey e.1 = .ok m.1 ∧ r.compile e.2 {} = .ok m.2) schema
  | [], _, h => by rw [compileEntries] at h; cases h; exact .nil
  | (key, s) :: rest, _, h => by
    rw [compileEntries] at h
    obtain ⟨m, hm, h⟩ := bind_eq_ok.mp h
    obtain ⟨d, hd, h⟩ := bind_eq_ok.mp h
    obtain ⟨schema, hs, h⟩ := bind_eq_ok.mp h
    cases h
    exact .cons ⟨hm, hd⟩ (compileEntries_forall₂ hs)

theorem compileAll_forall₂ : ∀ {ss : List Source} {ds : List Descriptor},
    r.compileAll ss = .ok ds → ss.Forall₂ (fun s d => r.compile s {} = .ok d) ds
  | [], _, h => by rw [compileAll] at h; cases h; exact .nil
  | s :: rest, _, h => by
    rw [compileAll] at h
    obtain ⟨d, hd, h⟩ := bind_eq_ok.mp h
    obtain ⟨ds, hs, h⟩ := bind_eq_ok.mp h
    cases h
    exact .cons hd (compileAll_forall₂ hs)

variable {r}

theorem compile_view {s : Source} {o : Options} {d : Descriptor} (h : r.compile s o = .ok d) :
    CompileView r o s d ∧ (s = .described d ∨ checkValidator d.kind o = .ok ()) := by
  cases s with
  | described e =>
    rw [compile] at h
    split at h
    · rename_i hl; cases h; exact ⟨.described hl, .inl rfl⟩
    · cases h
  | token name =>
    rw [compile] at h
    obtain ⟨node, hn, h⟩ := bind_eq_ok.mp h
    obtain ⟨rfl, hv⟩ := finish_ok h
    exact ⟨.token hn, .inr hv⟩
  | cls c =>
    rw [compile] at h
    obtain ⟨rfl, hv⟩ := finish_ok h
    cases hc : r.lookupClass c with
    | none => simp only [hc] at hv ⊢; exact ⟨.cls hc, .inr hv⟩
    | some id => simp only [hc] at hv ⊢; exact ⟨.shape hc, .inr hv⟩
  | openArray =>
    rw [compile] at h
    obtain ⟨rfl, hv⟩ := finish_ok h
    exact ⟨.openArray, .inr hv⟩
  | arrayOf item =>
    rw [compile] at h
    obtain ⟨items, hi, h⟩ := bind_eq_ok.mp h
    obtain ⟨rfl, hv⟩ := finish_ok h
    exact ⟨.arrayOf hi, .inr hv⟩
  | keyed es =>
    cases es with
    | nil =>
      rw [compile] at h
      obtain ⟨rfl, hv⟩ := finish_ok h
      exact ⟨.openObject, .inr hv⟩
    | cons e es =>
      rw [compile] at h
      obtain ⟨schema, hs, h⟩ := bind_eq_ok.mp h
      obtain ⟨rfl, hv⟩ := finish_ok h
      exact ⟨.keyed (by simp) (r.compileEntries_forall₂ hs), .inr hv⟩
  | mix ss =>
    cases ss with
    | nil => rw [compile] at h; cases h
    | cons s ss =>
      rw [compile] at h
      obtain ⟨ds, hs, h⟩ := bind_eq_ok.mp h
      obtain ⟨rfl, hv⟩ := finish_ok h
      exact ⟨.mix (by simp) (r.compileAll_forall₂ hs), .inr hv⟩

theorem compileEntries_of_forall₂ {es : List (String × Source)} {schema : Schema}
    (h : es.Forall₂ (fun e m => compileKey e.1 = .ok m.1 ∧ r.compile e.2 {} = .ok m.2) schema) :
    r.compileEntries es = .ok schema := by
  induction h with
  | nil => rfl
  | cons hm _ ih =>
    rw [compileEntries, hm.1, hm.2, ih]
    rfl

theorem compileAll_of_forall₂ {ss : List Source} {ds : List Descriptor}
    (h : ss.Forall₂ (fun s d => r.compile s {} = .ok d) ds) : r.compileAll ss = .ok ds := by
  induction h with
  | nil => rfl
  | cons hd _ ih =>
    rw [compileAll, hd, ih]
    rfl

/-- A view that passes the check of its validator is what compiling gives. -/
theorem compile_of_view {s : Source} {o : Options} {d : Descriptor} (h : CompileView r o s d)
    (hv : s = .described d ∨ checkValidator d.kind o = .ok ()) : r.compile s o = .ok d := by
  cases h with
  | described h =>
    rw [compile]
    simp [h]
  | token h =>
    rw [compile, h]
    exact finish_of_ok (hv.resolve_left nofun)
  | shape h =>
    rw [compile, h]
    exact finish_of_ok (hv.resolve_left nofun)
  | cls h =>
    rw [compile, h]
    exact finish_of_ok (hv.resolve_left nofun)
  | openArray | openObject =>
    rw [compile]
    exact finish_of_ok (hv.resolve_left nofun)
  | arrayOf h =>
    rw [compile, h]
    exact finish_of_ok (hv.resolve_left nofun)
  | @keyed es schema hne h =>
    obtain ⟨e, es, rfl⟩ := List.exists_cons_of_ne_nil hne
    rw [compile, compileEntries_of_forall₂ h]
    exact finish_of_ok (hv.resolve_left nofun)
  | @mix ss ds hne h =>
    obtain ⟨s, ss, rfl⟩ := List.exists_cons_of_ne_nil hne
    rw [compile, compileAll_of_forall₂ h]
    exact finish_of_ok (hv.resolve_left nofun)

omit [RegexEngine] in
theorem resolve_ok {name : String} {node : Traits → Descriptor} (h : r.resolve name = .ok node) :
    (∃ id, node = .model id) ∨ (∃ p, node = .primitive p) ∨ node = .openArray ∨ node = .openObject := by
  unfold resolve at h
  cases hl : r.lookup name with
  | some id =>
    rw [hl] at h
    cases h
    exact .inl ⟨id, rfl⟩
  | none =>
    simp only [hl] at h
    split at h
    · cases h
    · split at h <;>
        first
        | (cases h; done)
        | (cases h; exact .inr (.inl ⟨_, rfl⟩))
        | (cases h; exact .inr (.inr (.inl rfl)))
        | (cases h; exact .inr (.inr (.inr rfl)))

end Registry

theorem CompileView.part {r : Registry} {o : Options} {s : Source} {d m : Descriptor}
    (h : CompileView r o s d) (hs : ∀ e, s ≠ .described e) (hm : m ∈ d.parts) :
    ∃ s' ∈ s.parts, r.compile s' {} = .ok m := by
  cases h with
  | described h => exact absurd rfl (hs d)
  | token h => obtain ⟨id, rfl⟩ | ⟨k, rfl⟩ | rfl | rfl := Registry.resolve_ok h <;> cases hm
  | arrayOf h => rw [List.mem_singleton.mp hm]; exact ⟨_, List.mem_singleton_self _, h⟩
  | keyed _ h =>
    obtain ⟨e, he, rfl⟩ := List.mem_map.mp hm
    obtain ⟨f, hf, _, hc⟩ := forall₂_mem_right h he
    exact ⟨f.2, List.mem_map_of_mem hf, hc⟩
  | mix _ h => exact forall₂_mem_right h hm
  | _ => cases hm

/-- Every node of a compiled descriptor has `p` if quoted descriptors have it throughout and a
step of compilation makes no other node. -/
theorem compile_nodes {r : Registry} {c : Class → Prop} {ω : Options → Prop} {q p : Descriptor → Prop}
    (hω : ω {}) (hq : ∀ d, q d → ∀ n, n.Node d → p n)
    (hp : ∀ s o d, s.Over c q → ω o → CompileView r o s d → (∀ e, s ≠ .described e) →
      checkValidator d.kind o = .ok () → p d)
    {s : Source} (hs : s.Over c q) {o : Options} (ho : ω o) {d : Descriptor}
    (h : r.compile s o = .ok d) {n : Descriptor} (hn : n.Node d) : p n := by
  induction hn generalizing s o with
  | root =>
    obtain ⟨hv, rfl | hc⟩ := Registry.compile_view h
    · cases hs with | described hd => exact hq _ hd _ .root
    · by_cases he : ∃ e, s = .described e
      · obtain ⟨e, rfl⟩ := he
        cases hv
        cases hs with | described hd => exact hq _ hd _ .root
      · exact hp s o _ hs ho hv (fun e h => he ⟨e, h⟩) hc
  | part hm hn ih =>
    have hv := (Registry.compile_view h).1
    by_cases he : ∃ e, s = .described e
    · obtain ⟨e, rfl⟩ := he
      cases hv
      cases hs with | described hd => exact hq _ hd _ (.part hm hn)
    · obtain ⟨s', hs', hc⟩ := hv.part (fun e h => he ⟨e, h⟩) hm
      exact ih (hs.part hs') hω hc

/-! ## Keys of schemas -/

/-- The entries of an object have keys that are written differently. -/
def Descriptor.UniqueKeys : Descriptor → Prop
  | .keyed schema _ => (schema.map fun e => e.1.text).Nodup
  | _ => True

theorem uniqueKeys_of_view {r : Registry} {c : Class → Prop} {q : Descriptor → Prop} {o : Options} {s : Source}
    {d : Descriptor} (hs : s.Over c q) (hv : CompileView r o s d) (he : ∀ e, s ≠ .described e) : d.UniqueKeys := by
  cases hv with
  | described => exact absurd rfl (he d)
  | token h => obtain ⟨id, rfl⟩ | ⟨p, rfl⟩ | rfl | rfl := Registry.resolve_ok h <;> exact trivial
  | keyed _ h =>
    cases hs with
    | keyed hk _ =>
      have htexts : ∀ {es : List (String × Source)} {schema : Schema},
          es.Forall₂ (fun e m => compileKey e.1 = .ok m.1 ∧ r.compile e.2 {} = .ok m.2) schema →
          (schema.map fun e => e.1.text) = Entries.keys es := by
        intro es schema h
        induction h with
        | nil => rfl
        | cons hm _ ih => rw [List.map_cons, compileKey_text hm.1, ih]; rfl
      rw [Descriptor.UniqueKeys, htexts h]
      exact hk
  | _ => exact trivial

end Conformance
