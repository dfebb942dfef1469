import Conformance.Proofs.Declared
import Conformance.Proofs.Timely
import Conformance.Proofs.Worlds

/-!
# Descriptors that compilation lets through

Whatever forms a source has, at whatever depth, and whoever compiled the descriptors that it
quotes: what compiles is well formed throughout, and names shapes of its own guard alone, which
stay there from then on.
-/

namespace Conformance

/-! ## Well-formed nodes -/

/-- A node as compilation leaves it. -/
structure Descriptor.WellFormed (n : Descriptor) : Prop where
  choices : ∀ choices s t, n = .mix choices s t → choices ≠ []
  validator : ∀ p, n.traits.validator = some (.pattern p) → n.kind = .string ∨ n.kind = .number
  entries : ∀ schema t, n = .keyed schema t → schema ≠ []
  keys : n.UniqueKeys
  /-- No exact key is written as a pattern. -/
  exact : ∀ schema t, n = .keyed schema t → ∀ e ∈ schema, ∀ inner : String, '\n' ∉ inner.toList →
    e.1 ≠ .exact ("/^" ++ inner ++ "$/")

def Descriptor.FormedWell (d : Descriptor) : Prop := ∀ n, Node n d → n.WellFormed

theorem wellFormed_of_view [RegexEngine] {r : Registry} {c : Class → Prop} {q : Descriptor → Prop}
    {o : Options} {s : Source}
    {d : Descriptor} (hs : s.Over c q) (hv : CompileView r o s d) (he : ∀ e, s ≠ .described e)
    (hc : checkValidator d.kind o = .ok ()) : d.WellFormed where
  choices choices strategy t hd := by
    cases hv with
    | described => exact absurd rfl (he d)
    | token h => obtain ⟨id, rfl⟩ | ⟨p, rfl⟩ | rfl | rfl := Registry.resolve_ok h <;> cases hd
    | mix hne h =>
      cases hd
      rintro rfl
      exact hne (List.forall₂_nil_right_iff.mp h)
    | _ => cases hd
  validator _ hw := validator_of_view hv he hc hw
  entries schema t hd := by
    cases hv with
    | described => exact absurd rfl (he d)
    | token h => obtain ⟨id, rfl⟩ | ⟨p, rfl⟩ | rfl | rfl := Registry.resolve_ok h <;> cases hd
    | keyed hne h =>
      cases hd
      rintro rfl
      exact hne (List.forall₂_nil_right_iff.mp h)
    | _ => cases hd
  keys := uniqueKeys_of_view hs hv he
  exact schema t hd e hm inner hfeed hkey := by
    cases hv with
    | described => exact absurd rfl (he d)
    | token h => obtain ⟨id, rfl⟩ | ⟨p, rfl⟩ | rfl | rfl := Registry.resolve_ok h <;> cases hd
    | keyed _ h =>
      cases hd
      obtain ⟨f, -, hf, -⟩ := forall₂_mem_right h hm
      have hnone := compileKey_exact (hkey ▸ hf)
      rw [patternKey?_iff.mpr ⟨inner, hfeed, rfl, rfl⟩] at hnone
      cases hnone
    | _ => cases hd

theorem formedWell_closed [RegexEngine] : Closed (fun _ => True) (fun _ => True) Descriptor.FormedWell :=
  fun _ _ _ _ hs ho h _ hn => compile_nodes (ω := fun _ => True) trivial (fun _ h => h)
    (fun _ _ _ hs _ hv he hc => wellFormed_of_view hs hv he hc) hs ho h hn

/-! ## Owned handles -/

namespace Registry
variable {r r' : Registry}

/-- Every handle in the descriptor stands for a shape of the registry. -/
def Holds (r : Registry) (d : Descriptor) : Prop := d.Within fun id => r.owns id = true

theorem isLocal_iff {d : Descriptor} : r.isLocal d = true ↔ r.Holds d := by
  induction d using Descriptor.induction_parts with
  | h d ih =>
    have hparts : r.isLocal d = true ↔
        (∀ id t, d = .model id t → r.owns id = true) ∧ ∀ c ∈ d.parts, r.isLocal c = true := by
      cases d with
      | keyed schema t =>
        simp only [isLocal, isLocalSchema_eq, List.all_eq_true, Descriptor.parts, List.forall_mem_map]
        refine (and_iff_right ?_).symm
        rintro _ _ ⟨⟩
      | _ => simp [isLocal, areLocal_eq, Descriptor.parts]
    rw [hparts]
    constructor
    · rintro ⟨hroot, hc⟩ id t hn
      generalize hm : Descriptor.model id t = n at hn
      cases hn with
      | root => exact hroot id t hm.symm
      | part hpart hn => exact (ih _ hpart).mp (hc _ hpart) id t (hm ▸ hn)
    · intro h
      exact ⟨fun id t hd => h id t (hd ▸ .root), fun c hc => (ih c hc).mpr (h.part hc)⟩

theorem resolve_owns {name : String} {node : Traits → Descriptor} (h : r.resolve name = .ok node) {t u : Traits}
    {id : ShapeId} (hm : node t = .model id u) : r.owns id = true := by
  unfold resolve at h
  cases hl : r.lookup name with
  | some i =>
    rw [hl] at h
    cases h
    cases hm
    rw [owns_eq, lookup_name hl]
    rfl
  | none =>
    simp only [hl] at h
    split at h
    · cases h
    · split at h <;> cases h <;> cases hm

theorem lookupClass_owns {c : Class} {id : ShapeId} (h : r.lookupClass c = some id) : r.owns id = true := by
  unfold lookupClass at h
  split at h
  · split at h
    · cases h
      assumption
    · cases h
  · cases h

theorem compile_holds [RegexEngine] {s : Source} {o : Options} {d : Descriptor} (h : r.compile s o = .ok d) :
    r.Holds d := by
  intro id t hn
  generalize hm : Descriptor.model id t = n at hn
  induction hn generalizing s o with
  | root =>
    cases (compile_view h).1 with
    | described hl => exact isLocal_iff.mp hl id t (hm ▸ .root)
    | token hr => exact resolve_owns hr hm.symm
    | shape hl =>
      cases hm
      exact lookupClass_owns hl
    | _ => cases hm
  | part hc hn ih =>
    have hv := (compile_view h).1
    by_cases he : ∃ e, s = .described e
    · obtain ⟨e, rfl⟩ := he
      cases hv with
      | described hl => exact isLocal_iff.mp hl id t (hm ▸ .part hc hn)
    · obtain ⟨s', -, h'⟩ := hv.part (fun e h => he ⟨e, h⟩) hc
      exact ih h'

theorem Holds.of_same {d : Descriptor} (h : r.Holds d) (hs : r.SameNames r') : r'.Holds d := by
  intro id t hn
  rw [owns_eq, hs.name?, ← owns_eq]
  exact h id t hn

theorem compileTopLevel_holds [RegexEngine] {s : Source} {d : Descriptor} (h : r.compileTopLevel s = .ok d) :
    r.Holds d :=
  compile_holds (compileTopLevel_ok h).1

theorem Grows.holds (hg : r.Grows r') {d : Descriptor} (h : r.Holds d) : r'.Holds d := by
  intro id t hn
  obtain ⟨hserial, hsize⟩ := (owns_iff r id).mp (h id t hn)
  exact (owns_iff r' id).mpr ⟨hserial.trans hg.serial.symm, Nat.lt_of_lt_of_le hsize hg.size⟩

/-! ## Descriptions after a call -/

/-- Every description is well formed and closed. -/
def Formed (r : Registry) : Prop := ∀ id d, r.description? id = some d → d.FormedWell ∧ r.Holds d

section
variable (hn : r.names.Nodup) (hf : r.Formed)
include hn hf

theorem declare_formed {name : String} {id : ShapeId} (h : r.declare name = .ok (r', id)) : r'.Formed := by
  intro i d hd
  rw [declare_description? h] at hd
  exact (hf i d hd).imp_right (declare_grows hn h).holds

theorem model_formed [RegexEngine] {name : String} {s : Source} {id : ShapeId}
    (hs : s.Over (fun _ => True) Descriptor.FormedWell) (h : r.model name s = .ok (r', id)) : r'.Formed := by
  intro i d hd
  rcases model_described h hd with hd | ⟨r₁, hsame, hd⟩
  · exact (hf i d hd).imp_right (model_grows hn h).holds
  · exact ⟨formedWell_closed r₁ s {} d hs trivial (compileTopLevel_ok hd).1, (compileTopLevel_holds hd).of_same hsame⟩

theorem load_formed [RegexEngine] {text : String} {ids : List ShapeId} (h : r.load text = .ok (r', ids)) :
    r'.Formed := by
  intro i d hd
  have hgrows := load_grows hn h
  constructor
  · rcases load_description formedWell_closed (fun _ _ _ _ _ => trivial) h hd with hd | ⟨r₁, s, hs, hd⟩
    · exact (hf i d hd).1
    · exact formedWell_closed r₁ s {} d hs trivial (compileTopLevel_ok hd).1
  · obtain ⟨models, -, hk, h⟩ := load_ok h
    rcases loadModels_described hn hk h hd with hd | ⟨r₁, name, node, hsame, hd⟩
    · exact hgrows.holds (hf i d hd).2
    · obtain ⟨s, hd⟩ := reading_ok hd
      exact (compileTopLevel_holds hd).of_same hsame

end

end Registry

/-! ## Runs that quote what they were given -/

def Call.sources : Call → List Source
  | .model _ s | .value s _ => [s]
  | .declare _ | .load _ => []

def Request.sources : Request → List Source
  | .opening => []
  | .call _ c => c.sources

theorem Registry.call_formed [RegexEngine] {r : Registry} (hn : r.names.Nodup) (hf : r.Formed) {c : Call}
    (hs : ∀ s ∈ c.sources, s.Over (fun _ => True) Descriptor.FormedWell) : (r.call c).2.Formed := by
  cases c with
  | declare name =>
    rw [call]
    cases h : r.declare name with
    | error e => exact hf
    | ok a => exact declare_formed hn hf h
  | model name s =>
    rw [call]
    cases h : r.model name s with
    | error e => exact hf
    | ok a => exact model_formed hn hf (hs s (List.mem_singleton_self _)) h
  | value s o => exact hf
  | load text =>
    rw [call]
    cases h : r.load text with
    | error e => exact hf
    | ok a => exact load_formed hn hf h

theorem Guard.call_compiled [RegexEngine] {g : Guard} {c : Call} {d : Descriptor} (h : (g.call c).1 = .compiled d) :
    ∃ s o, c = .value s o ∧ g.registry.compile s o = .ok d := by
  cases c with
  | declare name =>
    rcases hx : g.declare name with ⟨e | a, g'⟩ <;> simp [call, hx, Reply.of] at h
  | model name s =>
    rcases hx : g.model name s with ⟨e | a, g'⟩ <;> simp [call, hx, Reply.of] at h
  | value s o =>
    cases hx : g.registry.compile s o <;> simp [call, hx, Reply.of] at h
    exact ⟨s, o, rfl, h ▸ hx⟩
  | load text =>
    rcases hx : g.load text with ⟨e | a, g'⟩ <;> simp [call, hx, Reply.of] at h

namespace World
variable [RegexEngine]

/-- A request compiles the descriptor for its caller, or leaves it as the description of a shape. -/
def Gives (w : World) (q : Request) (d : Descriptor) : Prop :=
  (w.step q).1 = .compiled d ∨ ∃ g ∈ (w.step q).2.guards, ∃ id, g.description? id = some d

/-- The guards after a run, and the descriptors that the run has given so far. Sources quote these,
whichever guard they come from, or parts of them. -/
inductive History : World → (Descriptor → Prop) → Prop
  | empty : History empty fun _ => False
  | step {w : World} {given : Descriptor → Prop} (h : History w given) (q : Request)
      (hq : ∀ s ∈ q.sources, s.Over (fun _ => True) given) :
      History (w.step q).2 fun d => given d ∨ ∃ e, w.Gives q e ∧ Descriptor.Node d e

def Formed (w : World) : Prop := ∀ g ∈ w.guards, g.registry.Formed

variable {w : World}

theorem step_formed (hw : w.Sound) (hf : w.Formed) {q : Request}
    (hq : ∀ s ∈ q.sources, s.Over (fun _ => True) Descriptor.FormedWell) : (w.step q).2.Formed := by
  intro g' hg'
  cases q with
  | opening =>
    rcases List.mem_append.mp hg' with hg' | hg'
    · exact hf g' hg'
    · cases List.mem_singleton.mp hg'
      intro id d hd
      simp [Registry.description?, Registry.slot?, Guard.registry, Guard.empty] at hd
  | call k c =>
    rw [step] at hg'
    cases hk : w.guards[k]? with
    | none =>
      rw [hk] at hg'
      exact hf g' hg'
    | some g =>
      rw [hk] at hg'
      rcases List.mem_or_eq_of_mem_set hg' with hg' | rfl
      · exact hf g' hg'
      · have hg := List.mem_of_getElem? hk
        have hsound := hw.guards g hg
        have hcall := Registry.call_formed hsound.aligned.registry_nodup (hf g hg) hq
        rw [Guard.registry_call hsound] at hcall
        exact hcall

theorem compiled_formedWell {q : Request} (hq : ∀ s ∈ q.sources, s.Over (fun _ => True) Descriptor.FormedWell)
    {d : Descriptor} (h : (w.step q).1 = .compiled d) : d.FormedWell := by
  cases q with
  | opening => cases h
  | call k c =>
    cases hk : w.guards[k]? with
    | none =>
      rw [step, hk] at h
      cases h
    | some g =>
      rw [step_reply hk] at h
      obtain ⟨s, o, rfl, hc⟩ := Guard.call_compiled h
      exact formedWell_closed _ s o d (hq s (List.mem_singleton_self _)) trivial hc

theorem History.sound {given : Descriptor → Prop} (h : History w given) :
    w.Sound ∧ w.Formed ∧ ∀ d, given d → d.FormedWell := by
  induction h with
  | empty => exact ⟨empty_sound, nofun, fun _ h => h.elim⟩
  | step _ q hq ih =>
    obtain ⟨hw, hf, hgiven⟩ := ih
    have hq' := fun s hs => (hq s hs).mono (fun _ h => h) hgiven
    have hf' := step_formed hw hf hq'
    refine ⟨step_sound hw q, hf', ?_⟩
    rintro d (hd | ⟨e, hd | ⟨g, hg, id, hd⟩, hn⟩)
    · exact hgiven d hd
    · exact fun n hn' => compiled_formedWell hq' hd n (hn'.trans hn)
    · exact fun n hn' => (hf' g hg id e (g.registry_description? id ▸ hd)).1 n (hn'.trans hn)

/-- The descriptor is well formed throughout, and each of its handles stands for a shape of the
guard at `k` that keeps its name and class. -/
structure Secures (w : World) (k : Nat) (g : Guard) (d : Descriptor) : Prop where
  wellFormed : ∀ n, Descriptor.Node n d → n.WellFormed
  handles : ∀ id t, Descriptor.Node (.model id t) d → g.owns id = true ∧
    ∃ name c, g.name? id = some name ∧ g.class? id = some c ∧
      ∀ later, ∃ g', (w.run later).guards[k]? = some g' ∧ g'.name? id = some name ∧ g'.class? id = some c

theorem Sound.secures (hw : w.Sound) {k : Nat} {g : Guard} (hk : w.guards[k]? = some g) {d : Descriptor}
    (hf : d.FormedWell) (hd : g.registry.Holds d) : w.Secures k g d where
  wellFormed := hf
  handles id t hn := by
    have ho : g.owns id = true := g.registry_owns id ▸ hd id t hn
    obtain ⟨c, hc⟩ := Option.isSome_iff_exists.mp ho
    have hname : g.name? id = some c.name := by rw [Guard.name?, hc]; rfl
    have hcls : g.class? id = some c.cls := by rw [Guard.class?, hc]; rfl
    refine ⟨ho, c.name, c.cls, hname, hcls, fun later => ?_⟩
    obtain ⟨g', hg', he⟩ := (run_sound hw later).2 k g hk
    exact ⟨g', hg', (he.name? ho).trans hname, (he.class? ho).trans hcls⟩

end World

/-- What a guard compiles is well formed at every depth, and its handles stand for shapes of this
guard from then on. So is what describes its shapes, which moreover is an object or an array that
refuses null. -/
theorem compiled_wellFormed [RegexEngine] {w : World} {given : Descriptor → Prop} (h : World.History w given)
    {k : Nat} {g : Guard} (hk : w.guards[k]? = some g) :
    (∀ s o d, s.Over (fun _ => True) given → (w.step (.call k (.value s o))).1 = .compiled d → w.Secures k g d) ∧
    ∀ id d, g.description? id = some d →
      w.Secures k g d ∧ (d.kind = .object ∨ d.kind = .array) ∧ d.traits.allowNull = false := by
  obtain ⟨hw, hf, hgiven⟩ := h.sound
  have hg := List.mem_of_getElem? hk
  constructor
  · intro s o d hs hd
    rw [World.step_reply hk] at hd
    obtain ⟨_, _, hv, hc⟩ := Guard.call_compiled hd
    cases hv
    exact hw.secures hk (formedWell_closed _ s o d (hs.mono (fun _ h => h) hgiven) trivial hc)
      (Registry.compile_holds hc)
  · intro id d hd
    have hd' : g.registry.description? id = some d := (g.registry_description? id).trans hd
    obtain ⟨hwell, hholds⟩ := hf g hg id d hd'
    exact ⟨hw.secures hk hwell hholds, (hw.guards g hg).grounded id d hd'⟩

/-! A list at one guard, whose items are described by a union that another guard compiled. -/

def scalar : Descriptor :=
  .mix [.primitive .string (Options.traits {}), .primitive .number (Options.traits {})] .any (Options.traits {})

def chain : Source := .keyed [("/^first|last$/", .described scalar), ("rest", .arrayOf (.token "Chain"))]

def chains : World :=
  World.after [.opening, .opening, .call 0 (.value (.mix [.token "string", .token "number"]) {}),
    .call 1 (.model "Chain" chain)]

theorem compiled_wellFormed_chains : ∃ given g d, World.History chains given ∧ given scalar ∧
    chains.guards[1]? = some g ∧ (chains.step (.call 1 (.value (.arrayOf (.token "Chain")) {}))).1 = .compiled d ∧
    chains.Secures 1 g d ∧ ∃ e, g.description? ⟨2, 0⟩ = some e ∧ chains.Secures 1 g e := by
  have opened : World.History (World.after [.opening, .opening]) _ := .step (.step .empty .opening nofun) .opening nofun
  have quoted := opened.step (.call 0 (.value (.mix [.token "string", .token "number"]) {})) <| by
    intro s hs
    cases List.mem_singleton.mp hs
    refine .mix fun s hs => ?_
    rcases List.mem_pair.mp hs with rfl | rfl <;> exact .token _
  have described := quoted.step (.call 1 (.model "Chain" chain)) <| by
    intro s hs
    cases List.mem_singleton.mp hs
    refine .keyed (by decide) ?_
    rintro e he
    rcases List.mem_pair.mp he with rfl | rfl
    · exact .described (.inr ⟨scalar, .inl rfl, .root⟩)
    · exact .arrayOf (.token _)
  have hchains : (chains.guards[1]?.any fun g => g.isDefined ⟨2, 0⟩ &&
      (g.registry.compile (.arrayOf (.token "Chain")) {}).toOption.isSome) = true := by decide +kernel
  obtain ⟨g, hg, h⟩ := (Option.any_eq_true ..).mp hchains
  obtain ⟨hdefined, hcompiled⟩ := (Bool.and_eq_true ..).mp h
  obtain ⟨e, he⟩ := Option.isSome_iff_exists.mp hdefined
  obtain ⟨d, hd⟩ : ∃ d, (chains.step (.call 1 (.value (.arrayOf (.token "Chain")) {}))).1 = .compiled d := by
    rw [World.step_reply hg, Guard.call]
    cases hx : g.registry.compile (.arrayOf (.token "Chain")) {} with
    | error _ => simp [hx, Except.toOption] at hcompiled
    | ok d => exact ⟨d, rfl⟩
  obtain ⟨values, descriptions⟩ := compiled_wellFormed described hg
  exact ⟨_, g, d, described, .inl (.inr ⟨scalar, .inl rfl, .root⟩), hg, hd, values _ _ d (.arrayOf (.token _)) hd,
    e, he,
    (descriptions _ e he).1⟩

end Conformance
