import Conformance.Proofs.Declared
import Conformance.Proofs.Needs
import Conformance.Proofs.Stability

/-!
# Strategies and conversion

The strategies `one` and `all` judge the elements of an array together. The converter takes each
element by the first choice that accepts it, which need not be the choice that the verdict rests on,
and a default that is filled in there may be a key too many for the other one. So the array is
accepted again just if the outcomes stay together, given that the conversions of its elements are
coherent.
-/

namespace Conformance

/-! ## Coherent conversions -/

namespace Descriptor

/-- The node names no shape, judges no array as a whole and refuses nothing. -/
def isSeparate : Descriptor → Bool
  | .model .. => false
  | .arrayOf (.mix _ s _) _ => s != .one && s != .all
  | .mix _ s _ => s != .not
  | _ => true

end Descriptor

namespace Registry
variable {r : Registry} {target : Target}

/-- One conversion calls another, or converts the default of a key that it finds missing. -/
inductive Meets (r : Registry) (target : Target) : Task → Task → Prop
  | call {p q : Task} (h : r.Calls target p q) : Meets r target p q
  | fill {p : Task} {m : Descriptor} {u : Value} (h : Lacks p m) (hu : m.traits.default? = some u) :
      Meets r target p (u, m)

/-- All conversions that the task comes to, of parts and of defaults, are coherent. -/
def CoherentFrom (r : Registry) (target : Target) (p : Task) : Prop :=
  ∀ q, Relation.ReflTransGen (r.Meets target) p q → r.Coherent target q

theorem CoherentFrom.meets {p q : Task} (h : r.CoherentFrom target p) (hq : r.Meets target p q) :
    r.CoherentFrom target q :=
  fun q' hq' => h q' (.head hq hq')

theorem coherent_of_separate {p : Task} (h : p.2.isSeparate = true) : r.Coherent target p := by
  constructor
  · intro cs s t t' hp
    rw [hp, Descriptor.isSeparate, Bool.and_eq_true, bne_iff_ne, bne_iff_ne] at h
    exact ⟨fun hs => absurd hs h.1, fun hs => absurd hs h.2⟩
  · intro _ cs t hp
    rw [hp] at h
    cases h

theorem coherentFrom_of_separate {v : Value} {d : Descriptor} (h : ∀ n, Descriptor.Node n d → n.isSeparate = true) :
    r.CoherentFrom target (v, d) := by
  intro q hq
  have hnodes : ∀ n, Descriptor.Node n q.2 → n.isSeparate = true := by
    induction hq with
    | refl => exact h
    | tail _ hm ih =>
      have part : ∀ {p : Task} {c : Descriptor}, (∀ n, Descriptor.Node n p.2 → n.isSeparate = true) → c ∈ p.2.parts →
          ∀ n, Descriptor.Node n c → n.isSeparate = true := fun hp hc n hn => hp n (.part hc hn)
      cases hm with
      | call hc =>
        cases hc with
        | element => exact part ih (List.mem_singleton_self _)
        | field _ hc => exact part ih (List.mem_map_of_mem (f := Prod.snd) (claims_entry hc))
        | choice _ _ hc => exact part ih (List.mem_of_find?_eq_some hc)
        | shape => cases ih _ .root
        | content => cases ih _ .root
      | fill hl =>
        cases hl with
        | entry _ hc => exact part ih (List.mem_map_of_mem (f := Prod.snd) (claims_entry hc))
  exact coherent_of_separate (hnodes _ .root)

/-! ## Defaults -/

/-- Each default is accepted by the node that carries it. -/
def DefaultsAccepted (r : Registry) : Prop :=
  ∀ id d, r.description? id = some d → ∀ n, Descriptor.Node n d →
    ∀ u, n.traits.default? = some u → r.accepts u n = true

instance (r : Registry) : Decidable r.DefaultsAccepted :=
  decidable_of_iff (r.everywhere (fun n => n.traits.default?.all (r.accepts · n)) = true) <| by
    simp only [everywhere_iff, Option.all_eq_true]; rfl

/-- No pattern accepts the exact key of a default that is written later. -/
def DefaultsUnshadowed (r : Registry) : Prop :=
  ∀ id d, r.description? id = some d → ∀ n, Descriptor.Node n d → ∀ schema t, n = .keyed schema t → Unshadowed schema

instance (r : Registry) : Decidable r.DefaultsUnshadowed :=
  decidable_of_iff (r.everywhere (fun
    | .keyed schema _ => decide (Unshadowed schema)
    | _ => true) = true) <| by
    rw [everywhere_iff]
    refine forall₄_congr fun id d _ n => forall_congr' fun _ => ?_
    cases n <;> simp

theorem firm_of_inScope [RegexEngine] (hr : Loaded r) (ha : r.DefaultsAccepted) (hu : r.DefaultsUnshadowed)
    {id : ShapeId}
    {d n : Descriptor} (hd : r.description? id = some d) (hn : r.InScope d n) (target : Target) (fitting : Prop) :
    r.Firm target fitting n := by
  obtain ⟨id, d, hd, hn⟩ : ∃ id d, r.description? id = some d ∧ Descriptor.Node n d := hn.elim (⟨id, d, hd, ·⟩) (·)
  have hdeclared := hr.declared hd hn
  refine ⟨fun _ => hdeclared.noClass, hdeclared.validator, hdeclared.keys, hu id d hd n hn, fun u hdefault => ?_⟩
  obtain ⟨hp, hdist⟩ := hdeclared.default u hdefault
  exact ⟨ha id d hd n hn u hdefault, .of_plain hp hdist⟩

theorem tame_coherent [RegexEngine] (hr : Loaded r) (ha : r.DefaultsAccepted) (hu : r.DefaultsUnshadowed) {id : ShapeId}
    {d : Descriptor} (hd : r.description? id = some d) (target : Target) (fitting : Prop) :
    r.Tame target fitting fun p => r.InScope d p.2 ∧ r.CoherentFrom target p where
  call hp hq := ⟨hq.inScope hp.1, hp.2.meets (.call hq)⟩
  fill {p m} _ hp hl hdefault := by
    have hasks : r.Asks target p m := ⟨p, .refl, hl⟩
    exact ⟨hasks.inScope hp.1, hp.2.meets (.fill hl hdefault)⟩
  firm hp := firm_of_inScope hr ha hu hd hp.1 target fitting
  coherent hp := hp.2 _ .refl

end Registry

/-! ## Arrays -/

/-- An array of a union is converted, and made plain again, to an array that the same descriptor accepts
just if its strategy still holds of the outcomes: for `one` some choice takes them all, for `all` each
choice takes some. An outcome is taken by the choice that made it. -/
theorem strategies_survive [RegexEngine] {r : Registry} (hr : Loaded r) (hdefaults : r.DefaultsAccepted)
    (hkeys : r.DefaultsUnshadowed)
    {id : ShapeId} {d : Descriptor} (hd : r.description? id = some d) {choices : List Descriptor} {s : Strategy}
    {t t' : Traits} (hn : Descriptor.Node (.arrayOf (.mix choices s t) t') d) {es : List Value}
    (hp : (Value.array es).Plain) (hv : (Value.array es).Distinct)
    (ha : r.accepts (.array es) (.arrayOf (.mix choices s t) t') = true)
    (hc : ∀ e ∈ es, r.CoherentFrom .instances (e, .mix choices s t)) {w : Value}
    (hw : r.convert .instances (.array es) (.arrayOf (.mix choices s t) t') = some w) :
    ∃ qs, w = .array qs ∧
      (r.accepts w (.arrayOf (.mix choices s t) t') = true ↔ r.Joint .instances choices s t es) ∧
        ((∀ q ∈ qs, r.CoherentFrom .plain (q, .mix choices s t)) →
          ∀ u, r.convert .plain w (.arrayOf (.mix choices s t) t') = some u →
            (r.accepts u (.arrayOf (.mix choices s t) t') = true ↔ r.Joint .plain choices s t qs)) := by
  have hg := hr.reachable.grounded
  have htame := Registry.tame_coherent hr hdefaults hkeys hd
  have harray : r.InScope d (.arrayOf (.mix choices s t) t') := .inl hn
  have hitems : r.InScope d (.mix choices s t) := harray.part (List.mem_singleton_self _)
  have hfirm := Registry.firm_of_inScope hr hdefaults hkeys hd harray
  have hes : ∀ e ∈ es, r.Good True e ∧ r.acceptsItem e (.mix choices s t) = true := by
    rw [Registry.accepts_arrayOf rfl, Bool.and_eq_true, Bool.and_eq_true, Registry.elementsMatch_iff] at ha
    intro e he
    have hpart : e ∈ (Value.array es).parts := Value.element_part he
    exact ⟨.of_plain (hp.part hpart) (hv.part hpart), ha.1.2.1 e he⟩
  obtain ⟨qs, rfl, hqs, haccepted⟩ := Registry.kept_elements hg (fun _ => trivial) (htame .instances True)
    (hfirm .instances True) (fun e he => ⟨hitems, hc e he⟩) hes hw
  refine ⟨qs, rfl, haccepted, fun hplain u hu => ?_⟩
  obtain ⟨us, rfl, -, hagain⟩ := Registry.kept_elements hg (fun _ => trivial) (htame .plain True)
    (hfirm .plain True) (fun q hq => ⟨hitems, hplain q hq⟩) hqs hu
  exact hagain

/-! Readings are measured, with a unit that is there by default, or stated, as a number or a word. A
note is a number or a word with a unit. -/

def measured : Json := .object
  [("x", .string "number"), ("unit", .object [("$type", .string "string"), ("$default", .string "m")])]

def stated : Json := .object [("x", .object [("$mix", .array [.string "number", .string "string"])])]

def note : Json := .object [("x", .object [("$mix", .array [.string "number", .string "string"])]),
  ("unit", .object [("$type", .string "string"), ("$default", .string "m")])]

def readings (strategy : String) (choices : List Json) : Registry := .ofModels
  [("Readings", .array [.object [("$mix", .array choices), ("$strategy", .string strategy)]])]

theorem readings_loaded (strategy : String) (choices : List Json) : Loaded (readings strategy choices) :=
  Registry.ofModels_loaded _

def someReadings : List Value := [.ofJson (.object [("x", .int 1)]), .ofJson (.object [("x", .string "high")])]

def notes : Registry := readings "one" [.object [("x", .string "number")], note]

/-- The descriptor of arrays of a union that has this strategy. -/
def Descriptor.isArrayOf (s : Strategy) : Descriptor → Bool
  | .arrayOf (.mix _ s' _) _ => s' = s
  | _ => false

theorem Descriptor.isArrayOf_iff {s : Strategy} {d : Descriptor} :
    d.isArrayOf s = true ↔ ∃ choices t t', d = .arrayOf (.mix choices s t) t' := by
  constructor
  · intro h
    cases d with
    | arrayOf items t' =>
      cases items with
      | mix choices s' t =>
        obtain rfl := of_decide_eq_true h
        exact ⟨choices, t, t', rfl⟩
      | _ => cases h
    | _ => cases h
  · rintro ⟨choices, t, t', rfl⟩
    exact decide_eq_true rfl

/-- The number has no unit, the word gets one, and both are notes. -/
theorem strategies_survive_notes : ∃ choices t t' qs,
    notes.description? (notes.idAt 0) = some (.arrayOf (.mix choices .one t) t') ∧
      notes.convert .instances (.array someReadings) (.arrayOf (.mix choices .one t) t') = some (.array qs) ∧
      notes.Joint .instances choices .one t someReadings ∧ notes.Joint .plain choices .one t qs := by
  have hr : Loaded notes := readings_loaded _ _
  have h : (decide notes.DefaultsAccepted && decide notes.DefaultsUnshadowed &&
      (notes.description? (notes.idAt 0)).any fun d =>
        d.isArrayOf .one && d.parts.all (·.allNodes Descriptor.isSeparate) &&
          notes.accepts (.array someReadings) d && (notes.convert .instances (.array someReadings) d).any fun w =>
        notes.accepts w d && (notes.convert .plain w d).any (notes.accepts · d)) = true := by decide +kernel
  simp only [Option.any_eq_true, Bool.and_eq_true, decide_eq_true_eq] at h
  obtain ⟨⟨hdefaults, hkeys⟩, d, hd, ⟨⟨hs, hseparate⟩, ha⟩, w, hw, hwa, u, hu, hua⟩ := h
  obtain ⟨choices, t, t', rfl⟩ := Descriptor.isArrayOf_iff.mp hs
  have hnodes := List.all_eq_true.mp hseparate _ (List.mem_singleton_self _)
  have hcoherent : ∀ target v, notes.CoherentFrom target (v, .mix choices .one t) := fun _ _ =>
    Registry.coherentFrom_of_separate (Descriptor.allNodes_iff.mp hnodes)
  obtain ⟨qs, rfl, hinstances, hplain⟩ := strategies_survive hr hdefaults hkeys hd .root (by decide) (by decide) ha
    (fun e _ => hcoherent .instances e) hw
  exact ⟨choices, t, t', qs, hd, hw, hinstances.mp hwa, (hplain (fun q _ => hcoherent .plain q) u hu).mp hua⟩

/-- The array of a union is accepted, but neither what it is converted to nor what becomes of that. -/
def Registry.Loses (r : Registry) (s : Strategy) (es : List Value) : Prop :=
  ∃ choices t t' w u, r.description? (r.idAt 0) = some (.arrayOf (.mix choices s t) t') ∧
    r.accepts (.array es) (.arrayOf (.mix choices s t) t') = true ∧
    r.convert .instances (.array es) (.arrayOf (.mix choices s t) t') = some w ∧
    r.accepts w (.arrayOf (.mix choices s t) t') = false ∧
    r.convert .plain w (.arrayOf (.mix choices s t) t') = some u ∧
    r.accepts u (.arrayOf (.mix choices s t) t') = false

def Registry.loses (r : Registry) (s : Strategy) (es : List Value) : Bool :=
  (r.description? (r.idAt 0)).any fun d =>
    d.isArrayOf s && r.accepts (.array es) d && (r.convert .instances (.array es) d).any fun w =>
      !r.accepts w d && (r.convert .plain w d).any fun u => !r.accepts u d

theorem Registry.loses_sound {r : Registry} {s : Strategy} {es : List Value} (h : r.loses s es = true) :
    r.Loses s es := by
  simp only [loses, Option.any_eq_true, Bool.and_eq_true, Bool.not_eq_true'] at h
  obtain ⟨d, hd, ⟨hs, ha⟩, w, hw, hwa, u, hu, hua⟩ := h
  obtain ⟨choices, t, t', rfl⟩ := Descriptor.isArrayOf_iff.mp hs
  exact ⟨choices, t, t', w, u, hd, ha, hw, hwa, hu, hua⟩

/-- The reading that both choices accept is taken as measured and gets a unit. Then no one choice is
left for both readings, and the other choice has no reading. -/
theorem strategies_lost :
    (Loaded (readings "one" [measured, stated]) ∧ (readings "one" [measured, stated]).DefaultsAccepted ∧
      (readings "one" [measured, stated]).Loses .one someReadings) ∧
    (Loaded (readings "all" [measured, stated]) ∧ (readings "all" [measured, stated]).DefaultsAccepted ∧
      (readings "all" [measured, stated]).Loses .all (someReadings.take 1)) := by
  have hone : (decide (readings "one" [measured, stated]).DefaultsAccepted &&
      (readings "one" [measured, stated]).loses .one someReadings) = true := by decide +kernel
  have hall : (decide (readings "all" [measured, stated]).DefaultsAccepted &&
      (readings "all" [measured, stated]).loses .all (someReadings.take 1)) = true := by decide +kernel
  rw [Bool.and_eq_true, decide_eq_true_eq] at hone hall
  exact ⟨⟨readings_loaded _ _, hone.1, Registry.loses_sound hone.2⟩,
    readings_loaded _ _, hall.1, Registry.loses_sound hall.2⟩

end Conformance
