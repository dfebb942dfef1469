import Conformance.Proofs.Declared
import Conformance.Proofs.Lowering
import Conformance.Proofs.Shapes
import Conformance.Proofs.Timely

/-!
# Options of directives

The descriptor that stands for a directive has the options of the directive. A directive whose
subject is a directive again is stood for by the descriptor of that subject, and its own options
are passed over.
-/

namespace Conformance

/-! ## Nodes of a declaration -/

/-- The edges from a node of a declaration to the nodes inside it. -/
inductive Edge where
  | item
  | field (key : String)
  | subject
  | alternative (i : Nat)

namespace Json

def node? : Json → Edge → Option Json
  | .array [item], .item => some item
  | .object fields, .field key => if isDirective fields then none else Entries.get? fields key
  | .object fields, .subject => Entries.get? fields "$type"
  | .object fields, .alternative i =>
    match Entries.get? fields "$mix" with
    | some (.array alternatives) => alternatives[i]?
    | _ => none
  | _, _ => none

def at? (j : Json) (edges : List Edge) : Option Json := edges.foldlM node? j

end Json

namespace Descriptor

/-- The descriptors that stand for the nodes inside. A directive and its subject have one descriptor. -/
def part? : Descriptor → Edge → Option Descriptor
  | .arrayOf items _, .item => some items
  | .keyed schema _, .field key => (schema.find? (·.1.text = key)).map Prod.snd
  | d, .subject => some d
  | .mix choices _ _, .alternative i => choices[i]?
  | _, _ => none

def at? (d : Descriptor) (edges : List Edge) : Option Descriptor := edges.foldlM part? d

end Descriptor

/-- The options of a directive are those of the descriptor. -/
structure Json.Carried [RegexEngine] (fields : Entries Json) (d : Descriptor) : Prop where
  required : d.traits.required = false ↔ Entries.get? fields "$required" = some (.bool false)
  allowNull : d.traits.allowNull = true ↔ Entries.get? fields "$allowNull" = some (.bool true)
  matchOnce : d.traits.matchOnce = true ↔ Entries.get? fields "$matchOnce" = some (.bool true)
  default : d.traits.default = (Entries.get? fields "$default").map fun j => .constant (.ofJson j)
  validator : (Entries.get? fields "$validator" = none ∧ d.traits.validator = none) ∨
    ∃ inner p, Entries.get? fields "$validator" = some (.string ("/" ++ inner ++ "/")) ∧
      Regex.compile? inner = some p ∧ d.traits.validator = some (.pattern p)
  strategy : "$mix" ∈ Entries.keys fields → ∃ choices s, d = .mix choices s d.traits ∧
    ((Entries.get? fields "$strategy" = none ∧ s = .any) ∨ Entries.get? fields "$strategy" = some (.string s.name))

/-! ## One directive -/

section
variable [RegexEngine] {r : Registry} {p : Path}

theorem readOptions_traits {fields : Entries Json} {o : Options} (h : readOptions fields p = .ok o) :
    (o.traits.required = false ↔ Entries.get? fields "$required" = some (.bool false)) ∧
    (o.traits.allowNull = true ↔ Entries.get? fields "$allowNull" = some (.bool true)) ∧
    (o.traits.matchOnce = true ↔ Entries.get? fields "$matchOnce" = some (.bool true)) ∧
    o.traits.default = (Entries.get? fields "$default").map (fun j => .constant (.ofJson j)) ∧
    readValidator fields p = .ok o.traits.validator ∧ readStrategy fields p = .ok o.strategy := by
  unfold readOptions at h
  obtain ⟨required, hr, h⟩ := bind_eq_ok.mp h
  obtain ⟨allowNull, ha, h⟩ := bind_eq_ok.mp h
  obtain ⟨matchOnce, hm, h⟩ := bind_eq_ok.mp h
  obtain ⟨validator, hv, h⟩ := bind_eq_ok.mp h
  obtain ⟨strategy, hs, h⟩ := bind_eq_ok.mp h
  cases h
  rw [flag_ok.mp hr, flag_ok.mp ha, flag_ok.mp hm]
  refine ⟨?_, ?_, ?_, rfl, hv, hs⟩
  · rcases required with _ | _ | _ <;> simp [Options.traits]
  · rcases allowNull with _ | _ | _ <;> simp [Options.traits]
  · rcases matchOnce with _ | _ | _ <;> simp [Options.traits]

/-- The node is read, and what was read is compiled to the descriptor. -/
def Registry.Yields (r : Registry) (j : Json) (d : Descriptor) : Prop :=
  ∃ p s o, lower r p j = .ok s ∧ r.compile s o = .ok d

theorem lowerFields_forall₂ : ∀ {fields : List (String × Json)} {ss : List (String × Source)},
    lowerFields r p fields = .ok ss →
      fields.Forall₂ (fun f e => f.1 = e.1 ∧ ∃ p', lower r p' f.2 = .ok e.2) ss
  | [], _, h => by rw [lowerFields] at h; cases h; exact .nil
  | (key, node) :: rest, _, h => by
    rw [lowerFields] at h
    split at h
    · cases h
    · obtain ⟨s, hs, h⟩ := bind_eq_ok.mp h
      obtain ⟨ss, hss, h⟩ := bind_eq_ok.mp h
      cases h
      exact .cons ⟨rfl, _, hs⟩ (lowerFields_forall₂ hss)

theorem lowerAlternatives_forall₂ : ∀ {js : List Json} {i : Nat} {ss : List Source},
    lowerAlternatives r p i js = .ok ss → js.Forall₂ (fun j s => ∃ p', lower r p' j = .ok s) ss
  | [], _, _, h => by rw [lowerAlternatives] at h; cases h; exact .nil
  | node :: rest, i, _, h => by
    rw [lowerAlternatives] at h
    obtain ⟨s, hs, h⟩ := bind_eq_ok.mp h
    obtain ⟨ss, hss, h⟩ := bind_eq_ok.mp h
    cases h
    exact .cons ⟨_, hs⟩ (lowerAlternatives_forall₂ hss)

/-- A directive is compiled with its options, from its subject or from the union of its
alternatives. -/
theorem yields_directive {fields : Entries Json} (hdir : Json.IsDirective (.object fields)) {d : Descriptor}
    (h : r.Yields (.object fields) d) : ∃ p s o, readOptions fields p = .ok o ∧ r.compile s o = .ok d ∧
      ((∃ j p', Entries.get? fields "$type" = some j ∧ "$mix" ∉ Entries.keys fields ∧ lower r p' j = .ok s) ∨
        ∃ js ss, "$type" ∉ Entries.keys fields ∧ Entries.get? fields "$mix" = some (.array js) ∧ s = .mix ss ∧
          js.Forall₂ (fun j s => ∃ p', lower r p' j = .ok s) ss) := by
  obtain ⟨p, s, o, hs, hd⟩ := h
  obtain ⟨hc, s', o', e, hs', ho, he, rfl⟩ := (lower_directive hdir).mp hs
  obtain ⟨rfl, -⟩ := compile_described hd
  obtain ⟨-, ⟨j, ht, hm⟩ | ⟨js, ht, hm⟩⟩ := checkDirective_ok.mp hc
  · rw [lowerSubject_typed r p ht hm] at hs'
    exact ⟨p, s', o', ho, he, .inl ⟨j, _, ht, hm, hs'⟩⟩
  · rw [lowerSubject_mix r p ht hm] at hs'
    obtain ⟨ss, hss, hs'⟩ := bind_eq_ok.mp hs'
    cases hs'
    exact ⟨p, _, o', ho, he, .inr ⟨js, ss, ht, hm, rfl, lowerAlternatives_forall₂ hss⟩⟩

theorem yields_carried {fields : Entries Json} (hdir : Json.IsDirective (.object fields)) {d : Descriptor}
    (h : r.Yields (.object fields) d) (hsub : ∀ j, Entries.get? fields "$type" = some j → ¬ j.IsDirective) :
    Json.Carried fields d := by
  obtain ⟨p, s, o, ho, hd, hsubject⟩ := yields_directive hdir h
  have hview := (Registry.compile_view hd).1
  have hraw : ∀ e, s ≠ .described e := by
    rintro e rfl
    rcases hsubject with ⟨j, p', ht, -, hj⟩ | ⟨js, ss, -, -, h, -⟩
    · exact hsub j ht ((lower_described hj).mpr ⟨e, rfl⟩)
    · cases h
  obtain ⟨hrequired, hnull, honce, hdefault, hv, hstrategy⟩ := readOptions_traits ho
  rw [← hview.traits hraw] at hrequired hnull honce hdefault hv
  refine ⟨hrequired, hnull, honce, hdefault, readValidator_ok.mp hv, fun hm => ?_⟩
  rcases hsubject with ⟨j, p', -, hno, -⟩ | ⟨js, ss, -, -, rfl, -⟩
  · exact absurd hm hno
  · cases hview with
    | mix hne hall =>
      refine ⟨_, _, rfl, ?_⟩
      rw [readStrategy_ok.mp hstrategy]
      cases o.strategy with
      | none => exact .inl ⟨rfl, rfl⟩
      | some s => exact .inr rfl

/-! ## From a node to the nodes inside -/

omit [RegexEngine] in
theorem find?_text {P : Json → Descriptor → Prop} {fields : Entries Json} {schema : Schema}
    (h : fields.Forall₂ (fun f m => m.1.text = f.1 ∧ P f.2 m.2) schema) {key : String} {j : Json}
    (hj : Entries.get? fields key = some j) :
    ∃ d, (schema.find? (·.1.text = key)).map Prod.snd = some d ∧ P j d := by
  induction h with
  | nil => cases hj
  | @cons f m fields schema hm _ ih =>
    obtain ⟨htext, hp⟩ := hm
    rw [Entries.get?] at hj
    rw [List.find?_cons, htext]
    by_cases hk : f.1 = key
    · rw [if_pos hk] at hj
      cases hj
      exact ⟨m.2, by simp [hk], hp⟩
    · rw [if_neg hk] at hj
      simpa [hk] using ih hj

theorem yields_field {fields : Entries Json} (hdir : ¬ Json.IsDirective (.object fields)) {d : Descriptor}
    (h : r.Yields (.object fields) d) {key : String} {j : Json} (hj : Entries.get? fields key = some j) :
    ∃ d', d.part? (.field key) = some d' ∧ r.Yields j d' := by
  obtain ⟨p, s, o, hs, hd⟩ := h
  rw [lower, if_neg (mt isDirective_iff.mp hdir)] at hs
  obtain ⟨ss, hss, hs⟩ := bind_eq_ok.mp hs
  cases hs
  have hread := lowerFields_forall₂ hss
  cases (Registry.compile_view hd).1 with
  | openObject => cases hread; cases hj
  | keyed hne hes =>
    refine find?_text (forall₂_through hread hes fun f _ e _ m hf hm => ?_) hj
    obtain ⟨hkey, p', hs'⟩ := hf
    exact ⟨(compileKey_text hm.1).trans hkey.symm, p', e.2, {}, hs', hm.2⟩

theorem yields_alternative {fields : Entries Json} {alternatives : List Json}
    (hmix : Entries.get? fields "$mix" = some (.array alternatives)) {d : Descriptor}
    (h : r.Yields (.object fields) d) {i : Nat} {j : Json} (hj : alternatives[i]? = some j) :
    ∃ d', d.part? (.alternative i) = some d' ∧ r.Yields j d' := by
  have hm := Entries.mem_keys (Entries.mem_of_get? hmix)
  obtain ⟨p, s, o, -, hd, ⟨_, _, -, hno, -⟩ | ⟨js, ss, -, hjs, rfl, hss⟩⟩ := yields_directive (.inr hm) h
  · exact absurd hm hno
  · cases hmix.symm.trans hjs
    cases (Registry.compile_view hd).1 with
    | @mix _ ds hne hall =>
      have hnodes : alternatives.Forall₂ r.Yields ds := forall₂_through hss hall fun j _ s _ d hj hd =>
        hj.elim fun p' hs' => ⟨p', s, {}, hs', hd⟩
      have hrel := forall₂_getElem? hnodes i
      rw [hj] at hrel
      cases hd' : ds[i]? with
      | none => rw [hd'] at hrel; cases hrel
      | some d' =>
        rw [hd'] at hrel
        cases hrel with
        | some h => exact ⟨d', hd', h⟩

/-- Each edge of the declaration is one of its descriptor. -/
theorem yields_edge {j j' : Json} {edge : Edge} (hj : j.node? edge = some j') {d : Descriptor} (h : r.Yields j d) :
    ∃ d', d.part? edge = some d' ∧ r.Yields j' d' := by
  unfold Json.node? at hj
  split at hj
  · -- an item
    cases hj
    obtain ⟨p, s, o, hs, hd⟩ := h
    rw [lower] at hs
    obtain ⟨s', hs', hs⟩ := bind_eq_ok.mp hs
    cases hs
    cases (Registry.compile_view hd).1 with
    | arrayOf hi => exact ⟨_, rfl, _, s', {}, hs', hi⟩
  · -- a field
    split at hj
    · cases hj
    · rename_i hdir
      exact yields_field (mt isDirective_iff.mpr hdir) h hj
  · -- the subject of a directive
    have ht := Entries.mem_keys (Entries.mem_of_get? hj)
    obtain ⟨p, s, o, -, hd, ⟨_, p', hj', -, hs⟩ | ⟨_, _, hno, -⟩⟩ := yields_directive (.inl ht) h
    · cases hj.symm.trans hj'
      exact ⟨d, by cases d <;> rfl, p', s, o, hs, hd⟩
    · exact absurd ht hno
  · -- an alternative of a directive
    split at hj
    · rename_i hmix
      exact yields_alternative hmix h hj
    · cases hj
  · cases hj

theorem yields_at {j' : Json} : ∀ {edges : List Edge} {j : Json}, j.at? edges = some j' → ∀ {d : Descriptor},
    r.Yields j d → ∃ d', d.at? edges = some d' ∧ r.Yields j' d'
  | [], j, hj, d, h => by
    cases hj
    exact ⟨d, rfl, h⟩
  | edge :: edges, j, hj, d, h => by
    obtain ⟨j₁, hj₁, hj⟩ := Option.bind_eq_some_iff.mp hj
    obtain ⟨d₁, hd₁, h₁⟩ := yields_edge hj₁ h
    obtain ⟨d', hd', h'⟩ := yields_at hj h₁
    exact ⟨d', Option.bind_eq_some_iff.mpr ⟨d₁, hd₁, hd'⟩, h'⟩

end

/-! ## Documents -/

theorem Reachable.nodup [RegexEngine] {r : Registry} (hr : Reachable r) : r.names.Nodup := by
  obtain ⟨n, hr⟩ := hr
  induction hr with
  | empty serial => exact List.nodup_nil
  | declare _ h ih => exact (Registry.declare_grows ih h).nodup
  | model _ _ h ih => exact (Registry.model_grows ih h).nodup
  | load _ h ih => exact (Registry.load_grows ih h).nodup

/-- A document that loads describes its shapes so that each of its directives, wherever it stands,
has a descriptor with its options. The exception is a directive whose subject is a directive: it
has the descriptor of its subject as it is. -/
theorem options_kept [RegexEngine] {r r' : Registry} (hr : Reachable r) {text : String} {ids : List ShapeId}
    (h : r.load text = .ok (r', ids)) :
    ∃ models, Document.read text.toList = .ok models ∧ models.Forall₂ (fun m id => r'.lookup m.1 = some id ∧
      ∃ d₀, r'.description? id = some d₀ ∧ ∀ edges fields, m.2.at? edges = some (.object fields) →
        Json.IsDirective (.object fields) → ∃ d, d₀.at? edges = some d ∧
          ((∀ j, Entries.get? fields "$type" = some j → ¬ j.IsDirective) → Json.Carried fields d) ∧
          ((∃ j, Entries.get? fields "$type" = some j ∧ j.IsDirective) →
            d₀.at? (edges ++ [.subject]) = some d)) ids := by
  obtain ⟨models, hread, hk, h⟩ := Registry.load_ok h
  obtain ⟨r₁, -, hdescribes⟩ := Registry.loadModels_ok hr.nodup hk h
  refine ⟨models, hread, forall₂_imp_of_mem hdescribes.issued fun m hm id _ hl => ?_⟩
  obtain ⟨id', d₀, hl', hd, hdesc⟩ := hdescribes.described m hm
  cases hl.symm.trans hl'
  refine ⟨(hdescribes.names.lookup m.1).trans hl, d₀, hdesc, fun edges fields hat hdir => ?_⟩
  obtain ⟨s, hs, hd⟩ := bind_eq_ok.mp hd
  have hyields : r₁.Yields m.2 d₀ := ⟨_, s, {}, hs, (Registry.compileTopLevel_ok (located_ok hd)).1⟩
  obtain ⟨d, hd, h⟩ := yields_at hat hyields
  refine ⟨d, hd, yields_carried hdir h, fun _ => ?_⟩
  rw [Descriptor.at?, List.foldlM_append]
  exact Option.bind_eq_some_iff.mpr ⟨d, hd, by cases d <;> rfl⟩

/-! ## A wardrobe -/

def drawer : Entries Json := [("$type", .string "string"), ("$default", .string "hats"), ("$validator", .string "/s$/")]

def label : Entries Json := [("$type", .object [("$type", .string "string")]), ("$required", .bool false)]

/-- A drawer is one of the items, and the label is a directive around a directive. -/
def wardrobe : Entries Json := [("Wardrobe", .object [
  ("drawers", .array [.object [("$mix", .array [.string "date", .object drawer]), ("$strategy", .string "one")]]),
  ("label", .object label)])]

def wardrobeText : String := (Json.object [("models", .object wardrobe)]).compact

set_option maxRecDepth 2000 in
theorem wardrobe_read : Document.read wardrobeText.toList = .ok wardrobe := by cbv

/-- The label may not be missing, though the outer of its directives says so. -/
theorem wardrobe_loads : ∃ r ids id d₀ d, (Registry.empty 0).load wardrobeText = .ok (r, ids) ∧
    r.lookup "Wardrobe" = some id ∧ r.description? id = some d₀ ∧ d₀.at? [.field "label"] = some d ∧
    d.traits.required = true := by
  have h : ((Registry.empty 0).loadModels wardrobe).toOption.any (fun loaded =>
      (loaded.1.lookup "Wardrobe").any fun id => (loaded.1.description? id).any fun d₀ =>
        (d₀.at? [.field "label"]).any fun d => d.traits.required) = true := by
    decide +kernel
  obtain ⟨⟨r, ids⟩, hload, h⟩ := ok_of_toOption h
  obtain ⟨id, hl, h⟩ := (Option.any_eq_true _ _).mp h
  obtain ⟨d₀, hd₀, h⟩ := (Option.any_eq_true _ _).mp h
  obtain ⟨d, hd, hrequired⟩ := (Option.any_eq_true _ _).mp h
  exact ⟨r, ids, id, d₀, d, by rw [Registry.load, wardrobe_read]; exact hload, hl, hd₀, hd, hrequired⟩

theorem options_kept_wardrobe : ∃ r ids id d₀ d e, (Registry.empty 0).load wardrobeText = .ok (r, ids) ∧
    r.lookup "Wardrobe" = some id ∧ r.description? id = some d₀ ∧
    d₀.at? [.field "drawers", .item] = some d ∧
    Json.Carried [("$mix", .array [.string "date", .object drawer]), ("$strategy", .string "one")] d ∧
    d₀.at? [.field "drawers", .item, .alternative 1] = some e ∧ Json.Carried drawer e := by
  obtain ⟨r, ids, -, -, -, hload, -⟩ := wardrobe_loads
  obtain ⟨models, hread, hmodels⟩ := options_kept (Loaded.empty 0).reachable hload
  cases wardrobe_read.symm.trans hread
  cases hmodels with
  | cons hshape _ =>
    obtain ⟨hl, d₀, hd₀, h⟩ := hshape
    obtain ⟨d, hd, hcarried, -⟩ := h [.field "drawers", .item] _ rfl (.inr (by decide))
    obtain ⟨e, he, hcarried', -⟩ := h [.field "drawers", .item, .alternative 1] drawer rfl (.inl (by decide))
    refine ⟨r, _, _, d₀, d, e, hload, hl, hd₀, hd, hcarried nofun, he, hcarried' ?_⟩
    rintro j ⟨⟩
    exact id

/-- The options of a directive around a directive are dropped. -/
theorem options_dropped : ¬ ∀ r : Registry, Reachable r → ∀ text r' ids, r.load text = .ok (r', ids) →
    ∀ models, Document.read text.toList = .ok models → ∀ m ∈ models, ∀ id d₀, r'.lookup m.1 = some id →
    r'.description? id = some d₀ → ∀ edges fields, m.2.at? edges = some (.object fields) →
    Json.IsDirective (.object fields) → ∃ d, d₀.at? edges = some d ∧ Json.Carried fields d := by
  intro h
  obtain ⟨r, ids, id, d₀, d, hload, hl, hd₀, hd, hrequired⟩ := wardrobe_loads
  obtain ⟨e, he, hcarried⟩ := h _ (Loaded.empty 0).reachable _ r ids hload _ wardrobe_read _ List.mem_cons_self id d₀ hl
    hd₀ [.field "label"] label rfl (.inl (by decide))
  cases hd.symm.trans he
  rw [hcarried.required.mpr rfl] at hrequired
  cases hrequired

end Conformance
