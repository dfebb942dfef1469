import Conformance.Proofs.Lowering

/-!
# What the loader accepts

The nodes that are read and compile are just the nodes of the grammar, and a document is loaded
just if its names can be declared and its nodes are good and describe objects or arrays.
-/

namespace Conformance

section
variable [RegexEngine] {r : Registry}

/-! ## Kinds of nodes -/

section
variable (hvalid : ∀ name ∈ r.names, validName name = true)
include hvalid

theorem compile_token_kind {name : String} {o : Options} {d : Descriptor} (h : r.compile (.token name) o = .ok d)
    {k : Kind} (hk : k ≠ .model) : d.kind = k ↔ name = k.token := by
  cases (Registry.compile_view h).1 with
  | @token _ node hr =>
    by_cases hm : name ∈ r.names
    · obtain ⟨id, hl⟩ := Registry.lookup_some hm
      have hv := hvalid name hm
      rw [Registry.resolve, hl] at hr
      cases hr
      constructor
      · rintro rfl
        exact absurd rfl hk
      · rintro rfl
        simp [validName, isTypeToken_token] at hv
    · rw [Registry.resolve_kind hr hm o.traits, Kind.token_inj]

theorem lower_kind {p : Path} {j : Json} (hj : ¬ j.IsDirective) {s : Source} (hs : lower r p j = .ok s) {o : Options}
    {d : Descriptor} (hd : r.compile s o = .ok d) {k : Kind} (hk : k ∉ [Kind.model, Kind.array, Kind.object]) :
    d.kind = k ↔ j = .string k.token := by
  simp only [List.mem_cons, List.not_mem_nil, or_false, not_or] at hk
  obtain ⟨name, rfl, rfl⟩ | ⟨es, rfl, rfl | ⟨item, rfl⟩⟩ | ⟨fields, ss, rfl, rfl⟩ := lower_plain hj hs
  · rw [compile_token_kind hvalid hd hk.1, Json.string.injEq]
  · cases (Registry.compile_view hd).1
    exact ⟨fun h => absurd h.symm hk.2.1, nofun⟩
  · cases (Registry.compile_view hd).1
    exact ⟨fun h => absurd h.symm hk.2.1, nofun⟩
  · cases (Registry.compile_view hd).1 <;> exact ⟨fun h => absurd h.symm hk.2.2, nofun⟩

theorem lower_topLevel {p : Path} {j : Json} (hj : ¬ j.IsDirective) {s : Source} (hs : lower r p j = .ok s)
    {o : Options}
    {d : Descriptor} (hd : r.compile s o = .ok d) : (d.kind = .object ∨ d.kind = .array) ↔ j.TopLevel := by
  rw [Json.topLevel_plain hj]
  obtain ⟨name, rfl, rfl⟩ | ⟨es, rfl, rfl | ⟨item, rfl⟩⟩ | ⟨fields, ss, rfl, rfl⟩ := lower_plain hj hs
  · rw [compile_token_kind hvalid hd (by decide), compile_token_kind hvalid hd (by decide)]
    simp [Kind.token]
  · cases (Registry.compile_view hd).1
    simp [Descriptor.kind]
  · cases (Registry.compile_view hd).1
    simp [Descriptor.kind]
  · cases (Registry.compile_view hd).1 <;> simp [Descriptor.kind]

theorem topLevel_of_plain {p : Path} {j : Json} (hj : ¬ j.IsDirective) {s : Source} {d : Descriptor}
    (hs : lower r p j = .ok s) (hd : r.compile s {} = .ok d) :
    ((d.kind = .object ∨ d.kind = .array) ∧ d.traits.allowNull = false) ↔ j.TopLevel := by
  have hne := fun e he => hj ((lower_described hs).mpr ⟨e, he⟩)
  rw [lower_topLevel hvalid hj hs hd, (Registry.compile_view hd).1.traits hne]
  exact and_iff_left rfl

theorem topLevel_iff {j : Json} (hj : j.Distinct) : ∀ {p : Path} {s : Source} {d : Descriptor},
    lower r p j = .ok s → r.compile s {} = .ok d →
    (((d.kind = .object ∨ d.kind = .array) ∧ d.traits.allowNull = false) ↔ j.TopLevel) := by
  induction hj with
  | @object fields _ _ ih =>
    intro p s d hs hd
    by_cases hdir : Json.IsDirective (.object fields)
    · obtain ⟨hc, s', o, d', hs', ho, hd', rfl⟩ := (lower_directive hdir).mp hs
      obtain ⟨rfl, -⟩ := compile_described hd
      obtain ⟨-, ⟨subject, ht, hm⟩ | ⟨js, ht, hm⟩⟩ := checkDirective_ok.mp hc
      · rw [lowerSubject_typed r p ht hm] at hs'
        have ih := fun {d₀} => ih _ (Entries.mem_of_get? ht) (d := d₀) hs'
        rw [Json.topLevel_typed ht]
        by_cases hsub : subject.IsDirective
        -- a directive around a directive leaves what was compiled
        · obtain ⟨e, rfl⟩ := (lower_described hs').mp hsub
          obtain ⟨rfl, hsame⟩ := compile_described hd'
          rw [ih (hsame {})]
          simp [hsub]
        · have hne := fun e he => hsub ((lower_described hs').mpr ⟨e, he⟩)
          have htraits := (Registry.compile_view hd').1.traits hne
          have hnull : d.traits.allowNull = false ↔ Entries.get? fields "$allowNull" ≠ some (.bool true) := by
            rw [htraits, ← Bool.not_eq_true]
            exact not_congr (readOptions_read ho).1
          rw [lower_topLevel hvalid hsub hs' hd', hnull]
          simp [hsub]
      · have hmix : "$mix" ∈ Entries.keys fields := Entries.mem_keys (Entries.mem_of_get? hm)
        rw [lowerSubject_mix r p ht hm] at hs'
        obtain ⟨ss, -, h⟩ := bind_eq_ok.mp hs'
        cases h
        cases (Registry.compile_view hd').1
        simp [Descriptor.kind, Json.not_topLevel_union ht hmix]
    · exact topLevel_of_plain hvalid hdir hs hd
  | _ => exact topLevel_of_plain hvalid (by simp [Json.IsDirective])

/-! ## Good nodes -/

theorem takes_typed {fields : Entries Json} {subject : Json} (ht : Entries.get? fields "$type" = some subject)
    (hm : "$mix" ∉ Entries.keys fields) (ih : ∀ p, r.Takes p subject ↔ Json.Good (· ∈ r.names) subject) (p : Path) :
    r.Takes p (.object fields) ↔ Json.Good (· ∈ r.names) (.object fields) := by
  have hdir : Json.IsDirective (.object fields) := .inl (Entries.mem_keys (Entries.mem_of_get? ht))
  have hc : checkDirective fields p = .ok () ↔ ∀ key ∈ Entries.keys fields, key ∈ directives :=
    checkDirective_ok.trans (and_iff_left (.inl ⟨subject, ht, hm⟩))
  have hvalidator : ∀ {s d}, lower r (p.key "$type") subject = .ok s → r.compile s {} = .ok d →
      (((∃ e, s = .described e) ∨ d.kind = .string ∨ d.kind = .number) ↔
        subject = .string "string" ∨ subject = .string "number" ∨ subject.IsDirective) := by
    intro s d hs hd
    rw [← lower_described hs]
    by_cases hsub : subject.IsDirective
    · simp [hsub]
    · rw [lower_kind hvalid hsub hs hd (by decide), lower_kind hvalid hsub hs hd (by decide)]
      simp [hsub, Kind.token]
  rw [takes_directive hdir, Json.good_typed ht hm, ← ih (p.key "$type"), hc, lowerSubject_typed r p ht hm]
  constructor
  · rintro ⟨hk, ho, s, d, hs, hd, hv⟩
    exact ⟨hk, ho, ⟨s, d, hs, hd⟩, fun hmem => (hvalidator hs hd).mp (hv hmem)⟩
  · rintro ⟨hk, ho, ⟨s, d, hs, hd⟩, hv⟩
    exact ⟨hk, ho, s, d, hs, hd, fun hmem => (hvalidator hs hd).mpr (hv hmem)⟩

end

theorem takes_union {fields : Entries Json} {js : List Json} (ht : "$type" ∉ Entries.keys fields)
    (hm : Entries.get? fields "$mix" = some (.array js))
    (ih : ∀ j ∈ js, ∀ p, r.Takes p j ↔ Json.Good (· ∈ r.names) j) (p : Path) :
    r.Takes p (.object fields) ↔ Json.Good (· ∈ r.names) (.object fields) := by
  have hdir : Json.IsDirective (.object fields) := .inr (Entries.mem_keys (Entries.mem_of_get? hm))
  have hc : checkDirective fields p = .ok () ↔ ∀ key ∈ Entries.keys fields, key ∈ directives :=
    checkDirective_ok.trans (and_iff_left (.inr ⟨js, ht, hm⟩))
  rw [takes_directive hdir, Json.good_union ht hm, ← lowerAlternatives_takes (p := p.key "$mix") (i := 0) ih, hc,
    lowerSubject_mix r p ht hm]
  simp only [bind_eq_ok]
  constructor
  · rintro ⟨hk, ho, _, d, ⟨ss, hss, h⟩, hd, hv⟩
    cases h
    obtain ⟨hne, hall⟩ := Registry.compile_mix_isOk.mp ⟨d, hd⟩
    refine ⟨hk, ho, mt (lowerAlternatives_nil hss).mpr hne, ⟨ss, hss, hall⟩, fun hmem => ?_⟩
    cases (Registry.compile_view hd).1
    rcases hv hmem with ⟨e, h⟩ | h | h <;> cases h
  · rintro ⟨hk, ho, hne, ⟨ss, hss, hall⟩, hv⟩
    obtain ⟨d, hd⟩ := Registry.compile_mix_isOk.mpr ⟨mt (lowerAlternatives_nil hss).mp hne, hall⟩
    exact ⟨hk, ho, _, d, ⟨ss, hss, rfl⟩, hd, fun hmem => absurd hmem hv⟩

theorem takes_keyed {fields : Entries Json} (hdir : ¬ Json.IsDirective (.object fields))
    (ih : ∀ f ∈ fields, ∀ p, r.Takes p f.2 ↔ Json.Good (· ∈ r.names) f.2) (p : Path) :
    r.Takes p (.object fields) ↔ Json.Good (· ∈ r.names) (.object fields) := by
  rw [Json.good_keyed hdir, ← lowerFields_takes (p := p) ih]
  unfold Registry.Takes
  rw [lower, if_neg (mt isDirective_iff.mp hdir)]
  simp only [bind_eq_ok]
  constructor
  · rintro ⟨s, d, ⟨ss, hss, h⟩, hd⟩
    cases h
    exact ⟨ss, hss, Registry.compile_keyed_isOk.mp ⟨d, hd⟩⟩
  · rintro ⟨ss, hss, hall⟩
    obtain ⟨d, hd⟩ := Registry.compile_keyed_isOk.mpr hall
    exact ⟨_, d, ⟨ss, hss, rfl⟩, hd⟩

/-- A node is read and compiles just if it is good. -/
theorem takes_iff (hvalid : ∀ name ∈ r.names, validName name = true) {j : Json} (hj : j.Distinct) :
    (∀ p, r.Takes p j ↔ Json.Good (· ∈ r.names) j) ∧
      ∀ es, j = .array es → ∀ e ∈ es, ∀ p, r.Takes p e ↔ Json.Good (· ∈ r.names) e := by
  induction hj with
  | string name =>
    refine ⟨fun p => ?_, nofun⟩
    rw [Json.good_string, ← Registry.compile_token_isOk]
    constructor
    · rintro ⟨s, d, hs, hd⟩
      cases hs
      exact ⟨d, hd⟩
    · rintro ⟨d, hd⟩
      exact ⟨_, d, rfl, hd⟩
  | @array es _ ih =>
    refine ⟨fun p => ?_, ?_⟩
    · rcases es with _ | ⟨item, _ | ⟨_, _⟩⟩
      · exact ⟨fun _ => .anyArray, fun _ => ⟨.openArray, _, rfl, rfl⟩⟩
      · rw [Json.good_arrayOf, ← (ih item List.mem_cons_self).1 (p.index 0)]
        constructor
        · rintro ⟨s, d, hs, hd⟩
          rw [lower] at hs
          obtain ⟨s', hs', h⟩ := bind_eq_ok.mp hs
          cases h
          obtain ⟨d', hd'⟩ := Registry.compile_arrayOf_isOk.mp ⟨d, hd⟩
          exact ⟨s', d', hs', hd'⟩
        · rintro ⟨s', d', hs', hd'⟩
          obtain ⟨d, hd⟩ := Registry.compile_arrayOf_isOk.mpr ⟨d', hd'⟩
          exact ⟨_, d, by rw [lower, hs']; rfl, hd⟩
      · exact ⟨fun ⟨_, _, hs, _⟩ => (nomatch hs), nofun⟩
    · rintro _ ⟨⟩
      exact fun e he => (ih e he).1
  | @object fields _ _ ih =>
    refine ⟨fun p => ?_, nofun⟩
    by_cases hdir : Json.IsDirective (.object fields)
    · by_cases hc : checkDirective fields p = .ok ()
      · obtain ⟨-, ⟨subject, ht, hm⟩ | ⟨js, ht, hm⟩⟩ := checkDirective_ok.mp hc
        · exact takes_typed hvalid ht hm (ih _ (Entries.mem_of_get? ht)).1 p
        · exact takes_union ht hm ((ih _ (Entries.mem_of_get? hm)).2 js rfl) p
      · refine iff_of_false (fun h => hc ((takes_directive hdir).mp h).1) fun h => hc ?_
        cases h with
        | keyed hd => exact absurd hdir hd
        | typed hk _ ht hm => exact checkDirective_ok.mpr ⟨hk, .inl ⟨_, ht, hm⟩⟩
        | union hk _ ht hm => exact checkDirective_ok.mpr ⟨hk, .inr ⟨_, ht, hm⟩⟩
    · exact takes_keyed hdir (fun f hf => (ih f hf).1) p
  | _ =>
    refine ⟨fun p => ?_, nofun⟩
    exact ⟨fun ⟨_, _, hs, _⟩ => (nomatch hs), nofun⟩

end

/-! ## Documents -/

namespace Registry
variable [RegexEngine] {r r₁ : Registry}

theorem compileTopLevel_iff {s : Source} {d : Descriptor} : r.compileTopLevel s = .ok d ↔
    r.compile s {} = .ok d ∧ (d.kind = .object ∨ d.kind = .array) ∧ d.traits.allowNull = false := by
  refine ⟨compileTopLevel_ok, fun ⟨hc, hk, hn⟩ => ?_⟩
  rw [compileTopLevel, hc]
  rcases hk with hk | hk <;> simp [bind, Except.bind, hk, hn]

theorem reading_isOk (hvalid : ∀ name ∈ r.names, validName name = true) {name : String} {node : Json}
    (hj : node.Distinct) : (∃ d, r.reading name node = .ok d) ↔ node.Good (· ∈ r.names) ∧ node.TopLevel := by
  rw [← (takes_iff hvalid hj).1 (modelPath name)]
  unfold reading
  simp only [bind_eq_ok]
  constructor
  · rintro ⟨d, s, hs, hd⟩
    obtain ⟨hc, ht⟩ := compileTopLevel_ok (located_ok hd)
    exact ⟨⟨s, d, hs, hc⟩, (topLevel_iff hvalid hj hs hc).mp ht⟩
  · rintro ⟨⟨s, d, hs, hc⟩, ht⟩
    have hd := compileTopLevel_iff.mpr ⟨hc, (topLevel_iff hvalid hj hs hc).mpr ht⟩
    exact ⟨d, s, hs, by rw [hd]; rfl⟩

omit [RegexEngine] in
theorem open_iff {name : String} : r.Open name ↔
    (∃ id, r.lookup name = some id ∧ r.isDefined id = false) ∨ (r.lookup name = none ∧ validName name = true) := by
  unfold Open
  cases r.lookup name <;> simp

omit [RegexEngine] in
theorem declareAll_valid {ns : List String} (h : r.declareAll ns = .ok r₁) (hns : ns.Nodup) (hn : r.names.Nodup)
    (hvalid : ∀ name ∈ r.names, validName name = true) : ∀ name ∈ r₁.names, validName name = true := by
  intro name hm
  rw [(declareAll_ok h hns).2] at hm
  rcases List.mem_append.mp hm with hm | hm
  · exact hvalid name hm
  · obtain ⟨hm, hnew⟩ := List.mem_filter.mp hm
    have hopen := (declareAll_isOk hn).mp ⟨r₁, h⟩ name hm
    rw [Open, lookup_none.mpr (of_decide_eq_true hnew)] at hopen
    exact hopen

theorem loadModels_accepts {models : Entries Json} (hn : r.names.Nodup)
    (hvalid : ∀ name ∈ r.names, validName name = true) (hj : Json.Distinct (.object models)) :
    (∃ r' ids, r.loadModels models = .ok (r', ids)) ↔ ∀ m ∈ models, r.Open m.1 ∧
      m.2.Good (fun s => s ∈ r.names ∨ s ∈ Entries.keys models) ∧ m.2.TopLevel := by
  cases hj with
  | object hk hj =>
    have hread : ∀ r₁, r.declareAll (Entries.keys models) = .ok r₁ → ∀ m ∈ models,
        ((∃ d, r₁.reading m.1 m.2 = .ok d) ↔
          m.2.Good (fun s => s ∈ r.names ∨ s ∈ Entries.keys models) ∧ m.2.TopLevel) := by
      intro r₁ h₁ m hm
      have hnames : (fun s => s ∈ r₁.names) = fun s => s ∈ r.names ∨ s ∈ Entries.keys models := by
        funext s
        rw [(declareAll_ok h₁ hk).2]
        by_cases hs : s ∈ r.names <;> simp [hs]
      rw [reading_isOk (declareAll_valid h₁ hk hn hvalid) (hj m hm), hnames]
    rw [loadModels_isOk hn hk]
    constructor
    · rintro ⟨r₁, h₁, h⟩ m hm
      exact ⟨(declareAll_isOk hn).mp ⟨r₁, h₁⟩ m.1 (List.mem_map_of_mem hm), (hread r₁ h₁ m hm).mp (h m hm)⟩
    · intro h
      have hopen : ∀ name ∈ Entries.keys models, r.Open name := List.forall_mem_map.mpr fun m hm => (h m hm).1
      obtain ⟨r₁, h₁⟩ := (declareAll_isOk hn).mpr hopen
      exact ⟨r₁, h₁, fun m hm => (hread r₁ h₁ m hm).mpr (h m hm).2⟩

end Registry

/-- In any guard a document that reads is loaded just if each of its names stands for a shape that
is declared and not described, or is new and valid, and each of its nodes is good, with names of
the guard and of the document, and describes an object or an array. -/
theorem load_accepts_grammar [RegexEngine] (requests : List Request) {k : Nat} {g : Guard}
    (hk : (World.after requests).guards[k]? = some g) {text : String} {models : Entries Json}
    (hread : Document.read text.toList = .ok models) :
    (∃ ids, ((World.after requests).step (.call k (.load text))).1 = .issued ids) ↔
      ∀ m ∈ models,
        ((∃ id, g.lookup m.1 = some id ∧ g.isDefined id = false) ∨ (g.lookup m.1 = none ∧ validName m.1 = true)) ∧
        m.2.Good (fun s => (g.lookup s).isSome = true ∨ s ∈ Entries.keys models) ∧ m.2.TopLevel := by
  have hsound := (World.after_sound requests).guards g (List.mem_of_getElem? hk)
  have haligned := hsound.aligned
  have hj : Json.Distinct (.object models) := Document.read_distinct _ _ hread
  have hnames : ∀ s, s ∈ g.registry.names ↔ (g.lookup s).isSome = true := by
    intro s
    rw [← haligned.lookup, ← not_iff_not, ← Registry.lookup_none]
    simp
  have hload : (∃ ids, ((World.after requests).step (.call k (.load text))).1 = .issued ids) ↔
      ∃ r' ids, g.registry.loadModels models = .ok (r', ids) := by
    have hregistry := Guard.registry_load hsound text
    rw [Registry.load, hread] at hregistry
    rw [World.step_reply hk, Guard.call]
    dsimp only at hregistry
    rw [hregistry]
    rcases g.load text with ⟨e | ids, g'⟩
    · constructor
      · rintro ⟨_, ⟨⟩⟩
      · rintro ⟨_, _, ⟨⟩⟩
    · exact ⟨fun _ => ⟨_, _, rfl⟩, fun _ => ⟨_, rfl⟩⟩
  rw [hload, Registry.loadModels_accepts haligned.registry_nodup (g.registry_names ▸ haligned.valid) hj]
  simp only [Registry.open_iff, haligned.lookup, Guard.registry_isDefined, hnames]

/-! A menu whose courses are menus or sweets. A validator next to an array is refused. -/

def sweet : Entries Json := [("$type", .string "string"), ("$validator", .string "/a/")]

def course : Entries Json := [("$mix", .array [.string "Menu", .object sweet])]

def menu : Entries Json := [("Menu", .object [("/^a|b$/", .object course)])]

def wrongMenu : Entries Json := [("Menu", .object [("$type", .array []), ("$validator", .string "/a/")])]

def menuText (models : Entries Json) : String := (Json.object [("models", .object models)]).compact

theorem sweet_good (named : String → Prop) : Json.Good named (.object sweet) := by
  refine .typed (by decide) ⟨?_, ?_, ?_⟩ rfl (by decide) (.tag (k := .string) (by decide)) fun _ => .inl rfl
  · simp [sweet, Entries.get?]
  · simp [sweet, Entries.get?]
  · rintro j ⟨⟩
    exact ⟨"a", congrArg Json.string (by decide), by decide +kernel⟩

theorem course_good {named : String → Prop} (h : named "Menu") : Json.Good named (.object course) := by
  refine .union (by decide) ⟨?_, ?_, ?_⟩ (by decide) rfl (by simp) ?_ (by decide)
  · simp [course, Entries.get?]
  · simp [course, Entries.get?]
  · simp [course, Entries.get?]
  · simp only [List.forall_mem_cons]
    exact ⟨.name h, sweet_good named, List.forall_mem_nil _⟩

theorem load_accepts_grammar_menu : ∃ g, (World.after [.opening]).guards[0]? = some g ∧
    Document.read (menuText menu).toList = .ok menu ∧
    (∃ ids, ((World.after [.opening]).step (.call 0 (.load (menuText menu)))).1 = .issued ids) ∧
    Document.read (menuText wrongMenu).toList = .ok wrongMenu ∧
    ¬ ∃ ids, ((World.after [.opening]).step (.call 0 (.load (menuText wrongMenu)))).1 = .issued ids := by
  obtain ⟨g, hg⟩ : ∃ g, (World.after [.opening]).guards[0]? = some g := ⟨_, rfl⟩
  have hread : Document.read (menuText menu).toList = .ok menu := by cbv
  have hread' : Document.read (menuText wrongMenu).toList = .ok wrongMenu := by cbv
  have hnew : g.lookup "Menu" = none := by
    cases hg
    rfl
  have hplain : ¬ Json.IsDirective (.object [("/^a|b$/", .object course)]) := by simp [Json.IsDirective]
  refine ⟨g, hg, hread, (load_accepts_grammar [.opening] hg hread).mpr ?_, hread', fun h => ?_⟩
  · simp only [menu, List.forall_mem_cons]
    refine ⟨⟨.inr ⟨hnew, by decide⟩, .keyed hplain ?_ ?_, .keyed hplain⟩, List.forall_mem_nil _⟩
    · simp only [List.forall_mem_cons]
      exact ⟨⟨by decide, by decide +kernel⟩, List.forall_mem_nil _⟩
    · simp only [List.forall_mem_cons]
      exact ⟨course_good (.inr (by decide)), List.forall_mem_nil _⟩
  · obtain ⟨-, hgood, -⟩ := (load_accepts_grammar [.opening] hg hread').mp h _ List.mem_cons_self
    obtain ⟨-, -, -, hv⟩ := (Json.good_typed rfl (by decide)).mp hgood
    obtain h | h | h := hv (by decide)
    · cases h
    · cases h
    · simp [Json.IsDirective] at h

end Conformance
