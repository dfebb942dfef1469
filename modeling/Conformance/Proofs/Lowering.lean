import Conformance.Proofs.Grammar
import Conformance.Proofs.WellFormed

/-!
# Reading nodes

What each form of node is read as, and when what was read compiles without options. A directive is
compiled when it is read, so the options next to it are judged there, by the kind of its subject.
-/

namespace Conformance

/-! ## Tags -/

theorem Kind.ofToken?_iff {token : String} {k : Kind} : Kind.ofToken? token = some k ↔ token = k.token := by
  constructor
  · intro h
    simpa [eq_comm] using List.find?_some h
  · rintro rfl
    cases k <;> decide

theorem Kind.token_inj {k k' : Kind} : k.token = k'.token ↔ k = k' := by
  constructor
  · intro h
    exact Option.some_inj.mp ((Kind.ofToken?_iff.mpr rfl).symm.trans (Kind.ofToken?_iff.mpr h))
  · rintro rfl
    rfl

theorem isReservedName_token (k : Kind) : isReservedName k.token = false := by
  cases k <;> decide

theorem isTypeToken_token (k : Kind) : isTypeToken k.token = true := by
  rw [isTypeToken, Kind.ofToken?_iff.mpr rfl]
  rfl

namespace Registry
variable {r : Registry}

theorem resolve_isOk {name : String} : (∃ node, r.resolve name = .ok node) ↔
    name ∈ r.names ∨ ∃ k, k ∉ [Kind.cls, Kind.model, Kind.mix] ∧ name = k.token := by
  unfold resolve
  cases hl : r.lookup name with
  | some id =>
    have hm : name ∈ r.names := by
      by_contra hm
      rw [lookup_none.mpr hm] at hl
      cases hl
    exact ⟨fun _ => .inl hm, fun _ => ⟨_, rfl⟩⟩
  | none =>
    have hm := lookup_none.mp hl
    constructor
    · rintro ⟨node, h⟩
      refine .inr ?_
      cases ho : Kind.ofToken? name with
      | none =>
        simp only [ho] at h
        split at h <;> cases h
      | some k =>
        refine ⟨k, ?_, Kind.ofToken?_iff.mp ho⟩
        simp only [ho] at h
        split at h
        · cases h
        · cases k <;> first | decide | cases h
    · rintro (h | ⟨k, hk, rfl⟩)
      · exact absurd h hm
      · simp only [isReservedName_token, Kind.ofToken?_iff.mpr rfl]
        cases k <;> first | exact ⟨_, rfl⟩ | simp at hk

theorem resolve_kind {name : String} {node : Traits → Descriptor} (h : r.resolve name = .ok node)
    (hm : name ∉ r.names) (t : Traits) : name = (node t).kind.token := by
  unfold resolve at h
  simp only [lookup_none.mpr hm] at h
  split at h
  · cases h
  · cases ho : Kind.ofToken? name with
    | none => simp [ho] at h
    | some k =>
      simp only [ho] at h
      rw [Kind.ofToken?_iff.mp ho]
      cases k <;> cases h <;> rfl

/-! ## Compiling without options -/

variable [RegexEngine]

theorem compile_options {s : Source} (hs : ∀ e, s ≠ .described e) {o o' : Options} {d : Descriptor}
    (h : r.compile s o = .ok d) (hv : checkValidator d.kind o' = .ok ()) :
    ∃ d', r.compile s o' = .ok d' ∧ d'.kind = d.kind := by
  cases (compile_view h).1 with
  | described => exact absurd rfl (hs d)
  | @token name node hr =>
    have hk : (node o'.traits).kind = (node o.traits).kind := by
      obtain ⟨id, rfl⟩ | ⟨p, rfl⟩ | rfl | rfl := resolve_ok hr <;> rfl
    exact ⟨_, compile_of_view (.token hr) (.inr (hk ▸ hv)), hk⟩
  | shape hl => exact ⟨_, compile_of_view (.shape hl) (.inr hv), rfl⟩
  | cls hl => exact ⟨_, compile_of_view (.cls hl) (.inr hv), rfl⟩
  | openArray => exact ⟨_, compile_of_view .openArray (.inr hv), rfl⟩
  | arrayOf hi => exact ⟨_, compile_of_view (.arrayOf hi) (.inr hv), rfl⟩
  | openObject => exact ⟨_, compile_of_view .openObject (.inr hv), rfl⟩
  | keyed hne he => exact ⟨_, compile_of_view (.keyed hne he) (.inr hv), rfl⟩
  | mix hne hc => exact ⟨_, compile_of_view (.mix hne hc) (.inr hv), rfl⟩

theorem compile_token_isOk {name : String} : (∃ d, r.compile (.token name) {} = .ok d) ↔
    name ∈ r.names ∨ ∃ k, k ∉ [Kind.cls, Kind.model, Kind.mix] ∧ name = k.token := by
  rw [← resolve_isOk]
  constructor
  · rintro ⟨d, h⟩
    cases (compile_view h).1 with
    | token hr => exact ⟨_, hr⟩
  · rintro ⟨node, h⟩
    exact ⟨_, compile_of_view (.token h) (.inr rfl)⟩

theorem compile_arrayOf_isOk {s : Source} : (∃ d, r.compile (.arrayOf s) {} = .ok d) ↔ ∃ d, r.compile s {} = .ok d := by
  constructor
  · rintro ⟨d, h⟩
    cases (compile_view h).1 with
    | arrayOf hi => exact ⟨_, hi⟩
  · rintro ⟨d, h⟩
    exact ⟨_, compile_of_view (.arrayOf h) (.inr rfl)⟩

theorem compile_keyed_isOk {es : List (String × Source)} : (∃ d, r.compile (.keyed es) {} = .ok d) ↔
    ∀ e ∈ es, (∃ m, compileKey e.1 = .ok m) ∧ ∃ d, r.compile e.2 {} = .ok d := by
  constructor
  · rintro ⟨d, h⟩
    cases (compile_view h).1 with
    | openObject => exact nofun
    | keyed _ hes =>
      intro e he
      obtain ⟨m, -, hm, hd⟩ := forall₂_mem_left hes he
      exact ⟨⟨_, hm⟩, _, hd⟩
  · intro h
    by_cases hne : es = []
    · subst hne
      exact ⟨_, compile_of_view .openObject (.inr rfl)⟩
    · obtain ⟨schema, hs⟩ : ∃ schema : Schema,
          es.Forall₂ (fun e m => compileKey e.1 = .ok m.1 ∧ r.compile e.2 {} = .ok m.2) schema := by
        refine exists_forall₂.mpr fun e he => ?_
        obtain ⟨⟨m, hm⟩, d, hd⟩ := h e he
        exact ⟨(m, d), hm, hd⟩
      exact ⟨_, compile_of_view (.keyed hne hs) (.inr rfl)⟩

theorem compile_mix_isOk {ss : List Source} : (∃ d, r.compile (.mix ss) {} = .ok d) ↔
    ss ≠ [] ∧ ∀ s ∈ ss, ∃ d, r.compile s {} = .ok d := by
  constructor
  · rintro ⟨d, h⟩
    cases (compile_view h).1 with
    | mix hne hc =>
      refine ⟨hne, fun s hs => ?_⟩
      obtain ⟨c, -, hc⟩ := forall₂_mem_left hc hs
      exact ⟨c, hc⟩
  · rintro ⟨hne, h⟩
    obtain ⟨ds, hds⟩ := exists_forall₂.mpr h
    exact ⟨_, compile_of_view (.mix hne hds) (.inr rfl)⟩

theorem compile_described_isOk {d : Descriptor} {o : Options} (h : r.Holds d) : r.compile (.described d) o = .ok d :=
  compile_of_view (.described (isLocal_iff.mpr h)) (.inl rfl)

end Registry

/-! ## Reading nodes -/

theorem startsWithDollar_iff {key : String} : startsWithDollar key = false ↔ key.toList.head? ≠ some '$' := by
  simp [startsWithDollar]

variable [RegexEngine]

theorem lowerSubject_typed (r : Registry) (p : Path) {j : Json} : ∀ {fields : Entries Json},
    Entries.get? fields "$type" = some j → "$mix" ∉ Entries.keys fields →
    lowerSubject r p fields = lower r (p.key "$type") j
  | (key, node) :: rest, ht, hm => by
    obtain ⟨hkey, hrest⟩ := not_or.mp (mt List.mem_cons.mpr hm)
    unfold lowerSubject
    rw [Entries.get?] at ht
    by_cases hk : key = "$type"
    · rw [if_pos hk] at ht ⊢
      cases ht
      rw [hk]
    · rw [if_neg hk] at ht ⊢
      rw [if_neg (Ne.symm hkey)]
      exact lowerSubject_typed r p ht hrest

theorem lowerSubject_mix (r : Registry) (p : Path) {js : List Json} : ∀ {fields : Entries Json},
    "$type" ∉ Entries.keys fields → Entries.get? fields "$mix" = some (.array js) →
    lowerSubject r p fields = lowerAlternatives r (p.key "$mix") 0 js >>= fun ss => .ok (.mix ss)
  | (key, node) :: rest, ht, hm => by
    obtain ⟨hkey, hrest⟩ := not_or.mp (mt List.mem_cons.mpr ht)
    unfold lowerSubject
    rw [Entries.get?] at hm
    rw [if_neg (Ne.symm hkey)]
    by_cases hk : key = "$mix"
    · rw [if_pos hk] at hm ⊢
      cases hm
      rw [hk]
    · rw [if_neg hk] at hm ⊢
      exact lowerSubject_mix r p hrest hm

/-- The node is read at the path, and what was read compiles. -/
def Registry.Takes (r : Registry) (p : Path) (j : Json) : Prop :=
  ∃ s d, lower r p j = .ok s ∧ r.compile s {} = .ok d

section
variable {r : Registry}

theorem lowerFields_takes {P : Json → Prop} : ∀ {p : Path} {fields : Entries Json},
    (∀ f ∈ fields, ∀ p, r.Takes p f.2 ↔ P f.2) →
    ((∃ ss, lowerFields r p fields = .ok ss ∧ ∀ e ∈ ss, (∃ m, compileKey e.1 = .ok m) ∧ ∃ d, r.compile e.2 {} = .ok d) ↔
      ∀ f ∈ fields, (f.1.toList.head? ≠ some '$' ∧ Json.GoodKey f.1) ∧ P f.2)
  | p, [], _ => ⟨nofun, fun _ => ⟨[], rfl, nofun⟩⟩
  | p, (key, node) :: rest, h => by
    have ih := lowerFields_takes (p := p) fun f hf => h f (List.mem_cons_of_mem _ hf)
    have hnode := h _ List.mem_cons_self (p.key key)
    rw [List.forall_mem_cons, ← ih, ← hnode, ← startsWithDollar_iff, ← compileKey_isOk, lowerFields]
    by_cases hd : startsWithDollar key = true
    · simp [hd, invalid]
    · simp only [hd, Bool.false_eq_true, ite_false, bind_eq_ok]
      constructor
      · rintro ⟨_, ⟨s, hs, ss, hss, he⟩, hall⟩
        cases he
        obtain ⟨⟨hkey, d, hd⟩, hrest⟩ := List.forall_mem_cons.mp hall
        exact ⟨⟨⟨trivial, hkey⟩, s, d, hs, hd⟩, ss, hss, hrest⟩
      · rintro ⟨⟨⟨-, hkey⟩, s, d, hs, hd⟩, ss, hss, hrest⟩
        exact ⟨_, ⟨s, hs, ss, hss, rfl⟩, List.forall_mem_cons.mpr ⟨⟨hkey, d, hd⟩, hrest⟩⟩

theorem lowerAlternatives_takes {P : Json → Prop} : ∀ {js : List Json} {p : Path} {i : Nat},
    (∀ j ∈ js, ∀ p, r.Takes p j ↔ P j) →
    ((∃ ss, lowerAlternatives r p i js = .ok ss ∧ ∀ s ∈ ss, ∃ d, r.compile s {} = .ok d) ↔ ∀ j ∈ js, P j)
  | [], p, i, _ => ⟨nofun, fun _ => ⟨[], rfl, nofun⟩⟩
  | node :: rest, p, i, h => by
    have ih := lowerAlternatives_takes (p := p) (i := i + 1) fun j hj => h j (List.mem_cons_of_mem _ hj)
    have hnode := h _ List.mem_cons_self (p.index i)
    rw [List.forall_mem_cons, ← ih, ← hnode, lowerAlternatives]
    simp only [bind_eq_ok]
    constructor
    · rintro ⟨_, ⟨s, hs, ss, hss, he⟩, hall⟩
      cases he
      obtain ⟨⟨d, hd⟩, hrest⟩ := List.forall_mem_cons.mp hall
      exact ⟨⟨s, d, hs, hd⟩, ss, hss, hrest⟩
    · rintro ⟨⟨s, d, hs, hd⟩, ss, hss, hrest⟩
      exact ⟨_, ⟨s, hs, ss, hss, rfl⟩, List.forall_mem_cons.mpr ⟨⟨d, hd⟩, hrest⟩⟩

theorem lowerAlternatives_nil {p : Path} {i : Nat} {js : List Json} {ss : List Source}
    (h : lowerAlternatives r p i js = .ok ss) : ss = [] ↔ js = [] := by
  cases js with
  | nil =>
    cases h
    simp
  | cons node rest =>
    rw [lowerAlternatives] at h
    obtain ⟨s, -, h⟩ := bind_eq_ok.mp h
    obtain ⟨ss, -, h⟩ := bind_eq_ok.mp h
    cases h
    simp

/-! ## Reading directives -/

theorem lower_directive {p : Path} {fields : Entries Json} (hd : Json.IsDirective (.object fields)) {s : Source} :
    lower r p (.object fields) = .ok s ↔ checkDirective fields p = .ok () ∧
      ∃ s' o d, lowerSubject r p fields = .ok s' ∧ readOptions fields p = .ok o ∧ r.compile s' o = .ok d ∧
        s = .described d := by
  rw [lower, if_pos (isDirective_iff.mpr hd)]
  simp only [bind_eq_ok]
  constructor
  · rintro ⟨_, hc, s', hs', o, ho, d, hd, h⟩
    cases h
    exact ⟨hc, s', o, d, hs', ho, located_ok hd, rfl⟩
  · rintro ⟨hc, s', o, d, hs', ho, hd, rfl⟩
    exact ⟨(), hc, s', hs', o, ho, d, by rw [hd]; rfl, rfl⟩

/-- What a node is read as, other than a directive. -/
theorem lower_plain {p : Path} {j : Json} (hj : ¬ j.IsDirective) {s : Source} (h : lower r p j = .ok s) :
    (∃ name, j = .string name ∧ s = .token name) ∨
    (∃ es, j = .array es ∧ (s = .openArray ∨ ∃ item, s = .arrayOf item)) ∨
      ∃ fields ss, j = .object fields ∧ s = .keyed ss := by
  cases j with
  | string name =>
    cases h
    exact .inl ⟨name, rfl, rfl⟩
  | array es =>
    refine .inr (.inl ⟨es, rfl, ?_⟩)
    rcases es with _ | ⟨item, _ | ⟨_, _⟩⟩
    · cases h
      exact .inl rfl
    · rw [lower] at h
      obtain ⟨s, -, h⟩ := bind_eq_ok.mp h
      cases h
      exact .inr ⟨s, rfl⟩
    · cases h
  | object fields =>
    rw [lower, if_neg (mt isDirective_iff.mp hj)] at h
    obtain ⟨ss, -, h⟩ := bind_eq_ok.mp h
    cases h
    exact .inr (.inr ⟨fields, ss, rfl, rfl⟩)
  | _ => cases h

theorem lower_described {p : Path} {j : Json} {s : Source} (h : lower r p j = .ok s) :
    j.IsDirective ↔ ∃ d, s = .described d := by
  by_cases hj : j.IsDirective
  · refine ⟨fun _ => ?_, fun _ => hj⟩
    cases j with
    | object fields =>
      obtain ⟨-, s', o, d, -, -, -, hs⟩ := (lower_directive hj).mp h
      exact ⟨d, hs⟩
    | _ => exact hj.elim
  · refine ⟨fun h => absurd h hj, ?_⟩
    rintro ⟨d, rfl⟩
    obtain ⟨_, _, h⟩ | ⟨_, _, h | ⟨_, h⟩⟩ | ⟨_, _, _, h⟩ := lower_plain hj h <;> cases h

/-! ## Options of directives -/

theorem compile_described {d e : Descriptor} {o : Options} (h : r.compile (.described d) o = .ok e) :
    e = d ∧ ∀ o', r.compile (.described d) o' = .ok d := by
  cases (Registry.compile_view h).1 with
  | described hl => exact ⟨rfl, fun o' => Registry.compile_of_view (.described hl) (.inl rfl)⟩

theorem compile_read {fields : Entries Json} {p : Path} {o : Options} (ho : readOptions fields p = .ok o) {s : Source} :
    (∃ d, r.compile s o = .ok d) ↔ ∃ d, r.compile s {} = .ok d ∧
      ("$validator" ∈ Entries.keys fields → (∃ e, s = .described e) ∨ d.kind = .string ∨ d.kind = .number) := by
  have hread := (readOptions_read ho).2
  by_cases hs : ∃ e, s = .described e
  · obtain ⟨e, rfl⟩ := hs
    constructor
    · rintro ⟨d, h⟩
      exact ⟨e, (compile_described h).2 {}, fun _ => .inl ⟨e, rfl⟩⟩
    · rintro ⟨d, h, -⟩
      exact ⟨e, (compile_described h).2 o⟩
  · have hs' : ∀ e, s ≠ .described e := fun e h => hs ⟨e, h⟩
    constructor
    · rintro ⟨d, h⟩
      obtain ⟨d', h', hk⟩ : ∃ d', r.compile s {} = .ok d' ∧ d'.kind = d.kind := Registry.compile_options hs' h rfl
      have hv := (Registry.compile_view h).2.resolve_left (hs' d)
      exact ⟨d', h', fun hm => .inr (hk ▸ (hread _).mp hv hm)⟩
    · rintro ⟨d, h, hv⟩
      obtain ⟨d', h', -⟩ := Registry.compile_options hs' h ((hread _).mpr fun hm => (hv hm).resolve_left hs)
      exact ⟨d', h'⟩

/-- A directive is read just if its subject compiles, with a validator only where one may stand. -/
theorem takes_directive {fields : Entries Json} (hdir : Json.IsDirective (.object fields)) {p : Path} :
    r.Takes p (.object fields) ↔ checkDirective fields p = .ok () ∧ Json.Optioned fields ∧
      ∃ s d, lowerSubject r p fields = .ok s ∧ r.compile s {} = .ok d ∧
        ("$validator" ∈ Entries.keys fields → (∃ e, s = .described e) ∨ d.kind = .string ∨ d.kind = .number) := by
  constructor
  · rintro ⟨_, _, hs, -⟩
    obtain ⟨hc, s, o, e, hs, ho, he, -⟩ := (lower_directive hdir).mp hs
    obtain ⟨d, hd, hv⟩ := (compile_read ho).mp ⟨e, he⟩
    exact ⟨hc, readOptions_isOk.mp ⟨o, ho⟩, s, d, hs, hd, hv⟩
  · rintro ⟨hc, hopt, s, d, hs, hd, hv⟩
    obtain ⟨o, ho⟩ := readOptions_isOk.mpr hopt
    obtain ⟨e, he⟩ := (compile_read ho).mpr ⟨d, hd, hv⟩
    exact ⟨.described e, e, (lower_directive hdir).mpr ⟨hc, s, o, e, hs, ho, he, rfl⟩,
      Registry.compile_described_isOk (Registry.compile_holds he)⟩

end

end Conformance
