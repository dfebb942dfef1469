import Conformance.Proofs.Runs

/-!
# Descriptors that can be declared

Compiling checks that patterns validate strings and numbers alone. A document names no classes,
writes validators as patterns and defaults as JSON. So every node of a description that was loaded
has no class, has a validator only where strings or numbers are described, and has a default
without instances.
-/

namespace Conformance

/-! ## Compiled nodes -/

variable [RegexEngine]

theorem CompileView.traits {r : Registry} {o : Options} {s : Source} {d : Descriptor} (h : CompileView r o s d)
    (hs : ∀ e, s ≠ .described e) : d.traits = o.traits := by
  cases h with
  | described => exact absurd rfl (hs d)
  | token h => obtain ⟨id, rfl⟩ | ⟨p, rfl⟩ | rfl | rfl := Registry.resolve_ok h <;> rfl
  | _ => rfl

/-- A node as any call compiles it. -/
structure Descriptor.Checked (d : Descriptor) : Prop where
  validator : ∀ p, d.traits.validator = some (.pattern p) → d.kind = .string ∨ d.kind = .number
  default : ∀ u, d.traits.default? = some u → u.Distinct

theorem validator_of_view {r : Registry} {o : Options} {s : Source} {d : Descriptor} (hv : CompileView r o s d)
    (he : ∀ e, s ≠ .described e) (hc : checkValidator d.kind o = .ok ()) {p : Regex}
    (hw : d.traits.validator = some (.pattern p)) : d.kind = .string ∨ d.kind = .number := by
  rw [hv.traits he] at hw
  have hw : o.validator = some (.pattern p) := hw
  unfold checkValidator at hc
  rw [hw] at hc
  by_contra hk
  rw [if_neg hk] at hc
  cases hc

theorem checked_of_view {r : Registry} {o : Options} {s : Source} {d : Descriptor} (ho : o.Distinct)
    (hv : CompileView r o s d) (he : ∀ e, s ≠ .described e) (hc : checkValidator d.kind o = .ok ()) : d.Checked where
  validator _ hw := validator_of_view hv he hc hw
  default := by
    rw [hv.traits he]
    exact ho

theorem Reachable.checked {r : Registry} (hr : Reachable r) {id : ShapeId} {d n : Descriptor}
    (hd : r.description? id = some d) (hn : n.Node d) : n.Checked := by
  have hq : Closed (fun _ => True) Options.Distinct fun d => ∀ n, Descriptor.Node n d → n.Checked :=
    fun _ _ _ _ hs ho h _ hn => compile_nodes Options.distinct_none (fun _ h => h)
      (fun _ _ _ _ ho hv he hc => checked_of_view ho hv he hc) hs ho h hn
  exact hr.description hq hd n hn

/-! ## Declared nodes -/

/-- Options as directives give them. -/
def Options.Written (o : Options) : Prop :=
  (∀ w, o.validator = some w → ∃ p, w = .pattern p) ∧
    ∀ u, o.default.bind Default.produce = some u → u.Plain ∧ u.Distinct

omit [RegexEngine] in
theorem Options.written_none : Options.Written {} := ⟨nofun, nofun⟩

theorem readOptions_written (fields : Entries Json) (p : Path) (h : Json.Distinct (.object fields)) :
    Ensures (readOptions fields p) Options.Written := by
  intro o ho
  obtain ⟨hd, hv⟩ := readOptions_ok fields p o ho
  refine ⟨hv, fun u hu => ?_⟩
  obtain ⟨w, hw, hu⟩ := Option.bind_eq_some_iff.mp hu
  obtain ⟨j, hj, rfl⟩ := hd w hw
  cases hu
  cases h with | object _ h => exact (Value.ofJson_distinct (h _ (Entries.mem_of_get? hj))).symm

/-- A node as documents declare it. -/
structure Descriptor.Declared (d : Descriptor) : Prop where
  noClass : ∀ c t, d ≠ .cls c t
  validator : d.traits.validator ≠ none → d.kind = .string ∨ d.kind = .number
  default : ∀ u, d.traits.default? = some u → u.Plain ∧ u.Distinct
  keys : d.UniqueKeys

theorem declared_of_view {r : Registry} {q : Descriptor → Prop} {o : Options} {s : Source} {d : Descriptor}
    (hs : s.Over (fun _ => False) q) (ho : o.Written) (hv : CompileView r o s d) (he : ∀ e, s ≠ .described e)
    (hc : checkValidator d.kind o = .ok ()) : d.Declared where
  noClass := by
    intro c t hd
    cases hv with
    | token h => obtain ⟨id, rfl⟩ | ⟨p, rfl⟩ | rfl | rfl := Registry.resolve_ok h <;> cases hd
    | cls => cases hs with | cls h => exact h
    | described => exact he _ rfl
    | _ => cases hd
  validator := by
    intro hne
    obtain ⟨w, hw⟩ := Option.ne_none_iff_exists'.mp hne
    have hchecked := checked_of_view (fun u hu => (ho.2 u hu).2) hv he hc
    rw [hv.traits he] at hw
    obtain ⟨p, rfl⟩ := ho.1 w hw
    exact hchecked.validator p (by rw [hv.traits he]; exact hw)
  default := by
    rw [hv.traits he]
    exact ho.2
  keys := uniqueKeys_of_view hs hv he

theorem Loaded.declared {r : Registry} (hr : Loaded r) {id : ShapeId} {d n : Descriptor}
    (hd : r.description? id = some d) (hn : n.Node d) : n.Declared := by
  have hq : Closed (fun _ => False) Options.Written fun d => ∀ n, Descriptor.Node n d → n.Declared :=
    fun _ _ _ _ hs ho h _ hn => compile_nodes Options.written_none (fun _ h => h)
      (fun _ _ _ hs ho hv he hc => declared_of_view hs ho hv he hc) hs ho h hn
  exact hr.description hq Options.written_none readOptions_written hd n hn

/-- Documents write validators as patterns. -/
theorem Loaded.pattern {r : Registry} (hr : Loaded r) {id : ShapeId} {d n : Descriptor}
    (hd : r.description? id = some d) (hn : n.Node d) {w : Validator} (hw : n.traits.validator = some w) :
    ∃ p, w = .pattern p := by
  have hq : Closed (fun _ => False) Options.Written fun d =>
      ∀ n, Descriptor.Node n d → ∀ w, n.traits.validator = some w → ∃ p, w = .pattern p := by
    intro r o s d hs ho h _ hn
    refine compile_nodes Options.written_none (fun _ h => h) (fun _ o _ _ ho hv he _ w hw => ?_) hs ho h hn
    rw [hv.traits he] at hw
    exact ho.1 w hw
  exact hr.description hq Options.written_none readOptions_written hd n hn w hw

end Conformance
