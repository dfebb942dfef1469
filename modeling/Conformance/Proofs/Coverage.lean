import Conformance.Check
import Conformance.Compile
import Conformance.Pattern.Parser

/-!
# Coverage

The strategy `all` is judged by a loop. Each element is held against the choices one by one, a choice
that accepts it is marked at its place, and an element that no choice accepts ends the loop. The marks
always tell of the elements seen so far, so in the end they tell which choices are hit at all. What a
strategy asks can then be said of elements and choices without their order and number, and strategies
can be compared on the same choices.
-/

namespace Conformance

/-! ## One element -/

/-- The marks that the elements seen so far leave on the choices. -/
def marksOf (choices : List Descriptor) (seen : List Verdict) : List Bool :=
  choices.map fun c => seen.any fun e => e c

theorem marksOf_nil (choices : List Descriptor) : marksOf choices [] = List.replicate choices.length false := by
  simp [marksOf, List.map_const']

theorem marksOf_cons (c : Descriptor) (choices : List Descriptor) (seen : List Verdict) :
    marksOf (c :: choices) seen = (seen.any fun e => e c) :: marksOf choices seen := rfl

theorem zipWith_marks (choices : List Descriptor) (seen : List Verdict) (e : Verdict) :
    List.zipWith or (marksOf choices seen) (choices.map e) = marksOf choices (seen ++ [e]) := by
  simp [marksOf, List.zipWith_map, List.zipWith_self]

theorem mark_choice (e : Verdict) (c : Descriptor) (before after : List Bool) (b hit : Bool) :
    Coverage.mark e ⟨before ++ b :: after, hit⟩ (c, before.length) = ⟨before ++ (b || e c) :: after, hit || e c⟩ := by
  cases he : e c <;> simp [Coverage.mark, he]

/-- The element has been held against the choices before; of those that are left it marks each that
accepts it, at a place of its own. -/
theorem mark_choices (e : Verdict) (seen : List Verdict) (choices : List Descriptor) :
    ∀ (before : List Bool) (hit : Bool),
      (choices.zipIdx before.length).foldl (Coverage.mark e) ⟨before ++ marksOf choices seen, hit⟩ =
        ⟨before ++ marksOf choices (seen ++ [e]), hit || choices.any e⟩ := by
  induction choices with
  | nil => intro before hit; simp [marksOf]
  | cons c choices ih =>
    intro before hit
    have hc : ((seen ++ [e]).any fun x => x c) = ((seen.any fun x => x c) || e c) := by simp
    -- the place of `c` joins those before, so that the next place is the number of these again
    have hrest := ih (before ++ [(seen.any fun x => x c) || e c]) (hit || e c)
    rw [List.length_append, List.length_singleton, List.append_assoc, List.append_assoc] at hrest
    rw [List.zipIdx_cons, List.foldl_cons, marksOf_cons, mark_choice, marksOf_cons, hc, List.any_cons, ← Bool.or_assoc]
    exact hrest

theorem mark_element (choices : List Descriptor) (seen : List Verdict) (e : Verdict) :
    choices.zipIdx.foldl (Coverage.mark e) ⟨marksOf choices seen, false⟩ =
      ⟨marksOf choices (seen ++ [e]), choices.any e⟩ := by
  have h := mark_choices e seen choices [] false
  rwa [Bool.false_or] at h

/-! ## All elements -/

theorem coverMatch_cons (choices : List Descriptor) (seen : List Verdict) (e : Verdict) (es : List Verdict) :
    coverMatch choices (e :: es) (marksOf choices seen) =
      (choices.any e && coverMatch choices es (marksOf choices (seen ++ [e]))) := by
  rw [coverMatch, mark_element]
  cases choices.any e <;> rfl

/-- From any point of the loop on: the elements to come each hit a choice, and with those seen they
hit every choice. -/
theorem coverMatch_eq (choices : List Descriptor) (es : List Verdict) : ∀ seen : List Verdict,
    coverMatch choices es (marksOf choices seen) =
      ((es.all fun e => choices.any e) && choices.all fun c => (seen ++ es).any fun e => e c) := by
  induction es with
  | nil =>
    intro seen
    rw [coverMatch, marksOf, List.all_map, List.append_nil]
    rfl
  | cons e es ih =>
    intro seen
    rw [coverMatch_cons, ih, List.append_assoc, List.singleton_append, List.all_cons, Bool.and_assoc]

theorem elementsMatch_all (es : List Verdict) (choices : List Descriptor) (t : Traits) :
    elementsMatch es (.mix choices .all t) =
      ((es.all fun e => choices.any e) && choices.all fun c => es.any fun e => e c) := by
  have h := coverMatch_eq choices es []
  rwa [marksOf_nil, List.nil_append] at h

/-! ## Strategies -/

/-- What a strategy asks of elements and choices, where `R` says which choice takes which element. -/
def Strategy.Met {α β : Type} (R : α → β → Prop) (es : List α) (cs : List β) : Strategy → Prop
  | .any => ∀ e ∈ es, ∃ c ∈ cs, R e c
  | .all => (∀ e ∈ es, ∃ c ∈ cs, R e c) ∧ ∀ c ∈ cs, ∃ e ∈ es, R e c
  | .one => ∃ c ∈ cs, ∀ e ∈ es, R e c
  | .not => ∀ e ∈ es, ∀ c ∈ cs, ¬ R e c

theorem elementsMatch_union {α : Type} {f : α → Verdict} {es : List α} {choices : List Descriptor} {s : Strategy}
    {t : Traits} :
    elementsMatch (es.map f) (.mix choices s t) = true ↔ s.Met (fun e c => f e c = true) es choices := by
  cases s with
  | any => simp [elementsMatch, Strategy.Met]
  | all => simp [elementsMatch_all, Strategy.Met]
  | one => simp [elementsMatch, Strategy.Met]
  | not => simp [elementsMatch, Strategy.Met]

namespace Strategy

variable {α β : Type} {R : α → β → Prop} {es es' : List α} {cs cs' : List β}

/-- Strategies do not see the order of elements and choices, nor how often each is there. -/
theorem met_congr (he : ∀ e, e ∈ es' ↔ e ∈ es) (hc : ∀ c, c ∈ cs' ↔ c ∈ cs) (s : Strategy) :
    s.Met R es' cs' ↔ s.Met R es cs := by
  cases s <;> simp only [Met, he, hc]

theorem Met.any_of_all (h : Strategy.all.Met R es cs) : Strategy.any.Met R es cs := h.1

theorem Met.any_of_one (h : Strategy.one.Met R es cs) : Strategy.any.Met R es cs := by
  obtain ⟨c, hc, hall⟩ := h
  intro e he
  exact ⟨c, hc, hall e he⟩

theorem Met.not_any (hne : es ≠ []) (h : Strategy.not.Met R es cs) : ¬ Strategy.any.Met R es cs := by
  intro hany
  obtain ⟨e, he⟩ := List.exists_mem_of_ne_nil es hne
  obtain ⟨c, hc, hr⟩ := hany e he
  exact h e he c hc hr

theorem not_met_all_nil (hne : cs ≠ []) : ¬ Strategy.all.Met R [] cs := by
  intro h
  obtain ⟨c, hc⟩ := List.exists_mem_of_ne_nil cs hne
  obtain ⟨e, he, -⟩ := h.2 c hc
  exact List.not_mem_nil he

end Strategy

/-- Under the strategy `all` the elements cover the choices and the choices the elements, in whatever
order and number they come. Without elements the choices are not covered. What `all` or `one` takes,
`any` takes too; of `not` and `any` at most one takes an array that has elements. -/
theorem coverage_two_sided (r : Registry) {choices : List Descriptor} (hc : choices ≠ [])
    (es : List Value) (t : Traits) :
    (elementsMatch (es.map r.accepts) (.mix choices .all t) = true ↔
      (∀ e ∈ es, ∃ c ∈ choices, r.accepts e c = true) ∧ ∀ c ∈ choices, ∃ e ∈ es, r.accepts e c = true) ∧
    (∀ (es' : List Value) choices' t', (∀ e, e ∈ es' ↔ e ∈ es) → (∀ c, c ∈ choices' ↔ c ∈ choices) →
      elementsMatch (es'.map r.accepts) (.mix choices' .all t') =
        elementsMatch (es.map r.accepts) (.mix choices .all t)) ∧
    elementsMatch (List.map r.accepts []) (.mix choices .all t) = false ∧
    (elementsMatch (es.map r.accepts) (.mix choices .all t) = true →
      elementsMatch (es.map r.accepts) (.mix choices .any t) = true) ∧
    (elementsMatch (es.map r.accepts) (.mix choices .one t) = true →
      elementsMatch (es.map r.accepts) (.mix choices .any t) = true) ∧
    (es ≠ [] → ¬ (elementsMatch (es.map r.accepts) (.mix choices .not t) = true ∧
      elementsMatch (es.map r.accepts) (.mix choices .any t) = true)) := by
  refine ⟨elementsMatch_union, ?_, ?_, ?_, ?_, ?_⟩
  · intro es' choices' t' he hchoices
    rw [Bool.eq_iff_iff, elementsMatch_union, elementsMatch_union]
    exact Strategy.met_congr he hchoices .all
  · rw [← Bool.not_eq_true, elementsMatch_union]
    exact Strategy.not_met_all_nil hc
  · rw [elementsMatch_union, elementsMatch_union]
    exact Strategy.Met.any_of_all
  · rw [elementsMatch_union, elementsMatch_union]
    exact Strategy.Met.any_of_one
  · rw [elementsMatch_union, elementsMatch_union]
    intro hne h
    exact h.1.not_any hne h.2

/-! A kit needs both nuts and bolts. -/

def bolt : Value := .object [("bolt", .string "M6")]

def nut : Value := .object [("nut", .string "M6")]

def piece (name : String) : Descriptor :=
  .keyed [(.exact name, .primitive .string (Options.traits {}))] (Options.traits {})

def kit (s : Strategy) : Descriptor := .mix [piece "bolt", piece "nut"] s (Options.traits {})

theorem coverage_two_sided_kit : ∃ r : Registry,
    r.compile (.mix [.keyed [("bolt", .token "string")], .keyed [("nut", .token "string")]]) { strategy := some .all } =
      .ok (kit .all) ∧
    elementsMatch ([bolt, nut].map r.accepts) (kit .all) = true ∧
    elementsMatch ([nut, bolt, nut].map r.accepts)
      (.mix [piece "nut", piece "nut", piece "bolt"] .all (Options.traits {})) = true ∧
    elementsMatch (List.map r.accepts []) (kit .all) = false ∧
    elementsMatch ([bolt, nut].map r.accepts) (kit .any) = true ∧
    elementsMatch ([bolt, bolt].map r.accepts) (kit .any) = true ∧
    elementsMatch ([bolt, nut].map r.accepts) (kit .not) = false := by
  have choices : [piece "bolt", piece "nut"] ≠ [] := nofun
  let r := Registry.empty 0
  obtain ⟨hcover, hsame, hempty, hall, -, hnot⟩ := coverage_two_sided r choices [bolt, nut] (Options.traits {})
  obtain ⟨-, -, -, -, hone, -⟩ := coverage_two_sided r choices [bolt, bolt] (Options.traits {})
  have hkit : elementsMatch ([bolt, nut].map r.accepts) (kit .all) = true := hcover.mpr (by decide)
  have hbolts : elementsMatch ([bolt, bolt].map r.accepts) (kit .one) = true := by decide
  have hmore : elementsMatch ([nut, bolt, nut].map r.accepts)
      (.mix [piece "nut", piece "nut", piece "bolt"] .all (Options.traits {})) = true := by
    rw [hsame]
    · exact hkit
    · grind
    · grind
  refine ⟨r, rfl, hkit, hmore, hempty, hall hkit, hone hbolts, ?_⟩
  have hany := hall hkit
  exact Bool.eq_false_iff.mpr fun h => hnot nofun ⟨h, hany⟩

end Conformance
