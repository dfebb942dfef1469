import Conformance.Proofs.Coverage
import Conformance.Proofs.Runs
import Conformance.Proofs.Slots
import Conformance.Proofs.Walks

/-!
# The depth of checking

The checker calls itself on parts of a value, on the choices of a union, and on the description
of a shape, the last two with the same value. Here its calls are counted: it has no answer when a
given depth is used up. In a reachable registry every description is an object or an array,
which looks at parts alone, so a depth taken from the value and the registered descriptions is
enough.
-/

namespace Conformance

/-! ## The checker by its calls -/

abbrev Ask := Option Value → Descriptor → Option Bool

/-- Marks the choices that each element hits; one without a hit is refused. -/
def coverWalk (ask : Ask) (choices : List Descriptor) : List Value → List Bool → Option Bool
  | [], covered => some (covered.all id)
  | e :: es, covered => do
    let hits ← choices.mapM (ask (some e))
    if hits.any id then coverWalk ask choices es (List.zipWith or covered hits) else some false

def elementsWalk (ask : Ask) (es : List Value) : Descriptor → Option Bool
  | .mix choices s _ =>
    match s with
    | .any => es.allM fun e => choices.anyM (ask (some e))
    | .not => (es.anyM fun e => choices.anyM (ask (some e))).map not
    | .one => choices.anyM fun c => es.allM fun e => ask (some e) c
    | .all => coverWalk ask choices es (List.replicate choices.length false)
  | items => es.allM fun e => ask (some e) items

namespace Registry

def shapeWalk (r : Registry) (ask : Ask) (id : ShapeId) (v : Value) : Option Bool :=
  if (r.class? id).any fun c => v.carries c then some true
  else match r.description? id with
    | some d => ask (some v) d
    | none => some false

def partsWalk (ask : Ask) : Value → Descriptor → Option Bool
  | .array es, .arrayOf items _ => elementsWalk ask es items
  | v, .keyed schema t =>
    match v.fields? with
    | some fs => (checkWalk ask t.matchOnce fs schema (Entries.keys fs)).map Option.isSome
    | none => some false
  | _, _ => some true

def wholeWalk (r : Registry) (ask : Ask) (v : Value) : Descriptor → Option Bool
  | .primitive .any _ => some true
  | .cls c _ => some (v.isInstanceOf c)
  | .model id _ => r.shapeWalk ask id v
  | .mix choices s _ => (choices.anyM (ask (some v))).map fun hit => (s != .not) == hit
  | _ => some false

/-- One call of the checker; `ask` stands for the calls that it makes. -/
def matchWalk (r : Registry) (ask : Ask) : Ask
  | none, _ => some false
  | some v, d =>
    if v.kind.kind? = some d.kind then (partsWalk ask v d).map (· && d.traits.isValid v)
    else if v.isNull then some d.traits.allowNull
    else (r.wholeWalk ask v d).map (· && d.traits.isValid v)

/-- The checker with as many calls inside each other as the depth allows. -/
def matchesWithin (r : Registry) : Nat → Ask
  | 0 => fun _ _ => none
  | n + 1 => r.matchWalk (r.matchesWithin n)

def checkShapeWithin (r : Registry) (n : Nat) (id : ShapeId) (v : Value) : Option Bool :=
  r.shapeWalk (r.matchesWithin n) id v

/-! ## The depth -/

def height (r : Registry) : Nat :=
  (r.slots.map fun s => (s.description.map Descriptor.height).getD 0).foldr max 0

/-- Enough for a value under a descriptor: at each depth of the value the checker may go once
through a description and once through a call for a shape. -/
def matchDepth (r : Registry) (v : Value) (d : Descriptor) : Nat := d.height + v.depth * (r.height + 1)

def shapeDepth (r : Registry) (v : Value) : Nat := v.depth * (r.height + 1)

theorem height_description {r : Registry} {id : ShapeId} {d : Descriptor} (h : r.description? id = some d) :
    d.height ≤ r.height := by
  obtain ⟨s, hs, hd⟩ := description?_slot h
  refine le_foldr_max (List.mem_map.mpr ⟨s, hs, ?_⟩)
  rw [hd]
  rfl

end Registry

/-! ## Questions that all have answers -/

theorem allM_eq {α : Type} {p : α → Option Bool} {q : α → Bool} : ∀ {l : List α},
    (∀ x ∈ l, p x = some (q x)) → l.allM p = some (l.all q)
  | [], _ => rfl
  | x :: l, h => by
    rw [List.allM, h x List.mem_cons_self, List.all_cons]
    cases q x with
    | false => rfl
    | true => exact allM_eq fun y hy => h y (List.mem_cons_of_mem _ hy)

theorem anyM_eq {α : Type} {p : α → Option Bool} {q : α → Bool} : ∀ {l : List α},
    (∀ x ∈ l, p x = some (q x)) → l.anyM p = some (l.any q)
  | [], _ => rfl
  | x :: l, h => by
    rw [List.anyM, h x List.mem_cons_self, List.any_cons]
    cases q x with
    | true => rfl
    | false => exact anyM_eq fun y hy => h y (List.mem_cons_of_mem _ hy)

theorem mapM_eq {α β : Type} {p : α → Option β} {q : α → β} : ∀ {l : List α},
    (∀ x ∈ l, p x = some (q x)) → l.mapM p = some (l.map q)
  | [], _ => rfl
  | x :: l, h => by
    rw [List.mapM_cons, h x List.mem_cons_self, mapM_eq fun y hy => h y (List.mem_cons_of_mem _ hy)]
    rfl

section
variable {ask : Ask} {f : Value → Descriptor → Bool}

theorem coverWalk_eq {choices : List Descriptor} {es : List Value}
    (ha : ∀ e ∈ es, ∀ c ∈ choices, ask (some e) c = some (f e c)) : ∀ seen : List Verdict,
    coverWalk ask choices es (marksOf choices seen) = some (coverMatch choices (es.map f) (marksOf choices seen)) := by
  induction es with
  | nil => intro seen; rfl
  | cons e es ih =>
    intro seen
    obtain ⟨he, hes⟩ := List.forall_mem_cons.mp ha
    have hits : choices.mapM (ask (some e)) = some (choices.map (f e)) := mapM_eq he
    rw [coverWalk, hits, List.map_cons, coverMatch_cons, Option.bind_eq_bind, Option.bind_some, zipWith_marks,
      List.any_map, Function.id_comp, ih hes]
    cases choices.any (f e) <;> rfl

theorem elementsWalk_eq {es : List Value} {items : Descriptor}
    (ha : ∀ e ∈ es, ∀ c, c = items ∨ c ∈ items.parts → ask (some e) c = some (f e c)) :
    elementsWalk ask es items = some (elementsMatch (es.map f) items) := by
  have hitems : es.allM (fun e => ask (some e) items) = some (es.all fun e => f e items) :=
    allM_eq fun e he => ha e he items (.inl rfl)
  cases items with
  | mix choices s t =>
    have hc : ∀ e ∈ es, ∀ c ∈ choices, ask (some e) c = some (f e c) := fun e he c h => ha e he c (.inr h)
    have hits : ∀ e ∈ es, choices.anyM (ask (some e)) = some (choices.any (f e)) := fun e he => anyM_eq (hc e he)
    cases s with
    | any => simp [elementsWalk, elementsMatch, allM_eq hits, Function.comp_def]
    | not => simp [elementsWalk, elementsMatch, anyM_eq hits, Function.comp_def]
    | one =>
      have hall : ∀ c ∈ choices, (es.allM fun e => ask (some e) c) = some (es.all fun e => f e c) :=
        fun c h => allM_eq fun e he => hc e he c h
      simp [elementsWalk, elementsMatch, anyM_eq hall, Function.comp_def]
    | all =>
      rw [elementsWalk, elementsMatch, ← marksOf_nil]
      exact coverWalk_eq hc []
  | _ => simpa [elementsWalk, elementsMatch, Function.comp_def] using hitems

end

/-! ## One call -/

namespace Registry
variable {r : Registry}

theorem matchWalk_null (ask : Ask) (d : Descriptor) : r.matchWalk ask (some .null) d = some (r.accepts .null d) := by
  rw [accepts_null]
  cases d <;> rfl

section
variable {ask : Ask} {v : Value}

theorem matchWalk_arrayOf {items : Descriptor} {t : Traits}
    (ha : ∀ e ∈ v.elements, ∀ c, c = items ∨ c ∈ items.parts → ask (some e) c = some (r.accepts e c)) :
    r.matchWalk ask (some v) (.arrayOf items t) = some (r.accepts v (.arrayOf items t)) := by
  cases v with
  | null => exact matchWalk_null ask _
  | array es =>
    rw [accepts_arrayOf rfl]
    exact congrArg (Option.map (· && t.isValid (.array es))) (elementsWalk_eq ha)
  | _ => rw [accepts_arrayOf rfl]; rfl

theorem matchWalk_keyed {schema : Schema} {t : Traits} (hn : (Entries.keys v.fields).Nodup)
    (ha : ∀ e ∈ schema, ∀ x ∈ v.fields, ask (some x.2) e.2 = some (r.accepts x.2 e.2)) :
    r.matchWalk ask (some v) (.keyed schema t) = some (r.accepts v (.keyed schema t)) := by
  have hwalk : (checkWalk ask t.matchOnce v.fields schema (Entries.keys v.fields)).map Option.isSome =
      some (fieldsMatch t.matchOnce schema (r.fieldVerdicts v.fields)) := by
    rw [checkWalk_eq hn t.matchOnce schema v.fields (.refl _) ha, fieldVerdicts_eq]
    unfold Entries.mapValues
    cases fieldsMatch t.matchOnce schema (v.fields.map fun e => (e.1, r.accepts e.2)) <;> rfl
  cases v with
  | null => exact matchWalk_null ask _
  | object fs =>
    rw [accepts_keyed rfl]
    exact congrArg (Option.map (· && t.isValid (.object fs))) hwalk
  | inst c fs =>
    rw [accepts_keyed rfl]
    exact congrArg (Option.map (· && t.isValid (.inst c fs))) hwalk
  | _ => rw [accepts_keyed rfl]; rfl

theorem matchWalk_parts {d : Descriptor} (hv : v.Distinct) (hd : d.kind = .object ∨ d.kind = .array)
    (ha : ∀ p ∈ v.parts, ∀ c : Descriptor, c.height < d.height → ask (some p) c = some (r.accepts p c)) :
    r.matchWalk ask (some v) d = some (r.accepts v d) := by
  cases Descriptor.container_of_kind hd with
  | arrayOf items t =>
    have hitems := Descriptor.height_part (d := .arrayOf items t) (List.mem_singleton_self items)
    refine matchWalk_arrayOf fun e he c hc => ha e (Value.element_part he) c ?_
    rcases hc with rfl | hc
    · exact hitems
    · exact Nat.lt_trans (Descriptor.height_part hc) hitems
  | keyed schema t =>
    exact matchWalk_keyed hv.keys fun e he x hx =>
      ha x.2 (Value.field_part hx) e.2 (Descriptor.height_part (List.mem_map_of_mem he))
  | openArray t =>
    cases v with
    | null => exact matchWalk_null ask _
    | _ => rw [accepts_openArray rfl]; rfl
  | openObject t =>
    cases v with
    | null => exact matchWalk_null ask _
    | _ => rw [accepts_openObject rfl]; rfl

theorem shapeWalk_eq {id : ShapeId} (h : ∀ d, r.description? id = some d → ask (some v) d = some (r.accepts v d)) :
    r.shapeWalk ask id v = some (r.checkShape id v) := by
  unfold shapeWalk checkShape
  cases (r.class? id).any fun c => v.carries c with
  | true => rfl
  | false =>
    cases hd : r.description? id with
    | none => rfl
    | some d => simpa [hd] using h d hd

theorem kind?_ne (v : Value) :
    v.kind.kind? ≠ some .any ∧ v.kind.kind? ≠ some .cls ∧ v.kind.kind? ≠ some .model ∧ v.kind.kind? ≠ some .mix := by
  cases v <;> simp [Value.kind, ValueKind.kind?]

theorem matchWalk_whole (d : Descriptor) (hn : v.isNull = false) (hk : v.kind.kind? ≠ some d.kind) :
    r.matchWalk ask (some v) d = (r.wholeWalk ask v d).map (· && d.traits.isValid v) := by
  rw [matchWalk, if_neg hk, if_neg (by simp [hn])]

theorem matchWalk_eq (hg : r.Grounded) (hv : v.Distinct) {d : Descriptor}
    (hp : ∀ p ∈ v.parts, ∀ c : Descriptor, c.height < d.height → ask (some p) c = some (r.accepts p c))
    (hc : ∀ c ∈ d.parts, ask (some v) c = some (r.accepts v c))
    (hs : ∀ id t, d = .model id t → r.shapeWalk ask id v = some (r.checkShape id v)) :
    r.matchWalk ask (some v) d = some (r.accepts v d) := by
  cases hn : v.isNull with
  | true => rw [Value.eq_null hn]; exact matchWalk_null ask d
  | false =>
    obtain ⟨hany, hcls, hmodel, hmix⟩ := kind?_ne v
    cases d with
    | primitive p t =>
      rw [accepts_primitive hn]
      by_cases hk : v.kind.kind? = some p.kind
      · have hp : partsWalk ask v (.primitive p t) = some true := by cases v <;> rfl
        rw [matchWalk, if_pos (show v.kind.kind? = some (Descriptor.primitive p t).kind from hk), hp]
        simp [hk, Descriptor.traits]
      · rw [matchWalk_whole (.primitive p t) hn hk]
        cases p <;> simp [wholeWalk, hk, Descriptor.traits]
    | cls c t => rw [accepts_cls hn, matchWalk_whole (.cls c t) hn hcls]; rfl
    | model id t =>
      rw [accepts_model hn hg, matchWalk_whole (.model id t) hn hmodel, wholeWalk, hs id t rfl]
      rfl
    | mix choices s t =>
      have hits : choices.anyM (ask (some v)) = some (choices.any (r.accepts v)) := anyM_eq hc
      rw [accepts_mix hn, matchWalk_whole (.mix choices s t) hn hmix, wholeWalk, hits]
      rfl
    | _ => exact matchWalk_parts hv (by simp [Descriptor.kind]) hp

end

/-! ## All calls -/

theorem depth_part_mul {p v : Value} (h : p ∈ v.parts) (n : Nat) : p.depth * n + n ≤ v.depth * n := by
  rw [← Nat.succ_mul]
  exact Nat.mul_le_mul_right n (Value.depth_part h)

theorem matchesWithin_eq (hg : r.Grounded) (v : Value) : v.Distinct →
    (∀ d n, r.matchDepth v d ≤ n → r.matchesWithin n (some v) d = some (r.accepts v d)) ∧
    ∀ id n, r.shapeDepth v ≤ n → r.checkShapeWithin n id v = some (r.checkShape id v) := by
  induction v using Value.induction_parts with
  | h v ih =>
    intro hv
    -- the calls for parts of the value, at a depth that is one less
    have hparts : ∀ (d : Descriptor) (n : Nat), d.height + v.depth * (r.height + 1) ≤ n + (r.height + 1) + 1 →
        ∀ p ∈ v.parts, ∀ c : Descriptor, c.height < d.height →
          r.matchesWithin n (some p) c = some (r.accepts p c) := by
      intro d n h p hp c hc
      refine (ih p hp (hv.part hp)).1 c n ?_
      have := depth_part_mul hp (r.height + 1)
      unfold matchDepth
      omega
    -- a description is no union and no shape, so it comes to the parts at once
    have hshape : ∀ id n, r.shapeDepth v ≤ n → r.shapeWalk (r.matchesWithin n) id v = some (r.checkShape id v) := by
      intro id n h
      refine shapeWalk_eq fun d hd => ?_
      have hh := height_description hd
      have hpos := Nat.mul_le_mul_right (r.height + 1) v.depth_pos
      unfold shapeDepth at h
      obtain ⟨m, rfl⟩ : ∃ m, n = m + 1 := ⟨n - 1, by omega⟩
      exact matchWalk_parts hv (hg id d hd).1 (hparts d m (by omega))
    refine ⟨fun d => ?_, hshape⟩
    induction d using Descriptor.induction_parts with
    | h d ihd =>
      intro n h
      have hh := d.height_pos
      unfold matchDepth at h
      obtain ⟨m, rfl⟩ : ∃ m, n = m + 1 := ⟨n - 1, by omega⟩
      refine matchWalk_eq hg hv (hparts d m (by omega)) (fun c hc => ihd c hc m ?_) fun id t hd => hshape id m ?_
      · have := Descriptor.height_part hc
        unfold matchDepth
        omega
      · unfold shapeDepth
        omega

end Registry

/-! ## Reachable registries -/

/-- In a reachable registry, cyclic or not, the checker comes back from its calls within a depth
that is computed from the value, the descriptor and the registered descriptions. -/
theorem checking_returns [RegexEngine] {r : Registry} (hr : Reachable r) {v : Value} (hv : v.Distinct) :
    (∀ d n, r.matchDepth v d ≤ n → r.matchesWithin n (some v) d = some (r.matches? (some v) d)) ∧
    (∀ id n, r.shapeDepth v ≤ n → r.checkShapeWithin n id v = some (r.checkShape id v)) ∧
    ∀ d n, 0 < n → r.matchesWithin n none d = some (r.matches? none d) := by
  obtain ⟨hm, hs⟩ := Registry.matchesWithin_eq hr.grounded v hv
  refine ⟨hm, hs, fun d n h => ?_⟩
  obtain ⟨m, rfl⟩ := Nat.exists_eq_succ_of_ne_zero (Nat.pos_iff_ne_zero.mp h)
  rfl

/-- Two shapes, each a part of the other; `C` is a choice beside them and itself. -/
def kin : Registry := .ofModels
  [("A", .object [("child", .string "B")]),
    ("B", .object [("parent", .object [("$type", .string "A"), ("$allowNull", .bool true)])]),
    ("C", .array [.object [("$mix", .array [.string "A", .string "C"])]])]

def lineage : Value :=
  .array [.array [], .object [("child", .object [("parent", .object [("child", .object [("parent", .null)])])])]]

theorem checking_returns_lineage : Reachable kin ∧ lineage.Distinct ∧
    ∀ n, 30 ≤ n → kin.checkShapeWithin n (kin.idAt 2) lineage = some true := by
  have hr : Reachable kin := (Registry.ofModels_loaded _).reachable
  have hv : lineage.Distinct := by decide
  have hd : kin.shapeDepth lineage ≤ 30 := by decide +kernel
  have hc : kin.checkShape (kin.idAt 2) lineage = true := by decide +kernel
  exact ⟨hr, hv, fun n hn => hc ▸ (checking_returns hr hv).2.1 _ n (Nat.le_trans hd hn)⟩

end Conformance
