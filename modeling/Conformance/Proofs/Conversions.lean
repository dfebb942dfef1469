import Conformance.Convert
import Conformance.Proofs.Claims
import Conformance.Proofs.Verdicts

/-!
# Equations of the converter

One equation for each form of descriptor: what `convertWith` gives for a value, told through
its results for the parts of the value, for choices, and for shapes. The fields of a converted
object are those that the claims add, one claim after the other. A conversion that comes to an
end with defaults so deep comes to the same end with deeper ones.
-/

namespace Conformance

-- only here is the converter opened; what follows uses its equations
attribute [local simp] convertNode convertChoice Registry.convertWith Registry.parts Registry.fieldParts

/-! ## What claims add -/

theorem convertClaim_absent (absent : Absent) (out : Entries Value) (key : String) (d : Descriptor) :
    convertClaim absent out ((.exact key, d), []) =
      (absent d).map fun w => match w with
        | some v => Entries.insert out key v
        | none => out := by
  rw [convertClaim]
  cases absent d with
  | none => rfl
  | some w => cases w <;> rfl

theorem convertClaim_taken (absent : Absent) (out : Entries Value) {m : KeyMatcher} (d : Descriptor)
    {taken : Entries Part} (h : taken = [] → ∀ key, m ≠ .exact key) :
    convertClaim absent out ((m, d), taken) =
      taken.foldlM (fun out f => (f.2.convert d).map (Entries.insert out f.1)) out := by
  have hstep : ∀ (out : Entries Value) (f : String × Part),
      (do some (Entries.insert out f.1 (← f.2.convert d))) = (f.2.convert d).map (Entries.insert out f.1) :=
    fun out f => by cases f.2.convert d <;> rfl
  cases taken with
  | cons x xs => cases m <;> simp only [convertClaim, hstep]
  | nil =>
    cases m with
    | exact key => exact absurd rfl (h rfl key)
    | pattern p => rfl

def Part.of (convert : Value → Descriptor → Option Value) (v : Value) : Part := ⟨v, convert v⟩

@[simp] theorem Part.of_convert (convert : Value → Descriptor → Option Value) (v : Value) :
    (Part.of convert v).convert = convert v := rfl

/-- The fields that a claim took, each converted, or the default of an exact key that took
nothing. -/
inductive Added (convert : Value → Descriptor → Option Value) (absent : Absent) :
    (KeyMatcher × Descriptor) × Entries Value → Entries Value → Prop
  | taken {m : KeyMatcher} {d : Descriptor} {taken es : Entries Value} (hm : taken = [] → ∀ key, m ≠ .exact key)
      (h : taken.Forall₂ (fun x y => x.1 = y.1 ∧ convert x.2 d = some y.2) es) :
      Added convert absent ((m, d), taken) es
  | filled {key : String} {d : Descriptor} {w : Value} (h : absent d = some (some w)) :
      Added convert absent ((.exact key, d), []) [(key, w)]
  | missing {key : String} {d : Descriptor} (h : absent d = some none) :
      Added convert absent ((.exact key, d), []) []

section
variable {convert : Value → Descriptor → Option Value} {absent : Absent}

theorem foldlM_convert {d : Descriptor} : ∀ {taken : Entries Value} {out out' : Entries Value},
    (Entries.mapValues (Part.of convert) taken).foldlM (fun out f => (f.2.convert d).map (Entries.insert out f.1)) out =
      some out' ↔
    ∃ es, taken.Forall₂ (fun x y => x.1 = y.1 ∧ convert x.2 d = some y.2) es ∧ out' = Entries.insertAll out es
  | [], out, out' => by
    simp [List.forall₂_nil_left_iff, eq_comm]
  | (k, v) :: taken, out, out' => by
    rw [Entries.mapValues_cons, List.foldlM_cons]
    constructor
    · intro h
      obtain ⟨out₁, h₁, h⟩ := Option.bind_eq_some_iff.mp h
      obtain ⟨w, hw, rfl⟩ := Option.map_eq_some_iff.mp h₁
      obtain ⟨es, hes, rfl⟩ := foldlM_convert.mp h
      exact ⟨(k, w) :: es, .cons ⟨rfl, hw⟩ hes, rfl⟩
    · rintro ⟨es, hes, rfl⟩
      cases hes with
      | cons hw hes =>
        rename_i e es
        obtain ⟨k', w⟩ := e
        obtain ⟨rfl, hw⟩ := hw
        refine Option.bind_eq_some_iff.mpr ⟨_, Option.map_eq_some_iff.mpr ⟨w, hw, rfl⟩, ?_⟩
        exact foldlM_convert.mpr ⟨es, hes, rfl⟩

theorem convertClaim_some {e : KeyMatcher × Descriptor} {taken out out' : Entries Value} :
    convertClaim absent out (e, Entries.mapValues (Part.of convert) taken) = some out' ↔
      ∃ es, Added convert absent (e, taken) es ∧ out' = Entries.insertAll out es := by
  obtain ⟨m, d⟩ := e
  by_cases hm : taken = [] → ∀ key, m ≠ .exact key
  · rw [convertClaim_taken absent out d (by cases taken <;> simp_all), foldlM_convert]
    refine exists_congr fun es => and_congr_left fun _ => ⟨.taken hm, fun h => ?_⟩
    cases h with
    | taken _ h => exact h
    | filled => exact absurd rfl (hm rfl _)
    | missing => exact absurd rfl (hm rfl _)
  · obtain ⟨rfl, key, rfl⟩ : taken = [] ∧ ∃ key, m = .exact key := by simpa using hm
    rw [Entries.mapValues_nil, convertClaim_absent, Option.map_eq_some_iff]
    constructor
    · rintro ⟨w, hw, rfl⟩
      cases w with
      | none => exact ⟨[], .missing hw, rfl⟩
      | some w => exact ⟨[(key, w)], .filled hw, rfl⟩
    · rintro ⟨es, h, rfl⟩
      cases h with
      | taken hm => exact absurd rfl (hm rfl key)
      | filled h => exact ⟨_, h, rfl⟩
      | missing h => exact ⟨_, h, rfl⟩

theorem foldlM_claims : ∀ {cs : List ((KeyMatcher × Descriptor) × Entries Value)} {out out' : Entries Value},
    (cs.map fun c => (c.1, Entries.mapValues (Part.of convert) c.2)).foldlM (convertClaim absent) out = some out' ↔
      ∃ ess, cs.Forall₂ (Added convert absent) ess ∧ out' = Entries.insertAll out ess.flatten
  | [], out, out' => by simp [List.forall₂_nil_left_iff, eq_comm]
  | c :: cs, out, out' => by
    rw [List.map_cons, List.foldlM_cons]
    constructor
    · intro h
      obtain ⟨out₁, h₁, h⟩ := Option.bind_eq_some_iff.mp h
      obtain ⟨es, hes, rfl⟩ := convertClaim_some.mp h₁
      obtain ⟨ess, hess, rfl⟩ := foldlM_claims.mp h
      exact ⟨es :: ess, .cons hes hess, by rw [List.flatten_cons, Entries.insertAll_append]⟩
    · rintro ⟨ess, hess, rfl⟩
      cases hess with
      | cons hes hess =>
        rw [List.flatten_cons, Entries.insertAll_append]
        exact Option.bind_eq_some_iff.mpr
          ⟨_, convertClaim_some.mpr ⟨_, hes, rfl⟩, foldlM_claims.mpr ⟨_, hess, rfl⟩⟩

theorem convertFields_some {once : Bool} {schema : Schema} {fs out : Entries Value} :
    convertFields absent once schema (Entries.mapValues (Part.of convert) fs) = some out ↔
      ∃ ess, (claims once schema fs).1.Forall₂ (Added convert absent) ess ∧ out = Entries.insertAll [] ess.flatten := by
  rw [convertFields, claims_map]
  exact foldlM_claims

end

/-! ## Descriptors -/

theorem convertChoice_eq (target : Target) (v : Value) (accepted : Descriptor → Bool) (es : List Part)
    (fs : Entries Part) (absent : Absent) (shape : ShapeId → Option Value) : ∀ cs : List Descriptor,
    convertChoice target v accepted es fs absent shape cs =
      match cs.find? accepted with
      | some c => convertNode target v accepted es fs absent shape c
      | none => some (target.copy v)
  | [] => rfl
  | c :: cs => by
    rw [convertChoice, List.find?_cons, convertChoice_eq target v accepted es fs absent shape cs]
    cases accepted c <;> rfl

theorem convertNode_of_kind {d : Descriptor} (h : d.kind = .object ∨ d.kind = .array) (target : Target)
    (v : Value) (accepted : Descriptor → Bool) (es : List Part) (fs : Entries Part) (absent : Absent)
    (shape shape' : ShapeId → Option Value) :
    convertNode target v accepted es fs absent shape d = convertNode target v accepted es fs absent shape' d := by
  cases Descriptor.container_of_kind h <;> simp

namespace Registry

theorem parts_eq (r : Registry) (target : Target) (absent : Absent) :
    ∀ es, r.parts target absent es = es.map (Part.of (r.convertWith target absent))
  | [] => rfl
  | v :: vs => by rw [parts, parts_eq r target absent vs]; rfl

theorem fieldParts_eq (r : Registry) (target : Target) (absent : Absent) :
    ∀ fs, r.fieldParts target absent fs = Entries.mapValues (Part.of (r.convertWith target absent)) fs
  | [] => rfl
  | (k, v) :: fs => by rw [fieldParts, fieldParts_eq r target absent fs]; rfl

def convertHere (r : Registry) (target : Target) (absent : Absent) (v : Value)
    (shape : ShapeId → Option Value) : Descriptor → Option Value :=
  convertNode target v (r.accepts v) (v.elements.map (Part.of (r.convertWith target absent)))
    (Entries.mapValues (Part.of (r.convertWith target absent)) v.fields) absent shape

def shapeHere (r : Registry) (target : Target) (absent : Absent) (v : Value) : Nat → ShapeId → Option Value :=
  r.convertShape target v (v.elements.map (Part.of (r.convertWith target absent)))
    (Entries.mapValues (Part.of (r.convertWith target absent)) v.fields) absent

theorem convertWith_eq (r : Registry) (target : Target) (absent : Absent) (v : Value) (d : Descriptor) :
    r.convertWith target absent v d = r.convertHere target absent v (r.shapeHere target absent v (r.size + 1)) d := by
  cases v <;> simp only [convertWith, parts_eq, fieldParts_eq] <;> rfl

section
variable {r : Registry} {target : Target} {absent : Absent} {v : Value}

theorem convert_keyed (schema : Schema) (t : Traits) :
    r.convertWith target absent v (.keyed schema t) =
      if v.fields?.isSome then
        (convertFields absent t.matchOnce schema
          (Entries.mapValues (Part.of (r.convertWith target absent)) v.fields)).map .object
      else some (target.copy v) := by
  rw [convertWith_eq, convertHere, convertNode]

theorem convert_arrayOf (items : Descriptor) (t : Traits) :
    r.convertWith target absent v (.arrayOf items t) =
      if v.isArray then (v.elements.mapM fun e => r.convertWith target absent e items).map .array
      else some (target.copy v) := by
  rw [convertWith_eq, convertHere, convertNode, List.mapM_map]
  rfl

theorem converted_keyed {schema : Schema} {t : Traits} {w : Value} (hf : v.fields?.isSome = true)
    (hw : r.convertWith target absent v (.keyed schema t) = some w) :
    ∃ out, convertFields absent t.matchOnce schema
      (Entries.mapValues (Part.of (r.convertWith target absent)) v.fields) = some out ∧ w = .object out := by
  rw [convert_keyed, if_pos hf] at hw
  obtain ⟨out, hout, rfl⟩ := Option.map_eq_some_iff.mp hw
  exact ⟨out, hout, rfl⟩

theorem converted_arrayOf {items : Descriptor} {t : Traits} {w : Value} (ha : v.isArray = true)
    (hw : r.convertWith target absent v (.arrayOf items t) = some w) :
    ∃ out, v.elements.Forall₂ (fun e u => r.convertWith target absent e items = some u) out ∧ w = .array out := by
  rw [convert_arrayOf, if_pos ha] at hw
  obtain ⟨out, hout, rfl⟩ := Option.map_eq_some_iff.mp hw
  exact ⟨out, mapM_some.mp hout, rfl⟩

theorem convert_mix (choices : List Descriptor) (s : Strategy) (t : Traits) :
    r.convertWith target absent v (.mix choices s t) =
      if v.isNull || s = .not then some (target.copy v)
      else match choices.find? (r.accepts v) with
        | some c => r.convertWith target absent v c
        | none => some (target.copy v) := by
  rw [convertWith_eq, convertHere, convertNode, convertChoice_eq]
  congr 1
  cases choices.find? (r.accepts v) with
  | none => rfl
  | some c => exact (convertWith_eq r target absent v c).symm

theorem convert_copied {choices : List Descriptor} {s : Strategy} {t : Traits}
    (h : s = .not ∨ choices.find? (r.accepts v) = none) :
    r.convertWith target absent v (.mix choices s t) = some (target.copy v) := by
  rw [convert_mix]
  rcases h with h | h
  · rw [if_pos (by simp [h])]
  · rw [h, ite_self]

theorem convert_chosen {choices : List Descriptor} {s : Strategy} {t : Traits} {c : Descriptor} (hn : v.isNull = false)
    (hs : s ≠ .not) (hc : choices.find? (r.accepts v) = some c) :
    r.convertWith target absent v (.mix choices s t) = r.convertWith target absent v c := by
  rw [convert_mix, if_neg (by simp [hn, hs]), hc]

theorem convert_bare {d : Descriptor} (h : d.Bare) : r.convertWith target absent v d = some (target.copy v) := by
  cases h <;> rw [convertWith_eq, convertHere, convertNode]

/-- The value as a shape: an instance of the shape stays or is flattened under its description. -/
def convertAs (r : Registry) (target : Target) (absent : Absent) (v : Value) (id : ShapeId) : Option Value :=
  match r.class? id, r.description? id with
  | some c, some d =>
    if v.carries c then
      match target with
      | .instances => some v
      | .plain => plainContent absent (Entries.mapValues (Part.of (r.convertWith target absent)) v.fields) d
    else (r.convertWith target absent v d).map (instantiate target c)
  | _, _ => some (target.copy v)

theorem shapeHere_succ (hg : r.Grounded) (n : Nat) (id : ShapeId) :
    r.shapeHere target absent v (n + 1) id = r.convertAs target absent v id := by
  rw [shapeHere, convertShape, convertAs]
  cases hc : r.class? id with
  | none => rfl
  | some c =>
    cases hd : r.description? id with
    | none => rfl
    | some d =>
      have hnode :
        r.convertHere target absent v (r.shapeHere target absent v n) d = r.convertWith target absent v d := by
        rw [convertWith_eq]
        exact convertNode_of_kind (hg id d hd).1 ..
      rw [convertHere, shapeHere] at hnode
      cases target <;> dsimp only <;> rw [hnode]

theorem convert_model (hg : r.Grounded) (id : ShapeId) (t : Traits) :
    r.convertWith target absent v (.model id t) = if v.isNull then some .null else r.convertAs target absent v id := by
  rw [convertWith_eq, convertHere, convertNode, shapeHere_succ hg]

end

end Registry

/-! ## Deeper defaults -/

/-- Every result of `f` is one of `g`. -/
def Below {α β : Type} (f g : α → Option β) : Prop := ∀ a b, f a = some b → g a = some b

theorem ite_some {α : Type} {c : Prop} [Decidable c] {x x' y y' : Option α} {a : α} (h : (if c then x else y) = some a)
    (hx : x = some a → x' = some a) (hy : y = some a → y' = some a) : (if c then x' else y') = some a := by
  split at h
  · rename_i hc; rw [if_pos hc, hx h]
  · rename_i hc; rw [if_neg hc, hy h]

section
variable {convert convert' : Value → Descriptor → Option Value} {absent absent' : Absent}
  (ha : Below absent absent')
include ha

theorem Added.below {c : (KeyMatcher × Descriptor) × Entries Value} {es : Entries Value}
    (h : Added convert absent c es) (hc : ∀ x ∈ c.2, Below (convert x.2) (convert' x.2)) :
    Added convert' absent' c es := by
  cases h with
  | taken hm h => exact .taken hm (forall₂_imp_of_mem h fun x hx y _ hxy => ⟨hxy.1, hc x hx _ _ hxy.2⟩)
  | filled h => exact .filled (ha _ _ h)
  | missing h => exact .missing (ha _ _ h)

theorem convertFields_below {once : Bool} {schema : Schema} {fs : Entries Value}
    (hc : ∀ x ∈ fs, Below (convert x.2) (convert' x.2)) {out : Entries Value}
    (h : convertFields absent once schema (Entries.mapValues (Part.of convert) fs) = some out) :
    convertFields absent' once schema (Entries.mapValues (Part.of convert') fs) = some out := by
  obtain ⟨ess, hess, rfl⟩ := convertFields_some.mp h
  refine convertFields_some.mpr ⟨ess, forall₂_imp_of_mem hess fun c hm es _ hes => ?_, rfl⟩
  exact hes.below ha fun x hx => hc x (claims_subset hm hx)

theorem plainContent_below {fs : Entries Value} (hc : ∀ x ∈ fs, Below (convert x.2) (convert' x.2)) :
    Below (plainContent absent (Entries.mapValues (Part.of convert) fs))
      (plainContent absent' (Entries.mapValues (Part.of convert') fs)) := by
  intro d w h
  cases d with
  | keyed schema t =>
    obtain ⟨out, hout, rfl⟩ := Option.map_eq_some_iff.mp h
    exact Option.map_eq_some_iff.mpr ⟨out, convertFields_below ha hc hout, rfl⟩
  | arrayOf items t =>
    rw [plainContent, Entries.mapValues, List.mapM_map] at h ⊢
    obtain ⟨es, hes, rfl⟩ := Option.map_eq_some_iff.mp h
    exact Option.map_eq_some_iff.mpr ⟨es, mapM_below (fun x hx => hc x hx items) hes, rfl⟩
  | _ => simpa [plainContent, Entries.mapValues, Function.comp_def, Part.of] using h

end

namespace Registry
variable {r : Registry} {target : Target} {absent absent' : Absent}

section
variable {v : Value} (ha : Below absent absent')
  (hp : ∀ p ∈ v.parts, Below (r.convertWith target absent p) (r.convertWith target absent' p))
include ha hp

theorem convertHere_below {shape shape' : ShapeId → Option Value} (hs : Below shape shape') :
    Below (r.convertHere target absent v shape) (r.convertHere target absent' v shape') := by
  intro d
  induction d using Descriptor.induction_parts with
  | h d ih =>
    intro w h
    cases d with
    | keyed schema t =>
      rw [convertHere, convertNode] at h ⊢
      refine ite_some h (fun h => ?_) id
      obtain ⟨out, hout, rfl⟩ := Option.map_eq_some_iff.mp h
      refine Option.map_eq_some_iff.mpr ⟨out, convertFields_below ha (fun x hx => ?_) hout, rfl⟩
      exact hp x.2 (Value.field_part hx)
    | arrayOf items t =>
      rw [convertHere, convertNode, List.mapM_map] at h ⊢
      refine ite_some h (fun h => ?_) id
      obtain ⟨es, hes, rfl⟩ := Option.map_eq_some_iff.mp h
      refine Option.map_eq_some_iff.mpr ⟨es, mapM_below (fun e he => ?_) hes, rfl⟩
      exact hp e (Value.element_part he) items
    | model i t =>
      rw [convertHere, convertNode] at h ⊢
      exact ite_some h id (hs i w)
    | mix choices s t =>
      rw [convertHere, convertNode, convertChoice_eq] at h ⊢
      refine ite_some h id fun h => ?_
      cases hf : choices.find? (r.accepts v) with
      | none => rw [hf] at h; exact h
      | some c => rw [hf] at h; exact ih c (List.mem_of_find?_eq_some hf) w h
    | _ =>
      rw [convertHere, convertNode] at h ⊢
      exact h

theorem shapeHere_below (n : Nat) :
    Below (r.shapeHere target absent v n) (r.shapeHere target absent' v n) := by
  induction n with
  | zero => intro id w h; cases h
  | succ n ih =>
    intro id w h
    rw [shapeHere, convertShape] at h ⊢
    cases hc : r.class? id with
    | none => rw [hc] at h; exact h
    | some c =>
      cases hd : r.description? id with
      | none => rw [hc, hd] at h; exact h
      | some d =>
        rw [hc, hd] at h
        dsimp only at h ⊢
        split at h
        · rename_i hcar
          rw [if_pos hcar]
          cases target with
          | instances => exact h
          | plain => exact plainContent_below ha (fun x hx => hp x.2 (Value.field_part hx)) d w h
        · rename_i hcar
          rw [if_neg hcar]
          obtain ⟨u, hu, rfl⟩ := Option.map_eq_some_iff.mp h
          exact Option.map_eq_some_iff.mpr ⟨u, convertHere_below ha hp ih d u hu, rfl⟩

end

theorem convertWith_below (ha : Below absent absent') (v : Value) :
    Below (r.convertWith target absent v) (r.convertWith target absent' v) := by
  induction v using Value.induction_parts with
  | h v ih =>
    intro d w h
    rw [convertWith_eq] at h ⊢
    exact convertHere_below ha ih (shapeHere_below ha ih _) d w h

theorem absent_succ (r : Registry) (target : Target) (n : Nat) :
    Below (r.absent target n) (r.absent target (n + 1)) := by
  induction n with
  | zero =>
    intro d w h
    unfold absent at h ⊢
    cases hd : d.traits.default? with
    | none => rw [hd] at h; exact h
    | some u => rw [hd] at h; cases h
  | succ n ih =>
    intro d w h
    rw [absent] at h ⊢
    cases hd : d.traits.default? with
    | none => rw [hd] at h; exact h
    | some u =>
      rw [hd] at h
      obtain ⟨x, hx, rfl⟩ := Option.map_eq_some_iff.mp h
      exact Option.map_eq_some_iff.mpr ⟨x, convertWith_below ih u d x hx, rfl⟩

theorem absent_le (r : Registry) (target : Target) {m n : Nat} (h : m ≤ n) :
    Below (r.absent target m) (r.absent target n) := by
  induction h with
  | refl => exact fun _ _ h => h
  | step _ ih => exact fun d w h => r.absent_succ target _ d w (ih d w h)

/-- The conversion of the value comes to the end `w`, with defaults however deep. -/
def Converts (r : Registry) (target : Target) (v : Value) (d : Descriptor) (w : Value) : Prop :=
  ∃ n, r.convertWith target (r.absent target n) v d = some w

theorem Converts.unique {d : Descriptor} {v w w' : Value} (h : r.Converts target v d w)
    (h' : r.Converts target v d w') : w = w' := by
  obtain ⟨m, hm⟩ := h
  obtain ⟨n, hn⟩ := h'
  have hm := convertWith_below (r.absent_le target (Nat.le_max_left m n)) v d w hm
  have hn := convertWith_below (r.absent_le target (Nat.le_max_right m n)) v d w' hn
  exact Option.some_inj.mp (hm.symm.trans hn)

theorem absent_some {n : Nat} {d : Descriptor} {w : Value} (h : r.absent target n d = some (some w)) :
    ∃ u, d.traits.default? = some u ∧ r.Converts target u d w := by
  cases n with
  | zero =>
    rw [absent] at h
    split at h <;> cases h
  | succ n =>
    rw [absent] at h
    cases hd : d.traits.default? with
    | none => rw [hd] at h; cases h
    | some u =>
      rw [hd] at h
      obtain ⟨x, hx, hw⟩ := Option.map_eq_some_iff.mp h
      cases hw
      exact ⟨u, rfl, n, hx⟩

theorem absent_default {target : Target} {n : Nat} (d : Descriptor) (x : Value)
    (h : r.absent target n d = some (some x)) : d.traits.default.isSome = true := by
  obtain ⟨u, hu, -⟩ := absent_some h
  obtain ⟨_, hd, -⟩ := Option.bind_eq_some_iff.mp hu
  exact Option.isSome_of_mem hd

theorem absent_none {n : Nat} {d : Descriptor} (h : r.absent target n d = some none) : d.traits.default? = none := by
  cases hd : d.traits.default? with
  | none => rfl
  | some u =>
    cases n with
    | zero => rw [absent, hd] at h; cases h
    | succ n =>
      rw [absent, hd] at h
      obtain ⟨x, -, hw⟩ := Option.map_eq_some_iff.mp h
      cases hw

end Registry

end Conformance
