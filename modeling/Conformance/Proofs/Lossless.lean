import Conformance.Pattern.Parser
import Conformance.Proofs.Making
import Conformance.Proofs.Needs
import Conformance.Proofs.Runs
import Conformance.Proofs.Shapes

/-!
# Normalization without defaults

Without defaults every accepted plain value can be made an instance and made plain again. If the
shapes are objects, the result is equal to the value. Instances of array-shaped shapes become
arrays again where unions are steady; elsewhere a union may take such an instance as an object.
-/

namespace Conformance

/-! ## Registries without defaults -/

namespace Registry

def NoDefaults (r : Registry) : Prop :=
  ∀ id d, r.description? id = some d → ∀ n, Descriptor.Node n d → n.traits.default = none

def ObjectShaped (r : Registry) : Prop := ∀ id d, r.description? id = some d → d.kind = .object

instance (r : Registry) : Decidable r.NoDefaults :=
  decidable_of_iff (r.everywhere (·.traits.default.isNone) = true) <| by
    simp only [everywhere_iff, Option.isNone_iff_eq_none]; rfl

instance (r : Registry) : Decidable r.ObjectShaped :=
  decidable_of_iff (∀ s ∈ r.slots, ∀ d ∈ s.description, d.kind = .object) <| by
    constructor
    · intro h id d hd
      obtain ⟨s, hs, hd⟩ := description?_slot hd
      exact h s hs d hd
    · intro h s hs d hd
      obtain ⟨id, hid⟩ := slot_description? hs hd
      exact h id d hid

variable {r : Registry}

theorem NoDefaults.convert_isSome (hf : r.NoDefaults) (hg : r.Grounded) {id : ShapeId} {d : Descriptor}
    (hd : r.description? id = some d) (target : Target) (v : Value) : (r.convert target v d).isSome = true := by
  refine (Registry.convert_isSome hg v d).mpr fun m hm he => ?_
  obtain ⟨f, rfl, hneeds⟩ := he
  obtain ⟨u, hu, -⟩ := hneeds 0
  have hnone : (f 0).traits.default = none := by
    rcases hm.inScope (.inl .root) with hn | ⟨id', d', hd', hn⟩
    · exact hf id d hd _ hn
    · exact hf id' d' hd' _ hn
  rw [Traits.default?, hnone] at hu
  cases hu

/-! ## Unions of primitives and shapes of arrays -/

/-- A primitive, or a shape of arrays. An instance of such a shape satisfies no other choice of this
form. -/
def isSole (r : Registry) : Descriptor → Bool
  | .primitive p _ => p ≠ .any
  | .model id t => t.validator.isNone && (r.description? id).all (·.kind = .array)
  | _ => false

section
variable (hg : r.Grounded)
include hg

theorem isSole_shape {id : ShapeId} {t : Traits} (hs : r.isSole (.model id t) = true) {v : Value}
    (hn : v.isNull = false) :
    r.accepts v (.model id t) = r.checkShape id v := by
  have hvalid := Option.isNone_iff_eq_none.mp (Bool.and_eq_true_iff.mp hs).1
  rw [accepts_model hn hg, Traits.isValid, hvalid, Option.all_none, Bool.and_true]

omit hg in
theorem isSole_array {id : ShapeId} {t : Traits} (hs : r.isSole (.model id t) = true) {d : Descriptor}
    (hd : r.description? id = some d) : d.kind = .array := by
  have harr := (Bool.and_eq_true_iff.mp hs).2
  rw [hd] at harr
  exact of_decide_eq_true harr

theorem isSole_inst {c : Descriptor} (hs : r.isSole c = true) {id : ShapeId} {k : Class} (hk : r.class? id = some k)
    {fs : Entries Value} (ha : r.accepts (.inst k fs) c = true) : ∃ t, c = .model id t := by
  cases c with
  | primitive p t =>
    have hp : p ≠ .any := of_decide_eq_true hs
    rw [accepts_primitive rfl, Bool.and_eq_true, Bool.or_eq_true, decide_eq_true_eq, decide_eq_true_eq] at ha
    have hkind : some Kind.object = some p.kind := ha.1.resolve_left hp
    cases p <;> cases hkind
  | model id' t =>
    rw [isSole_shape hg hs rfl, checkShape, Bool.or_eq_true, Option.any_eq_true, Option.any_eq_true] at ha
    rcases ha with ⟨k', hk', hcar⟩ | ⟨d, hd, ha⟩
    · cases class?_same hk hk' (decide_eq_true rfl) hcar
      exact ⟨t, rfl⟩
    · cases accepts_array rfl (isSole_array hs hd) ha
  | _ => cases hs

/-- Of sole choices, the one that takes a value is also the first to accept what it makes of it. -/
theorem isSole_find? {choices : List Descriptor} (hs : ∀ c ∈ choices, r.isSole c = true) {v w : Value}
    (hn : v.isNull = false) {c : Descriptor} (hc : choices.find? (r.accepts v) = some c)
    (hw : r.Converts .instances v c w) : choices.find? (r.accepts w) = some c := by
  obtain ⟨n, hw⟩ := hw
  have copied : w = v → choices.find? (r.accepts w) = some c := fun h => h ▸ hc
  have hsole := hs c (List.mem_of_find?_eq_some hc)
  cases c with
  | primitive p t => exact copied (Option.some.inj (hw.symm.trans (convert_bare (.primitive p t))))
  | model id t =>
    obtain ⟨ha, before, after, rfl, hbefore⟩ := List.find?_eq_some_iff_append.mp hc
    rw [isSole_shape hg hsole hn] at ha
    have hcheck := ha
    rw [checkShape, Bool.or_eq_true, Option.any_eq_true, Option.any_eq_true] at hcheck
    by_cases hcar : ∃ k, r.class? id = some k ∧ v.carries k = true
    · obtain ⟨k, hk, hcar⟩ := hcar
      exact copied (Option.some.inj (hw.symm.trans (convert_own hg hn hk hcar)))
    · obtain ⟨d, hd, had⟩ := hcheck.resolve_left hcar
      obtain ⟨k, hk⟩ := class?_of_description hd
      have hvk : v.carries k = false := Bool.eq_false_iff.mpr fun h => hcar ⟨k, hk, h⟩
      have hkind := isSole_array hsole hd
      rw [convert_shape hg hn hk hd hvk] at hw
      obtain ⟨u, hu, rfl⟩ := Option.map_eq_some_iff.mp hw
      obtain ⟨ys, rfl⟩ := converted_array hkind (accepts_array hn hkind had) hu
      refine List.find?_eq_some_iff_append.mpr ⟨?_, before, after, rfl, fun b hb => ?_⟩
      · have hcarries : (Value.inst k (Entries.indexed ys)).carries k = true := decide_eq_true rfl
        rw [isSole_shape hg hsole rfl, checkShape, hk, Option.any_some, instantiate, hcarries, Bool.true_or]
      · -- a choice before that has the instance has its shape, and so had the value
        have hb' := hs b (List.mem_append_left _ hb)
        cases hab : r.accepts (instantiate .instances k (.array ys)) b with
        | false => rfl
        | true =>
          obtain ⟨t', rfl⟩ := isSole_inst hg hb' hk hab
          have hrefused := hbefore _ hb
          rw [isSole_shape hg hb' hn, ha] at hrefused
          cases hrefused
  | _ => cases hsole

end

/-- All choices of all unions are sole. -/
def SoleUnions (r : Registry) : Prop :=
  ∀ id d, r.description? id = some d → ∀ choices s t, Descriptor.Node (.mix choices s t) d →
    ∀ c ∈ choices, r.isSole c = true

instance (r : Registry) : Decidable r.SoleUnions :=
  decidable_of_iff (r.everywhere (fun | .mix choices _ _ => choices.all r.isSole | _ => true) = true) <| by
    rw [everywhere_iff]
    constructor
    · intro h id d hd choices s t hn
      exact List.all_eq_true.mp (h id d hd _ hn)
    · intro h id d hd n hn
      cases n with
      | mix choices s t => exact List.all_eq_true.mpr (h id d hd choices s t hn)
      | _ => rfl

theorem SoleUnions.steady (h : r.SoleUnions) (hg : r.Grounded) {id : ShapeId} {d : Descriptor}
    (hd : r.description? id = some d) (v : Value) : r.Steady (v, d) := by
  intro y choices s t c w hcomes hn _ hc hw
  refine isSole_find? hg ?_ hn hc hw
  rcases comes_inScope (.inl .root) hcomes with hnode | ⟨id', d', hd', hnode⟩
  · exact h id d hd choices s t hnode
  · exact h id' d' hd' choices s t hnode

end Registry

/-! ## There and back -/

section
variable [RegexEngine] {r : Registry} (hr : Reachable r) (hf : r.NoDefaults) {id : ShapeId}
  {s : Shape} (hs : r.shape? id = some s)
  {v : Value}
include hr hf hs

theorem normalized_returns (hc : s.check v = true) : ∃ i w, s.create v = .ok i ∧ s.toObject i = .ok w := by
  obtain ⟨-, -, -, hdesc⟩ := Registry.shape?_ok hs
  have hg := hr.grounded
  obtain ⟨i, hi⟩ := (Shape.create_isOk hs hc).mpr (.inr (hf.convert_isSome hg hdesc .instances v))
  have hplain : (r.toPlain i s.description).isSome = true := by
    rw [Registry.toPlain_eq (hg id _ hdesc).1]
    exact hf.convert_isSome hg hdesc .plain _
  obtain ⟨w, hw⟩ := (Shape.toObject_isOk hs (Shape.create_cls hs hi)).mpr hplain
  exact ⟨i, w, hi, hw⟩

theorem normalized_alike {loose loose' : Prop} (hl : loose' → loose)
    (harr : ∀ id d, r.description? id = some d → d.kind = .array → loose) (hp : v.Plain) (hd : v.Distinct)
    (hunion : (loose → loose') ∨ r.Steady (v, s.description)) {i : Instance} (hi : s.create v = .ok i) {w : Value}
    (hw : s.toObject i = .ok w) : Alike loose' v w := by
  obtain ⟨-, -, -, hdesc⟩ := Registry.shape?_ok hs
  have hg := hr.grounded
  have hkind := (hg id _ hdesc).1
  have hv : v.carries s.cls = false := by rw [Value.carries, hp.root]; rfl
  obtain ⟨ha, hb⟩ := Shape.create_built hs hv hi
  obtain ⟨u, hu, hfields⟩ := Option.map_eq_some_iff.mp hb
  have hall : ∀ id d, r.description? id = some d → d.Clear ∧ (d.kind = .array → loose) := fun id d hd =>
    ⟨fun n hn => ⟨hf id d hd n hn, hr.uniqueKeys hd hn⟩, harr id d hd⟩
  have hplain := (Shape.toObject_ok hs hw).2
  rw [Registry.toPlain_eq hkind] at hplain
  have hmade : r.Made (r.absent .plain (r.defaultDepth s.description)) loose loose' s.description v u :=
    Registry.makes hg hl hall Registry.absent_default (v, s.description) (hall id _ hdesc).1 (.inl ha) hp hd hunion u hu
  -- the instance holds what the value was converted to
  have hcontent : s.description.content i.fields = u := by
    rcases Registry.converted_content hkind ha (hg.isNull hdesc ha) hu hp with ⟨-, gs, rfl, h⟩ | ⟨-, ys, rfl, h⟩
    · exact hfields ▸ h
    · exact hfields ▸ h
  exact hmade.restores w (hcontent ▸ hplain)

end

/-! ## Objects -/

/-- Made an instance and plain again, the value is the same up to the order of its keys. -/
theorem normalized_eqv [RegexEngine] {r : Registry} (hr : Reachable r) (hf : r.NoDefaults)
    (ho : r.ObjectShaped) {id : ShapeId}
    {s : Shape} (hs : r.shape? id = some s) {v : Value} (hp : v.Plain) (hd : v.Distinct) (hn : v.Comparable)
    (hc : s.check v = true) :
    ∃ i w, s.create v = .ok i ∧ s.toObject i = .ok w ∧ Alike False v w ∧ w.eqv v = true := by
  obtain ⟨i, w, hi, hw⟩ := normalized_returns hr hf hs hc
  have harr : ∀ id d, r.description? id = some d → d.kind = .array → False := fun id d hd hk => by
    rw [ho id d hd] at hk
    cases hk
  have halike := normalized_alike hr hf hs (·) harr hp hd (.inl (·)) hi hw
  exact ⟨i, w, hi, hw, halike, halike.eqv hd hn⟩

/-- Plots stand in a field under keys that start with a letter; other keys hold no plots. -/
def meadow : Registry := .ofModels
  [("Field", .object [("$matchOnce", .bool true), ("$type", .object [
      ("/^p.*$/", .object [("$mix", .array [.string "number", .string "Plot"])]),
      ("/^.+$/", .object [("$mix", .array [.string "Plot"]), ("$strategy", .string "not")])])]),
    ("Plot", .object [("crops", .array [.object [
      ("$mix", .array [.string "string", .string "object"]), ("$strategy", .string "all")]])])]

def clover : Value := .ofJson <| .object
  [("plot", .object [("crops", .array [.object [("rye", .int 2)], .string "oat"])]), ("hay", .string "dry")]

theorem normalized_eqv_meadow : ∃ s i w, meadow.shape? (meadow.idAt 0) = some s ∧ s.create clover = .ok i ∧
    s.toObject i = .ok w ∧ w.eqv clover = true := by
  have hr : Reachable meadow := (Registry.ofModels_loaded _).reachable
  have h : (decide meadow.NoDefaults && decide meadow.ObjectShaped &&
      (meadow.shape? (meadow.idAt 0)).any (·.check clover)) = true := by decide +kernel
  simp only [Bool.and_eq_true, decide_eq_true_eq] at h
  obtain ⟨s, hs, hc⟩ := (Option.any_eq_true _ _).mp h.2
  obtain ⟨i, w, hi, hw, -, he⟩ :=
    normalized_eqv hr h.1.1 h.1.2 hs (v := clover) (by decide) (by decide) (by decide +kernel) hc
  exact ⟨s, i, w, hs, hi, hw, he⟩

/-! ## Arrays -/

/-- Made an instance and plain again, the value differs at most in the order of keys and in arrays
that became objects of their elements. Arrays stay where they are if unions are steady. -/
theorem normalized_arrays [RegexEngine] {r : Registry} (hr : Reachable r) (hf : r.NoDefaults) {id : ShapeId} {s : Shape}
    (hs : r.shape? id = some s) {v : Value} (hp : v.Plain) (hd : v.Distinct) (hc : s.check v = true) :
    ∃ i w, s.create v = .ok i ∧ s.toObject i = .ok w ∧ Alike True v w ∧
      (r.Steady (v, s.description) → Alike False v w ∧ ∀ steps, w.lengthAt? steps = v.lengthAt? steps) := by
  obtain ⟨i, w, hi, hw⟩ := normalized_returns hr hf hs hc
  have hloose : ∀ id d, r.description? id = some d → d.kind = .array → True := fun _ _ _ _ => trivial
  refine ⟨i, w, hi, hw, normalized_alike hr hf hs (·) hloose hp hd (.inl (·)) hi hw, fun hsteady => ?_⟩
  have halike : Alike False v w := normalized_alike hr hf hs (fun _ => trivial) hloose hp hd (.inr hsteady) hi hw
  exact ⟨halike, halike.lengthAt? hd⟩

/-- A table has rows under keys and in rows of rows; in notes and in the foot, texts may stand for
them. -/
def tables : Registry := .ofModels
  [("Row", .array [.string "number"]), ("Rows", .array [.string "Row"]),
    ("Table", .object [("head", .string "Row"), ("body", .string "Rows"),
      ("foot", .object [("$mix", .array [.string "string", .string "Rows", .string "Row"])]),
      ("/^note.*$/", .array [.object [("$mix", .array [.string "string", .string "Row"])]])])]

def table : Value := .ofJson <| .object [("notes", .array [.array [], .string "total", .array [.int 4]]),
  ("body", .array [.array [.int 1, .int 2], .array [.int 3]]), ("foot", .array [.int 4, .int 2]),
  ("head", .array [.int 7])]

theorem normalized_arrays_tables : ∃ s i w, tables.shape? (tables.idAt 2) = some s ∧ s.create table = .ok i ∧
    s.toObject i = .ok w ∧ ∀ steps, w.lengthAt? steps = table.lengthAt? steps := by
  have hr : Reachable tables := (Registry.ofModels_loaded _).reachable
  have h : (decide tables.NoDefaults && decide tables.SoleUnions &&
      (tables.shape? (tables.idAt 2)).any (·.check table)) = true := by decide +kernel
  simp only [Bool.and_eq_true, decide_eq_true_eq] at h
  obtain ⟨s, hs, hc⟩ := (Option.any_eq_true _ _).mp h.2
  obtain ⟨i, w, hi, hw, -, hsteady⟩ := normalized_arrays hr h.1.1 hs (v := table) (by decide) (by decide) hc
  have hunion := h.1.2.steady hr.grounded (Registry.shape?_ok hs).2.2.2 table
  exact ⟨s, i, w, hs, hi, hw, (hsteady hunion).2⟩

/-- A cell is an object or a row. -/
def sheets : Registry := .ofModels
  [("Row", .array [.string "number"]),
    ("Sheet", .object [("cells", .object [("$mix", .array [.string "object", .string "Row"])])])]

def sheet : Value := .ofJson <| .object [("cells", .array [.int 1, .int 2])]

/-- The instance of the row is an object to the union, and does not become an array again. -/
theorem row_flattened : ¬ ∀ r : Registry, Reachable r → r.NoDefaults → ∀ id s, r.shape? id = some s →
    ∀ v : Value, v.Plain → v.Distinct → s.check v = true → ∀ i w, s.create v = .ok i → s.toObject i = .ok w →
    ∀ steps, w.lengthAt? steps = v.lengthAt? steps := by
  intro hall
  have hr : Reachable sheets := (Registry.ofModels_loaded _).reachable
  have h : (decide sheets.NoDefaults && (sheets.shape? (sheets.idAt 1)).any fun s => s.check sheet &&
      (s.create sheet).toOption.any fun i => (s.toObject i).toOption.any fun w =>
        w.lengthAt? [.key "cells"] = none) = true := by decide +kernel
  simp only [Bool.and_eq_true, decide_eq_true_eq] at h
  obtain ⟨s, hs, h'⟩ := (Option.any_eq_true _ _).mp h.2
  obtain ⟨hc, hi⟩ := Bool.and_eq_true_iff.mp h'
  obtain ⟨i, hi, hw⟩ := ok_of_toOption hi
  obtain ⟨w, hw, hnone⟩ := ok_of_toOption hw
  have hlength := hall sheets hr h.1 _ s hs sheet (by decide) (by decide) hc i w hi hw [.key "cells"]
  rw [of_decide_eq_true hnone] at hlength
  cases hlength

end Conformance
