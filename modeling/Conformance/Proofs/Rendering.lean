import Conformance.Proofs.Likeness

/-!
# Rendering as JSON

The JSON of a value, read as a value, renders as the same JSON. What JSON can hold comes back as it
was, with its keys in their order; only a negative zero comes back as zero. Both rest on numbers: a
whole number that is written as an integer is read as the same number, since a number is the nearest
one to itself.
-/

namespace Conformance

/-! ## Whole numbers -/

theorem nearestEven_mul (m : Nat) {den : Nat} (hd : 0 < den) : nearestEven (m * den) den = m := by
  simp [nearestEven, Nat.mul_div_cancel _ hd, hd]

/-- A number has the least exponent at which its significand has no more than 53 bits. -/
theorem Canonical.exponent {m e : Nat} (hc : Canonical m e) (hm : m ≠ 0) : (m * 2 ^ e).log2 + 1 - 53 = e := by
  have hpos : m * 2 ^ e ≠ 0 := Nat.mul_ne_zero hm (Nat.ne_of_gt (Nat.two_pow_pos e))
  obtain ⟨hlt, -, hfull⟩ := hc
  rcases hfull with rfl | hfull
  · have hlog : (m * 2 ^ 0).log2 < 53 := (Nat.log2_lt hpos).mpr (by rwa [Nat.pow_zero, Nat.mul_one])
    omega
  · have hlog : (m * 2 ^ e).log2 = 52 + e := by
      refine (Nat.log2_eq_iff hpos).mpr ⟨?_, ?_⟩
      · rw [Nat.pow_add]
        exact Nat.mul_le_mul_right _ hfull
      · rw [Nat.add_right_comm, Nat.pow_add]
        exact Nat.mul_lt_mul_of_pos_right hlt (Nat.two_pow_pos e)
    omega

namespace Number

theorem ofRatio_finite {s : Bool} {m e n : Nat} (hc : Canonical m e) (hm : m ≠ 0) (h : m * 2 ^ e = n * 2 ^ 1074) :
    ofRatio s n 1 = .finite s m e hc := by
  unfold ofRatio
  rw [Nat.div_one, ← h]
  dsimp only
  rw [hc.exponent hm, Nat.one_mul, nearestEven_mul m (Nat.two_pow_pos e), if_neg (Nat.ne_of_lt hc.1), ofFields,
    dif_pos hc]

theorem toInt?_finite {s : Bool} {m e : Nat} {hc : Canonical m e} {i : Int} (h : (finite s m e hc).toInt? = some i) :
    m * 2 ^ e = i.natAbs * 2 ^ 1074 ∧ (i ≠ 0 → decide (i < 0) = s) := by
  obtain ⟨j, hj, hi⟩ := Option.map_eq_some_iff.mp h
  obtain ⟨n, hn, hj⟩ := Option.bind_eq_some_iff.mp hj
  cases hj
  have hi : i = if s then -(n : Int) else n := hi.symm
  have habs : i.natAbs = n := by rw [hi]; cases s <;> simp
  refine ⟨?_, fun hne => ?_⟩
  · rw [habs]
    split at hn
    · rename_i he
      rw [← Option.some_inj.mp hn, Nat.mul_assoc, ← Nat.pow_add 2 (e - 1074) 1074, Nat.sub_add_cancel he]
    · rename_i he
      split at hn
      · rename_i hdvd
        have hle : 1074 - e + e = 1074 := Nat.sub_add_cancel (Nat.le_of_not_le he)
        rw [← Option.some_inj.mp hn, ← hle, Nat.pow_add, hle, ← Nat.mul_assoc,
          Nat.div_mul_cancel (Nat.dvd_of_mod_eq_zero hdvd)]
      · cases hn
  · cases s <;> simp at hi <;> simp <;> omega

/-- The number of an integer that a number is, is that number, but for the sign of zero. -/
theorem ofInt_of_toInt? {n : Number} {i : Int} (h : n.toInt? = some i) :
    ofInt i = n ∨ i = 0 ∧ ofInt i = zero ∧ n.isZero = true := by
  cases n with
  | finite s m e hc =>
    obtain ⟨heq, hs⟩ := toInt?_finite h
    by_cases hi : i = 0
    · subst hi
      have hzero : m * 2 ^ e = 0 := by
        generalize 2 ^ 1074 = unit at heq
        rw [heq, Int.natAbs_zero, Nat.zero_mul]
      have hm : m = 0 := (Nat.mul_eq_zero.mp hzero).resolve_right (Nat.ne_of_gt (Nat.two_pow_pos e))
      exact .inr ⟨rfl, rfl, by rw [isZero, hm]; rfl⟩
    · have hm : m ≠ 0 := by
        rintro rfl
        rw [Nat.zero_mul] at heq
        have habs := (Nat.mul_eq_zero.mp heq.symm).resolve_right (Nat.ne_of_gt (Nat.two_pow_pos 1074))
        exact hi (Int.natAbs_eq_zero.mp habs)
      rw [ofInt, if_neg hi, hs hi]
      exact .inl (ofRatio_finite hc hm heq)
  | _ => cases h

theorem ofInt_eqv {n : Number} {i : Int} (h : n.toInt? = some i) : (ofInt i).eqv n = true := by
  rcases ofInt_of_toInt? h with hn | ⟨-, hz, hn⟩
  · rw [hn]
    refine eqv_self ?_
    rintro rfl
    cases h
  · have hzero : zero.isZero = true := rfl
    rw [hz, eqv, hn, hzero, Bool.and_true, Bool.or_true]
    rfl

theorem ofInt_toInt? {n : Number} {i : Int} (h : n.toInt? = some i) : (ofInt i).toInt? = some i := by
  rcases ofInt_of_toInt? h with hn | ⟨rfl, -, -⟩
  · rw [hn, h]
  · decide +kernel

theorem units_of_eqv {a b : Number} (h : a.eqv b = true) : a.units = b.units := by
  have of_zero : ∀ n : Number, n.isZero = true → n.units = 0 := by
    intro n hn
    cases n with
    | finite s m e hc =>
      have hm : m = 0 := by simpa [isZero] using hn
      simp [units, hm]
    | _ => cases hn
  rw [eqv, Bool.and_eq_true, Bool.or_eq_true, Bool.and_eq_true] at h
  rcases h.2 with hab | ⟨ha, hb⟩
  · rw [eq_of_beq hab]
  · rw [of_zero a ha, of_zero b hb]

end Number

/-! ## Numbers -/

/-- The JSON of a number is null, its integer, or the number itself. -/
theorem Json.ofNumber_cases (n : Number) :
    n.isFinite = false ∧ Json.ofNumber n = .null ∨
      (∃ i, n.toInt? = some i ∧ Json.fitsSigned i = true ∧ Json.ofNumber n = .int i) ∨
        n.isFinite = true ∧ Json.ofNumber n = .float n := by
  unfold Json.ofNumber
  cases hf : n.isFinite with
  | false => exact .inl ⟨rfl, rfl⟩
  | true =>
    rw [if_pos rfl]
    cases hi : n.toInt? with
    | none => exact .inr (.inr ⟨rfl, rfl⟩)
    | some i =>
      dsimp only
      split
      · rename_i hfits
        exact .inr (.inl ⟨i, rfl, hfits, rfl⟩)
      · exact .inr (.inr ⟨rfl, rfl⟩)

theorem Number.isFinite_of_toInt? {n : Number} {i : Int} (h : n.toInt? = some i) : n.isFinite = true := by
  cases n with
  | finite => rfl
  | _ => cases h

theorem Json.ofNumber_ofInt {n : Number} {i : Int} (h : n.toInt? = some i) (hi : Json.fitsSigned i = true) :
    Json.ofNumber (.ofInt i) = .int i := by
  have hint := Number.ofInt_toInt? h
  unfold Json.ofNumber
  rw [if_pos (Number.isFinite_of_toInt? hint), hint]
  exact if_pos hi

namespace Value

theorem ofNumber_again (n : Number) : (ofJson (.ofNumber n)).toJson = .ofNumber n := by
  rcases Json.ofNumber_cases n with ⟨-, h⟩ | ⟨i, hi, hfits, h⟩ | ⟨-, h⟩ <;> rw [h]
  · rfl
  · rw [ofJson, toJson]
    exact Json.ofNumber_ofInt hi hfits
  · rw [ofJson, toJson]
    exact h

theorem ofNumber_back {n : Number} (hn : n.isFinite = true) :
    ∃ n', ofJson (.ofNumber n) = .number n' ∧ n'.eqv n = true := by
  rcases Json.ofNumber_cases n with ⟨hf, -⟩ | ⟨i, hi, -, h⟩ | ⟨-, h⟩
  · rw [hn] at hf
    cases hf
  · rw [h]
    exact ⟨.ofInt i, rfl, Number.ofInt_eqv hi⟩
  · rw [h]
    refine ⟨n, rfl, Number.eqv_self ?_⟩
    rintro rfl
    cases hn

/-! ## Values -/

theorem toJsonElements_eq : ∀ es, toJsonElements es = es.map toJson
  | [] => rfl
  | e :: es => by rw [toJsonElements, toJsonElements_eq es]; rfl

theorem toJsonFields_eq : ∀ fs, toJsonFields fs = Entries.mapValues toJson (fs.filter fun f => !f.2.isOpaque)
  | [] => rfl
  | (k, v) :: fs => by
    rw [toJsonFields, toJsonFields_eq fs]
    cases hv : v.isOpaque <;> simp [hv]

theorem isOpaque_ofJson (j : Json) : (ofJson j).isOpaque = false := by
  cases j <;> rfl

/-- What is read from JSON renders with all its fields. -/
theorem toJson_ofJson_object (gs : Entries Json) :
    (ofJson (.object gs)).toJson = .object (Entries.mapValues (fun j => (ofJson j).toJson) gs) := by
  have hall : (ofJsonFields gs).filter (fun f => !f.2.isOpaque) = ofJsonFields gs := by
    refine List.filter_eq_self.mpr fun f hf => ?_
    rw [ofJsonFields_eq] at hf
    obtain ⟨g, -, rfl⟩ := List.mem_map.mp hf
    rw [isOpaque_ofJson]
    rfl
  rw [ofJson, toJson, toJsonFields_eq, hall, ofJsonFields_eq, Entries.mapValues, List.map_map]
  rfl

theorem toJson_ofJson_array (js : List Json) :
    (ofJson (.array js)).toJson = .array (js.map fun j => (ofJson j).toJson) := by
  rw [ofJson, toJson, toJsonElements_eq, ofJsonElements_eq, List.map_map]
  rfl

theorem toJson_ofJson_toJson (v : Value) : (ofJson v.toJson).toJson = v.toJson := by
  induction v using induction_parts with
  | h v ih =>
    have fields : ∀ fs : Entries Value, fs = v.fields →
        (ofJson (.object (toJsonFields fs))).toJson = .object (toJsonFields fs) := by
      rintro fs rfl
      rw [toJson_ofJson_object, toJsonFields_eq, Entries.mapValues, Entries.mapValues, List.map_map]
      refine congrArg Json.object (List.map_congr_left fun f hf => Prod.ext rfl ?_)
      exact ih _ (field_part (List.mem_filter.mp hf).1)
    cases v with
    | array es =>
      rw [toJson, toJson_ofJson_array, toJsonElements_eq, List.map_map]
      exact congrArg Json.array (List.map_congr_left fun e he => ih e (element_part he))
    | object fs => exact fields fs rfl
    | inst c fs => exact fields fs rfl
    | number n => exact ofNumber_again n
    | _ => rfl

/-! ## Values that JSON holds -/

/-- Null, a boolean, a finite number, a string, an array or a plain object. -/
def hasJson : Value → Bool
  | .null | .bool _ | .string _ | .array _ | .object _ => true
  | .number n => n.isFinite
  | _ => false

/-- Every value inside has a form in JSON, and the value itself. -/
def Renderable (v : Value) : Prop := ∀ n, Node n v → n.hasJson = true

instance (v : Value) : Decidable v.Renderable :=
  decidable_of_iff (allNodes hasJson v = true) allNodes_iff

theorem Renderable.part {v p : Value} (h : v.Renderable) (hp : p ∈ v.parts) : p.Renderable :=
  fun n hn => h n (.part hp hn)

/-- Equal values that hold their keys in the same order. -/
inductive OrderedEq : Value → Value → Prop
  | null : OrderedEq .null .null
  | bool (b : Bool) : OrderedEq (.bool b) (.bool b)
  | string (s : String) : OrderedEq (.string s) (.string s)
  | number {a b : Number} (h : a.eqv b = true) : OrderedEq (.number a) (.number b)
  | array {xs ys : List Value} (h : xs.Forall₂ OrderedEq ys) : OrderedEq (.array xs) (.array ys)
  | object {fs gs : Entries Value} (hk : Entries.keys fs = Entries.keys gs)
      (h : (fs.map Prod.snd).Forall₂ OrderedEq (gs.map Prod.snd)) : OrderedEq (.object fs) (.object gs)

theorem orderedEq_ofJson_toJson (v : Value) : v.Renderable → (ofJson v.toJson).OrderedEq v := by
  induction v using induction_parts with
  | h v ih =>
    intro h
    have parts : ∀ l : List Value, (∀ p ∈ l, p ∈ v.parts) → (l.map fun p => ofJson p.toJson).Forall₂ OrderedEq l :=
      fun l hl => List.forall₂_map_left_iff.mpr (List.forall₂_same.mpr fun p hp => ih p (hl p hp) (h.part (hl p hp)))
    cases v with
    | null => exact .null
    | bool b => exact .bool b
    | string s => exact .string s
    | number n =>
      obtain ⟨n', hn, heq⟩ := ofNumber_back (h _ .root)
      rw [toJson, hn]
      exact .number heq
    | array es =>
      rw [toJson, ofJson, toJsonElements_eq, ofJsonElements_eq, List.map_map]
      exact .array (parts es fun e he => element_part he)
    | object fs =>
      have hall : fs.filter (fun f => !f.2.isOpaque) = fs := by
        refine List.filter_eq_self.mpr fun f hf => ?_
        have hjson : f.2.hasJson = true := h f.2 (.part (field_part (v := .object fs) hf) .root)
        cases hv : f.2 <;> rw [hv] at hjson <;> first | rfl | cases hjson
      rw [toJson, ofJson, toJsonFields_eq, hall, ofJsonFields_eq, Entries.mapValues, List.map_map]
      refine .object ?_ ?_
      · rw [Entries.keys, List.map_map]
        rfl
      · have hparts := parts (fs.map Prod.snd) fun p hp => hp
        rw [List.map_map] at hparts ⊢
        exact hparts
    | _ => cases h _ .root

theorem OrderedEq.eqv (w : Value) : ∀ {v : Value}, v.OrderedEq w → w.Distinct → v.eqv w = true := by
  induction w using induction_parts with
  | h w ih =>
    intro v h hd
    cases h with
    | null => rfl
    | bool b => exact beq_self_eq_true b
    | string s => exact beq_self_eq_true s
    | number h => exact h
    | array h =>
      refine eqvElements_iff.mpr (forall₂_imp_of_mem h fun x _ y hy hxy => ?_)
      have hp : y ∈ (Value.array _).parts := element_part hy
      exact ih y hp hxy (hd.part hp)
    | object hk h =>
      have hfields := forall₂_entries hk h
      rw [Value.eqv, hfields.length_eq, beq_self_eq_true, Bool.true_and]
      refine eqvFields_iff.mpr fun f hf => ?_
      obtain ⟨g, hg, hkey, hval⟩ := forall₂_mem_left hfields hf
      have hp := field_part (v := .object _) hg
      exact ⟨g.2, hkey ▸ Entries.get?_of_mem hd.keys hg, ih g.2 hp hval (hd.part hp)⟩

end Value

/-! ## The retraction -/

/-- Rendering undoes reading on all that it renders. What has a form in JSON comes back equal and in
the same order, and a finite number stays the same whether it is written as an integer or not. -/
theorem json_retraction (v : Value) :
    (Value.ofJson v.toJson).toJson = v.toJson ∧
      (v.Renderable → (Value.ofJson v.toJson).OrderedEq v ∧ (v.Distinct → (Value.ofJson v.toJson).eqv v = true)) ∧
        ∀ n : Number, n.isFinite = true →
          ∃ n', Value.ofJson (.ofNumber n) = .number n' ∧ n'.eqv n = true ∧ n'.units = n.units := by
  refine ⟨Value.toJson_ofJson_toJson v, fun hv => ?_, fun n hn => ?_⟩
  · have horder := Value.orderedEq_ofJson_toJson v hv
    exact ⟨horder, horder.eqv v⟩
  · obtain ⟨n', hread, heqv⟩ := Value.ofNumber_back hn
    exact ⟨n', hread, heqv, Number.units_of_eqv heqv⟩

/-- The least signed integer of 64 bits, the number after the greatest one and a negative zero. -/
def extremes : Value := .object [("top", .number (.ofInt (2 ^ 63))), ("bottom", .number (.ofInt (-2 ^ 63))),
  ("rows", .array [.object [("zero", .number (.ofWord (2 ^ 63))), ("name", .null)], .string "a"])]

theorem json_retraction_extremes : (Value.ofJson extremes.toJson).OrderedEq extremes ∧
    (Value.ofJson extremes.toJson).eqv extremes = true ∧
    ∃ n', Value.ofJson (.ofNumber (.ofInt (2 ^ 63))) = .number n' ∧ n'.eqv (.ofInt (2 ^ 63)) = true := by
  obtain ⟨-, hback, hnumbers⟩ := json_retraction extremes
  obtain ⟨horder, heqv⟩ := hback (by decide +kernel)
  obtain ⟨n', hread, hn, -⟩ := hnumbers (.ofInt (2 ^ 63)) (by decide +kernel)
  exact ⟨horder, heqv (by decide), n', hread, hn⟩

end Conformance
