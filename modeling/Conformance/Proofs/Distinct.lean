import Conformance.Declaration.Document
import Conformance.Proofs.Entries
import Conformance.Proofs.Trees
import Conformance.Value.Json

/-!
# Unique keys

Objects and instances hold each key once. The predicate stands beside the trees; what the reader
of JSON gives has it, and so have the values made from JSON, which hold no instance either.
-/

namespace Conformance

/-! ## Values -/

namespace Value

/-- The value `n` stands somewhere in `v`, or is `v` itself. -/
inductive Node (n : Value) : Value → Prop
  | root : Node n n
  | part {p v : Value} (hp : p ∈ v.parts) (hn : Node n p) : Node n v

/-- Every object and every instance in the value holds each key once. -/
def Distinct (v : Value) : Prop := ∀ n, Node n v → (Entries.keys n.fields).Nodup

/-- No instance stands in the value. -/
def Plain (v : Value) : Prop := ∀ n, Node n v → n.class? = none

theorem Distinct.keys {v : Value} (h : v.Distinct) : (Entries.keys v.fields).Nodup := h v .root

theorem Distinct.part {v p : Value} (h : v.Distinct) (hp : p ∈ v.parts) : p.Distinct :=
  fun n hn => h n (.part hp hn)

theorem Plain.part {v p : Value} (h : v.Plain) (hp : p ∈ v.parts) : p.Plain :=
  fun n hn => h n (.part hp hn)

theorem Plain.root {v : Value} (h : v.Plain) : v.class? = none := h v .root

theorem distinct_of_parts {v : Value} (hk : (Entries.keys v.fields).Nodup)
    (hp : ∀ p ∈ v.parts, p.Distinct) : v.Distinct := by
  intro n hn
  cases hn with
  | root => exact hk
  | part h hn => exact hp _ h n hn

theorem plain_of_parts {v : Value} (hc : v.class? = none) (hp : ∀ p ∈ v.parts, p.Plain) : v.Plain := by
  intro n hn
  cases hn with
  | root => exact hc
  | part h hn => exact hp _ h n hn

mutual

def allNodes (p : Value → Bool) : Value → Bool
  | .array es => p (.array es) && allElements p es
  | .object fs => p (.object fs) && allFields p fs
  | .inst c fs => p (.inst c fs) && allFields p fs
  | v => p v

def allElements (p : Value → Bool) : List Value → Bool
  | [] => true
  | v :: vs => allNodes p v && allElements p vs

def allFields (p : Value → Bool) : List (String × Value) → Bool
  | [] => true
  | (_, v) :: fs => allNodes p v && allFields p fs

end

theorem allElements_eq (p : Value → Bool) : ∀ es, allElements p es = es.all (allNodes p)
  | [] => rfl
  | v :: vs => by rw [allElements, allElements_eq p vs]; rfl

theorem allFields_eq (p : Value → Bool) : ∀ fs, allFields p fs = (fs.map Prod.snd).all (allNodes p)
  | [] => rfl
  | (k, v) :: fs => by rw [allFields, allFields_eq p fs]; rfl

theorem allNodes_eq (p : Value → Bool) (v : Value) : allNodes p v = (p v && v.parts.all (allNodes p)) := by
  cases v <;>
    simp [allNodes, allElements_eq, allFields_eq, parts, elements, fields, List.all_map, Function.comp_def]

theorem allNodes_iff {p : Value → Bool} {v : Value} : allNodes p v = true ↔ ∀ n, Node n v → p n = true := by
  induction v using induction_parts with
  | h v ih =>
    rw [allNodes_eq, Bool.and_eq_true, List.all_eq_true]
    constructor
    · rintro ⟨hv, hp⟩ n hn
      cases hn with
      | root => exact hv
      | part h hn => exact (ih _ h).mp (hp _ h) n hn
    · intro h
      exact ⟨h v .root, fun q hq => (ih q hq).mpr fun n hn => h n (.part hq hn)⟩

instance (v : Value) : Decidable v.Distinct :=
  decidable_of_iff (allNodes (fun n => decide (Entries.keys n.fields).Nodup) v = true) <| by
    simp only [allNodes_iff, decide_eq_true_eq]; rfl

instance (v : Value) : Decidable v.Plain :=
  decidable_of_iff (allNodes (fun n => n.class?.isNone) v = true) <| by
    simp only [allNodes_iff, Option.isNone_iff_eq_none]; rfl

end Value

/-! ## JSON -/

namespace Json

inductive Distinct : Json → Prop
  | null : Distinct .null
  | bool (b : Bool) : Distinct (.bool b)
  | int (n : Int) : Distinct (.int n)
  | float (n : Number) : Distinct (.float n)
  | string (s : String) : Distinct (.string s)
  | array {es : List Json} (h : ∀ e ∈ es, Distinct e) : Distinct (.array es)
  | object {fs : List (String × Json)} (hk : (Entries.keys fs).Nodup) (h : ∀ f ∈ fs, Distinct f.2) :
      Distinct (.object fs)

theorem distinct_empty : Distinct (.object []) := .object List.nodup_nil (by simp)

end Json

/-! ## Reading JSON -/

def Ensures {ε α : Type} (x : Except ε α) (P : α → Prop) : Prop := ∀ a, x = .ok a → P a

section
variable {ε α β : Type}

theorem ensures_ok {P : α → Prop} {a : α} (h : P a) : Ensures (.ok a : Except ε α) P :=
  fun b hb => by cases hb; exact h

theorem ensures_error {P : α → Prop} {e : ε} : Ensures (.error e : Except ε α) P :=
  fun _ hb => by cases hb

theorem ensures_bind {x : Except ε α} {f : α → Except ε β} {Q : α → Prop} {P : β → Prop}
    (hx : Ensures x Q) (hf : ∀ a, Q a → Ensures (f a) P) : Ensures (x >>= f) P := by
  cases x with
  | error e => exact ensures_error
  | ok a => exact hf a (hx a rfl)

theorem ensures_after {x : Except ε α} {f : α → Except ε β} {P : β → Prop}
    (hf : ∀ a, Ensures (f a) P) : Ensures (x >>= f) P :=
  ensures_bind (Q := fun _ => True) (fun _ _ => trivial) fun a _ => hf a

theorem ensures_map {x : Except ε α} {f : α → β} {P : β → Prop} (h : ∀ a, P (f a)) :
    Ensures (x.map f) P := by
  cases x with
  | error e => exact ensures_error
  | ok a => exact ensures_ok (h a)

end

namespace Json

theorem ensures_located {α : Type} {P : α → Prop} {p : Path} {x : Except Fault α} (h : Ensures x P) :
    Ensures (located p x) P := by
  cases x with
  | error f => exact ensures_error
  | ok a => exact ensures_ok (h a rfl)

theorem readNumber_distinct (cs : List Char) : Ensures (readNumber cs) fun a => a.1.Distinct := by
  unfold readNumber
  repeat
    first
    | exact ensures_error
    | exact ensures_ok (Distinct.int _)
    | exact ensures_ok (Distinct.float _)
    | refine ensures_after fun a => ?_
    | split
    | dsimp only

/-- What the readers of the parts of a document return with this much fuel has distinct keys. -/
structure Reads (fuel : Nat) : Prop where
  value : ∀ depth p cs, Ensures (readValue fuel depth p cs) fun a => a.1.Distinct
  elements : ∀ depth p done cs, (∀ e ∈ done, Distinct e) →
    Ensures (readElements fuel depth p done cs) fun a => a.1.Distinct
  fields : ∀ depth p done cs, Distinct (.object done) →
    Ensures (readFields fuel depth p done cs) fun a => Distinct (.object a.1)

section
variable {fuel : Nat} (ih : Reads fuel) (depth : Nat) (p : Path) (cs : List Char)
include ih

theorem readValue_distinct : Ensures (readValue (fuel + 1) depth p cs) fun a => a.1.Distinct := by
  unfold readValue
  split
  · exact ensures_error
  · exact ensures_located (ensures_map fun _ => .null)
  · exact ensures_located (ensures_map fun _ => .bool _)
  · exact ensures_located (ensures_map fun _ => .bool _)
  · exact ensures_located (ensures_map fun _ => .string _)
  · split
    · exact ensures_error
    · exact ih.elements _ _ _ _ (by simp)
  · split
    · exact ensures_error
    · exact ensures_bind (ih.fields _ _ _ _ distinct_empty) fun a ha => ensures_ok ha
  · split
    · exact ensures_located (readNumber_distinct _)
    · exact ensures_error

theorem readElements_distinct {done : List Json} (hd : ∀ e ∈ done, Distinct e) :
    Ensures (readElements (fuel + 1) depth p done cs) fun a => a.1.Distinct := by
  have rest : ∀ a : Json × List Char, a.1.Distinct →
      Ensures (readElements fuel depth p (a.1 :: done) a.2) fun b => b.1.Distinct :=
    fun a ha => ih.elements _ _ _ _ (List.forall_mem_cons.mpr ⟨ha, hd⟩)
  unfold readElements
  dsimp only
  split
  · exact ensures_ok (.array fun e he => hd e (List.mem_reverse.mp he))
  · exact ensures_error
  · split
    · exact ensures_error
    · exact ensures_error
    · exact ensures_bind (ih.value _ _ _) rest
  · exact ensures_bind (ih.value _ _ _) rest
  · exact ensures_error

theorem readFields_distinct {done : Entries Json} (hd : Distinct (.object done)) :
    Ensures (readFields (fuel + 1) depth p done cs) fun a => Distinct (.object a.1) := by
  have rest : ∀ key, ∀ a : Json × List Char, a.1.Distinct →
      Ensures (readFields fuel depth p (Entries.insert done key a.1) a.2) fun b => Distinct (.object b.1) := by
    intro key a ha
    cases hd with
    | object hk h =>
      refine ih.fields _ _ _ _ (.object (Entries.nodup_insert hk _ _) fun f hf => ?_)
      rcases Entries.mem_insert hf with rfl | hf
      · exact ha
      · exact h f hf
  unfold readFields
  dsimp only
  split
  · exact ensures_ok hd
  · split
    · refine ensures_after fun a => ?_
      split
      · exact ensures_bind (ih.value _ _ _) (rest _)
      · exact ensures_error
    · exact ensures_error
  · refine ensures_after fun a => ?_
    split
    · exact ensures_bind (ih.value _ _ _) (rest _)
    · exact ensures_error
  · exact ensures_error

end

theorem reads (fuel : Nat) : Reads fuel := by
  induction fuel with
  | zero => exact ⟨fun _ _ _ => ensures_error, fun _ _ _ _ _ => ensures_error, fun _ _ _ _ _ => ensures_error⟩
  | succ fuel ih =>
    exact ⟨readValue_distinct ih, fun depth p _ cs => readElements_distinct ih depth p cs,
      fun depth p _ cs => readFields_distinct ih depth p cs⟩

end Json

namespace Document

open Json

theorem readModels_distinct (p : Path) (cs : List Char) :
    Ensures (readModels p cs) fun a => Json.Distinct (.object a.1) := by
  unfold readModels
  split
  · exact ensures_error
  · rename_i cs _
    split
    · rename_i a ha
      exact ensures_ok ((Json.reads _).fields _ _ _ _ distinct_empty a ha)
    · exact ensures_error
  · exact ensures_after fun _ => ensures_error

theorem readRoot_distinct (fuel : Nat) : ∀ first models cs,
    (∀ fs, models = some fs → Json.Distinct (.object fs)) →
    Ensures (readRoot fuel first models cs) fun fs => Json.Distinct (.object fs) := by
  induction fuel with
  | zero => exact fun _ _ _ _ => ensures_error
  | succ fuel ih =>
    intro first models cs hm
    have rest : ∀ a : Entries Json × List Char, Json.Distinct (.object a.1) →
        Ensures (readRoot fuel false (some a.1) a.2) fun fs => Json.Distinct (.object fs) :=
      fun a ha => ih _ _ _ fun fs hfs => by cases hfs; exact ha
    -- each branch fails, ends, or reads the models and goes on
    unfold readRoot
    repeat
      first
      | exact ensures_error
      | exact ensures_ok (hm _ rfl)
      | exact ensures_bind (readModels_distinct _ _) rest
      | refine ensures_after fun a => ?_
      | split
      | dsimp only

theorem read_distinct (cs : List Char) : Ensures (read cs) fun fs => Json.Distinct (.object fs) := by
  unfold read
  split
  · exact ensures_error
  · exact readRoot_distinct _ _ _ _ (fun _ h => by cases h)
  · split
    · exact ensures_error
    · exact ensures_error
    · refine ensures_bind (readModels_distinct _ _) fun a ha => ?_
      obtain ⟨models, cs⟩ := a
      dsimp only
      split
      · exact ensures_ok ha
      · exact ensures_error
  · exact ensures_after fun _ => ensures_error

end Document

/-! ## Values made from JSON -/

namespace Value

theorem ofJsonElements_eq : ∀ es, ofJsonElements es = es.map ofJson
  | [] => rfl
  | e :: es => by rw [ofJsonElements, ofJsonElements_eq es]; rfl

theorem ofJsonFields_eq : ∀ fs, ofJsonFields fs = fs.map fun f => (f.1, ofJson f.2)
  | [] => rfl
  | (k, v) :: fs => by rw [ofJsonFields, ofJsonFields_eq fs]; rfl

theorem keys_ofJsonFields (fs : Entries Json) : Entries.keys (ofJsonFields fs) = Entries.keys fs := by
  rw [ofJsonFields_eq, Entries.keys, List.map_map]; rfl

theorem ofJson_distinct {j : Json} (h : j.Distinct) : (ofJson j).Distinct ∧ (ofJson j).Plain := by
  have build : ∀ {v : Value}, v.class? = none → (Entries.keys v.fields).Nodup →
      (∀ p ∈ v.parts, p.Distinct ∧ p.Plain) → v.Distinct ∧ v.Plain := fun hc hk hp =>
    ⟨distinct_of_parts hk fun p h => (hp p h).1, plain_of_parts hc fun p h => (hp p h).2⟩
  induction h with
  | array _ ih =>
    rw [ofJson, ofJsonElements_eq]
    refine build rfl List.nodup_nil fun p hp => ?_
    rw [parts_array] at hp
    obtain ⟨e, he, rfl⟩ := List.mem_map.mp hp
    exact ih e he
  | object hk _ ih =>
    rw [ofJson]
    refine build rfl ((keys_ofJsonFields _).symm ▸ hk) fun p hp => ?_
    rw [parts_object, ofJsonFields_eq, List.map_map] at hp
    obtain ⟨f, hf, rfl⟩ := List.mem_map.mp hp
    exact ih f hf
  | _ =>
    rw [ofJson]
    exact build rfl List.nodup_nil fun p hp => nomatch hp

end Value

end Conformance
