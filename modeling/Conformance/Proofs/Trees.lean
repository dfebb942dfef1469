import Conformance.Descriptor
import Conformance.Proofs.Lists

/-!
# Values and descriptors as trees

A value and a descriptor are walked through their parts. The depth of a value and the height of
a descriptor fall from a node to its parts, so both have an induction over parts that does not
mention the lists they are kept in.
-/

namespace Conformance

/-! ## Parts of values -/

namespace Value

def elements : Value → List Value
  | .array es => es
  | _ => []

def fields : Value → Entries Value
  | .object fs | .inst _ fs => fs
  | _ => []

def parts (v : Value) : List Value := v.elements ++ v.fields.map Prod.snd

@[simp] theorem parts_array (es : List Value) : (Value.array es).parts = es := List.append_nil es

@[simp] theorem parts_object (fs : Entries Value) : (Value.object fs).parts = fs.map Prod.snd := rfl

@[simp] theorem parts_inst (c : Class) (fs : Entries Value) : (Value.inst c fs).parts = fs.map Prod.snd := rfl

mutual

def depth : Value → Nat
  | .array es => elementsDepth es + 1
  | .object fs | .inst _ fs => fieldsDepth fs + 1
  | _ => 1

def elementsDepth : List Value → Nat
  | [] => 0
  | v :: vs => max v.depth (elementsDepth vs)

def fieldsDepth : List (String × Value) → Nat
  | [] => 0
  | (_, v) :: fs => max v.depth (fieldsDepth fs)

end

theorem elementsDepth_eq : ∀ es, elementsDepth es = (es.map depth).foldr max 0
  | [] => rfl
  | v :: vs => by rw [elementsDepth, elementsDepth_eq vs]; rfl

theorem fieldsDepth_eq : ∀ fs, fieldsDepth fs = (fs.map fun f => f.2.depth).foldr max 0
  | [] => rfl
  | (k, v) :: fs => by rw [fieldsDepth, fieldsDepth_eq fs]; rfl

theorem depth_pos (v : Value) : 0 < v.depth := by
  cases v <;> simp [depth]

theorem depth_element {v e : Value} (h : e ∈ v.elements) : e.depth < v.depth := by
  cases v with
  | array es =>
    rw [depth, elementsDepth_eq]
    exact Nat.lt_succ_of_le (le_foldr_max (List.mem_map_of_mem h))
  | _ => cases h

theorem depth_field {v : Value} {f : String × Value} (h : f ∈ v.fields) : f.2.depth < v.depth := by
  have bound : ∀ fs : List (String × Value), f ∈ fs → f.2.depth < fieldsDepth fs + 1 := by
    intro fs hf
    rw [fieldsDepth_eq]
    exact Nat.lt_succ_of_le (le_foldr_max (List.mem_map_of_mem (f := fun f => f.2.depth) hf))
  cases v with
  | object fs => exact bound fs h
  | inst c fs => exact bound fs h
  | _ => cases h

theorem depth_part {v p : Value} (h : p ∈ v.parts) : p.depth < v.depth := by
  rcases List.mem_append.mp h with h | h
  · exact depth_element h
  · obtain ⟨f, hf, rfl⟩ := List.mem_map.mp h
    exact depth_field hf

theorem induction_parts {P : Value → Prop} (h : ∀ v : Value, (∀ p ∈ v.parts, P p) → P v) (v : Value) :
    P v := by
  generalize hn : v.depth = n
  induction n using Nat.strongRecOn generalizing v with
  | ind n ih => exact h v fun p hp => ih p.depth (hn ▸ depth_part hp) p rfl

theorem element_part {v e : Value} (h : e ∈ v.elements) : e ∈ v.parts :=
  List.mem_append_left _ h

theorem field_part {v : Value} {f : String × Value} (h : f ∈ v.fields) : f.2 ∈ v.parts :=
  List.mem_append_right _ (List.mem_map_of_mem h)

end Value

/-! ## Parts of descriptors -/

namespace Descriptor

def parts : Descriptor → List Descriptor
  | .arrayOf items _ => [items]
  | .keyed schema _ => schema.map Prod.snd
  | .mix choices _ _ => choices
  | .primitive .. | .openArray _ | .openObject _ | .cls .. | .model .. => []

mutual

def height : Descriptor → Nat
  | .arrayOf items _ => items.height + 1
  | .keyed schema _ => schemaHeight schema + 1
  | .mix choices _ _ => choicesHeight choices + 1
  | .primitive .. | .openArray _ | .openObject _ | .cls .. | .model .. => 1

def schemaHeight : List (KeyMatcher × Descriptor) → Nat
  | [] => 0
  | (_, d) :: rest => max d.height (schemaHeight rest)

def choicesHeight : List Descriptor → Nat
  | [] => 0
  | d :: rest => max d.height (choicesHeight rest)

end

theorem schemaHeight_eq : ∀ s, schemaHeight s = (s.map fun e => e.2.height).foldr max 0
  | [] => rfl
  | (m, d) :: rest => by rw [schemaHeight, schemaHeight_eq rest]; rfl

theorem choicesHeight_eq : ∀ ds, choicesHeight ds = (ds.map height).foldr max 0
  | [] => rfl
  | d :: rest => by rw [choicesHeight, choicesHeight_eq rest]; rfl

theorem height_pos (d : Descriptor) : 0 < d.height := by
  cases d <;> simp [height]

theorem height_part {d c : Descriptor} (h : c ∈ d.parts) : c.height < d.height := by
  cases d with
  | arrayOf items t =>
    rw [List.mem_singleton.mp h, height]; exact Nat.lt_succ_self _
  | keyed schema t =>
    obtain ⟨e, he, rfl⟩ := List.mem_map.mp h
    rw [height, schemaHeight_eq]
    exact Nat.lt_succ_of_le (le_foldr_max (List.mem_map_of_mem (f := fun e => e.2.height) he))
  | mix choices s t =>
    rw [height, choicesHeight_eq]
    exact Nat.lt_succ_of_le (le_foldr_max (List.mem_map_of_mem h))
  | _ => cases h

theorem induction_parts {P : Descriptor → Prop} (h : ∀ d : Descriptor, (∀ c ∈ d.parts, P c) → P d)
    (d : Descriptor) : P d := by
  generalize hn : d.height = n
  induction n using Nat.strongRecOn generalizing d with
  | ind n ih => exact h d fun c hc => ih c.height (hn ▸ height_part hc) c rfl

/-! ## Forms of descriptors -/

/-- Descriptions of objects and arrays. -/
inductive Container : Descriptor → Prop
  | keyed (schema : Schema) (t : Traits) : Container (.keyed schema t)
  | openObject (t : Traits) : Container (.openObject t)
  | arrayOf (items : Descriptor) (t : Traits) : Container (.arrayOf items t)
  | openArray (t : Traits) : Container (.openArray t)

theorem container_of_kind {d : Descriptor} (h : d.kind = .object ∨ d.kind = .array) : d.Container := by
  cases d with
  | keyed schema t => exact .keyed schema t
  | openObject t => exact .openObject t
  | arrayOf items t => exact .arrayOf items t
  | openArray t => exact .openArray t
  | primitive p t => cases p <;> simp [kind, Primitive.kind] at h
  | _ => simp [kind] at h

theorem mix_of_kind {d : Descriptor} (h : d.kind = .mix) : ∃ choices s t, d = .mix choices s t := by
  cases d with
  | mix choices s t => exact ⟨choices, s, t, rfl⟩
  | primitive p t => cases p <;> simp [kind, Primitive.kind] at h
  | _ => simp [kind] at h

/-- Descriptors that say nothing of the parts of a value. -/
inductive Bare : Descriptor → Prop
  | primitive (p : Primitive) (t : Traits) : Bare (.primitive p t)
  | openObject (t : Traits) : Bare (.openObject t)
  | openArray (t : Traits) : Bare (.openArray t)
  | cls (c : Class) (t : Traits) : Bare (.cls c t)

/-! ## Nodes of descriptors -/

/-- The descriptor `n` stands somewhere in `d`, or is `d` itself. -/
inductive Node (n : Descriptor) : Descriptor → Prop
  | root : Node n n
  | part {c d : Descriptor} (hc : c ∈ d.parts) (hn : Node n c) : Node n d

theorem Node.trans {n c d : Descriptor} (hn : Node n c) (hc : Node c d) : Node n d := by
  induction hc with
  | root => exact hn
  | part h _ ih => exact .part h ih

theorem Node.snoc {n c d : Descriptor} (hn : Node n d) (hc : c ∈ n.parts) : Node c d :=
  .trans (.part hc .root) hn

mutual

def allNodes (p : Descriptor → Bool) : Descriptor → Bool
  | .arrayOf items t => p (.arrayOf items t) && allNodes p items
  | .keyed schema t => p (.keyed schema t) && allSchema p schema
  | .mix choices s t => p (.mix choices s t) && allChoices p choices
  | d => p d

def allSchema (p : Descriptor → Bool) : List (KeyMatcher × Descriptor) → Bool
  | [] => true
  | (_, d) :: rest => allNodes p d && allSchema p rest

def allChoices (p : Descriptor → Bool) : List Descriptor → Bool
  | [] => true
  | d :: rest => allNodes p d && allChoices p rest

end

theorem allSchema_eq (p : Descriptor → Bool) : ∀ s, allSchema p s = (s.map Prod.snd).all (allNodes p)
  | [] => rfl
  | (m, d) :: rest => by rw [allSchema, allSchema_eq p rest]; rfl

theorem allChoices_eq (p : Descriptor → Bool) : ∀ ds, allChoices p ds = ds.all (allNodes p)
  | [] => rfl
  | d :: rest => by rw [allChoices, allChoices_eq p rest]; rfl

theorem allNodes_eq (p : Descriptor → Bool) (d : Descriptor) : allNodes p d = (p d && d.parts.all (allNodes p)) := by
  cases d <;> simp [allNodes, allSchema_eq, allChoices_eq, parts]

theorem allNodes_iff {p : Descriptor → Bool} {d : Descriptor} : allNodes p d = true ↔ ∀ n, Node n d → p n = true := by
  induction d using induction_parts with
  | h d ih =>
    rw [allNodes_eq, Bool.and_eq_true, List.all_eq_true]
    constructor
    · rintro ⟨hd, hp⟩ n hn
      cases hn with
      | root => exact hd
      | part h hn => exact (ih _ h).mp (hp _ h) n hn
    · intro h
      exact ⟨h d .root, fun c hc => (ih c hc).mpr fun n hn => h n (.part hc hn)⟩

end Descriptor

end Conformance
