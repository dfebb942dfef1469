import Conformance.Compile
import Conformance.Proofs.Distinct
import Mathlib.Logic.Equiv.Defs

/-!
# Renaming shapes

The places of shapes in a registry come from the order of their declaration. A permutation of the
ids is applied wherever data mentions a shape: in classes, so in instances and defaults, and in the
descriptors that name shapes. A predicate is asked for the value under its former names.
-/

namespace Conformance

abbrev Renaming := Equiv.Perm ShapeId

/-! ## Values under keys -/

namespace Entries
variable {α β γ : Type}

theorem mapValues_congr {f g : α → β} {es : Entries α} (h : ∀ e ∈ es, f e.2 = g e.2) :
    mapValues f es = mapValues g es :=
  List.map_congr_left fun e he => by rw [h e he]

theorem mapValues_id (es : Entries α) : mapValues (fun a => a) es = es := List.map_id' es

theorem mapValues_mapValues (f : α → β) (g : β → γ) (es : Entries α) :
    mapValues g (mapValues f es) = mapValues (fun a => g (f a)) es := by
  rw [mapValues, mapValues, List.map_map]
  rfl

end Entries

variable (ρ σ : Renaming)

/-! ## Classes -/

def ClassId.rename : ClassId → ClassId
  | .shape id => .shape (ρ id)
  | .free serial => .free serial

namespace Class

def rename : Class → Class
  | .base id name => .base (id.rename ρ) name
  | .sub id name parent => .sub (id.rename ρ) name (parent.rename)

@[simp] theorem rename_id (c : Class) : (c.rename ρ).id = c.id.rename ρ := by cases c <;> rfl

theorem rename_refl : ∀ c : Class, c.rename (.refl _) = c
  | .base id name => by cases id <;> rfl
  | .sub id name parent => by rw [rename, rename_refl parent]; cases id <;> rfl

theorem rename_rename : ∀ c : Class, (c.rename ρ).rename σ = c.rename (ρ.trans σ)
  | .base id name => by cases id <;> rfl
  | .sub id name parent => by rw [rename, rename, rename, rename_rename parent]; cases id <;> rfl

theorem rename_id_inj {i j : ClassId} : i.rename ρ = j.rename ρ ↔ i = j := by
  cases i <;> cases j <;> simp [ClassId.rename]

theorem rename_same (c d : Class) : (c.rename ρ).same (d.rename ρ) = c.same d := by
  simp [same, rename_id_inj]

theorem rename_isA (d : Class) : ∀ c : Class, (c.rename ρ).isA (d.rename ρ) = c.isA d
  | .base id name => by simp [rename, isA, rename_id_inj]
  | .sub id name parent => by simp [rename, isA, rename_id_inj, rename_isA d parent]

end Class

/-! ## Values -/

namespace Value

mutual

def rename : Value → Value
  | .array es => .array (renameElements es)
  | .object fs => .object (renameFields fs)
  | .inst c fs => .inst (c.rename ρ) (renameFields fs)
  | v => v

def renameElements : List Value → List Value
  | [] => []
  | v :: vs => v.rename :: renameElements vs

def renameFields : List (String × Value) → List (String × Value)
  | [] => []
  | (k, v) :: fs => (k, v.rename) :: renameFields fs

end

theorem renameElements_eq : ∀ es, renameElements ρ es = es.map (rename ρ)
  | [] => rfl
  | v :: vs => by rw [renameElements, renameElements_eq vs]; rfl

theorem renameFields_eq : ∀ fs, renameFields ρ fs = Entries.mapValues (rename ρ) fs
  | [] => rfl
  | (k, v) :: fs => by rw [renameFields, renameFields_eq fs]; rfl

@[simp] theorem rename_array (es : List Value) : (Value.array es).rename ρ = .array (es.map (rename ρ)) := by
  rw [rename, renameElements_eq]

@[simp] theorem rename_object (fs : Entries Value) :
    (Value.object fs).rename ρ = .object (Entries.mapValues (rename ρ) fs) := by
  rw [rename, renameFields_eq]

@[simp] theorem rename_inst (c : Class) (fs : Entries Value) :
    (Value.inst c fs).rename ρ = .inst (c.rename ρ) (Entries.mapValues (rename ρ) fs) := by
  rw [rename, renameFields_eq]

/-! What shows of a value whatever its names. -/

@[simp] theorem rename_kind (v : Value) : (v.rename ρ).kind = v.kind := by cases v <;> rfl

@[simp] theorem rename_isNull (v : Value) : (v.rename ρ).isNull = v.isNull := by cases v <;> rfl

@[simp] theorem rename_isArray (v : Value) : (v.rename ρ).isArray = v.isArray := by cases v <;> rfl

@[simp] theorem rename_fields? (v : Value) : (v.rename ρ).fields?.isSome = v.fields?.isSome := by cases v <;> rfl

@[simp] theorem rename_class? (v : Value) : (v.rename ρ).class? = v.class?.map (Class.rename ρ) := by cases v <;> rfl

@[simp] theorem rename_elements (v : Value) : (v.rename ρ).elements = v.elements.map (rename ρ) := by
  cases v with
  | array es => rw [rename_array]; rfl
  | _ => rfl

@[simp] theorem rename_fields (v : Value) : (v.rename ρ).fields = Entries.mapValues (rename ρ) v.fields := by
  cases v with
  | object fs => rw [rename_object]; rfl
  | inst c fs => rw [rename_inst]; rfl
  | _ => rfl

theorem rename_carries (c : Class) (v : Value) : (v.rename ρ).carries (c.rename ρ) = v.carries c := by
  rw [carries, carries, rename_class?]
  cases v.class? with
  | none => rfl
  | some d => exact Class.rename_same ρ c d

theorem rename_isInstanceOf (c : Class) (v : Value) : (v.rename ρ).isInstanceOf (c.rename ρ) = v.isInstanceOf c := by
  rw [isInstanceOf, isInstanceOf, rename_class?]
  cases v.class? with
  | none => rfl
  | some d => exact Class.rename_isA ρ c d

/-! Values that do not change, and renaming in turn. -/

theorem rename_fixed (v : Value) : (∀ n, Node n v → ∀ c, n.class? = some c → c.rename ρ = c) → v.rename ρ = v := by
  induction v using induction_parts with
  | h v ih =>
    intro h
    have hp : ∀ p ∈ v.parts, p.rename ρ = p := fun p hp => ih p hp fun n hn => h n (.part hp hn)
    have hfields : ∀ fs : Entries Value, (∀ f ∈ fs, f.2 ∈ v.parts) → Entries.mapValues (rename ρ) fs = fs :=
      fun fs hfs => (Entries.mapValues_congr fun f hf => hp f.2 (hfs f hf)).trans (Entries.mapValues_id fs)
    cases v with
    | array es =>
      have hes : ∀ e ∈ es, e.rename ρ = e := fun e he => hp e (element_part he)
      rw [rename_array, List.map_congr_left hes, List.map_id']
    | object fs => rw [rename_object, hfields fs fun f hf => field_part hf]
    | inst c fs => rw [rename_inst, hfields fs fun f hf => field_part hf, h _ .root c rfl]
    | _ => rfl

theorem rename_of_plain {v : Value} (h : v.Plain) : v.rename ρ = v :=
  rename_fixed ρ v fun n hn c hc => by rw [h n hn] at hc; cases hc

theorem rename_refl (v : Value) : v.rename (.refl _) = v :=
  rename_fixed _ v fun _ _ c _ => c.rename_refl

theorem rename_rename (v : Value) : (v.rename ρ).rename σ = v.rename (ρ.trans σ) := by
  induction v using induction_parts with
  | h v ih =>
    have hfields : ∀ fs : Entries Value, (∀ f ∈ fs, f.2 ∈ v.parts) →
        Entries.mapValues (rename σ) (Entries.mapValues (rename ρ) fs) = Entries.mapValues (rename (ρ.trans σ)) fs :=
      fun fs hfs => (Entries.mapValues_mapValues ..).trans (Entries.mapValues_congr fun f hf => ih f.2 (hfs f hf))
    cases v with
    | array es =>
      have hes : ∀ e ∈ es, (e.rename ρ).rename σ = e.rename (ρ.trans σ) := fun e he => ih e (element_part he)
      simpa using hes
    | object fs => rw [rename_object, rename_object, rename_object, hfields fs fun f hf => field_part hf]
    | inst c fs =>
      rw [rename_inst, rename_inst, rename_inst, hfields fs fun f hf => field_part hf, Class.rename_rename]
    | _ => rfl

theorem rename_symm (v : Value) : (v.rename ρ).rename ρ.symm = v := by
  rw [rename_rename, Equiv.self_trans_symm, rename_refl]

end Value

/-! ## Options and traits -/

def Default.rename : Default → Default
  | .constant v => .constant (v.rename ρ)
  | .generated outcome => .generated (outcome.map (Value.rename ρ))

def Validator.rename : Validator → Validator
  | .predicate holds => .predicate fun v => holds (v.rename ρ.symm)
  | .pattern r => .pattern r

def Options.rename (o : Options) : Options :=
  { o with default := o.default.map (Default.rename ρ), validator := o.validator.map (Validator.rename ρ) }

namespace Traits

def rename (t : Traits) : Traits :=
  { t with default := t.default.map (Default.rename ρ), validator := t.validator.map (Validator.rename ρ) }

@[simp] theorem rename_allowNull (t : Traits) : (t.rename ρ).allowNull = t.allowNull := rfl

@[simp] theorem rename_matchOnce (t : Traits) : (t.rename ρ).matchOnce = t.matchOnce := rfl

@[simp] theorem rename_default? (t : Traits) : (t.rename ρ).default? = t.default?.map (Value.rename ρ) := by
  obtain ⟨_, _, _, d, _⟩ := t
  cases d with
  | none => rfl
  | some d => cases d <;> rfl

@[simp] theorem rename_toleratesAbsence (t : Traits) : (t.rename ρ).toleratesAbsence = t.toleratesAbsence := by
  simp [toleratesAbsence, rename]

@[simp] theorem rename_isValid (t : Traits) (v : Value) : (t.rename ρ).isValid (v.rename ρ) = t.isValid v := by
  obtain ⟨_, _, _, _, w⟩ := t
  cases w with
  | none => rfl
  | some w =>
    cases w with
    | predicate holds => simp [isValid, rename, Validator.rename, Validator.accepts, Value.rename_symm]
    | pattern p => cases v <;> rfl

theorem rename_refl (t : Traits) : t.rename (.refl _) = t := by
  obtain ⟨_, _, _, d, w⟩ := t
  have hd : d.map (Default.rename (.refl _)) = d := by
    rcases d with _ | (v | o)
    · rfl
    · simp [Default.rename, Value.rename_refl]
    · cases o <;> simp [Default.rename, Value.rename_refl]
  have hw : w.map (Validator.rename (.refl _)) = w := by
    rcases w with _ | (holds | p) <;> simp [Validator.rename, Value.rename_refl]
  simp only [rename, hd, hw]

end Traits

@[simp] theorem Options.rename_traits (o : Options) : (o.rename ρ).traits = o.traits.rename ρ := rfl

@[simp] theorem Options.rename_default : Options.rename ρ {} = {} := rfl

/-! ## Descriptors -/

namespace Descriptor

mutual

def rename : Descriptor → Descriptor
  | .primitive p t => .primitive p (t.rename ρ)
  | .openArray t => .openArray (t.rename ρ)
  | .arrayOf items t => .arrayOf items.rename (t.rename ρ)
  | .openObject t => .openObject (t.rename ρ)
  | .keyed schema t => .keyed (renameSchema schema) (t.rename ρ)
  | .cls c t => .cls (c.rename ρ) (t.rename ρ)
  | .model id t => .model (ρ id) (t.rename ρ)
  | .mix choices s t => .mix (renameChoices choices) s (t.rename ρ)

def renameSchema : List (KeyMatcher × Descriptor) → List (KeyMatcher × Descriptor)
  | [] => []
  | (m, d) :: rest => (m, d.rename) :: renameSchema rest

def renameChoices : List Descriptor → List Descriptor
  | [] => []
  | d :: rest => d.rename :: renameChoices rest

end

theorem renameSchema_eq : ∀ s, renameSchema ρ s = s.map fun e => (e.1, e.2.rename ρ)
  | [] => rfl
  | (m, d) :: rest => by rw [renameSchema, renameSchema_eq rest]; rfl

theorem renameChoices_eq : ∀ ds, renameChoices ρ ds = ds.map (rename ρ)
  | [] => rfl
  | d :: rest => by rw [renameChoices, renameChoices_eq rest]; rfl

theorem rename_keyed (schema : Schema) (t : Traits) : (Descriptor.keyed schema t).rename ρ =
    .keyed (schema.map fun e => (e.1, e.2.rename ρ)) (t.rename ρ) := by
  rw [rename, renameSchema_eq]

theorem rename_mix (choices : List Descriptor) (s : Strategy) (t : Traits) :
    (Descriptor.mix choices s t).rename ρ = .mix (choices.map (rename ρ)) s (t.rename ρ) := by
  rw [rename, renameChoices_eq]

@[simp] theorem rename_traits (d : Descriptor) : (d.rename ρ).traits = d.traits.rename ρ := by cases d <;> rfl

@[simp] theorem rename_kind (d : Descriptor) : (d.rename ρ).kind = d.kind := by cases d <;> rfl

theorem rename_parts (d : Descriptor) : (d.rename ρ).parts = d.parts.map (rename ρ) := by
  cases d with
  | arrayOf items t => rfl
  | keyed schema t => rw [rename_keyed, parts, parts, List.map_map, List.map_map]; rfl
  | mix choices s t => rw [rename_mix]; rfl
  | _ => rfl

theorem rename_refl (d : Descriptor) : d.rename (.refl _) = d := by
  induction d using induction_parts with
  | h d ih =>
    cases d with
    | arrayOf items t => rw [rename, ih items (List.mem_singleton_self _), t.rename_refl]
    | keyed schema t =>
      rw [rename_keyed, t.rename_refl, List.map_congr_left fun e he => by
        rw [ih e.2 (List.mem_map_of_mem he)], List.map_id']
    | mix choices s t =>
      have hc : ∀ c ∈ choices, c.rename (.refl _) = c := ih
      rw [rename_mix, t.rename_refl, List.map_congr_left hc, List.map_id']
    | cls c t => rw [rename, t.rename_refl, c.rename_refl]
    | primitive p t => rw [rename, t.rename_refl]
    | model id t => rw [rename, t.rename_refl]; rfl
    | openArray t => rw [rename, t.rename_refl]
    | openObject t => rw [rename, t.rename_refl]

end Descriptor

/-! ## Sources -/

namespace Source

mutual

def rename : Source → Source
  | .token name => .token name
  | .cls c => .cls (c.rename ρ)
  | .openArray => .openArray
  | .arrayOf item => .arrayOf item.rename
  | .keyed entries => .keyed (renameEntries entries)
  | .mix alternatives => .mix (renameAll alternatives)
  | .described d => .described (d.rename ρ)

def renameEntries : List (String × Source) → List (String × Source)
  | [] => []
  | (k, s) :: rest => (k, s.rename) :: renameEntries rest

def renameAll : List Source → List Source
  | [] => []
  | s :: rest => s.rename :: renameAll rest

end

mutual

theorem rename_refl : ∀ s : Source, s.rename (.refl _) = s
  | .token _ | .openArray => rfl
  | .cls c => by rw [rename, c.rename_refl]
  | .arrayOf item => by rw [rename, rename_refl item]
  | .keyed entries => by rw [rename, renameEntries_refl entries]
  | .mix alternatives => by rw [rename, renameAll_refl alternatives]
  | .described d => by rw [rename, d.rename_refl]

theorem renameEntries_refl : ∀ es, renameEntries (.refl _) es = es
  | [] => rfl
  | (k, s) :: rest => by rw [renameEntries, rename_refl s, renameEntries_refl rest]

theorem renameAll_refl : ∀ ss, renameAll (.refl _) ss = ss
  | [] => rfl
  | s :: rest => by rw [renameAll, rename_refl s, renameAll_refl rest]

end

end Source

end Conformance
