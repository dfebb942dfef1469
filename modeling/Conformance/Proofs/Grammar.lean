import Conformance.Proofs.Compiled
import Conformance.Declaration
import Conformance.Proofs.Entries

/-!
# The grammar of declarations

Which nodes a document may declare, told without the loader: what a node may be, which options
stand next to it, and which nodes describe a shape. The loader spreads this over its readers of
options, keys and names; each of them is shown to accept what the grammar says of its part.
-/

namespace Conformance

namespace Json

/-! ## Nodes -/

/-- A directive is an object with `$type` or `$mix`. -/
def IsDirective : Json → Prop
  | .object fields => "$type" ∈ Entries.keys fields ∨ "$mix" ∈ Entries.keys fields
  | _ => False

/-- The options of a directive are written as they should be. -/
structure Optioned [RegexEngine] (fields : Entries Json) : Prop where
  flags : ∀ key ∈ ["$required", "$allowNull", "$matchOnce"], ∀ j, Entries.get? fields key = some j → ∃ b, j = .bool b
  strategy : ∀ j, Entries.get? fields "$strategy" = some j → ∃ s : Strategy, j = .string s.name
  validator : ∀ j, Entries.get? fields "$validator" = some j →
    ∃ inner : String, j = .string ("/" ++ inner ++ "/") ∧ (Regex.compile? inner).isSome = true

/-- A key that is written as a pattern has a pattern inside that compiles. -/
def GoodKey [RegexEngine] (key : String) : Prop :=
  ∀ inner : String, '\n' ∉ inner.toList → key = "/^" ++ inner ++ "$/" →
    (Regex.compile? ("^" ++ inner ++ "$")).isSome = true

/-- The nodes that may be declared where `named` names shapes. -/
inductive Good [RegexEngine] (named : String → Prop) : Json → Prop
  | name {s : String} (h : named s) : Good named (.string s)
  | tag {k : Kind} (h : k ∉ [Kind.cls, Kind.model, Kind.mix]) : Good named (.string k.token)
  | anyArray : Good named (.array [])
  | arrayOf {item : Json} (h : Good named item) : Good named (.array [item])
  | keyed {fields : Entries Json} (hd : ¬ IsDirective (.object fields))
      (hk : ∀ f ∈ fields, f.1.toList.head? ≠ some '$' ∧ GoodKey f.1) (h : ∀ f ∈ fields, Good named f.2) :
      Good named (.object fields)
  /-- A validator stands next to a string or a number, or next to a directive, which keeps its own. -/
  | typed {fields : Entries Json} (hk : ∀ key ∈ Entries.keys fields, key ∈ directives) (ho : Optioned fields)
      {subject : Json} (ht : Entries.get? fields "$type" = some subject) (hm : "$mix" ∉ Entries.keys fields)
      (h : Good named subject)
      (hv : "$validator" ∈ Entries.keys fields →
        subject = .string "string" ∨ subject = .string "number" ∨ subject.IsDirective) :
      Good named (.object fields)
  | union {fields : Entries Json} (hk : ∀ key ∈ Entries.keys fields, key ∈ directives) (ho : Optioned fields)
      {alternatives : List Json} (ht : "$type" ∉ Entries.keys fields)
      (hm : Entries.get? fields "$mix" = some (.array alternatives)) (hne : alternatives ≠ [])
      (h : ∀ j ∈ alternatives, Good named j) (hv : "$validator" ∉ Entries.keys fields) : Good named (.object fields)

/-- The nodes that describe objects or arrays and refuse null. A directive around a directive
leaves it as it is. -/
inductive TopLevel : Json → Prop
  | objectTag : TopLevel (.string "object")
  | arrayTag : TopLevel (.string "array")
  | array (elements : List Json) : TopLevel (.array elements)
  | keyed {fields : Entries Json} (hd : ¬ IsDirective (.object fields)) : TopLevel (.object fields)
  | typed {fields : Entries Json} {subject : Json} (ht : Entries.get? fields "$type" = some subject)
      (hs : TopLevel subject) (hn : subject.IsDirective ∨ Entries.get? fields "$allowNull" ≠ some (.bool true)) :
      TopLevel (.object fields)

/-! ## Good nodes by their form -/

section
variable [RegexEngine] {named : String → Prop} {fields : Entries Json}

theorem good_string {s : String} : Good named (.string s) ↔
    named s ∨ ∃ k, k ∉ [Kind.cls, Kind.model, Kind.mix] ∧ s = k.token := by
  constructor
  · intro h
    generalize hj : Json.string s = j at h
    cases h with
    | name h => cases hj; exact .inl h
    | tag h => cases hj; exact .inr ⟨_, h, rfl⟩
    | _ => cases hj
  · rintro (h | ⟨k, hk, rfl⟩)
    · exact .name h
    · exact .tag hk

theorem good_arrayOf {item : Json} : Good named (.array [item]) ↔ Good named item := by
  constructor
  · intro h
    cases h with
    | arrayOf h => exact h
  · exact .arrayOf

theorem good_keyed (hd : ¬ IsDirective (.object fields)) : Good named (.object fields) ↔
    ∀ f ∈ fields, (f.1.toList.head? ≠ some '$' ∧ GoodKey f.1) ∧ Good named f.2 := by
  constructor
  · intro h f hf
    cases h with
    | keyed _ hk h => exact ⟨hk f hf, h f hf⟩
    | typed _ _ ht => exact absurd (.inl (Entries.mem_keys (Entries.mem_of_get? ht))) hd
    | union _ _ _ hm => exact absurd (.inr (Entries.mem_keys (Entries.mem_of_get? hm))) hd
  · intro h
    exact .keyed hd (fun f hf => (h f hf).1) fun f hf => (h f hf).2

theorem good_typed {subject : Json} (ht : Entries.get? fields "$type" = some subject)
    (hm : "$mix" ∉ Entries.keys fields) : Good named (.object fields) ↔
      (∀ key ∈ Entries.keys fields, key ∈ directives) ∧ Optioned fields ∧ Good named subject ∧
        ("$validator" ∈ Entries.keys fields →
          subject = .string "string" ∨ subject = .string "number" ∨ subject.IsDirective) := by
  have htype : "$type" ∈ Entries.keys fields := Entries.mem_keys (Entries.mem_of_get? ht)
  constructor
  · intro h
    cases h with
    | keyed hd => exact absurd (.inl htype) hd
    | typed hk ho ht' _ h hv =>
      cases ht.symm.trans ht'
      exact ⟨hk, ho, h, hv⟩
    | union _ _ ht' => exact absurd htype ht'
  · rintro ⟨hk, ho, h, hv⟩
    exact .typed hk ho ht hm h hv

theorem good_union {alternatives : List Json} (ht : "$type" ∉ Entries.keys fields)
    (hm : Entries.get? fields "$mix" = some (.array alternatives)) : Good named (.object fields) ↔
      (∀ key ∈ Entries.keys fields, key ∈ directives) ∧ Optioned fields ∧ alternatives ≠ [] ∧
        (∀ j ∈ alternatives, Good named j) ∧ "$validator" ∉ Entries.keys fields := by
  have hmix : "$mix" ∈ Entries.keys fields := Entries.mem_keys (Entries.mem_of_get? hm)
  constructor
  · intro h
    cases h with
    | keyed hd => exact absurd (.inr hmix) hd
    | typed _ _ _ hm' => exact absurd hmix hm'
    | union hk ho _ hm' hne h hv =>
      cases hm.symm.trans hm'
      exact ⟨hk, ho, hne, h, hv⟩
  · rintro ⟨hk, ho, hne, h, hv⟩
    exact .union hk ho ht hm hne h hv

end

/-! ## Top-level nodes by their form -/

variable {fields : Entries Json}

theorem topLevel_plain {j : Json} (hj : ¬ j.IsDirective) : j.TopLevel ↔
    j = .string "object" ∨ j = .string "array" ∨ (∃ es, j = .array es) ∨ ∃ fields, j = .object fields := by
  constructor
  · intro h
    cases h with
    | objectTag => exact .inl rfl
    | arrayTag => exact .inr (.inl rfl)
    | array es => exact .inr (.inr (.inl ⟨es, rfl⟩))
    | keyed => exact .inr (.inr (.inr ⟨_, rfl⟩))
    | typed ht => exact absurd (.inl (Entries.mem_keys (Entries.mem_of_get? ht))) hj
  · rintro (rfl | rfl | ⟨es, rfl⟩ | ⟨fields, rfl⟩)
    · exact .objectTag
    · exact .arrayTag
    · exact .array es
    · exact .keyed hj

theorem topLevel_typed {subject : Json} (ht : Entries.get? fields "$type" = some subject) :
    TopLevel (.object fields) ↔
      subject.TopLevel ∧ (subject.IsDirective ∨ Entries.get? fields "$allowNull" ≠ some (.bool true)) := by
  constructor
  · intro h
    cases h with
    | keyed hd => exact absurd (.inl (Entries.mem_keys (Entries.mem_of_get? ht))) hd
    | typed ht' hs hn =>
      cases ht.symm.trans ht'
      exact ⟨hs, hn⟩
  · rintro ⟨hs, hn⟩
    exact .typed ht hs hn

theorem not_topLevel_union (ht : "$type" ∉ Entries.keys fields) (hm : "$mix" ∈ Entries.keys fields) :
    ¬ TopLevel (.object fields) := by
  intro h
  cases h with
  | keyed hd => exact hd (.inr hm)
  | typed ht' => exact ht (Entries.mem_keys (Entries.mem_of_get? ht'))

end Json

/-! ## Keys -/

theorem isDirective_iff {fields : Entries Json} : isDirective fields = true ↔ Json.IsDirective (.object fields) := by
  unfold isDirective
  rw [Bool.or_eq_true, Entries.get?_isSome, Entries.get?_isSome]
  rfl

theorem compileKey_isOk [RegexEngine] {key : String} : (∃ m, compileKey key = .ok m) ↔ Json.GoodKey key := by
  unfold compileKey
  cases hp : patternKey? key with
  | none =>
    refine ⟨fun _ inner hfeed hkey => ?_, fun _ => ⟨_, rfl⟩⟩
    rw [patternKey?_iff.mpr ⟨inner, hfeed, hkey, rfl⟩] at hp
    cases hp
  | some x =>
    obtain ⟨s, hfeed, hkey, rfl⟩ := patternKey?_iff.mp hp
    constructor
    · rintro ⟨m, h⟩ inner hfeed' hkey'
      rw [patternKey?_iff.mpr ⟨inner, hfeed', hkey', rfl⟩] at hp
      rw [Option.some_inj.mp hp]
      cases hr : Regex.compile? ("^" ++ s ++ "$") with
      | none => simp [hr] at h
      | some r => rfl
    · intro h
      obtain ⟨r, hr⟩ := Option.isSome_iff_exists.mp (h s hfeed hkey)
      exact ⟨.pattern r, by simp [hr]⟩

instance [RegexEngine] (key : String) : Decidable (Json.GoodKey key) :=
  decidable_of_iff ((compileKey key).toOption.isSome = true) <| by
    rw [← compileKey_isOk]
    cases compileKey key <;> simp [Except.toOption]

/-! ## Options -/

theorem flag_ok {fields : Entries Json} {key : String} {p : Path} {b : Option Bool} :
    flag fields key p = .ok b ↔ Entries.get? fields key = b.map Json.bool := by
  unfold flag
  cases hg : Entries.get? fields key with
  | none => cases b <;> simp
  | some j => cases j <;> cases b <;> simp [invalid]

theorem Strategy.ofName?_iff {name : String} {s : Strategy} : Strategy.ofName? name = some s ↔ s.name = name := by
  constructor
  · intro h
    simpa using List.find?_some h
  · rintro rfl
    cases s <;> decide

theorem Strategy.name_inj {s s' : Strategy} : s.name = s'.name ↔ s = s' := by
  constructor
  · intro h
    exact Option.some_inj.mp ((Strategy.ofName?_iff.mpr h).symm.trans (Strategy.ofName?_iff.mpr rfl))
  · rintro rfl
    rfl

theorem readStrategy_ok {fields : Entries Json} {p : Path} {s : Option Strategy} :
    readStrategy fields p = .ok s ↔ Entries.get? fields "$strategy" = s.map fun s => Json.string s.name := by
  unfold readStrategy
  cases hg : Entries.get? fields "$strategy" with
  | none => cases s <;> simp
  | some j =>
    cases j with
    | string name =>
      dsimp only
      cases ho : Strategy.ofName? name with
      | none =>
        have unknown : ∀ s : Strategy, name ≠ s.name := by
          rintro s rfl
          rw [Strategy.ofName?_iff.mpr rfl] at ho
          cases ho
        cases s <;> simp [unknown]
      | some s' =>
        cases Strategy.ofName?_iff.mp ho
        cases s <;> simp [Strategy.name_inj]
    | _ => cases s <;> simp [invalid]

theorem unslashed?_iff {s inner : String} : unslashed? s = some inner ↔ s = "/" ++ inner ++ "/" := by
  constructor
  · intro h
    unfold unslashed? at h
    split at h
    · rename_i rest hl
      split at h
      · rename_i inner' hr
        have hrest : rest = inner'.reverse ++ ['/'] := by
          rw [← List.reverse_reverse rest, hr]
          simp
        cases h
        apply String.toList_inj.mp
        simp [hl, hrest]
      · cases h
    · cases h
  · rintro rfl
    have hl : ("/" ++ inner ++ "/").toList = '/' :: (inner.toList ++ ['/']) := by simp
    have hr : (inner.toList ++ ['/']).reverse = '/' :: inner.toList.reverse := by simp
    unfold unslashed?
    simp only [hl, hr, Option.some.injEq]
    apply String.toList_inj.mp
    simp

theorem validatorPattern_ok [RegexEngine] {s : String} {p : Path} {r : Regex} :
    validatorPattern s p = .ok r ↔ ∃ inner, s = "/" ++ inner ++ "/" ∧ Regex.compile? inner = some r := by
  unfold validatorPattern
  cases hu : unslashed? s with
  | none =>
    simp only [invalid, reduceCtorEq, false_iff]
    rintro ⟨inner, hs, -⟩
    rw [unslashed?_iff.mpr hs] at hu
    cases hu
  | some inner =>
    have hs := unslashed?_iff.mp hu
    have unique : ∀ inner', s = "/" ++ inner' ++ "/" → inner' = inner := fun inner' h =>
      Option.some_inj.mp ((unslashed?_iff.mpr h).symm.trans hu)
    cases hr : Regex.compile? inner with
    | none =>
      simp only [hr, invalid, reduceCtorEq, false_iff]
      rintro ⟨inner', hs', hr'⟩
      rw [unique inner' hs', hr] at hr'
      cases hr'
    | some r' =>
      simp only [hr, Except.ok.injEq]
      constructor
      · rintro rfl
        exact ⟨inner, hs, hr⟩
      · rintro ⟨inner', hs', hr'⟩
        rw [unique inner' hs', hr] at hr'
        exact Option.some_inj.mp hr'

theorem readValidator_ok [RegexEngine] {fields : Entries Json} {p : Path} {v : Option Validator} :
    readValidator fields p = .ok v ↔
      (Entries.get? fields "$validator" = none ∧ v = none) ∨
      ∃ inner r, Entries.get? fields "$validator" = some (.string ("/" ++ inner ++ "/")) ∧
        Regex.compile? inner = some r ∧ v = some (.pattern r) := by
  unfold readValidator
  cases hg : Entries.get? fields "$validator" with
  | none => simp [eq_comm]
  | some j =>
    cases j with
    | string s =>
      simp only [bind_eq_ok, validatorPattern_ok, Except.ok.injEq, Option.some.injEq, Json.string.injEq, reduceCtorEq,
        false_and, false_or]
      constructor
      · rintro ⟨r, ⟨inner, hs, hr⟩, hv⟩
        exact ⟨inner, r, hs, hr, hv.symm⟩
      · rintro ⟨inner, r, hs, hr, hv⟩
        exact ⟨r, ⟨inner, hs, hr⟩, hv.symm⟩
    | _ => simp [invalid]

theorem exists_written {α β : Type} {f : β → α} {x : Option α} :
    (∃ b : Option β, x = b.map f) ↔ ∀ a, x = some a → ∃ b, a = f b := by
  cases x with
  | none => exact ⟨nofun, fun _ => ⟨none, rfl⟩⟩
  | some a =>
    constructor
    · rintro ⟨b | b, hb⟩ a' ha <;> cases hb
      exact ⟨b, (Option.some_inj.mp ha).symm⟩
    · intro h
      obtain ⟨b, rfl⟩ := h a rfl
      exact ⟨some b, rfl⟩

theorem flag_isOk {fields : Entries Json} {key : String} {p : Path} :
    (∃ b, flag fields key p = .ok b) ↔ ∀ j, Entries.get? fields key = some j → ∃ b, j = .bool b := by
  simp only [flag_ok]
  exact exists_written

theorem readStrategy_isOk {fields : Entries Json} {p : Path} : (∃ s, readStrategy fields p = .ok s) ↔
    ∀ j, Entries.get? fields "$strategy" = some j → ∃ s : Strategy, j = .string s.name := by
  simp only [readStrategy_ok]
  exact exists_written

theorem readValidator_isOk [RegexEngine] {fields : Entries Json} {p : Path} : (∃ v, readValidator fields p = .ok v) ↔
    ∀ j, Entries.get? fields "$validator" = some j →
      ∃ inner : String, j = .string ("/" ++ inner ++ "/") ∧ (Regex.compile? inner).isSome = true := by
  simp only [readValidator_ok]
  cases Entries.get? fields "$validator" with
  | none => exact ⟨nofun, fun _ => ⟨none, .inl ⟨rfl, rfl⟩⟩⟩
  | some j =>
    constructor
    · rintro ⟨v, ⟨h, -⟩ | ⟨inner, r, hj, hr, -⟩⟩ i hi
      · cases h
      · cases hi
        exact ⟨inner, Option.some_inj.mp hj, by rw [hr]; rfl⟩
    · intro h
      obtain ⟨inner, rfl, hr⟩ := h j rfl
      obtain ⟨r, hr⟩ := Option.isSome_iff_exists.mp hr
      exact ⟨some (.pattern r), .inr ⟨inner, r, rfl, hr, rfl⟩⟩

theorem readOptions_isOk [RegexEngine] {fields : Entries Json} {p : Path} :
    (∃ o, readOptions fields p = .ok o) ↔ Json.Optioned fields := by
  unfold readOptions
  constructor
  · rintro ⟨o, h⟩
    obtain ⟨required, hr, h⟩ := bind_eq_ok.mp h
    obtain ⟨allowNull, ha, h⟩ := bind_eq_ok.mp h
    obtain ⟨matchOnce, hm, h⟩ := bind_eq_ok.mp h
    obtain ⟨validator, hv, h⟩ := bind_eq_ok.mp h
    obtain ⟨strategy, hs, -⟩ := bind_eq_ok.mp h
    refine ⟨?_, readStrategy_isOk.mp ⟨_, hs⟩, readValidator_isOk.mp ⟨_, hv⟩⟩
    simp only [List.forall_mem_cons]
    exact ⟨flag_isOk.mp ⟨_, hr⟩, flag_isOk.mp ⟨_, ha⟩, flag_isOk.mp ⟨_, hm⟩, nofun⟩
  · rintro ⟨hflags, hs, hv⟩
    obtain ⟨required, hr⟩ := flag_isOk.mpr (hflags "$required" (by simp))
    obtain ⟨allowNull, ha⟩ := flag_isOk.mpr (hflags "$allowNull" (by simp))
    obtain ⟨matchOnce, hm⟩ := flag_isOk.mpr (hflags "$matchOnce" (by simp))
    obtain ⟨validator, hv⟩ := readValidator_isOk.mpr hv
    obtain ⟨strategy, hs⟩ := readStrategy_isOk.mpr hs
    rw [hr, ha, hm, hv, hs]
    exact ⟨_, rfl⟩

/-- What the compiler looks at of the options that were read. -/
theorem readOptions_read [RegexEngine] {fields : Entries Json} {p : Path} {o : Options}
    (h : readOptions fields p = .ok o) :
    (o.allowNull = true ↔ Entries.get? fields "$allowNull" = some (.bool true)) ∧
    (∀ k, checkValidator k o = .ok () ↔ ("$validator" ∈ Entries.keys fields → k = .string ∨ k = .number)) := by
  unfold readOptions at h
  obtain ⟨required, -, h⟩ := bind_eq_ok.mp h
  obtain ⟨allowNull, ha, h⟩ := bind_eq_ok.mp h
  obtain ⟨matchOnce, -, h⟩ := bind_eq_ok.mp h
  obtain ⟨validator, hv, h⟩ := bind_eq_ok.mp h
  obtain ⟨strategy, -, h⟩ := bind_eq_ok.mp h
  cases h
  constructor
  · rw [flag_ok.mp ha]
    rcases allowNull with _ | _ | _ <;> simp
  · intro k
    rcases readValidator_ok.mp hv with ⟨hnone, rfl⟩ | ⟨inner, r, hsome, -, rfl⟩
    · simp [checkValidator, Entries.get?_eq_none.mp hnone]
    · have hm : "$validator" ∈ Entries.keys fields := Entries.mem_keys (Entries.mem_of_get? hsome)
      unfold checkValidator
      by_cases hk : k = .string ∨ k = .number <;> simp [hk, hm]

/-! ## Directives -/

theorem checkDirective_ok {fields : Entries Json} {p : Path} : checkDirective fields p = .ok () ↔
    (∀ key ∈ Entries.keys fields, key ∈ directives) ∧
    ((∃ j, Entries.get? fields "$type" = some j ∧ "$mix" ∉ Entries.keys fields) ∨
      ∃ js, "$type" ∉ Entries.keys fields ∧ Entries.get? fields "$mix" = some (.array js)) := by
  unfold checkDirective
  cases hf : (Entries.keys fields).find? fun k => !directives.contains k with
  | some unknown =>
    have hm := List.mem_of_find?_eq_some hf
    have hu := List.find?_some hf
    simp only [invalid, reduceCtorEq, false_iff, not_and]
    intro hk
    have := hk unknown hm
    simp [this] at hu
  | none =>
    have hk : ∀ key ∈ Entries.keys fields, key ∈ directives := by simpa using hf
    rw [and_iff_right hk]
    simp only [← Entries.get?_eq_none]
    cases ht : Entries.get? fields "$type" with
    | some j => cases hm : Entries.get? fields "$mix" <;> simp [invalid]
    | none =>
      cases hm : Entries.get? fields "$mix" with
      | none => simp [invalid]
      | some j => cases j <;> simp [invalid]

end Conformance
