import Conformance.Proofs.Additions
import Conformance.Proofs.Flattening

/-!
# Plain conversions

A conversion to plain values leaves no instance, whatever the descriptor and whatever the defaults.
-/

namespace Conformance

theorem Entries.mem_insertAll {α : Type} {e : String × α} : ∀ {es out : Entries α},
    e ∈ Entries.insertAll out es → e ∈ out ∨ e ∈ es
  | [], _, h => .inl h
  | x :: es, out, h => by
    rw [insertAll_cons] at h
    rcases mem_insertAll h with h | h
    · exact (Entries.mem_insert h).elim (fun h => .inr (h ▸ List.mem_cons_self)) .inl
    · exact .inr (List.mem_cons_of_mem _ h)

theorem Value.plain_array {es : List Value} (h : ∀ e ∈ es, e.Plain) : (Value.array es).Plain :=
  plain_of_parts rfl fun p hp => h p (by simpa using hp)

theorem Value.plain_object {fs : Entries Value} (h : ∀ f ∈ fs, f.2.Plain) : (Value.object fs).Plain :=
  plain_of_parts rfl fun _ hp => by
    obtain ⟨f, hf, rfl⟩ := List.mem_map.mp hp
    exact h f hf

section
variable {convert : Value → Descriptor → Option Value} {absent : Absent} {fs : Entries Value}
  (ha : ∀ d w, absent d = some (some w) → w.Plain) (hc : ∀ x ∈ fs, ∀ d w, convert x.2 d = some w → w.Plain)
include ha hc

theorem convertFields_plain {once : Bool} {schema : Schema} {out : Entries Value}
    (h : convertFields absent once schema (Entries.mapValues (Part.of convert) fs) = some out) :
    (Value.object out).Plain := by
  obtain ⟨ess, hess, rfl⟩ := convertFields_some.mp h
  refine Value.plain_object fun ⟨k, w⟩ he => ?_
  rcases mem_added hess ((Entries.mem_insertAll he).resolve_left List.not_mem_nil) with ⟨c, hm, v, hv, hw⟩ | ⟨d, -, hd⟩
  · exact hc (k, v) (claims_subset hm hv) _ w hw
  · exact ha d w hd

theorem plainContent_plain {d : Descriptor} {w : Value}
    (h : plainContent absent (Entries.mapValues (Part.of convert) fs) d = some w) : w.Plain := by
  cases d with
  | keyed schema t =>
    obtain ⟨out, hout, rfl⟩ := Option.map_eq_some_iff.mp h
    exact convertFields_plain ha hc hout
  | arrayOf items t =>
    rw [plainContent, Entries.mapValues, List.mapM_map] at h
    obtain ⟨es, hes, rfl⟩ := Option.map_eq_some_iff.mp h
    refine Value.plain_array fun e he => ?_
    obtain ⟨x, hx, hxe⟩ := forall₂_mem_right (mapM_some.mp hes) he
    exact hc x hx items e hxe
  | openArray t =>
    cases h
    refine Value.plain_array fun e he => ?_
    obtain ⟨x, -, rfl⟩ := List.mem_map.mp he
    exact x.2.value.flatten_plain
  | _ =>
    cases h
    refine Value.plain_object fun f hf => ?_
    obtain ⟨x, -, rfl⟩ := List.mem_map.mp hf
    exact x.2.value.flatten_plain

end

/-- Under an array the content is a list with an element for each field; under anything else it is
an object. -/
theorem plainContent_form {absent : Absent} {fs : Entries Part} {d : Descriptor} {w : Value}
    (h : plainContent absent fs d = some w) :
    (d.kind = .array → ∃ es, w = .array es ∧ es.length = fs.length) ∧ (d.kind ≠ .array → ∃ out, w = .object out) := by
  cases d with
  | keyed schema t =>
    obtain ⟨out, -, rfl⟩ := Option.map_eq_some_iff.mp h
    exact ⟨nofun, fun _ => ⟨out, rfl⟩⟩
  | arrayOf items t =>
    obtain ⟨es, hes, rfl⟩ := Option.map_eq_some_iff.mp h
    exact ⟨fun _ => ⟨es, rfl, (mapM_some.mp hes).length_eq.symm⟩, fun hk => absurd rfl hk⟩
  | openArray t =>
    cases h
    exact ⟨fun _ => ⟨_, rfl, List.length_map _⟩, fun hk => absurd rfl hk⟩
  | primitive p t =>
    cases h
    refine ⟨fun hk => ?_, fun _ => ⟨_, rfl⟩⟩
    cases p <;> cases hk
  | _ =>
    cases h
    exact ⟨nofun, fun _ => ⟨_, rfl⟩⟩

namespace Registry
variable {r : Registry} {absent : Absent} (ha : ∀ d w, absent d = some (some w) → w.Plain)
include ha

section
variable {v : Value} (hp : ∀ p ∈ v.parts, ∀ d w, r.convertWith .plain absent p d = some w → w.Plain)
include hp

theorem convertHere_plain {shape : ShapeId → Option Value} (hs : ∀ id w, shape id = some w → w.Plain) (d : Descriptor) :
    ∀ w, r.convertHere .plain absent v shape d = some w → w.Plain := by
  induction d using Descriptor.induction_parts with
  | h d ih =>
    intro w h
    have hcopy : ∀ {u : Value}, some (Target.plain.copy v) = some u → u.Plain := fun h => by
      cases h
      exact v.flatten_plain
    cases d with
    | keyed schema t =>
      rw [convertHere, convertNode] at h
      split at h
      · obtain ⟨out, hout, rfl⟩ := Option.map_eq_some_iff.mp h
        exact convertFields_plain ha (fun x hx => hp x.2 (Value.field_part hx)) hout
      · exact hcopy h
    | arrayOf items t =>
      rw [convertHere, convertNode, List.mapM_map] at h
      split at h
      · obtain ⟨es, hes, rfl⟩ := Option.map_eq_some_iff.mp h
        refine Value.plain_array fun u hu => ?_
        obtain ⟨e, he, heu⟩ := forall₂_mem_right (mapM_some.mp hes) hu
        exact hp e (Value.element_part he) items u heu
      · exact hcopy h
    | model id t =>
      rw [convertHere, convertNode] at h
      split at h
      · cases h
        exact Value.flatten_plain .null
      · exact hs id w h
    | mix choices s t =>
      rw [convertHere, convertNode, convertChoice_eq] at h
      split at h
      · exact hcopy h
      · cases hf : choices.find? (r.accepts v) with
        | none => rw [hf] at h; exact hcopy h
        | some c => rw [hf] at h; exact ih c (List.mem_of_find?_eq_some hf) w h
    | _ => rw [convertHere, convertNode] at h; exact hcopy h

theorem shapeHere_plain (n : Nat) : ∀ id w, r.shapeHere .plain absent v n id = some w → w.Plain := by
  induction n with
  | zero => intro id w h; cases h
  | succ n ih =>
    intro id w h
    rw [shapeHere, convertShape] at h
    split at h
    · rename_i c d _ _
      split at h
      · exact plainContent_plain ha (fun x hx => hp x.2 (Value.field_part hx)) h
      · obtain ⟨u, hu, rfl⟩ := Option.map_eq_some_iff.mp h
        exact convertHere_plain ha hp ih d u hu
    · cases h
      exact v.flatten_plain

end

theorem convertWith_plain (v : Value) : ∀ d w, r.convertWith .plain absent v d = some w → w.Plain := by
  induction v using Value.induction_parts with
  | h v ih =>
    intro d w h
    rw [convertWith_eq] at h
    exact convertHere_plain ha ih (shapeHere_plain ha ih _) d w h

omit ha

theorem absent_plain (r : Registry) (n : Nat) : ∀ d w, r.absent .plain n d = some (some w) → w.Plain := by
  induction n with
  | zero =>
    intro d w h
    rw [absent] at h
    split at h <;> cases h
  | succ n ih =>
    intro d w h
    rw [absent] at h
    split at h
    · cases h
    · obtain ⟨u, hu, hw⟩ := Option.map_eq_some_iff.mp h
      exact convertWith_plain ih _ d w (Option.some_inj.mp hw ▸ hu)

theorem toPlain_plain {i : Instance} {d : Descriptor} {w : Value} (h : r.toPlain i d = some w) : w.Plain := by
  rw [toPlain, fieldParts_eq] at h
  have ha := r.absent_plain (r.defaultDepth d)
  exact plainContent_plain ha (fun x _ => convertWith_plain ha x.2) h

/-- An instance made plain holds no instance at any depth. It is a list with an element for each
field if the descriptor is an array, and an object otherwise. -/
theorem toPlain_instanceless (r : Registry) (i : Instance) (d : Descriptor) (w : Value) (h : r.toPlain i d = some w) :
    (∀ n, Value.Node n w → n.class? = none) ∧
      (d.kind = .array → ∃ es, w = .array es ∧ es.length = i.fields.length) ∧
      (d.kind ≠ .array → ∃ out, w = .object out) := by
  have hform := plainContent_form h
  rw [fieldParts_eq, Entries.mapValues, List.length_map] at hform
  exact ⟨toPlain_plain h, hform⟩

end Registry

/-! ## A trunk of letters -/

def letter : Value := .inst (.base (.free 0) "Letter")
  [("text", .string "hi"), ("reply", .inst (.base (.free 1) "Card") [])]

/-- A shape with a description, and one that is only declared. -/
def attic : Registry := ⟨0, [
  ⟨"Note", some (.keyed [(.exact "text", .primitive .string usual), (.exact "reply", .openObject usual)] usual)⟩,
  ⟨"Draft", none⟩]⟩
where
  usual : Traits := Options.traits {}

/-- Handles that are described, undefined and foreign; unions that choose, refuse and match nothing;
items that are another class, and a default that is an instance. -/
def trunk : Descriptor := .keyed [
  (.exact "note", .model (attic.idAt 0) attic.usual),
  (.exact "draft", .model (attic.idAt 1) attic.usual),
  (.exact "foreign", .model ⟨1, 0⟩ attic.usual),
  (.exact "chosen", .mix [.model (attic.idAt 0) attic.usual] .any attic.usual),
  (.exact "refused", .mix [.primitive .string attic.usual] .not attic.usual),
  (.exact "unmatched", .mix [.primitive .string attic.usual] .all attic.usual),
  (.exact "letters", .openArray attic.usual),
  (.exact "cards", .arrayOf (.cls (.base (.free 1) "Card") attic.usual) attic.usual),
  (.exact "spare", .openObject (Options.traits { default := some (.constant letter) }))] attic.usual

def letters : Instance := ⟨.base (.free 2) "Trunk", [
  ("note", letter), ("draft", letter), ("foreign", letter), ("chosen", letter), ("refused", letter),
  ("unmatched", letter), ("letters", .array [letter]), ("cards", .array [letter])]⟩

theorem toPlain_instanceless_letters : ∃ w, attic.toPlain letters trunk = some w ∧
    (∀ n, Value.Node n w → n.class? = none) ∧ ∃ out, w = .object out ∧ out.length = 9 := by
  have h : (attic.toPlain letters trunk).any (fun w => w.fields.length == 9) = true := by decide +kernel
  obtain ⟨w, hw, hlength⟩ := (Option.any_eq_true _ _).mp h
  obtain ⟨hplain, -, hobject⟩ := attic.toPlain_instanceless letters trunk w hw
  obtain ⟨out, rfl⟩ := hobject nofun
  exact ⟨_, hw, hplain, out, rfl, eq_of_beq hlength⟩

end Conformance
