import Conformance.Proofs.Files
import Conformance.Proofs.Inputs
import Conformance.Proofs.Needs
import Conformance.Proofs.Runs
import Conformance.Proofs.Shapes

/-!
# The two commands

Both commands open the declarations and read the documents in the same way, and fail in the same
way if they cannot. Then one says of each document what the other acts upon: texts are printed
just if no document fails, and the first one that fails is named.
-/

namespace Conformance

/-! ## What a run starts from -/

section
variable [RegexEngine]

/-- The declarations can be read and loaded, and the model is one of them. -/
def Settings.Opens (s : Settings) (t : FileTree) (shape : Shape) : Prop :=
  ∃ text r ids, t.read s.declarations = .ok text ∧ (Registry.empty 0).load text = .ok (r, ids) ∧
    r.named? s.model = some shape

/-- Why a run does not start: the first of these that holds is told. -/
inductive Settings.Fails (s : Settings) (jq : Filtering) (t : FileTree) : Chain → Prop
  | unreadable {e : FileError} (h : t.read s.declarations = .error e) :
      s.Fails jq t ["failed to read declarations " ++ s.declarations, e.message]
  | unloadable {text : String} {e : DeclarationError} (h : t.read s.declarations = .ok text)
      (hload : (Registry.empty 0).load text = .error e) :
      s.Fails jq t (("failed to load declarations " ++ s.declarations) :: e.chain)
  | unknown {text : String} {r : Registry} {ids : List ShapeId} (h : t.read s.declarations = .ok text)
      (hload : (Registry.empty 0).load text = .ok (r, ids)) (hmodel : r.named? s.model = none) :
      s.Fails jq t [(ShapeError.unknownShape s.model).message]
  | inputs {shape : Shape} {chain : Chain} (h : s.Opens t shape) (hinputs : s.inputs.Fails jq t chain) :
      s.Fails jq t chain

namespace Settings
variable {s : Settings} {jq : Filtering} {t : FileTree} {shape : Shape} {ds : List Candidate} {chain : Chain}

end Settings

end

/-! ## Documents -/

/-- Creation comes to an end, with all the defaults that the candidate gets: none of those that are
asked for, by creating the instance or by making it plain, needs defaults without end. -/
def Shape.Ends (s : Shape) (v : Value) : Prop :=
  (∀ m, s.registry.Asks .instances (v, s.description) m → ¬ s.registry.Endless .instances m) ∧
  ∀ i, s.create v = .ok i →
    ∀ m, s.registry.Asks .plain (s.description.content i.fields, s.description) m → ¬ s.registry.Endless .plain m

def Shape.Fits (s : Shape) (d : Candidate) : Prop := s.check (.ofJson d.content) = true

instance (s : Shape) (d : Candidate) : Decidable (s.Fits d) := inferInstanceAs (Decidable (_ = true))

section
variable [RegexEngine] {r : Registry} (hr : Reachable r) {id : ShapeId} {shape : Shape} (hs : r.shape? id = some shape)
include hr hs

/-- What ends for an accepted value without a class gives an instance and a plain object. -/
theorem Shape.ends_iff {v : Value} (hv : v.class? = none) (hc : shape.check v = true) :
    shape.Ends v ↔ ∃ i w, shape.create v = .ok i ∧ shape.toObject i = .ok w := by
  obtain ⟨rfl, -, -, hdesc⟩ := Registry.shape?_ok hs
  have hg := hr.grounded
  have hcreate : (∃ i, shape.create v = .ok i) ↔
      ∀ m, shape.registry.Asks .instances (v, shape.description) m → ¬ shape.registry.Endless .instances m := by
    have hcarries : v.carries shape.cls = false := by rw [Value.carries, hv]; rfl
    rw [Shape.create_isOk hs hc, Registry.convert_isSome hg, hcarries]
    exact or_iff_right Bool.false_ne_true
  have hplain : ∀ i, shape.create v = .ok i → ((∃ w, shape.toObject i = .ok w) ↔
      ∀ m, shape.registry.Asks .plain (shape.description.content i.fields, shape.description) m →
        ¬ shape.registry.Endless .plain m) := by
    intro i hi
    rw [Shape.toObject_isOk hs (Shape.create_cls hs hi), Registry.toPlain_eq (hg id _ hdesc).1,
      Registry.convert_isSome hg]
  constructor
  · rintro ⟨hmade, hends⟩
    obtain ⟨i, hi⟩ := hcreate.mpr hmade
    obtain ⟨w, hw⟩ := (hplain i hi).mpr (hends i hi)
    exact ⟨i, w, hi, hw⟩
  · rintro ⟨i, w, hi, hw⟩
    refine ⟨hcreate.mp ⟨i, hi⟩, fun i' hi' => ?_⟩
    cases hi.symm.trans hi'
    exact (hplain i hi).mp ⟨w, hw⟩

end

/-- How a run ends that has a text for its output. It prints the text, or writes it to the file that is
to have it, unless the directory for this file or the file itself cannot be made. -/
inductive Delivers (t : FileTree) (text : String) : Option String → Outcome → Prop
  | printed : Delivers t text none ⟨0, text ++ "\n", t, none⟩
  | written {path : String} {t₁ t₂ : FileTree} (hparent : t.makeDirectories (parentPath path) = (.ok (), t₁))
      (hwrite : t₁.write path text = .ok t₂) (h : t.Gains t₂ path text) : Delivers t text (some path) ⟨0, "", t₂, none⟩
  | homeless {path : String} {t₁ : FileTree} {e : FileError}
      (hparent : t.makeDirectories (parentPath path) = (.error e, t₁)) (h : t.Keeps t₁) :
      Delivers t text (some path) ⟨1, "", t₁, some ["failed to create " ++ parentPath path, e.message]⟩
  | unwritten {path : String} {t₁ : FileTree} {e : FileError}
      (hparent : t.makeDirectories (parentPath path) = (.ok (), t₁)) (hwrite : t₁.write path text = .error e)
      (h : t.Keeps t₁) : Delivers t text (some path) ⟨1, "", t₁, some ["failed to write " ++ path, e.message]⟩

/-- What is to be written can be written. -/
def FileTree.Takes (t : FileTree) (out : Option String) : Prop :=
  ∀ path, out = some path → ∀ text, ∃ t₁ t₂, t.makeDirectories (parentPath path) = (.ok (), t₁) ∧
    t₁.write path text = .ok t₂

theorem Delivers.exitCode {t : FileTree} {text : String} {out : Option String} {o : Outcome}
    (h : Delivers t text out o) (ht : t.Takes out) : o.exitCode = 0 := by
  cases h with
  | printed => rfl
  | written => rfl
  | homeless hparent =>
    obtain ⟨t₁, t₂, hparent', -⟩ := ht _ rfl text
    cases hparent.symm.trans hparent'
  | unwritten hparent hwrite =>
    obtain ⟨t₁, t₂, hparent', hwrite'⟩ := ht _ rfl text
    cases hparent.symm.trans hparent'
    cases hwrite.symm.trans hwrite'

section
variable [RegexEngine] {jq : Filtering} {s : Settings} {t : FileTree} {shape : Shape} {ds : List Candidate}

end

/-- The verdicts of a run. Whatever is accepted in it has a plain instance. -/
def judged (vs : List (String × Bool)) (started : Shape × List Candidate) : Bool :=
  let (shape, ds) := started
  shape.name = "Cup" && ds.map (fun d => (d.origin, shape.check (.ofJson d.content))) = vs && ds.all fun d =>
    !shape.check (.ofJson d.content) ||
      (shape.create (.ofJson d.content)).toOption.any fun i => (shape.toObject i).toOption.any fun _ => true

end Conformance
