import Conformance.CommandLine
import Conformance.Proofs.Compiled
import Mathlib.Data.List.Pairwise
import Mathlib.Data.Prod.Lex

/-!
# The documents of a run

The documents that the inputs have, told apart from the way in which they are read. Each has a
spot: the number of its input, of its line and of the output that it is. All of them are listed,
in the order of their spots, provided that every input can be read.
-/

namespace Conformance

/-! ## Lists in order -/

/-- The list has what `R` gives under each of its keys, in the order of the keys. -/
def Enumerates {κ α : Type} (lt : κ → κ → Prop) (R : κ → α → Prop) (as : List α) : Prop :=
  ∃ ks : List κ, ks.Pairwise lt ∧ ks.Forall₂ R as ∧ ∀ k a, R k a → k ∈ ks

section
variable {κ α : Type} {lt : κ → κ → Prop}

theorem Enumerates.congr {R S : κ → α → Prop} {as : List α} (h : Enumerates lt R as) (hs : ∀ k a, R k a ↔ S k a) :
    Enumerates lt S as := by
  obtain ⟨ks, hks, has, hall⟩ := h
  exact ⟨ks, hks, has.imp fun k a => (hs k a).mp, fun k a hka => hall k a ((hs k a).mpr hka)⟩

/-- Keys in order determine the list. -/
theorem Enumerates.unique {R : κ → α → Prop} {as bs : List α} (ha : Enumerates lt R as) (hb : Enumerates lt R bs)
    (hlt : ∀ k l, lt k l → ¬ lt l k) (hr : ∀ k a b, R k a → R k b → a = b) : as = bs := by
  obtain ⟨ks, hks, has, hall⟩ := ha
  obtain ⟨ls, hls, hbs, hall'⟩ := hb
  have hne : ∀ k l, lt k l → k ≠ l := by
    rintro k l h rfl
    exact hlt k k h h
  have hsame : ks = ls := by
    have hperm : ks.Perm ls := by
      refine (List.perm_ext_iff_of_nodup (hks.imp (hne _ _)) (hls.imp (hne _ _))).mpr fun k =>
        ⟨fun hk => ?_, fun hk => ?_⟩
      · obtain ⟨a, -, hka⟩ := forall₂_mem_left has hk
        exact hall' k a hka
      · obtain ⟨b, -, hkb⟩ := forall₂_mem_left hbs hk
        exact hall k b hkb
    exact hperm.eq_of_pairwise (fun k l _ _ h h' => (hlt k l h h').elim) hks hls
  subst hsame
  clear hks hls hall hall'
  induction has generalizing bs with
  | nil => cases hbs; rfl
  | cons hka _ ih =>
    cases hbs with
    | cons hkb hbs => rw [hr _ _ _ hka hkb, ih hbs]

end

/-- The number of an input, of a line in it, and of an output for that line. -/
abbrev Spot := Nat × Nat × Nat

/-- A pattern stands for the files that it finds, or else for itself. -/
def FileTree.Resolves (t : FileTree) (pattern : String) (paths : List String) : Prop :=
  if isGlob pattern then Glob.find? t pattern = some paths ∧ paths ≠ [] else paths = [pattern]

namespace Inputs

/-- What is read on its own in the text of a file: all of it, or a line that is not blank. Lines are
counted from one, blank ones as well. -/
def Piece (s : Inputs) (path text : String) (n : Nat) (origin content : String) : Prop :=
  if s.ndjson then
    ∃ i, n = i + 1 ∧ (linesOf text)[i]? = some content ∧ isBlankLine content = false ∧ origin = path ++ ":" ++ n.repr
  else n = 0 ∧ content = text ∧ origin = path

def Selects (s : Inputs) (j selected : Json) : Prop :=
  match s.pointer with
  | none => selected = j
  | some pointer => j.pointer? pointer = some selected

/-- The outputs of the filter. Without one the only output is its input. -/
def Filters (s : Inputs) (jq : Filtering) (input : Json) (outs : List Json) : Prop :=
  match s.filter with
  | none => outs = [input]
  | some filter => jq filter input = .ok outs

/-- The content is JSON, in which the pointer selects what the filter makes the outputs of. -/
def Gives (s : Inputs) (jq : Filtering) (content : String) (outs : List Json) : Prop :=
  ∃ j selected, Json.parse content = .ok j ∧ s.Selects j selected ∧ s.Filters jq selected outs

def label (s : Inputs) (origin : String) (k : Nat) : String :=
  if s.filter.isSome then origin ++ "#" ++ k.repr else origin

/-- The document of a file at a line and an output. -/
def ShowsIn (s : Inputs) (jq : Filtering) (t : FileTree) (path : String) (spot : Nat × Nat) (d : Candidate) : Prop :=
  ∃ text origin content outs j, t.read path = .ok text ∧ s.Piece path text spot.1 origin content ∧
    s.Gives jq content outs ∧ outs[spot.2]? = some j ∧ d = ⟨s.label origin spot.2, j⟩

def Shows (s : Inputs) (jq : Filtering) (t : FileTree) (paths : List String) (spot : Spot) (d : Candidate) : Prop :=
  ∃ path, paths[spot.1]? = some path ∧ s.ShowsIn jq t path spot.2 d

/-- Every file can be read, and everything that is read on its own in it. -/
def Readable (s : Inputs) (jq : Filtering) (t : FileTree) (paths : List String) : Prop :=
  ∀ path ∈ paths, ∃ text, t.read path = .ok text ∧
    ∀ n origin content, s.Piece path text n origin content → ∃ outs, s.Gives jq content outs

end Inputs

/-! ## Why inputs fail -/

/-- A pattern finds no files, and the fault tells why. -/
def FileTree.Misses (t : FileTree) (pattern fault : String) : Prop :=
  isGlob pattern = true ∧ (Glob.find? t pattern = none ∧ fault = globFault ∨
    Glob.find? t pattern = some [] ∧ fault = "glob pattern matched no files: " ++ pattern)

namespace Inputs

/-- What is told of a content that is no JSON. -/
def context (s : Inputs) (origin : String) : String :=
  if s.ndjson then "failed to parse NDJSON line (" ++ origin ++ ")"
  else "failed to parse JSON source file (" ++ origin ++ ")"

/-- Why a content has no outputs. -/
inductive PieceFails (s : Inputs) (jq : Filtering) (origin content : String) : Chain → Prop
  | unparsed (h : ∀ j, Json.parse content ≠ .ok j) : s.PieceFails jq origin content [s.context origin, jsonFault]
  | unselected {j : Json} {pointer : String} (h : Json.parse content = .ok j) (hp : s.pointer = some pointer)
      (hs : j.pointer? pointer = none) :
      s.PieceFails jq origin content ["JSON pointer " ++ pointer ++ " selects nothing in " ++ origin]
  | unfiltered {j selected : Json} {filter : String} {e : FilterError} (h : Json.parse content = .ok j)
      (hs : s.Selects j selected) (hf : s.filter = some filter) (he : jq filter selected = .error e) :
      s.PieceFails jq origin content ["failed to apply jq expression to " ++ origin, filterFault]

/-- Why a file has no documents: it cannot be read, or this is the first piece of it that has no
outputs. -/
inductive FileFails (s : Inputs) (jq : Filtering) (t : FileTree) (path : String) : Chain → Prop
  | unread {e : FileError} (h : t.read path = .error e) :
      s.FileFails jq t path ["failed to read source file " ++ path, e.message]
  | piece {text origin content : String} {n : Nat} {chain : Chain} (h : t.read path = .ok text)
      (hpiece : s.Piece path text n origin content)
      (hbefore : ∀ m origin' content', m < n → s.Piece path text m origin' content' → ∃ outs, s.Gives jq content' outs)
      (hfails : s.PieceFails jq origin content chain) : s.FileFails jq t path chain

/-- Why the documents cannot be listed: a pattern finds no files, or this is the first file that has
no documents. -/
inductive Fails (s : Inputs) (jq : Filtering) (t : FileTree) : Chain → Prop
  | pattern {before after : List String} {pattern fault : String} (h : s.patterns = before ++ pattern :: after)
      (hbefore : ∀ b ∈ before, ∃ paths, t.Resolves b paths) (hmisses : t.Misses pattern fault) :
      s.Fails jq t ["failed to resolve input file paths", fault]
  | file {groups : List (List String)} {before after : List String} {path : String} {chain : Chain}
      (hgroups : s.patterns.Forall₂ t.Resolves groups) (h : groups.flatten = before ++ path :: after)
      (hbefore : s.Readable jq t before) (hfails : s.FileFails jq t path chain) : s.Fails jq t chain

end Inputs

/-! ## Reading -/

namespace Inputs
variable {s : Inputs} {jq : Filtering} {t : FileTree} {chain : Chain}

/-- The outputs for one origin as documents. -/
def named (s : Inputs) (origin : String) (outs : List Json) : List Candidate :=
  outs.zipIdx.map fun o => ⟨s.label origin o.2, o.1⟩

/-- The number, the origin and the content of everything that is read on its own in a text. -/
def pieces (s : Inputs) (path text : String) : List (Nat × String × String) :=
  if s.ndjson then ((linesOf text).zipIdx.filter fun l => !isBlankLine l.1).map fun l =>
    (l.2 + 1, path ++ ":" ++ (l.2 + 1).repr, l.1)
  else [(0, path, text)]

theorem Piece.unique {path text : String} {n : Nat} {origin content origin' content' : String}
    (h : s.Piece path text n origin content) (h' : s.Piece path text n origin' content') :
    origin = origin' ∧ content = content' := by
  unfold Piece at h h'
  split at h
  · rename_i hn
    rw [if_pos hn] at h'
    obtain ⟨i, rfl, hline, -, rfl⟩ := h
    obtain ⟨j, hij, hline', -, rfl⟩ := h'
    cases hij
    exact ⟨rfl, Option.some_inj.mp (hline.symm.trans hline')⟩
  · rename_i hn
    rw [if_neg hn] at h'
    obtain ⟨-, rfl, rfl⟩ := h
    obtain ⟨-, rfl, rfl⟩ := h'
    exact ⟨rfl, rfl⟩

theorem Gives.unique {content : String} {outs outs' : List Json} (h : s.Gives jq content outs)
    (h' : s.Gives jq content outs') : outs = outs' := by
  obtain ⟨j, selected, hj, hs, hf⟩ := h
  obtain ⟨j', selected', hj', hs', hf'⟩ := h'
  cases hj.symm.trans hj'
  unfold Selects at hs hs'
  unfold Filters at hf hf'
  have hsame : selected = selected' := by
    cases hp : s.pointer with
    | none =>
      simp only [hp] at hs hs'
      rw [hs, hs']
    | some pointer =>
      simp only [hp] at hs hs'
      exact Option.some_inj.mp (hs.symm.trans hs')
  subst hsame
  cases hfilter : s.filter with
  | none =>
    simp only [hfilter] at hf hf'
    rw [hf, hf']
  | some filter =>
    simp only [hfilter] at hf hf'
    exact Except.ok.inj (hf.symm.trans hf')

theorem Shows.unique {paths : List String} {spot : Spot} {d d' : Candidate} (h : s.Shows jq t paths spot d)
    (h' : s.Shows jq t paths spot d') : d = d' := by
  obtain ⟨path, hpath, text, origin, content, outs, j, htext, hpiece, houts, hj, rfl⟩ := h
  obtain ⟨path', hpath', text', origin', content', outs', j', htext', hpiece', houts', hj', rfl⟩ := h'
  cases hpath.symm.trans hpath'
  cases htext.symm.trans htext'
  obtain ⟨rfl, rfl⟩ := hpiece.unique hpiece'
  cases houts.unique houts'
  cases hj.symm.trans hj'
  rfl

end Inputs

end Conformance
