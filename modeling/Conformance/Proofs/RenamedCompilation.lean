import Conformance.Proofs.Mirrors
import Conformance.Proofs.Runs

/-!
# Compilation under a renaming

Compiling and reading a declaration ask a registry for names and for ids alone, not for
descriptions. Where two registries know the same names, though at other places, the results differ
by the places.
-/

namespace Conformance

/-- The registry `r'` knows the names of `r`, each at the renamed place. -/
structure Registry.Echoes (ρ : Renaming) (r r' : Registry) : Prop where
  lookup : ∀ name, r'.lookup name = (r.lookup name).map ρ
  owns : ∀ id, r'.owns (ρ id) = r.owns id

theorem bind_transport {ε α α' β β' : Type} {g : α → α'} {h : β → β'} {x : Except ε α} {f : α → Except ε β}
    {f' : α' → Except ε β'} (hf : ∀ a, f' (g a) = (f a).map h) : (x.map g >>= f') = (x >>= f).map h := by
  cases x with
  | error e => rfl
  | ok a => exact hf a

variable {ρ : Renaming} {r r' : Registry}

/-! ## Compilation -/

theorem checkValidator_rename (k : Kind) (o : Options) : checkValidator k (o.rename ρ) = checkValidator k o := by
  obtain ⟨_, _, _, _, w, _⟩ := o
  rcases w with _ | (holds | p) <;> rfl

theorem finish_rename (o : Options) {node node' : Traits → Descriptor}
    (h : ∀ t, node' (t.rename ρ) = (node t).rename ρ) :
    finish (o.rename ρ) node' = (finish o node).map (Descriptor.rename ρ) := by
  rw [finish, finish, Options.rename_traits, h, Descriptor.rename_kind, checkValidator_rename]
  cases checkValidator (node o.traits).kind o <;> rfl

namespace Registry

theorem isLocalSchema_eq (r : Registry) : ∀ s, r.isLocalSchema s = s.all fun e => r.isLocal e.2
  | [] => rfl
  | (m, d) :: rest => by rw [isLocalSchema, isLocalSchema_eq r rest]; rfl

theorem areLocal_eq (r : Registry) : ∀ ds, r.areLocal ds = ds.all r.isLocal
  | [] => rfl
  | d :: rest => by rw [areLocal, areLocal_eq r rest]; rfl

variable (h : r.Echoes ρ r')
include h

theorem isLocal_rename (d : Descriptor) : r'.isLocal (d.rename ρ) = r.isLocal d := by
  induction d using Descriptor.induction_parts with
  | h d ih =>
    cases d with
    | model id t => exact h.owns id
    | arrayOf items t => exact ih items (List.mem_singleton_self _)
    | keyed schema t =>
      have hall : (schema.all fun e => r'.isLocal (e.2.rename ρ)) = schema.all fun e => r.isLocal e.2 :=
        all_congr fun e he => ih e.2 (List.mem_map_of_mem he)
      rw [Descriptor.rename_keyed, isLocal, isLocal, isLocalSchema_eq, isLocalSchema_eq, List.all_map]
      exact hall
    | mix choices s t =>
      have hall : (choices.all fun c => r'.isLocal (c.rename ρ)) = choices.all r.isLocal :=
        all_congr fun c hc => ih c hc
      rw [Descriptor.rename_mix, isLocal, isLocal, areLocal_eq, areLocal_eq, List.all_map]
      exact hall
    | _ => rfl

theorem resolve_rename (name : String) : (∃ e, r.resolve name = .error e ∧ r'.resolve name = .error e) ∨
    ∃ node node', r.resolve name = .ok node ∧ r'.resolve name = .ok node' ∧
      ∀ t, node' (t.rename ρ) = (node t).rename ρ := by
  unfold resolve
  rw [h.lookup]
  cases r.lookup name with
  | some id => exact .inr ⟨_, _, rfl, rfl, fun t => rfl⟩
  | none =>
    dsimp only [Option.map_none]
    split
    · exact .inl ⟨_, rfl, rfl⟩
    · split
      all_goals first
        | exact .inl ⟨_, rfl, rfl⟩
        | exact .inr ⟨_, _, rfl, rfl, fun t => rfl⟩

theorem lookupClass_rename (c : Class) : r'.lookupClass (c.rename ρ) = (r.lookupClass c).map ρ := by
  rw [lookupClass, lookupClass, Class.rename_id]
  cases c.id with
  | shape id =>
    rw [ClassId.rename]
    dsimp only
    rw [h.owns]
    split <;> rfl
  | free serial => rfl

omit h
variable [RegexEngine]

mutual

theorem compile_rename (h : r.Echoes ρ r') : ∀ (s : Source) (o : Options),
    r'.compile (s.rename ρ) (o.rename ρ) = (r.compile s o).map (Descriptor.rename ρ)
  | .described d, o => by
    rw [Source.rename, compile, compile, isLocal_rename h]
    split <;> rfl
  | .token name, o => by
    rw [Source.rename, compile, compile]
    obtain ⟨e, he, he'⟩ | ⟨node, node', hn, hn', hnode⟩ := resolve_rename h name
    · rw [he, he']; rfl
    · rw [hn, hn']; exact finish_rename o hnode
  | .cls c, o => by
    rw [Source.rename, compile, compile, lookupClass_rename h]
    cases r.lookupClass c with
    | none => exact finish_rename o fun t => rfl
    | some id => exact finish_rename o fun t => rfl
  | .openArray, o => by
    rw [Source.rename, compile, compile]
    exact finish_rename o fun t => rfl
  | .arrayOf item, o => by
    rw [Source.rename, compile, compile, ← Options.rename_default ρ, compile_rename h item]
    exact bind_transport fun items => finish_rename o fun t => rfl
  | .keyed [], o => by
    rw [Source.rename, Source.renameEntries, compile, compile]
    exact finish_rename o fun t => rfl
  | .keyed (e :: es), o => by
    have ih := compileEntries_rename h (e :: es)
    rw [Source.rename]
    rw [Source.renameEntries] at ih ⊢
    rw [compile, compile, ih]
    exact bind_transport fun schema => finish_rename o fun t => (Descriptor.rename_keyed ..).symm
  | .mix [], o => rfl
  | .mix (s :: ss), o => by
    have ih := compileAll_rename h (s :: ss)
    rw [Source.rename]
    rw [Source.renameAll] at ih ⊢
    rw [compile, compile, ih]
    exact bind_transport fun ds => finish_rename o fun t => (Descriptor.rename_mix ..).symm

theorem compileEntries_rename (h : r.Echoes ρ r') : ∀ es : List (String × Source),
    r'.compileEntries (Source.renameEntries ρ es) =
      (r.compileEntries es).map (List.map fun e => (e.1, e.2.rename ρ))
  | [] => rfl
  | (key, s) :: rest => by
    rw [Source.renameEntries, compileEntries, compileEntries, ← Options.rename_default ρ, compile_rename h s,
      compileEntries_rename h rest]
    cases compileKey key with
    | error e => rfl
    | ok m => exact bind_transport fun d => bind_transport fun schema => rfl

theorem compileAll_rename (h : r.Echoes ρ r') : ∀ ss : List Source,
    r'.compileAll (Source.renameAll ρ ss) = (r.compileAll ss).map (List.map (Descriptor.rename ρ))
  | [] => rfl
  | s :: rest => by
    rw [Source.renameAll, compileAll, compileAll, ← Options.rename_default ρ, compile_rename h s,
      compileAll_rename h rest]
    exact bind_transport fun d => bind_transport fun ds => rfl

end

theorem compileTopLevel_rename (h : r.Echoes ρ r') (s : Source) :
    r'.compileTopLevel (s.rename ρ) = (r.compileTopLevel s).map (Descriptor.rename ρ) := by
  rw [compileTopLevel, compileTopLevel, ← Options.rename_default ρ, compile_rename h]
  refine bind_transport fun d => ?_
  rw [Descriptor.rename_kind, Descriptor.rename_traits, Traits.rename_allowNull]
  split
  · rfl
  · split <;> rfl

end Registry

/-! ## Documents -/

namespace Value

mutual

theorem rename_ofJson (ρ : Renaming) : ∀ j, (ofJson j).rename ρ = ofJson j
  | .null | .bool _ | .int _ | .float _ | .string _ => rfl
  | .array es => by rw [ofJson, rename, renameElements_ofJson ρ es]
  | .object fs => by rw [ofJson, rename, renameFields_ofJson ρ fs]

theorem renameElements_ofJson (ρ : Renaming) : ∀ es, renameElements ρ (ofJsonElements es) = ofJsonElements es
  | [] => rfl
  | e :: es => by rw [ofJsonElements, renameElements, rename_ofJson ρ e, renameElements_ofJson ρ es]

theorem renameFields_ofJson (ρ : Renaming) : ∀ fs, renameFields ρ (ofJsonFields fs) = ofJsonFields fs
  | [] => rfl
  | (k, v) :: fs => by rw [ofJsonFields, renameFields, rename_ofJson ρ v, renameFields_ofJson ρ fs]

end

end Value

/-- Options of a directive mention no shape. -/
theorem readOptions_rename [RegexEngine] (ρ : Renaming) (fields : Entries Json) (p : Path) :
    Ensures (readOptions fields p) fun o => o.rename ρ = o := by
  intro o ho
  obtain ⟨hd, hv⟩ := readOptions_ok fields p o ho
  obtain ⟨_, _, _, d, w, _⟩ := o
  have hd : d.map (Default.rename ρ) = d := by
    cases d with
    | none => rfl
    | some d =>
      obtain ⟨j, -, rfl⟩ := hd d rfl
      simp [Default.rename, Value.rename_ofJson]
  have hw : w.map (Validator.rename ρ) = w := by
    cases w with
    | none => rfl
    | some w =>
      obtain ⟨p, rfl⟩ := hv w rfl
      rfl
  simp only [Options.rename, hd, hw]

theorem located_map {α β : Type} {g : α → β} {p : Path} (x : Except CompileError α) :
    located p (x.map g) = (located p x).map g := by
  cases x <;> rfl

variable [RegexEngine]

mutual

theorem lower_rename (h : r.Echoes ρ r') : ∀ (p : Path) (j : Json), lower r' p j = (lower r p j).map (Source.rename ρ)
  | p, .string name => rfl
  | p, .array [] => rfl
  | p, .array [item] => by
    rw [lower, lower, lower_rename h _ item]
    exact bind_transport fun s => rfl
  | p, .array (_ :: _ :: _) => rfl
  | p, .object fields => by
    have hsubject := lowerSubject_rename h p fields
    have hfields := lowerFields_rename h p fields
    rw [lower, lower]
    split
    · cases checkDirective fields p with
      | error e => rfl
      | ok _ =>
        rw [hsubject]
        refine bind_transport fun s => ?_
        cases ho : readOptions fields p with
        | error e => rfl
        | ok o =>
          have hcompile := Registry.compile_rename h s o
          rw [readOptions_rename ρ fields p o ho] at hcompile
          change (located p (r'.compile (s.rename ρ) o) >>= fun d => Except.ok (Source.described d)) = _
          rw [hcompile, located_map]
          exact bind_transport fun d => rfl
    · rw [hfields]
      exact bind_transport fun ss => rfl
  | p, .null => rfl
  | p, .bool b => rfl
  | p, .int n => rfl
  | p, .float n => rfl

theorem lowerFields_rename (h : r.Echoes ρ r') : ∀ (p : Path) (fs : List (String × Json)),
    lowerFields r' p fs = (lowerFields r p fs).map (Source.renameEntries ρ)
  | p, [] => rfl
  | p, (key, node) :: rest => by
    rw [lowerFields, lowerFields]
    split
    · rfl
    · rw [lower_rename h _ node, lowerFields_rename h p rest]
      exact bind_transport fun s => bind_transport fun ss => rfl

theorem lowerSubject_rename (h : r.Echoes ρ r') : ∀ (p : Path) (fs : List (String × Json)),
    lowerSubject r' p fs = (lowerSubject r p fs).map (Source.rename ρ)
  | p, [] => rfl
  | p, (key, node) :: rest => by
    unfold lowerSubject
    split
    · exact lower_rename h _ node
    · split
      · split
        · rw [lowerAlternatives_rename h _ 0 _]
          exact bind_transport fun ss => rfl
        · rfl
      · exact lowerSubject_rename h p rest

theorem lowerAlternatives_rename (h : r.Echoes ρ r') : ∀ (p : Path) (i : Nat) (es : List Json),
    lowerAlternatives r' p i es = (lowerAlternatives r p i es).map (Source.renameAll ρ)
  | p, i, [] => rfl
  | p, i, node :: rest => by
    rw [lowerAlternatives, lowerAlternatives, lower_rename h _ node, lowerAlternatives_rename h p (i + 1) rest]
    exact bind_transport fun s => bind_transport fun ss => rfl

end

end Conformance
