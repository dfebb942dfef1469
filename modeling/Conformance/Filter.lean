import Conformance.Filter.Order

/-!
# Filters

A filter turns an item into any number of items. One of its outputs may be a failure; the
others go on, but whoever takes all outputs stops at the first failure.
-/

namespace Conformance

inductive Comparison where
  | lt
  | le
  | gt
  | ge
  | eq
  | ne
  deriving DecidableEq

def Comparison.holds : Comparison → Ordering → Bool
  | .lt, o => o == .lt
  | .le, o => o != .gt
  | .gt, o => o == .gt
  | .ge, o => o != .lt
  | .eq, o => o == .eq
  | .ne, o => o != .eq

mutual

inductive Filter where
  | self
  | descend
  | literal (v : Item)
  | join (parts : List Filter)
  | path (f : Filter) (steps : List Filter.Step)
  | attempt (f : Filter)
  | negate (f : Filter)
  | comma (f g : Filter)
  | pipe (f g : Filter)
  | compare (c : Comparison) (f g : Filter)
  | collect (f : Option Filter)
  | build (entries : List (Filter × Filter))
  | call (name : String) (args : List Filter)
  | variable (name : String)

/-- A step of a path. A lenient one has no outputs where it fails. -/
inductive Filter.Step where
  | each (lenient : Bool)
  | index (i : Filter) (lenient : Bool)
  | slice (low high : Option Filter) (lenient : Bool)

end

/-- A filter that is no filter, one with unknown names, one that fails on its input, and an
output that is no document. -/
inductive FilterError where
  | unreadable
  | undefined
  | failed
  | unwritable
  deriving DecidableEq

namespace Filter

/-- The outputs of a filter; nothing stands for a failure. -/
abbrev Outputs := List (Option Item)

def bindOutputs (outs : Outputs) (f : Item → Outputs) : Outputs :=
  outs.flatMap fun
    | some v => f v
    | none => [none]

def gather (outs : Outputs) : Option (List Item) := outs.mapM id

/-! ## Operations on items -/

def truthy : Item → Bool
  | .null | .bool false => false
  | _ => true

def place? (i : Int) (size : Nat) : Option Nat :=
  if 0 ≤ i then some i.toNat else if -i ≤ size then some (size - (-i).toNat) else none

def element : Item → Item → Option Item
  | .array es, .whole i => some (((place? i es.length).bind (es[·]?)).getD .null)
  | .object fs, .string k => some ((Entries.get? fs k).getD .null)
  | _, _ => none

def bound (start : Nat) (size : Nat) : Option Item → Option Nat
  | none => some start
  | some (.whole i) => some (min size ((place? i size).getD 0))
  | some _ => none

def cut {α : Type} (low high : Option Item) (xs : List α) : Option (List α) := do
  let l ← bound 0 xs.length low
  let h ← bound xs.length xs.length high
  some ((xs.take h).drop l)

def excerpt (v : Item) (low high : Option Item) : Option Item :=
  match v with
  | .array es => (cut low high es).map .array
  | .string s => (cut low high s.toList).map fun cs => .string (String.ofList cs)
  | _ => none

def children : Item → Outputs
  | .array es => es.map some
  | .object fs => fs.map fun f => some f.2
  | _ => [none]

mutual

def within : Item → List Item
  | .array es => .array es :: withinElements es
  | .object fs => .object fs :: withinFields fs
  | v => [v]

def withinElements : List Item → List Item
  | [] => []
  | e :: es => within e ++ withinElements es

def withinFields : List (String × Item) → List Item
  | [] => []
  | (_, v) :: fs => within v ++ withinFields fs

end

def lengthOf : Item → Option Item
  | .null => some (.ofNat 0)
  | .bool _ => none
  | .whole i => some (.wrapped i.natAbs)
  | .decimal _ n => some (.ofNumber n.magnitude)
  | .string s => some (.ofNat s.length)
  | .array es => some (.ofNat es.length)
  | .object fs => some (.ofNat fs.length)

def opposite : Item → Option Item
  | .whole i => some (.wrapped (-i))
  | .decimal _ n => some (.ofNumber n.negated)
  | _ => none

def keysOf : Item → Option Item
  | .array es => some (.array ((List.range es.length).map .ofNat))
  | .object fs => some (.array ((Item.sortedKeys fs).map .string))
  | _ => none

/-! ## Selections -/

inductive Selection where
  | each
  | index (i : Item)
  | slice (low high : Option Item)

def Selection.outputs (v : Item) : Selection → Outputs
  | .each => children v
  | .index i => [element v i]
  | .slice low high => [excerpt v low high]

structure Choice where
  selection : Selection
  lenient : Bool

def Choice.outputs (c : Choice) (v : Item) : Outputs :=
  let outs := c.selection.outputs v
  if c.lenient then outs.filter Option.isSome else outs

def follow : List Choice → Item → Outputs
  | [], v => [some v]
  | c :: cs, v => bindOutputs (c.outputs v) (follow cs)

/-! ## Names -/

def known : List (String × Nat) :=
  [("empty", 0), ("error", 0), ("error", 1), ("keys", 0), ("length", 0), ("numbers", 0),
    ("not", 0), ("nan", 0), ("infinite", 0), ("null", 0), ("true", 0), ("false", 0),
    ("select", 1), ("map", 1)]

mutual

def isDefined : Filter → Bool
  | .self | .descend | .literal _ | .collect none => true
  | .variable _ => false
  | .join fs => allDefined fs
  | .path f steps => f.isDefined && stepsDefined steps
  | .attempt f | .negate f | .collect (some f) => f.isDefined
  | .comma f g | .pipe f g | .compare _ f g => f.isDefined && g.isDefined
  | .build entries => entriesDefined entries
  | .call name args => known.contains (name, args.length) && allDefined args

def optionDefined : Option Filter → Bool
  | none => true
  | some f => f.isDefined

def stepsDefined : List Step → Bool
  | [] => true
  | .each _ :: steps => stepsDefined steps
  | .index f _ :: steps => f.isDefined && stepsDefined steps
  | .slice low high _ :: steps => optionDefined low && optionDefined high && stepsDefined steps

def entriesDefined : List (Filter × Filter) → Bool
  | [] => true
  | (k, v) :: rest => k.isDefined && v.isDefined && entriesDefined rest

def allDefined : List Filter → Bool
  | [] => true
  | f :: fs => f.isDefined && allDefined fs

end

/-! ## Running -/

def constant (name : String) (v : Item) : Outputs :=
  match name with
  | "empty" => []
  | "keys" => [keysOf v]
  | "length" => [lengthOf v]
  | "numbers" => if v.rank = 3 then [some v] else []
  | "not" => [some (.bool !truthy v)]
  | "nan" => [some (.ofNumber .nan)]
  | "infinite" => [some (.ofNumber (.infinite false))]
  | "null" => [some .null]
  | "true" => [some (.bool true)]
  | "false" => [some (.bool false)]
  | _ => [none]

def applied (name : String) (run : Item → Outputs) (v : Item) : Outputs :=
  match name with
  | "select" => bindOutputs (run v) fun w => if truthy w then [some v] else []
  | "map" => [(gather (bindOutputs (children v) run)).map .array]
  | _ => (run v).map fun _ => none

mutual

def run : Filter → Item → Outputs
  | .self, v => [some v]
  | .descend, v => (within v).map some
  | .literal w, _ => [some w]
  | .join parts, v => runParts "" parts v
  | .path f steps, v =>
    bindOutputs (f.run v) fun w =>
      (choices steps v).flatMap fun
        | some cs => follow cs w
        | none => [none]
  | .attempt f, v => (f.run v).takeWhile Option.isSome
  | .negate f, v => bindOutputs (f.run v) fun w => [opposite w]
  | .comma f g, v => f.run v ++ g.run v
  | .pipe f g, v => bindOutputs (f.run v) g.run
  | .compare c f g, v =>
    bindOutputs (f.run v) fun w =>
      bindOutputs (g.run v) fun x => [some (.bool (c.holds (w.order x)))]
  | .collect none, _ => [some (.array [])]
  | .collect (some f), v => [(gather (f.run v)).map .array]
  | .build entries, v => runEntries [] entries v
  | .call name [], v => constant name v
  | .call name (f :: _), v => applied name f.run v
  | .variable _, _ => [none]

def runParts (done : String) : List Filter → Item → Outputs
  | [], _ => [some (.string done)]
  | f :: fs, v => bindOutputs (f.run v) fun w => runParts (done ++ w.plain) fs v

def runEntries (fields : Entries Item) : List (Filter × Filter) → Item → Outputs
  | [], _ => [some (.object fields)]
  | (k, f) :: rest, v =>
    bindOutputs (k.run v) fun key =>
      bindOutputs (f.run v) fun w =>
        match key with
        | .string key => runEntries (Entries.insert fields key w) rest v
        | _ => [none]

/-- The ways to choose an index or bounds for every step, all of them outputs on one item. A
way is a failure if an output in it is. -/
def choices : List Step → Item → List (Option (List Choice))
  | [], _ => [some []]
  | .each lenient :: steps, v => extend [some ⟨.each, lenient⟩] (choices steps v)
  | .index f lenient :: steps, v =>
    extend ((f.run v).map fun i => i.map fun i => ⟨.index i, lenient⟩) (choices steps v)
  | .slice low high lenient :: steps, v =>
    let slices := (runOption low v).flatMap fun l => (runOption high v).map fun h => do
      some ⟨.slice (← l) (← h), lenient⟩
    extend slices (choices steps v)
where
  extend (cs : List (Option Choice)) (rest : List (Option (List Choice))) :
      List (Option (List Choice)) :=
    cs.flatMap fun c => rest.map fun r => do some ((← c) :: (← r))

def runOption : Option Filter → Item → List (Option (Option Item))
  | none, _ => [some none]
  | some f, v => (f.run v).map fun o => o.map some

end

end Filter

end Conformance
