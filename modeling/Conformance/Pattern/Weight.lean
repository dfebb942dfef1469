import Conformance.Pattern.Outline
import Std.Data.TreeMap

/-!
# The weight of a pattern

A pattern weighs what its automata take in memory, of which one reads a text forwards and one
backwards. Counted repetitions multiply what they repeat. A pattern is refused if either
automaton weighs more than `weightLimit` bytes.
-/

namespace Conformance

inductive Direction where
  | forwards
  | backwards
  deriving DecidableEq

/-- The states of an automaton so far, and the bytes that they take beyond their own size. -/
structure Load where
  states : Nat
  extra : Nat

namespace Load

def stateSize : Nat := 32

def rangeSize : Nat := 8

def jumpSize : Nat := 4

def bytes (l : Load) : Nat := stateSize * l.states + l.extra

def weightLimit : Nat := 10 * 2 ^ 20

def fits (l : Load) : Bool := l.bytes ≤ weightLimit

def withStates (l : Load) (n : Nat) : Load := { l with states := l.states + n }
def withRanges (l : Load) (n : Nat) : Load := { l with extra := l.extra + rangeSize * n }
def withJumps (l : Load) (n : Nat) : Load := { l with extra := l.extra + jumpSize * n }

/-- As many rounds as asked for, or as fit. -/
def rounds (step : Load → Load) : Nat → Load → Load
  | 0, l => l
  | n + 1, l => if l.fits then rounds step n (step l) else l

/-! ## Shared states

States that read the same are built once, if a table remembers them: it has a fixed count of
slots, and a state pushes out the one before it in its slot. -/

abbrev Table (α : Type) := Std.TreeMap UInt64 (α × Nat)

def mix (h : UInt64) (n : Nat) : UInt64 := (h ^^^ n.toUInt64) * 1099511628211

/-- The slot of the numbers, out of as many slots. -/
def slot (slots : UInt64) (ns : List Nat) : UInt64 := ns.foldl mix 14695981039346656037 % slots

/-- The state for a key, built by `build` unless the table has it. -/
def shared {α : Type} [DecidableEq α] (table : Table α) (place : UInt64) (key : α)
    (build : Load → Load) (l : Load) : Nat × Table α × Load :=
  let fresh := (l.states, table.insert place (key, l.states), build l)
  match table[place]? with
  | some (k, state) => if k = key then (state, table, l) else fresh
  | none => fresh

abbrev Node := List (ByteRange × Nat)

def nodeSlot (node : Node) : UInt64 :=
  slot 10000 (node.flatMap fun t => [t.1.1, t.1.2, t.2])

/-- The state that reads the sequences, which ascend and are at most `depth` long, and ends in
`goal`. Sequences with the same first range go on from one state. -/
def tree (goal : Nat) : Nat → List (List ByteRange) → Table Node × Load → Nat × Table Node × Load
  | 0, _, tl => (goal, tl)
  | depth + 1, seqs, tl =>
    let groups := seqs.splitBy fun a b => a.head? == b.head?
    let (node, table, l) := groups.foldl (fun (node, tl) group =>
      let tails := (group.map List.tail).filter fun tail => !tail.isEmpty
      let (next, tl) := if tails.isEmpty then (goal, tl) else tree goal depth tails tl
      (node ++ (group.head?.bind List.head?).toList.map fun r => (r, next), tl)) (([] : Node), tl)
    shared table (nodeSlot node) node (fun l => (l.withStates 1).withRanges node.length) l

/-- A sequence read from its last range to its first. States are shared from the first on. -/
def chain (table : Table (Nat × ByteRange)) (goal : Nat) (l : Load) :
    List ByteRange → Table (Nat × ByteRange) × Load
  | [] => (table, l)
  | r :: rs =>
    let (state, table, l) :=
      shared table (slot 1000 [goal, r.1, r.2]) (goal, r) (fun l => l.withStates 1) l
    chain table state l rs

/-- The states of a set. If all its characters are single bytes, two are enough. -/
def set (d : Direction) (rs : Ranges) (encodings : List (List ByteRange)) (l : Load) : Load :=
  if rs.all fun r => r.2 ≤ 0x7F then (l.withStates 2).withRanges rs.length
  else match d with
    | .forwards => (tree l.states 4 encodings ({}, l.withStates 1)).2.2
    | .backwards =>
      let goal := l.states + 1
      let chains := fun (tl : Table (Nat × ByteRange) × Load) seq => chain tl.1 goal tl.2 seq
      (encodings.foldl chains ({}, (l.withStates 2).withJumps encodings.length)).2

/-! ## Branches of texts -/

/-- Splits at the empty texts. -/
def runs : List (List Nat) → List (List (List Nat))
  | [] => [[]]
  | [] :: ts => [] :: runs ts
  | t :: ts =>
    match runs ts with
    | r :: rs => (t :: r) :: rs
    | [] => [[t]]

/-- The states that read one of the texts from a common start on. Texts that lie between two
that end here share a state. -/
def texts : Nat → List (List Nat) → Load → Load
  | 0, _, l => l
  | depth + 1, ts, l =>
    let rs := runs ts
    let l := rs.foldl (fun l r =>
      let heads := (r.filterMap List.head?).eraseDups
      let l := heads.foldl (fun l h =>
        let tails := r.filterMap fun t => if t.head? = some h then some t.tail else none
        if tails.all List.isEmpty then l else texts depth tails l) l
      match heads.length with
      | 0 => l
      | 1 => l.withStates 1
      | n => (l.withStates 1).withRanges n) l
    match (rs.filter fun r => !r.isEmpty).length + (rs.length - 1) with
    | 1 => l
    | n => (l.withStates 1).withJumps n

end Load

namespace Outline

def bytes (cs : List Char) : List Nat := cs.flatMap fun c => encoded c.toNat

def text? : Outline → Option (List Nat)
  | .text cs => some (bytes cs)
  | _ => none

/-! ## Loads -/

mutual

def load (d : Direction) : Outline → Load → Load
  | .empty, l | .look _, l => l.withStates 1
  | .text cs, l => l.withStates (bytes cs).length
  | .set rs encodings, l => l.set d rs encodings
  | .group p, l =>
    match d with
    | .forwards => (p.load d (l.withStates 1)).withStates 1
    | .backwards => p.load d l
  | .times p least most, l =>
    match least, most with
    | 0, some 1 => ((p.load d (l.withStates 1)).withStates 1).withJumps 2
    | 0, none =>
      if p.consumes then (p.load d (l.withStates 1)).withJumps 2
      else ((p.load d l).withStates 3).withJumps 4
    | n, none => ((Load.rounds (p.load d) n l).withStates 1).withJumps 2
    | n, some m =>
      let l := if n = 0 then l.withStates 1 else Load.rounds (p.load d) n l
      if n = m then l
      else Load.rounds (fun l => p.load d ((l.withStates 1).withJumps 2)) (m - n) (l.withStates 1)
  | .seq ps, l =>
    match d with
    | .forwards => loadAll d ps l
    | .backwards => loadBack d ps l
  | .alt ps, l =>
    match ps.mapM text? with
    | some ts =>
      let ts := if d = .backwards then ts.map List.reverse else ts
      Load.texts ((ts.map List.length).foldl max 0 + 1) ts (l.withStates 1)
    | none => (loadBranches d 0 ps l).withJumps ps.length

def loadAll (d : Direction) : List Outline → Load → Load
  | [], l => l
  | p :: ps, l => loadAll d ps (p.load d l)

/-- Two states, which part and join the branches, come after the first two of them. -/
def loadBranches (d : Direction) (i : Nat) : List Outline → Load → Load
  | [], l => l
  | p :: ps, l =>
    let l := p.load d l
    loadBranches d (i + 1) ps (if i = 1 then l.withStates 2 else l)

/-- The last one first. -/
def loadBack (d : Direction) : List Outline → Load → Load
  | [], l => l
  | p :: ps, l => p.load d (loadBack d ps l)

end

/-- A whole automaton begins with a state, or with three that skip any bytes if a match may
begin anywhere, and ends with one that accepts. Forwards the whole match is a group. -/
def automaton (d : Direction) (p : Outline) : Load :=
  match d with
  | .forwards => ((Outline.group p).load d (start (p.opens .textStart))).withStates 1
  | .backwards => (p.load d (start (p.closes .textEnd))).withStates 1
where
  start (anchored : Bool) : Load :=
    if anchored then ⟨1, 0⟩ else (Load.withRanges ⟨3, 0⟩ 1).withJumps 2

end Outline

def Pattern.fits (p : Pattern) : Bool :=
  let outline := Outline.ofPattern p
  (outline.automaton .forwards).fits && (outline.automaton .backwards).fits

end Conformance
