import Conformance.Pattern.Weight
import Conformance.Text.Letter
import Conformance.Value

/-!
# Reading patterns

The syntax: literals, escapes, `.`, bracketed sets with ranges, nesting and set operations,
`\d \w \s` and their complements, anchors, groups with names or flags, alternatives, and
repetitions. There are no look-arounds and no back-references, and what is nested deeper than
`deepestNesting` is refused. Sets named by a property (`\p`), the edges `\<`, `\>` and `\b` with
braces, the flags for spaced patterns and line ends, and sets of bytes are not read.

Each reader takes the characters from its position on and answers with what it read and the
rest. The fuel of the nested readers bounds the nesting together with the length.
-/

namespace Conformance

namespace Pattern

/-! ## Escapes -/

inductive Escape where
  | char (c : Char)
  | set (s : CharSet)
  | anchor (a : Anchor)

def isAsciiSymbol (c : Char) : Bool :=
  c.toNat < 0x80 && !c.isAlphanum && c != '<' && c != '>'

def hexValue? (ds : List Char) : Option Nat :=
  ds.foldl (fun acc c => do
    let n ← acc
    if c.isDigit then some (16 * n + (c.toNat - '0'.toNat))
    else if 'a' ≤ c && c ≤ 'f' then some (16 * n + (c.toNat - 'a'.toNat + 10))
    else if 'A' ≤ c && c ≤ 'F' then some (16 * n + (c.toNat - 'A'.toNat + 10))
    else none) (some 0)

def codePoint? (n : Nat) : Option Char :=
  if n < 0xD800 || (0xDFFF < n && n < 0x110000) then some (Char.ofNat n) else none

def hexEscape? (width : Nat) : List Char → Option (Char × List Char)
  | '{' :: cs =>
    let ds := cs.takeWhile (· != '}')
    if ds.isEmpty || ds.length == cs.length then none
    else do some (← codePoint? (← hexValue? ds), cs.drop (ds.length + 1))
  | cs =>
    if cs.length < width then none
    else do some (← codePoint? (← hexValue? (cs.take width)), cs.drop width)

def escape? : List Char → Option (Escape × List Char)
  | [] => none
  | c :: cs =>
    match c with
    | 'd' => some (.set .digit, cs)
    | 'D' => some (.set (.complement .digit), cs)
    | 'w' => some (.set .word, cs)
    | 'W' => some (.set (.complement .word), cs)
    | 's' => some (.set .blank, cs)
    | 'S' => some (.set (.complement .blank), cs)
    | 'b' => some (.anchor .wordEdge, cs)
    | 'B' => some (.anchor .wordInside, cs)
    | 'A' => some (.anchor .textStart, cs)
    | 'z' => some (.anchor .textEnd, cs)
    | 'a' => some (.char '\x07', cs)
    | 'f' => some (.char '\x0c', cs)
    | 't' => some (.char '\t', cs)
    | 'n' => some (.char '\n', cs)
    | 'r' => some (.char '\r', cs)
    | 'v' => some (.char '\x0b', cs)
    | 'x' => (hexEscape? 2 cs).map fun (c, r) => (.char c, r)
    | 'u' => (hexEscape? 4 cs).map fun (c, r) => (.char c, r)
    | 'U' => (hexEscape? 8 cs).map fun (c, r) => (.char c, r)
    | c => if isAsciiSymbol c then some (.char c, cs) else none

/-! ## Bracketed sets -/

def asciiClass? : List Char → Option Ranges
  | ['a', 'l', 'n', 'u', 'm'] => some [(0x30, 0x39), (0x41, 0x5A), (0x61, 0x7A)]
  | ['a', 'l', 'p', 'h', 'a'] => some [(0x41, 0x5A), (0x61, 0x7A)]
  | ['a', 's', 'c', 'i', 'i'] => some [(0x00, 0x7F)]
  | ['b', 'l', 'a', 'n', 'k'] => some [(0x09, 0x09), (0x20, 0x20)]
  | ['c', 'n', 't', 'r', 'l'] => some [(0x00, 0x1F), (0x7F, 0x7F)]
  | ['d', 'i', 'g', 'i', 't'] => some [(0x30, 0x39)]
  | ['g', 'r', 'a', 'p', 'h'] => some [(0x21, 0x7E)]
  | ['l', 'o', 'w', 'e', 'r'] => some [(0x61, 0x7A)]
  | ['p', 'r', 'i', 'n', 't'] => some [(0x20, 0x7E)]
  | ['p', 'u', 'n', 'c', 't'] => some [(0x21, 0x2F), (0x3A, 0x40), (0x5B, 0x60), (0x7B, 0x7E)]
  | ['s', 'p', 'a', 'c', 'e'] => some [(0x09, 0x0D), (0x20, 0x20)]
  | ['u', 'p', 'p', 'e', 'r'] => some [(0x41, 0x5A)]
  | ['w', 'o', 'r', 'd'] => some [(0x30, 0x39), (0x41, 0x5A), (0x5F, 0x5F), (0x61, 0x7A)]
  | ['x', 'd', 'i', 'g', 'i', 't'] => some [(0x30, 0x39), (0x41, 0x46), (0x61, 0x66)]
  | _ => none

def closeSet (ignoreCase negated : Bool) (s : CharSet) : CharSet :=
  let s := if ignoreCase then .folded s else s
  if negated then .complement s else s

def namedClass? (ignoreCase : Bool) (cs : List Char) : Option (CharSet × List Char) :=
  let (negated, cs) := match cs with
    | '^' :: r => (true, r)
    | _ => (false, cs)
  let name := cs.takeWhile (· != ':')
  match cs.drop name.length with
  | ':' :: ']' :: r =>
    (asciiClass? name).map fun rs => (closeSet ignoreCase negated (.ranges rs), r)
  | _ => none

def member? : List Char → Option ((Char ⊕ CharSet) × List Char)
  | [] => none
  | '\\' :: cs => do
    match ← escape? cs with
    | (.char c, r) => some (.inl c, r)
    | (.set s, r) => some (.inr s, r)
    | (.anchor _, _) => none
  | c :: cs => some (.inl c, cs)

/-- A member or a range of members. A hyphen before a closing bracket or another hyphen makes
no range. -/
def memberRange? (cs : List Char) : Option (CharSet × List Char) := do
  let (first, cs) ← member? cs
  let alone := match first with
    | .inl c => CharSet.single c
    | .inr s => s
  match cs with
  | [] => none
  | '-' :: ']' :: _ | '-' :: '-' :: _ => some (alone, cs)
  | '-' :: cs =>
    match first, ← member? cs with
    | .inl low, (.inl high, r) =>
      if low ≤ high then some (.ranges [(low.toNat, high.toNat)], r) else none
    | _, _ => none
  | cs => some (alone, cs)

inductive SetOperation where
  | inter
  | diff
  | symmetric

/-- The members of a set since its start or its last operation: all of them together, their
count, and how deep the deepest is nested. -/
structure Members where
  set : CharSet
  count : Nat
  depth : Nat

namespace Members

def none : Members := ⟨.none, 0, 0⟩

def add (m : Members) (s : CharSet) (depth : Nat) : Members :=
  ⟨.union m.set s, m.count + 1, max m.depth depth⟩

/-- Several members are nested in their union. -/
def unionDepth (m : Members) : Nat := if m.count ≤ 1 then m.depth else m.depth + 1

end Members

structure Nested where
  set : CharSet
  depth : Nat

def SetOperation.apply (right : Nested) : Option (SetOperation × Nested) → Nested
  | none => right
  | some (op, left) =>
    let s := left.set
    let t := right.set
    let set := match op with
      | .inter => .inter s t
      | .diff => .diff s t
      | .symmetric => .union (.diff s t) (.diff t s)
    ⟨set, max left.depth right.depth + 1⟩

/-- The start of a set after its bracket: negation, leading hyphens, and a closing bracket that
stands for itself. -/
def openSet (cs : List Char) : Bool × Members × List Char :=
  let (negated, cs) := match cs with
    | '^' :: r => (true, r)
    | _ => (false, cs)
  let rest := cs.dropWhile (· == '-')
  if rest.length < cs.length then (negated, ⟨.single '-', cs.length - rest.length, 0⟩, rest)
  else match cs with
    | ']' :: r => (negated, ⟨.single ']', 1, 0⟩, r)
    | _ => (negated, .none, cs)

/-- The members of a set up to its closing bracket. `pending` is the last operation with its left
side. -/
def setBody? (ignoreCase : Bool) : Nat → Option (SetOperation × Nested) → Members → List Char →
    Option (Nested × List Char)
  | 0, _, _, _ => none
  | fuel + 1, pending, members, cs =>
    let side : Nested :=
      ⟨if ignoreCase then .folded members.set else members.set, members.unionDepth⟩
    let whole := SetOperation.apply side pending
    let operate := fun op r => setBody? ignoreCase fuel (some (op, whole)) .none r
    match cs with
    | [] => none
    | ']' :: r => some (whole, r)
    | '&' :: '&' :: r => operate .inter r
    | '-' :: '-' :: r => operate .diff r
    | '~' :: '~' :: r => operate .symmetric r
    | '[' :: r =>
      let named := match r with
        | ':' :: name => namedClass? ignoreCase name
        | _ => none
      match named with
      | some (s, r) => setBody? ignoreCase fuel pending (members.add s 0) r
      | none => do
        let (negated, first, r) := openSet r
        let (s, r) ← setBody? ignoreCase fuel none first r
        let members := members.add (closeSet ignoreCase negated s.set) (s.depth + 1)
        setBody? ignoreCase fuel pending members r
    | cs => do
      let (s, r) ← memberRange? cs
      setBody? ignoreCase fuel pending (members.add s 0) r

/-! ## Groups, flags and counts -/

structure Flags where
  ignoreCase : Bool := false
  multiLine : Bool := false
  dotAll : Bool := false

/-- The reader's position with the flags in force and the group names so far. -/
structure Cursor where
  rest : List Char
  flags : Flags
  names : List (List Char)

def Flags.set? (f : Flags) (on : Bool) : Char → Option Flags
  | 'i' => some { f with ignoreCase := on }
  | 'm' => some { f with multiLine := on }
  | 's' => some { f with dotAll := on }
  | 'U' => some f
  | 'u' => if on then some f else none
  | _ => none

/-- Flags up to a colon or a closing parenthesis, each at most once, a hyphen before those
that are switched off. -/
def flags? (f : Flags) (off : Bool) (seen : List Char) : List Char → Option (Flags × Bool × List Char)
  | [] => none
  | '-' :: cs =>
    if off || cs.head? == some ':' || cs.head? == some ')' then none else flags? f true seen cs
  | ':' :: cs => some (f, true, cs)
  | ')' :: cs => if seen.isEmpty then none else some (f, false, cs)
  | c :: cs => do if seen.contains c then none else flags? (← f.set? (!off) c) off (c :: seen) cs

def isNameStart (c : Char) : Bool := c == '_' || letterRanges.contains c

def isNameChar (c : Char) : Bool :=
  ['_', '.', '[', ']'].contains c || letterRanges.contains c || numeralRanges.contains c

def groupName? (names : List (List Char)) (cs : List Char) : Option (List Char × List Char) :=
  let name := cs.takeWhile (· != '>')
  if name.length == cs.length || names.contains name then none
  else if name.head?.any isNameStart && name.all isNameChar then
    some (name, cs.drop (name.length + 1))
  else none

def decimal? (cs : List Char) : Option (Nat × List Char) :=
  let cs := cs.dropWhile blankRanges.contains
  let ds := cs.takeWhile Char.isDigit
  let n := ds.foldl (fun n c => 10 * n + (c.toNat - '0'.toNat)) 0
  if ds.isEmpty || 2 ^ 32 ≤ n then none
  else some (n, (cs.drop ds.length).dropWhile blankRanges.contains)

def bounds? (cs : List Char) : Option ((Nat × Option Nat) × List Char) := do
  let (least, cs) ← decimal? cs
  match cs with
  | '}' :: r => some ((least, some least), r)
  | ',' :: '}' :: r => some ((least, none), r)
  | ',' :: r =>
    let (most, r) ← decimal? r
    match r with
    | '}' :: r => if least ≤ most then some ((least, some most), r) else none
    | _ => none
  | _ => none

def skipLazy : List Char → List Char
  | '?' :: cs => cs
  | cs => cs

/-! ## Patterns -/

def literal (f : Flags) (c : Char) : Pattern :=
  .one (if f.ignoreCase then .folded (.single c) else .single c)

def ofEscape (f : Flags) : Escape → Pattern
  | .char c => literal f c
  | .set s => .one s
  | .anchor a => .anchor a

structure Piece where
  pattern : Pattern
  depth : Nat

/-- A piece that may be repeated, or that may not. -/
structure Item extends Piece where
  repeatable : Bool

def deepest (ps : List Piece) : Nat := (ps.map Piece.depth).foldl max 0

def jointDepth (ps : List Piece) : Nat :=
  if ps.length ≤ 1 then deepest ps else deepest ps + 1

def joinItems (items : List Item) : Piece :=
  ⟨items.foldl (fun acc i => .seq i.pattern acc) .empty, jointDepth (items.map Item.toPiece)⟩

def joinBranches : List Piece → Piece
  | [] => ⟨.empty, 0⟩
  | [p] => p
  | p :: ps => ⟨.alt p.pattern (chained ps), jointDepth (p :: ps)⟩
where
  chained : List Piece → Pattern
    | [] => .empty
    | [p] => p.pattern
    | p :: ps => .alt p.pattern (chained ps)

mutual

def branches? : Nat → Cursor → Option (List Piece × Cursor)
  | 0, _ => none
  | fuel + 1, cur => do
    let (p, cur) ← items? fuel [] cur
    match cur.rest with
    | '|' :: r =>
      let (ps, cur) ← branches? fuel { cur with rest := r }
      some (p :: ps, cur)
    | _ => some ([p], cur)

def items? : Nat → List Item → Cursor → Option (Piece × Cursor)
  | 0, _, _ => none
  | fuel + 1, items, cur =>
    let next := fun (p : Pattern) (depth : Nat) (r : List Char) =>
      items? fuel (⟨⟨p, depth⟩, true⟩ :: items) { cur with rest := r }
    let repeated := fun (least : Nat) (most : Option Nat) (r : List Char) =>
      match items with
      | ⟨p, true⟩ :: items =>
        items? fuel (⟨⟨.times p.pattern least most, p.depth + 1⟩, true⟩ :: items)
          { cur with rest := skipLazy r }
      | _ => none
    let group := fun (capturing : Bool) (inner : Cursor) => do
      let (ps, closed) ← branches? fuel inner
      let p := joinBranches ps
      match closed.rest with
      | ')' :: r =>
        items? fuel (⟨⟨.group capturing p.pattern, p.depth + 1⟩, true⟩ :: items)
          { rest := r, flags := cur.flags, names := closed.names }
      | _ => none
    match cur.rest with
    | [] | '|' :: _ | ')' :: _ => some (joinItems items, cur)
    | '*' :: r => repeated 0 none r
    | '+' :: r => repeated 1 none r
    | '?' :: r => repeated 0 (some 1) r
    | '{' :: r => do
      let ((least, most), r) ← bounds? r
      repeated least most r
    | '(' :: '?' :: 'P' :: '<' :: r => do
      let (name, r) ← groupName? cur.names r
      group true { cur with rest := r, names := name :: cur.names }
    | '(' :: '?' :: '<' :: r => do
      let (name, r) ← groupName? cur.names r
      group true { cur with rest := r, names := name :: cur.names }
    | '(' :: '?' :: r => do
      match ← flags? cur.flags false [] r with
      | (flags, true, r) => group false { cur with rest := r, flags }
      | (flags, false, r) =>
        items? fuel (⟨⟨.empty, 0⟩, false⟩ :: items) { cur with rest := r, flags }
    | '(' :: r => group true { cur with rest := r }
    | '[' :: r => do
      let (negated, first, r) := openSet r
      let (s, r) ← setBody? cur.flags.ignoreCase fuel none first r
      next (.one (closeSet cur.flags.ignoreCase negated s.set)) (s.depth + 1) r
    | '.' :: r => next (.one (if cur.flags.dotAll then .all else .exceptLineFeed)) 0 r
    | '^' :: r => next (.anchor (if cur.flags.multiLine then .lineStart else .textStart)) 0 r
    | '$' :: r => next (.anchor (if cur.flags.multiLine then .lineEnd else .textEnd)) 0 r
    | '\\' :: r => do
      let (e, r) ← escape? r
      next (ofEscape cur.flags e) 0 r
    | c :: r => next (literal cur.flags c) 0 r

end

def deepestNesting : Nat := 250

def parse? (s : String) : Option Pattern := do
  let cs := s.toList
  let (ps, cur) ← branches? (2 * cs.length + 2) ⟨cs, {}, []⟩
  let p := joinBranches ps
  if cur.rest.isEmpty && p.depth ≤ deepestNesting && p.pattern.fits then some p.pattern else none

end Pattern

/-! ## The engine -/

instance : RegexEngine := ⟨fun source => (Pattern.parse? source).map Pattern.isMatch⟩

end Conformance
