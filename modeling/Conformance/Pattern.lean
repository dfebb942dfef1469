import Conformance.Text.Fold
import Conformance.Text.Numeral
import Conformance.Text.Word

/-!
# Text patterns

Regular expressions over characters: what they are and which texts they match. A match is
looked for anywhere in the text, and only whether there is one matters, so greed plays no part.

Matching walks all positions at once. A set of positions is the set of one-bits of a natural
number, and a pattern sends the set where it may begin to the set where it may end.
-/

namespace Conformance

-- powers are those of the core library, whatever algebra is imported beside
attribute [instance (high), default_instance 20000] instPowNat

/-! ## Character sets -/

inductive CharSet where
  | ranges (rs : Ranges)
  | complement (s : CharSet)
  | union (s t : CharSet)
  | inter (s t : CharSet)
  /-- The characters with a case variant in the set. -/
  | folded (s : CharSet)

namespace CharSet

def contains : CharSet → Char → Bool
  | .ranges rs, c => rs.contains c
  | .complement s, c => !s.contains c
  | .union s t, c => s.contains c || t.contains c
  | .inter s t, c => s.contains c && t.contains c
  | .folded s, c => (caseVariants c).any s.contains

def none : CharSet := .ranges []
def single (c : Char) : CharSet := .ranges [(c.toNat, c.toNat)]
def word : CharSet := .ranges wordRanges
def digit : CharSet := .ranges digitRanges
def blank : CharSet := .ranges blankRanges
def all : CharSet := .complement none
def exceptLineFeed : CharSet := .complement (single '\n')
def diff (s t : CharSet) : CharSet := .inter s (.complement t)

def toRanges : CharSet → Ranges
  | .ranges rs => rs.normal
  | .complement s => s.toRanges.complement
  | .union s t => (s.toRanges ++ t.toRanges).normal
  | .inter s t => s.toRanges.inter t.toRanges
  | .folded s =>
    let rs := s.toRanges
    let cased := foldable.filter rs.contains
    (rs ++ cased.flatMap fun c => (caseVariants c).map fun v => (v.toNat, v.toNat)).normal

end CharSet

/-! ## Patterns -/

inductive Anchor where
  | textStart
  | textEnd
  | lineStart
  | lineEnd
  | wordEdge
  | wordInside
  deriving DecidableEq

inductive Pattern where
  | empty
  | one (s : CharSet)
  | anchor (a : Anchor)
  | seq (p q : Pattern)
  | alt (p q : Pattern)
  | times (p : Pattern) (least : Nat) (most : Option Nat)
  /-- A group in parentheses, which may capture what it matches. -/
  | group (capturing : Bool) (p : Pattern)

/-! ## Matching -/

def Anchor.holds : Anchor → Option Char → Option Char → Bool
  | .textStart, before, _ => before.isNone
  | .textEnd, _, after => after.isNone
  | .lineStart, before, _ => before.all (· == '\n')
  | .lineEnd, _, after => after.all (· == '\n')
  | .wordEdge, before, after =>
    before.any CharSet.word.contains != after.any CharSet.word.contains
  | .wordInside, before, after =>
    before.any CharSet.word.contains == after.any CharSet.word.contains

def charMask (f : Char → Bool) : List Char → Nat
  | [] => 0
  | c :: cs => (if f c then 1 else 0) + 2 * charMask f cs

def anchorMask (a : Anchor) (before : Option Char) : List Char → Nat
  | [] => if a.holds before none then 1 else 0
  | c :: cs => (if a.holds before (some c) then 1 else 0) + 2 * anchorMask a (some c) cs

def iterate (step : Nat → Nat) : Nat → Nat → Nat
  | 0, m => m
  | n + 1, m => if m = 0 then 0 else iterate step n (step m)

/-- Up to `n` steps, fewer if a step adds nothing. -/
def accumulate (step : Nat → Nat) : Nat → Nat → Nat
  | 0, m => m
  | n + 1, m =>
    let next := m ||| step m
    if next = m then m else accumulate step n next

/-- A pattern laid over one text: instead of its character sets and anchors it has the positions
where they hold, so that a text is looked at once for each of them. -/
inductive Walk where
  | stay
  | step (places : Nat)
  | hold (places : Nat)
  | seq (p q : Walk)
  | alt (p q : Walk)
  | times (p : Walk) (least rounds : Nat)

def Walk.advance : Walk → Nat → Nat
  | .stay, m => m
  | .step places, m => 2 * (m &&& places)
  | .hold places, m => m &&& places
  | .seq p q, m => q.advance (p.advance m)
  | .alt p q, m => p.advance m ||| q.advance m
  | .times p least rounds, m => accumulate p.advance rounds (iterate p.advance least m)

namespace Pattern

/-- Without an upper count a repetition closes after at most one round for each position. -/
def laidOver (text : List Char) : Pattern → Walk
  | .empty => .stay
  | .one s => .step (charMask s.contains text)
  | .anchor a => .hold (anchorMask a none text)
  | .seq p q => .seq (p.laidOver text) (q.laidOver text)
  | .alt p q => .alt (p.laidOver text) (q.laidOver text)
  | .times p least (some most) => .times (p.laidOver text) least (most - least)
  | .times p least none => .times (p.laidOver text) least (text.length + 1)
  | .group _ p => p.laidOver text

def isMatch (p : Pattern) (s : String) : Bool :=
  let text := s.toList
  (p.laidOver text).advance (2 ^ (text.length + 1) - 1) != 0

end Pattern

end Conformance
