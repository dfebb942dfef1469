import Conformance.Pattern
import Conformance.Pattern.Encoding

/-!
# Outlines of patterns

An outline is a pattern in a simpler form: neighbouring characters are one text, branches of
single characters or sets are one set, what branches begin with in common stands before them,
and a repetition that repeats nothing is gone.
-/

namespace Conformance

-- sums start from the zero of the core library
attribute [local instance (high)] Zero.ofOfNat0

inductive Outline where
  | empty
  | text (cs : List Char)
  | set (rs : Ranges) (encodings : List (List ByteRange))
  | look (a : Anchor)
  | group (p : Outline)
  | times (p : Outline) (least : Nat) (most : Option Nat)
  | seq (ps : List Outline)
  | alt (ps : List Outline)

namespace Outline

/-! ## Properties -/

mutual

def isSilent : Outline → Bool
  | .empty | .look _ => true
  | .text _ | .set .. => false
  | .group p | .times p _ _ => p.isSilent
  | .seq ps | .alt ps => allSilent ps

def allSilent : List Outline → Bool
  | [] => true
  | p :: ps => p.isSilent && allSilent ps

end

mutual

def consumes : Outline → Bool
  | .empty | .look _ => false
  | .text _ => true
  | .set rs _ => !rs.isEmpty
  | .group p => p.consumes
  | .times p least _ => 0 < least && p.consumes
  | .seq ps => anyConsumes ps
  | .alt ps => allConsume ps

def anyConsumes : List Outline → Bool
  | [] => false
  | p :: ps => p.consumes || anyConsumes ps

def allConsume : List Outline → Bool
  | [] => true
  | p :: ps => p.consumes && allConsume ps

end

mutual

def opens (a : Anchor) : Outline → Bool
  | .empty | .text _ | .set .. => false
  | .look b => a == b
  | .group p => p.opens a
  | .times p least _ => 0 < least && p.opens a
  | .seq ps => firstOpens a ps
  | .alt ps => allOpen a ps

def firstOpens (a : Anchor) : List Outline → Bool
  | [] => false
  | p :: ps => p.opens a || (p.isSilent && firstOpens a ps)

def allOpen (a : Anchor) : List Outline → Bool
  | [] => true
  | p :: ps => p.opens a && allOpen a ps

end

mutual

def closes (a : Anchor) : Outline → Bool
  | .empty | .text _ | .set .. => false
  | .look b => a == b
  | .group p => p.closes a
  | .times p least _ => 0 < least && p.closes a
  | .seq ps => lastCloses a ps
  | .alt ps => allClose a ps

def lastCloses (a : Anchor) : List Outline → Bool
  | [] => false
  | p :: ps => lastCloses a ps || (allSilent ps && p.closes a)

def allClose (a : Anchor) : List Outline → Bool
  | [] => true
  | p :: ps => p.closes a && allClose a ps

end

mutual

/-- Equal outlines; a group is only equal to itself. -/
def same : Outline → Outline → Bool
  | .empty, .empty => true
  | .text cs, .text ds => cs == ds
  | .set rs _, .set ss _ => rs == ss
  | .look a, .look b => a == b
  | .times p l m, .times q l' m' => l == l' && m == m' && p.same q
  | .seq ps, .seq qs | .alt ps, .alt qs => allSame ps qs
  | _, _ => false

def allSame : List Outline → List Outline → Bool
  | [], [] => true
  | p :: ps, q :: qs => p.same q && allSame ps qs
  | _, _ => false

end

/-! ## Simplification -/

def ofRanges (rs : Ranges) : Outline :=
  match rs with
  | [(low, high)] =>
    if low = high then .text [Char.ofNat low] else .set rs (encodings rs)
  | _ => .set rs (encodings rs)

def parts : Outline → List Outline
  | .empty => []
  | .seq ps => ps
  | p => [p]

def joinTexts : List Outline → List Outline
  | [] => []
  | p :: ps =>
    match p, joinTexts ps with
    | .text cs, .text ds :: qs => .text (cs ++ ds) :: qs
    | p, qs => p :: qs

def join (ps : List Outline) : Outline :=
  match joinTexts (ps.flatMap parts) with
  | [] => .empty
  | [p] => p
  | qs => .seq qs

def branches : Outline → List Outline
  | .alt ps => ps
  | p => [p]

def character? : Outline → Option (Nat × Nat)
  | .text [c] => some (c.toNat, c.toNat)
  | _ => none

def members? : Outline → Option Ranges
  | .set rs _ => some rs
  | _ => none

def commonStart : List Outline → List Outline → List Outline
  | p :: ps, q :: qs => if p.same q then p :: commonStart ps qs else []
  | _, _ => []

/-- What all branches begin with, if each has several parts. -/
def sharedStart (ps : List Outline) : List Outline :=
  match ps.mapM fun | .seq qs => some qs | _ => none with
  | some (qs :: rest) => rest.foldl commonStart qs
  | _ => []

/-- One of several, with as many rounds of taking out what they begin with. -/
def choose : Nat → List Outline → Outline
  | rounds, ps =>
    match ps.flatMap branches with
    | [p] => p
    | ps =>
      match ps.mapM character?, ps.mapM members? with
      | some chars, _ => ofRanges (Ranges.normal chars)
      | none, some sets => ofRanges (Ranges.normal sets.flatten)
      | none, none =>
        match rounds, sharedStart ps with
        | 0, _ | _, [] => .alt ps
        | rounds + 1, start =>
          let rests := ps.map fun p => join (p.parts.drop start.length)
          join (start ++ [choose rounds rests])

/-- One of several branches. Every round shortens them. -/
def oneOf : List Outline → Outline
  | [p] => p
  | ps => choose (ps.map fun p => p.parts.length).sum ps

/-- A repetition of what is silent is one or none. -/
def repeated (p : Outline) (least : Nat) (most : Option Nat) : Outline :=
  let (least, most) :=
    if p.isSilent then (min least 1, some (min (most.getD 1) 1)) else (least, most)
  if most = some 0 then .empty
  else if least = 1 && most = some 1 then p
  else .times p least most

def ofAlternatives : Pattern → List Outline
  | .empty => [.empty]
  | .one s => [ofRanges s.toRanges]
  | .anchor a => [.look a]
  | .seq p q => [join [oneOf (ofAlternatives p), oneOf (ofAlternatives q)]]
  | .alt p q => oneOf (ofAlternatives p) :: ofAlternatives q
  | .times p least most => [repeated (oneOf (ofAlternatives p)) least most]
  | .group true p => [.group (oneOf (ofAlternatives p))]
  | .group false p => [oneOf (ofAlternatives p)]

def ofPattern (p : Pattern) : Outline := oneOf (ofAlternatives p)

end Outline

end Conformance
