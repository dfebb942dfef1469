import Conformance.Number

/-!
# Nearest numbers

Ratios and integers are rounded to the nearest binary64 number, an exact half to the even
significand, in exact integer arithmetic.
-/

namespace Conformance

def nearestEven (num den : Nat) : Nat :=
  let q := num / den
  let r := num % den
  if 2 * r < den then q else if den < 2 * r then q + 1 else q + q % 2

namespace Number

/-- What is too large for the scale is infinite. -/
def ofFields (negative : Bool) (significand exponent : Nat) : Number :=
  if h : Canonical significand exponent then .finite negative significand exponent h
  else .infinite negative

def ofRatio (negative : Bool) (num den : Nat) : Number :=
  let bits := (num * 2 ^ 1074 / den).log2 + 1
  let e := bits - 53
  let m := nearestEven (num * 2 ^ 1074) (den * 2 ^ e)
  if m = 2 ^ 53 then ofFields negative (2 ^ 52) (e + 1) else ofFields negative m e

def ofNat (n : Nat) : Number := if n = 0 then zero else ofRatio false n 1

def ofInt (i : Int) : Number :=
  if i = 0 then zero else ofRatio (i < 0) i.natAbs 1

/-- The number nearest to `n * 10 ^ scale`. Far beyond the largest number it is infinite, and
far below the least one zero. -/
def ofDecimal (n : Nat) (scale : Int) : Number :=
  if n = 0 then zero
  else
    let leading := (n.log2 : Int) / 4 + scale
    if 400 < leading then .infinite false
    else if (n.log2 : Int) + scale < -400 then zero
    else if 0 ≤ scale then ofRatio false (n * 10 ^ scale.toNat) 1
    else ofRatio false n (10 ^ (-scale).toNat)

def negated : Number → Number
  | .nan => .nan
  | .infinite s => .infinite !s
  | .finite s m e h => .finite (!s) m e h

def magnitude : Number → Number
  | .nan => .nan
  | .infinite _ => .infinite false
  | .finite _ m e h => .finite false m e h

end Number

end Conformance
