import Conformance.Number.Rounding

/-!
# Scaled decimals

A decimal is read as the leading digits that fit 64 bits, scaled by a power of ten. The digits,
the power and the result are each rounded to the nearest number, so up to fifteen digits and
the twenty-second power the result is nearest to the decimal, and beyond it may be a neighbour.
-/

namespace Conformance

/-! ## Digits -/

def appendDigits (n : Nat) : List Nat → Nat × Nat
  | [] => (n, 0)
  | d :: ds =>
    if 10 * n + d < 2 ^ 64 then
      let (m, count) := appendDigits (10 * n + d) ds
      (m, count + 1)
    else (n, 0)

def leadingDigits (whole fraction : List Nat) : Nat × Int :=
  let (n, kept) := appendDigits 0 whole
  let (m, places) := appendDigits n fraction
  (m, (whole.length - kept : Nat) - (places : Int))

/-! ## Powers of ten -/

namespace Number

def ratio : Number → Nat × Nat
  | .finite _ m e _ => (m * 2 ^ e, 2 ^ 1074)
  | _ => (0, 1)

def times (a b : Number) : Number :=
  if a.isZero then a else ofRatio false (a.ratio.1 * b.ratio.1) (a.ratio.2 * b.ratio.2)

def dividedBy (a b : Number) : Number :=
  if a.isZero then a else ofRatio false (a.ratio.1 * b.ratio.2) (a.ratio.2 * b.ratio.1)

def topPower : Nat := 308

def powerOfTen (n : Nat) : Number := ofNat (10 ^ n)

def lowered (a : Number) (n : Nat) : Number :=
  if n ≤ topPower then a.dividedBy (powerOfTen n)
  else if a.isZero then a
  else lowered (a.dividedBy (powerOfTen topPower)) (n - topPower)
termination_by n
decreasing_by simp only [topPower] at *; omega

def raised (a : Number) (n : Nat) : Number :=
  if n ≤ topPower then a.times (powerOfTen n)
  else if a.isZero then a
  else .infinite false

def withSign (negative : Bool) : Number → Number
  | .finite _ m e h => .finite negative m e h
  | .infinite _ => .infinite negative
  | .nan => .nan

def ofDigits (negative : Bool) (whole fraction : List Nat) (exponent : Int) : Number :=
  let (n, scale) := leadingDigits whole fraction
  let e := scale + exponent
  withSign negative
    (if 0 ≤ e then (ofNat n).raised e.toNat else (ofNat n).lowered (-e).toNat)

end Number

end Conformance
