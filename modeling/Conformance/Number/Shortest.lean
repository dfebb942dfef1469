import Conformance.Number

/-!
# Shortest decimals

The decimal with the fewest digits that reads back as a given number: of the grids with
1, 2, … 17 digits the first that has a point in the number's rounding interval, and on it the
point nearest to the number. On each grid only the two neighbours of the number are tried.
-/

namespace Conformance

inductive Tie where
  | up
  | even
  deriving DecidableEq

/-- The decimal `digits · 10 ^ exponent`. -/
structure Decimal where
  digits : Nat
  exponent : Int
  deriving DecidableEq

/-- The reals that round to `significand · 2 ^ exponent`, four units to the unit of the format:
the ends belong to it if the significand is even. -/
structure RoundingInterval where
  low : Nat
  middle : Nat
  high : Nat
  closed : Bool

/-- Below a power of two the neighbour is half as far as above it. -/
def RoundingInterval.around (significand exponent : Nat) : RoundingInterval :=
  let unit := 2 ^ exponent
  let below := if significand = 2 ^ 52 && exponent != 0 then unit else 2 * unit
  { low := 4 * significand * unit - below
    middle := 4 * significand * unit
    high := 4 * significand * unit + 2 * unit
    closed := significand % 2 == 0 }

/-- The decimal exponent of the leading digit of `n · 2 ^ -1076`. -/
def decade (n : Nat) : Int :=
  (n * 10 ^ 340 / 2 ^ 1076).repr.length - 341

/-- The point of the grid `10 ^ step` in the interval that is nearest to its middle. -/
def RoundingInterval.onGrid? (i : RoundingInterval) (tie : Tie) (step : Int) : Option Decimal :=
  let fine := 10 ^ (-step).toNat
  let coarse := 10 ^ step.toNat * 2 ^ 1076
  let g := i.middle * fine / coarse
  let r := i.middle * fine % coarse
  let inside := fun g =>
    if i.closed then i.low * fine ≤ g * coarse && g * coarse ≤ i.high * fine
    else i.low * fine < g * coarse && g * coarse < i.high * fine
  let upper : Bool := match tie with
    | .up => coarse ≤ 2 * r
    | .even => coarse < 2 * r || (2 * r == coarse && g % 2 == 1)
  match inside g, inside (g + 1) with
  | true, true => some ⟨if upper then g + 1 else g, step⟩
  | true, false => some ⟨g, step⟩
  | false, true => some ⟨g + 1, step⟩
  | false, false => none

def shortest (tie : Tie) (significand exponent : Nat) : Decimal :=
  let i := RoundingInterval.around significand exponent
  let top := decade i.middle
  ((List.range 17).findSome? fun (n : Nat) => i.onGrid? tie (top - n)).getD ⟨0, 0⟩

end Conformance
