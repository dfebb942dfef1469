/-!
# Instants

Seconds and nanoseconds since the start of 1970, UTC, and their calendar text. Nanoseconds from
a thousand million on belong to a leap second, which prints as second 60.
-/

namespace Conformance

-- powers are those of the core library, whatever algebra is imported beside
attribute [instance (high), default_instance 20000] instPowNat

structure Instant where
  seconds : Int
  nanos : Nat
  deriving DecidableEq

/-- Year, month and day of a day number. Years are counted from March, so that the leap day
comes last, and in eras of 400 years. -/
def civil (day : Int) : Int × Nat × Nat :=
  let z := day + 719468
  let era := z / 146097
  let ofEra := (z % 146097).toNat
  let year := (ofEra - ofEra / 1460 + ofEra / 36524 - ofEra / 146096) / 365
  let ofYear := ofEra - (365 * year + year / 4 - year / 100)
  let fromMarch := (5 * ofYear + 2) / 153
  let month := if fromMarch < 10 then fromMarch + 3 else fromMarch - 9
  (year + era * 400 + (if month ≤ 2 then 1 else 0), month, ofYear - (153 * fromMarch + 2) / 5 + 1)

def padded (width n : Nat) : String :=
  String.ofList (n.repr.toList.leftpad width '0')

/-- Four digits at least; a sign outside the years 0 to 9999. -/
def yearText (y : Int) : String :=
  (if y < 0 then "-" else if 9999 < y then "+" else "") ++ padded 4 y.natAbs

namespace Instant

/-- Calendar date and time of day to the millisecond, the rest cut off. -/
def text (i : Instant) : String :=
  let (year, month, day) := civil (i.seconds / 86400)
  let ofDay := (i.seconds % 86400).toNat
  let second := ofDay % 60 + i.nanos / 10 ^ 9
  yearText year ++ "-" ++ padded 2 month ++ "-" ++ padded 2 day ++ "T" ++
    padded 2 (ofDay / 3600) ++ ":" ++ padded 2 (ofDay / 60 % 60) ++ ":" ++ padded 2 second ++
    "." ++ padded 3 (i.nanos % 10 ^ 9 / 10 ^ 6) ++ "Z"

end Instant

end Conformance
