import Conformance.Text.Ranges

/-!
# Encoded ranges

A range of code points becomes sequences of byte ranges: a text of one character of the range
is encoded by bytes that lie in the ranges of one sequence, place by place.
-/

namespace Conformance

abbrev ByteRange := Nat × Nat

def encoded (n : Nat) : List Nat :=
  if n < 0x80 then [n]
  else if n < 0x800 then [0xC0 + n / 0x40, 0x80 + n % 0x40]
  else if n < 0x10000 then [0xE0 + n / 0x1000, 0x80 + n / 0x40 % 0x40, 0x80 + n % 0x40]
  else [0xF0 + n / 0x40000, 0x80 + n / 0x1000 % 0x40, 0x80 + n / 0x40 % 0x40, 0x80 + n % 0x40]

def blockCut? (low high size : Nat) : Option Nat :=
  if low / size = high / size then none
  else if low % size ≠ 0 then some (low / size * size + size - 1)
  else if high % size ≠ size - 1 then some (high / size * size - 1)
  else none

/-- The last code point before a cut of a range whose encodings are not yet one sequence. -/
def cut? (low high : Nat) : Option Nat :=
  match [0x7F, 0x7FF, 0xFFFF].find? fun n => low ≤ n && n < high with
  | some n => some n
  | none =>
    if high ≤ 0x7F then none else [0x40, 0x1000, 0x40000].findSome? (blockCut? low high)

/-- The pieces of a range after all cuts, in ascending order. Surrogates are left out. -/
def pieces : Nat → Nat → Nat → Ranges
  | 0, low, high => [(low, high)]
  | fuel + 1, low, high =>
    if low < 0xE000 && 0xD7FF < high then pieces fuel low 0xD7FF ++ pieces fuel 0xE000 high
    else if high < low then []
    else match cut? low high with
      | some n => pieces fuel low n ++ pieces fuel (n + 1) high
      | none => [(low, high)]

/-- Three lengths, three block sizes with two ends each, and the surrogates are cut at once. -/
def mostCuts : Nat := 12

def encodings (rs : Ranges) : List (List ByteRange) :=
  rs.flatMap fun r => (pieces mostCuts r.1 r.2).map fun p => (encoded p.1).zip (encoded p.2)

end Conformance
