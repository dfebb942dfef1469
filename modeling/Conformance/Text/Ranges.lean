/-!
# Ranges of code points

A property of characters is a list of code point ranges, ends included. In normal form the
ranges ascend with a gap between any two.
-/

namespace Conformance

abbrev Ranges := List (Nat × Nat)

namespace Ranges

def contains (rs : Ranges) (c : Char) : Bool :=
  rs.any fun r => r.1 ≤ c.toNat && c.toNat ≤ r.2

def joinFrom (r : Nat × Nat) : Ranges → Ranges
  | [] => [r]
  | s :: rs => if s.1 ≤ r.2 + 1 then joinFrom (r.1, max r.2 s.2) rs else r :: joinFrom s rs

def normal (rs : Ranges) : Ranges :=
  match rs.mergeSort fun r s => r.1 < s.1 || (r.1 == s.1 && r.2 ≤ s.2) with
  | [] => []
  | r :: rs => joinFrom r rs

def scalar? (low high : Nat) : Option (Nat × Nat) :=
  let low := if 0xD800 ≤ low && low ≤ 0xDFFF then 0xE000 else low
  let high := if 0xD800 ≤ high && high ≤ 0xDFFF then 0xD7FF else high
  if low ≤ high then some (low, high) else none

def gapsFrom (n : Nat) : Ranges → Ranges
  | [] => if n ≤ 0x10FFFF then (scalar? n 0x10FFFF).toList else []
  | r :: rs => (if n < r.1 then (scalar? n (r.1 - 1)).toList else []) ++ gapsFrom (r.2 + 1) rs

def complement (rs : Ranges) : Ranges := gapsFrom 0 rs

def inter (rs ss : Ranges) : Ranges :=
  normal (rs.flatMap fun r => ss.filterMap fun s =>
    let low := max r.1 s.1
    let high := min r.2 s.2
    if low ≤ high then some (low, high) else none)

end Ranges

/-! ## White space -/

def blankRanges : Ranges :=
  [(0x9, 0xD), (0x20, 0x20), (0x85, 0x85), (0xA0, 0xA0), (0x1680, 0x1680), (0x2000, 0x200A),
  (0x2028, 0x2029), (0x202F, 0x202F), (0x205F, 0x205F), (0x3000, 0x3000)]

end Conformance
