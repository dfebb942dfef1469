import Conformance.Number.Shortest

/-!
# Number text

`Layout` holds the decisions of a number format, and `Layout.render` writes the shortest
decimal in it. `Number.text` is the text that string patterns see.
-/

namespace Conformance

structure Layout where
  /-- A leading digit between these decimal exponents is written in place, others with `e`. -/
  lowest : Int
  highest : Int
  /-- A whole number keeps a point and a zero. -/
  pointed : Bool
  /-- A positive exponent has its sign. -/
  signed : Bool
  tie : Tie

def zeros (n : Nat) : List Char := List.replicate n '0'

def positional (pointed : Bool) (ds : List Char) (point : Int) : List Char :=
  if point ≤ 0 then '0' :: '.' :: (zeros (-point).toNat ++ ds)
  else
    let n := point.toNat
    if ds.length ≤ n then ds ++ zeros (n - ds.length) ++ (if pointed then ['.', '0'] else [])
    else ds.take n ++ '.' :: ds.drop n

def scientific (signed : Bool) (ds : List Char) (exponent : Int) : List Char :=
  let fraction := ds.drop 1
  let sign := if exponent < 0 then ['-'] else if signed then ['+'] else []
  ds.take 1 ++ (if fraction.isEmpty then [] else '.' :: fraction) ++
    'e' :: sign ++ exponent.natAbs.repr.toList

def Layout.magnitude (l : Layout) (significand exponent : Nat) : List Char :=
  if significand = 0 then positional l.pointed ['0'] 1
  else
    let d := shortest l.tie significand exponent
    let ds := d.digits.repr.toList
    let leading := d.exponent + ds.length - 1
    let ds := (ds.reverse.dropWhile (· == '0')).reverse
    if l.lowest ≤ leading && leading ≤ l.highest then positional l.pointed ds (leading + 1)
    else scientific l.signed ds leading

def Layout.render (l : Layout) : Number → Option String
  | .finite s m e _ => some (String.ofList ((if s then ['-'] else []) ++ l.magnitude m e))
  | _ => none

/-- Plain text is positional from a millionth up to `10 ^ 21`. -/
def Layout.plain : Layout := ⟨-6, 20, false, true, .up⟩

/-- Numbers of a document keep their point and are positional from `10 ^ -5` to below `10 ^ 16`. -/
def Layout.document : Layout := ⟨-5, 15, true, true, .even⟩

/-- Numbers that a filter computes have an exponent without a plus sign, from `10 ^ 16` on and
below `10 ^ -4`. -/
def Layout.computed : Layout := ⟨-4, 15, true, false, .even⟩

/-- Whole numbers below `10 ^ 21` are written with all their digits. -/
def Number.text (n : Number) : String :=
  match n with
  | .nan => "NaN"
  | .infinite s => if s then "-Infinity" else "Infinity"
  | .finite .. =>
    match n.toInt? with
    | some i => if i.natAbs < 10 ^ 21 then toString i else (Layout.plain.render n).getD ""
    | none => (Layout.plain.render n).getD ""

end Conformance
