/-!
# Binary64 numbers

A number is its fields, read as integers: a finite one is `± significand · 2 ^ (exponent - 1074)`.
The bounds of `Canonical` leave each finite value one pair of fields, so `DecidableEq` tells
numbers apart and only `eqv` has to know that zero has two signs.
-/

namespace Conformance

-- powers are those of the core library, whatever algebra is imported beside
attribute [instance (high), default_instance 20000] instPowNat

/-- The field pairs that a finite number may have: full precision, or the lowest scale. -/
def Canonical (significand exponent : Nat) : Prop :=
  significand < 2 ^ 53 ∧ exponent ≤ 2045 ∧ (exponent = 0 ∨ 2 ^ 52 ≤ significand)

instance (m e : Nat) : Decidable (Canonical m e) :=
  inferInstanceAs (Decidable (_ ∧ _ ∧ (_ ∨ _)))

inductive Number where
  | nan
  | infinite (negative : Bool)
  | finite (negative : Bool) (significand exponent : Nat) (canonical : Canonical significand exponent)
  deriving DecidableEq

namespace Number

instance : Inhabited Number := ⟨.nan⟩

def zero : Number := .finite false 0 0 (by decide)

/-! ## Words -/

/-- The number of a 64-bit word: sign, eleven bits of scale, fifty-two bits of fraction. -/
def ofWord (word : Nat) : Number :=
  let negative := word / 2 ^ 63 % 2 == 1
  let scale := word / 2 ^ 52 % 2 ^ 11
  let fraction := word % 2 ^ 52
  have hf : word % 2 ^ 52 < 2 ^ 52 := Nat.mod_lt _ (by decide)
  if hs : scale = 2047 then
    if fraction = 0 then .infinite negative else .nan
  else if h0 : scale = 0 then
    .finite negative fraction 0 ⟨by omega, by omega, .inl rfl⟩
  else
    have hb : scale < 2 ^ 11 := Nat.mod_lt _ (by decide)
    .finite negative (2 ^ 52 + fraction) (scale - 1) ⟨by omega, by omega, .inr (by omega)⟩

def signWord (negative : Bool) : Nat := if negative then 2 ^ 63 else 0

def toWord : Number → Nat
  | .nan => 0x7ff8000000000000
  | .infinite s => signWord s + 2047 * 2 ^ 52
  | .finite s m e _ => signWord s + (if m < 2 ^ 52 then m else (e + 1) * 2 ^ 52 + (m - 2 ^ 52))

/-! ## Comparison -/

def isZero : Number → Bool
  | .finite _ m _ _ => m == 0
  | _ => false

def isFinite : Number → Bool
  | .finite .. => true
  | _ => false

/-- Numeric equality: not-a-number equals nothing, and both zeros are equal. -/
def eqv (a b : Number) : Bool :=
  a != .nan && (a == b || (a.isZero && b.isZero))

/-- A finite value in units of `2 ^ -1074`. -/
def units : Number → Int
  | .finite s m e _ => if s then -(m * 2 ^ e : Nat) else (m * 2 ^ e : Nat)
  | _ => 0

def lt : Number → Number → Bool
  | .nan, _ | _, .nan => false
  | .infinite s, .infinite t => s && !t
  | .infinite s, .finite .. => s
  | .finite .., .infinite t => !t
  | a, b => a.units < b.units

/-! ## Whole numbers -/

def toInt? : Number → Option Int
  | .finite s m e _ =>
    let magnitude? :=
      if 1074 ≤ e then some (m * 2 ^ (e - 1074))
      else if m % 2 ^ (1074 - e) = 0 then some (m / 2 ^ (1074 - e)) else none
    magnitude?.map fun n => if s then -(n : Int) else n
  | _ => none

theorem eqv_self {a : Number} (h : a ≠ .nan) : a.eqv a = true := by
  simp [eqv, h]

end Number

end Conformance
