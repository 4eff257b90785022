/-!
# Doubles from exact binary and decimal values

The double nearest to an exact value, rounding to nearest with ties to even, the way
correctly rounded conversions do.

## The model

A double is `M · 2^E` with a 53-bit significand `M` for the normal numbers and the fixed
exponent `E = -1074` below them (the subnormals). Rounding an exact value `m · 2^e` keeps
the bits at or above the quantum of the double's binade, `2^(top - 52)` where `2^top` is
the value's leading bit, but never finer than `2^-1074`. A value whose rounding reaches
`2^1024` is infinite. The bits of the result are built directly, so no step rounds twice.
-/

namespace CrateState

namespace Decimal

/-- The positive infinity of doubles. -/
def infinity : Float := Float.ofBits 0x7FF0000000000000

/-- Rounds `m` to a multiple of `2^drop`, to nearest with ties to even, and divides by
`2^drop`; `sticky` says the exact value lies a little above `m` (some nonzero bits below
it were dropped before). -/
def roundShift (m drop : Nat) (sticky : Bool) : Nat :=
  if drop = 0 then m
  else
    let q := m / Nat.pow 2 drop
    let r := m % Nat.pow 2 drop
    let half := Nat.pow 2 (drop - 1)
    if r > half || (r == half && (sticky || q % 2 == 1)) then q + 1 else q

/-- The double nearest to `m · 2^e`. When `sticky`, the exact value lies strictly between
`m · 2^e` and `(m + 1) · 2^e`; `m` then needs more bits than the double keeps. -/
def floatOfBinary (m : Nat) (e : Int) (sticky : Bool := false) : Float :=
  if m = 0 then 0
  else
    let top : Int := (Nat.log2 m : Int) + e
    let quantum : Int := max (top - 52) (-1074)
    let (mant, ex) :=
      if quantum ≤ e then (m * Nat.pow 2 (e - quantum).toNat, quantum)
      else (roundShift m (quantum - e).toNat sticky, quantum)
    let (mant, ex) := if mant = Nat.pow 2 53 then (Nat.pow 2 52, ex + 1) else (mant, ex)
    if mant = 0 then 0
    else if mant < Nat.pow 2 52 then Float.ofBits mant.toUInt64
    else if ex + 1075 ≥ 2047 then infinity
    else Float.ofBits ((ex + 1075).toNat * Nat.pow 2 52 + (mant - Nat.pow 2 52)).toUInt64

/-- The double nearest to `num / den` (`den > 0`). The quotient is taken with at least 66
bits, and what the division leaves over only breaks ties. -/
def floatOfFraction (num den : Nat) : Float :=
  if num = 0 || den = 0 then 0
  else
    let k : Int := 67 - ((Nat.log2 num : Int) - (Nat.log2 den : Int))
    let (n, d) := if 0 ≤ k then (num * Nat.pow 2 k.toNat, den) else (num, den * Nat.pow 2 (-k).toNat)
    floatOfBinary (n / d) (-k) (n % d ≠ 0)

/-- The double nearest to a natural number. -/
def floatOfNat (n : Nat) : Float := floatOfBinary n 0

/-- The double nearest to `n · 10^e`. -/
def floatOfDecimal (n : Nat) (e : Int) : Float :=
  if 0 ≤ e then floatOfBinary (n * Nat.pow 10 e.toNat) 0
  else floatOfFraction n (Nat.pow 10 (-e).toNat)

end Decimal

end CrateState
