import CrateState.Decimal.Binary

/-!
# Shortest decimal text of a double

A finite double is exactly `m · 2^q`. Its shortest decimal has the fewest significant digits
that read back to the same double, the nearest to the exact value among those of that length
(the even last digit on a tie). The search tries 1, 2, … 17 digits; at each length only the
exact value's two neighbours on the grid can read back first, so those are tested, in exact
`Nat` arithmetic.

* `Decimal.positional` writes all digits, no exponent (`100000000000000000000`,
  `0.0000001`), as general number display does;
* `Decimal.compact` is positional between `1e-5` and `1e16`, else one digit, a point, the
  rest and `e` with the exponent, always with a fractional part (`2.0`, `1e20`), as JSON
  numbers are written.
-/

namespace CrateState

namespace Decimal

/-- A finite double split into sign and exact value `mantissa · 2^exponent`. -/
structure Exact where
  /-- Whether the sign bit is set. -/
  negative : Bool
  /-- The integer significand. -/
  mantissa : Nat
  /-- The binary exponent. -/
  exponent : Int

/-- The exact value of a finite double; `none` for an infinity or NaN. -/
def exact (f : Float) : Option Exact :=
  let bits : Nat := f.toBits.toNat
  let negative : Bool := bits / Nat.pow 2 63 % 2 == 1
  let e : Nat := bits / Nat.pow 2 52 % 2048
  let m : Nat := bits % Nat.pow 2 52
  if e = 2047 then none
  else if e = 0 then some ⟨negative, m, -1074⟩
  else some ⟨negative, m + Nat.pow 2 52, Int.ofNat e - 1075⟩

/-- Number of decimal digits of a positive number (1 for zero). -/
def digitCount (n : Nat) : Nat := (Nat.toDigits 10 n).length

/-- The exact value as a fraction `num / den`. -/
def Exact.fraction (x : Exact) : Nat × Nat :=
  if 0 ≤ x.exponent then (x.mantissa * Nat.pow 2 x.exponent.toNat, 1)
  else (x.mantissa, Nat.pow 2 (-x.exponent).toNat)

/-- The decimal exponent `k` with `10^k ≤ num/den < 10^(k+1)`, for `num > 0`. -/
def magnitude (num den : Nat) : Int :=
  if den ≤ num then (digitCount (num / den) : Int) - 1
  else
    let t := digitCount (den / num)
    if num * Nat.pow 10 (t - 1) ≥ den then -((t - 1 : Nat) : Int) else -(t : Int)

/-- Whether the decimal `n · 10^e` reads back to the double `f`. -/
def readsBack (f : Float) (n : Nat) (e : Int) : Bool :=
  (floatOfDecimal n e).toBits == f.toBits

/-- `floor (num/den / 10^e)` and whether the division left a remainder. -/
def scaledFloor (num den : Nat) (e : Int) : Nat × Bool :=
  if 0 ≤ e then
    let d := den * Nat.pow 10 e.toNat
    (num / d, num % d ≠ 0)
  else
    let n := num * Nat.pow 10 (-e).toNat
    (n / den, n % den ≠ 0)

/-- Twice the distance of `n · 10^e` from `num/den`, as a fraction over a common
denominator: used only to compare two candidates. -/
def distance (num den : Nat) (n : Nat) (e : Int) : Nat :=
  if 0 ≤ e then
    let a := n * Nat.pow 10 e.toNat * den
    if a ≥ num then a - num else num - a
  else
    let s := Nat.pow 10 (-e).toNat
    let a := n * den
    let b := num * s
    if a ≥ b then a - b else b - a

/-- The shortest decimal `(digits, exponent)` of a positive finite double `f` with exact
value `num/den`, trying `d` significant digits for `d` from `start` up to 17. -/
def search (f : Float) (num den : Nat) (k : Int) : Nat → Nat → Option (Nat × Int)
  | 0, _ => none
  | fuel + 1, d =>
    let e := k - (d : Int) + 1
    let (lo, rem) := scaledFloor num den e
    let loOk := readsBack f lo e
    let hiOk := rem && readsBack f (lo + 1) e
    if loOk && hiOk then
      let dLo := distance num den lo e
      let dHi := distance num den (lo + 1) e
      if dHi < dLo || (dHi == dLo && lo % 2 == 1) then some (lo + 1, e)
      else some (lo, e)
    else if loOk then some (lo, e)
    else if hiOk then some (lo + 1, e)
    else search f num den k fuel (d + 1)

/-- Removes trailing zeros: `(1200, -2)` becomes `(12, 0)`. -/
def trim : Nat → Nat → Int → Nat × Int
  | 0, n, e => (n, e)
  | fuel + 1, n, e => if n ≠ 0 ∧ n % 10 = 0 then trim fuel (n / 10) (e + 1) else (n, e)

/-- Digits and exponent of the shortest decimal of `|f|`, with no trailing zeros;
`(0, 0)` for a zero. -/
def shortest (f : Float) : Option (Nat × Int) :=
  match exact f with
  | none => none
  | some x =>
    if x.mantissa = 0 then some (0, 0)
    else
      let (num, den) := x.fraction
      let fabs := if x.negative then -f else f
      match search fabs num den (magnitude num den) 18 1 with
      | some (n, e) => some (trim 20 n e)
      | none => none

/-- A run of `n` zero characters. -/
def zeros (n : Nat) : String := String.ofList (List.replicate n '0')

/-- Digits placed around a decimal point: `digits · 10^e` written out in full, with
`showFraction` adding `.0` to a whole number. -/
def layoutPositional (digits : String) (e : Int) (showFraction : Bool) : String :=
  let len : Int := digits.length
  if 0 ≤ e then digits ++ zeros e.toNat ++ (if showFraction then ".0" else "")
  else if 0 < len + e then
    let cut := (len + e).toNat
    String.ofList (digits.toList.take cut) ++ "." ++ String.ofList (digits.toList.drop cut)
  else "0." ++ zeros (-(len + e)).toNat ++ digits

/-- All digits written out with no exponent; a whole number gets no fraction. NaN is
`NaN` and the infinities `inf` and `-inf`. -/
def positional (f : Float) : String :=
  match exact f, shortest f with
  | some x, some (n, e) =>
    (if x.negative then "-" else "") ++ layoutPositional (toString n) e false
  | _, _ => if f.isNaN then "NaN" else if f < 0 then "-inf" else "inf"

/-- The layout of JSON numbers: positional for magnitudes from `1e-5` below `1e16`,
otherwise scientific; a whole number keeps `.0`. A positive exponent is written with a
`+` when `plusSign` is set (`1e+16`), bare otherwise (`1e16`). -/
def compactWith (plusSign : Bool) (f : Float) : String :=
  match exact f, shortest f with
  | some x, some (n, e) =>
    let sign := if x.negative then "-" else ""
    let digits := toString n
    let len : Int := digits.length
    let kk := len + e
    if n = 0 then sign ++ "0.0"
    else if 0 ≤ e ∧ kk ≤ 16 then sign ++ layoutPositional digits e true
    else if 0 < kk ∧ kk ≤ 16 then sign ++ layoutPositional digits e false
    else if -5 < kk ∧ kk ≤ 0 then sign ++ layoutPositional digits e false
    else
      let tail := String.ofList (digits.toList.drop 1)
      let mant := if tail.isEmpty then String.ofList (digits.toList.take 1)
        else String.ofList (digits.toList.take 1) ++ "." ++ tail
      let ex := kk - 1
      sign ++ mant ++ "e" ++ (if plusSign && ex > 0 then "+" else "") ++ toString ex
  | _, _ => "null"

/-- The JSON layout with a bare exponent. -/
def compact (f : Float) : String := compactWith false f

end Decimal

end CrateState
