import CrateState.Decimal.Shortest

/-!
# Decimal conversion in extended precision

The database converts between decimal text and doubles with its own routines, carrying the
value in the processor's 80-bit extended format: a 64-bit significand, rounded to nearest
(ties to even) after every operation. Their results are not always correctly rounded, and
a number's text must match the database's to the last digit, so the same steps are taken
here in exact `Nat` arithmetic.

A `Wide` is a nonnegative `m · 2^e` with `m` of at most 64 bits; every product is rounded
back to 64 bits. The scaling constants (`10^100`, `10^-10`, …) are the extended numbers
nearest those powers of ten.

* Reading (`readDecimal`): leading digits make a 64-bit significand `s`, taken until `s`
  reaches `significandLimit`; the rest only move the exponent. While the exponent is
  positive and `s` has room, a zero moves from the exponent to `s`; while it is negative
  and `s` ends in a zero, back. Exponent zero gives `s` rounded to a double; otherwise `s`
  is scaled by steps of `10^±100`, `10^±10`, `10^±1`, each one rounded product, then
  rounded to a double (infinite above the largest).
* Writing (`wideDigits`): a positive double is scaled by steps of `10^∓100`, `10^∓10` and
  `10^∓1` into `[10^17, 10^19)`; the integer part gives eighteen or nineteen digits, with
  the power of ten they stand for.
-/

namespace CrateState

namespace Decimal

/-- A nonnegative number `mantissa · 2^exponent` held in extended precision: the mantissa
has at most 64 significant bits. -/
structure Wide where
  /-- The integer significand. -/
  mantissa : Nat
  /-- The binary exponent. -/
  exponent : Int
  deriving Inhabited

/-- `m · 2^e` rounded to 64 significant bits, to nearest with ties to even; `sticky` says
the exact value lies a little above `m · 2^e`. -/
def Wide.round (m : Nat) (e : Int) (sticky : Bool := false) : Wide :=
  let bits := Nat.log2 m + 1
  if bits ≤ 64 then ⟨m, e⟩
  else ⟨roundShift m (bits - 64) sticky, e + (bits - 64 : Nat)⟩

/-- The extended number nearest to `num / den`. -/
def Wide.ofFraction (num den : Nat) : Wide :=
  if num = 0 || den = 0 then ⟨0, 0⟩
  else
    let k : Int := 67 - ((Nat.log2 num : Int) - (Nat.log2 den : Int))
    let (n, d) := if 0 ≤ k then (num * Nat.pow 2 k.toNat, den) else (num, den * Nat.pow 2 (-k).toNat)
    Wide.round (n / d) (-k) (n % d ≠ 0)

/-- The extended number nearest to `10^k`. -/
def Wide.tenTo (k : Int) : Wide :=
  if 0 ≤ k then Wide.ofFraction (Nat.pow 10 k.toNat) 1 else Wide.ofFraction 1 (Nat.pow 10 (-k).toNat)

def Wide.mul (a b : Wide) : Wide := Wide.round (a.mantissa * b.mantissa) (a.exponent + b.exponent)

/-- `a < b`, compared exactly. -/
def Wide.lt (a b : Wide) : Bool :=
  let e := min a.exponent b.exponent
  a.mantissa * Nat.pow 2 (a.exponent - e).toNat < b.mantissa * Nat.pow 2 (b.exponent - e).toNat

def Wide.floor (a : Wide) : Nat :=
  if 0 ≤ a.exponent then a.mantissa * Nat.pow 2 a.exponent.toNat
  else a.mantissa / Nat.pow 2 (-a.exponent).toNat

/-- The double nearest to an extended number. -/
def Wide.toFloat (a : Wide) : Float := floatOfBinary a.mantissa a.exponent

/-- Multiplies by `c`, `n` times, rounding each product. -/
def Wide.mulTimes (c : Wide) : Nat → Wide → Wide
  | 0, r => r
  | n + 1, r => Wide.mulTimes c n (r.mul c)

/-- Multiplies by `step` and adds `k` to `exp` while `cond` holds, at most `fuel` times. -/
def Wide.scaleWhile (cond : Wide → Bool) (step : Wide) (k : Int) :
    Nat → Wide → Int → Wide × Int
  | 0, r, exp => (r, exp)
  | fuel + 1, r, exp =>
    if cond r then Wide.scaleWhile cond step k fuel (r.mul step) (exp + k) else (r, exp)

/-! ## Reading decimals -/

/-- Significand digits are taken only while the significand is below this,
`(2^64 - 10) / 10`. -/
def significandLimit : Nat := 1844674407370955160

/-- The significand the reader keeps of the digits `n` (the decimal point ignored), with
the number of trailing digits it drops: the shortest leading part of the digits that is
at least `significandLimit`, or all of them. -/
def keptSignificand (n : Nat) : Nat × Nat :=
  let rec go : Nat → Nat → Nat → Nat × Nat
    | 0, s, k => (s, k)
    | fuel + 1, s, k => if s / 10 ≥ significandLimit then go fuel (s / 10) (k + 1) else (s, k)
  go (Nat.log2 n + 1) n 0

/-- Moves zeros from a positive exponent into the significand while it stays below
`⌊(2^64 - 1) / 10⌋`. -/
def growSignificand : Nat → Nat → Int → Nat × Int
  | 0, s, e => (s, e)
  | fuel + 1, s, e =>
    if 0 < e && s < 1844674407370955161 then growSignificand fuel (s * 10) (e - 1) else (s, e)

/-- Moves trailing zeros of the significand into a negative exponent. -/
def shrinkSignificand : Nat → Nat → Int → Nat × Int
  | 0, s, e => (s, e)
  | fuel + 1, s, e =>
    if e < 0 && s % 10 = 0 then shrinkSignificand fuel (s / 10) (e + 1) else (s, e)

/-- The largest value read as finite: the largest double. -/
def overflowLimit : Wide := ⟨Nat.pow 2 53 - 1, 971⟩

/-- `r · 10^e`, scaled in steps of `10^±100`, `10^±10` and `10^±1`. -/
def scaleByTen (r : Wide) (e : Int) : Wide :=
  let n := e.natAbs
  let sign : Int := if 0 ≤ e then 1 else -1
  let r := Wide.mulTimes (Wide.tenTo (100 * sign)) (n / 100) r
  let r := Wide.mulTimes (Wide.tenTo (10 * sign)) (n % 100 / 10) r
  Wide.mulTimes (Wide.tenTo sign) (n % 10) r

/-- The double the database reads for the nonnegative decimal `n · 10^scale` (see the
module header). -/
def readDecimal (n : Nat) (scale : Int) : Float :=
  let (s, dropped) := keptSignificand n
  if s = 0 then 0
  else
    let (s, e) := growSignificand 20 s (scale + dropped)
    let (s, e) := shrinkSignificand 20 s e
    if e = 0 then floatOfNat s
    else
      let r := scaleByTen (Wide.round s 0) e
      if overflowLimit.lt r then infinity else r.toFloat

/-! ## Writing doubles -/

/-- The digits of a positive finite double as the database takes it apart: an integer of
eighteen or nineteen digits and the power of ten it is scaled by (see the module header);
`(0, 0)` for zero, an infinity or NaN. -/
def wideDigits (f : Float) : Nat × Int :=
  match exact f with
  | none => (0, 0)
  | some x =>
    if x.mantissa = 0 then (0, 0)
    else
      let r : Wide := ⟨x.mantissa, x.exponent⟩
      let (r, exp) :=
        if !(r.lt (Wide.tenTo 19)) then
          let (r, exp) := Wide.scaleWhile (fun r => !(r.lt (Wide.tenTo 119))) (Wide.tenTo (-100)) 100 8 r 0
          let (r, exp) := Wide.scaleWhile (fun r => !(r.lt (Wide.tenTo 29))) (Wide.tenTo (-10)) 10 20 r exp
          Wide.scaleWhile (fun r => !(r.lt (Wide.tenTo 19))) (Wide.tenTo (-1)) 1 20 r exp
        else
          let (r, exp) := Wide.scaleWhile (fun r => r.lt (Wide.tenTo (-97))) (Wide.tenTo 100) (-100) 8 r 0
          let (r, exp) := Wide.scaleWhile (fun r => r.lt (Wide.tenTo 7)) (Wide.tenTo 10) (-10) 40 r exp
          Wide.scaleWhile (fun r => r.lt (Wide.tenTo 17)) (Wide.tenTo 1) (-1) 20 r exp
      (r.floor, exp)

end Decimal

end CrateState
