import CrateState.Decimal.Extended

/-!
# Rounded decimal text of a double

The text the database writes for a double with a fixed number of digits, as its `printf`
conversions `%f`, `%e` and `%g` do.

A finite double is taken apart into eighteen or nineteen leading decimal digits and the
decimal point's position, in extended precision (`Decimal.wideDigits`), so the last may
differ from the exact value's. They are rounded half up to the significant digits the
conversion keeps, never more than a limit (sixteen, or twenty-six under `!`): digits past
it print as zeros, so `%.20f` of `0.1` is `0.10000000000000000000`.

* `%f` keeps `precision` digits after the point;
* `%e` keeps `precision + 1` significant digits and writes `e±NN` (two exponent digits at
  least);
* `%g` keeps `precision` significant digits, writes `%e` when the exponent is below −4 or
  at least the precision and `%f` otherwise, and drops trailing zeros unless `#`; under
  `!` a whole number keeps `.0`.

Zero has no sign. An infinity is `Inf` or `-Inf` (under the `0` flag the digit 9 at the
thousandth place, as in `9.0e+999`), and NaN is `NaN` (`null` under `0`).
-/

namespace CrateState

namespace Decimal

/-- The decimal digits of a number, most significant first (`[0]` for zero). -/
def digitList (n : Nat) : List Nat :=
  (Nat.toDigits 10 n).map fun c => c.toNat - 48

/-- The number the decimal digits spell. -/
def digitsValue (ds : List Nat) : Nat := ds.foldl (fun acc d => acc * 10 + d) 0

/-- A double taken apart for printing: the value is `0.d₁d₂… · 10^point`, with the sign
apart. The digits have no trailing zeros, except the single digit of zero. -/
structure Digits where
  /-- Whether a minus sign is written. -/
  negative : Bool
  /-- Significant digits. -/
  digits : List Nat
  /-- Where the decimal point stands, counted from the first digit. -/
  point : Int

/-- Keeps the first `keep` digits, rounding half up on the digit after them; a carry out
of the first digit gives the digit `1` and moves the point one place. -/
def roundAt (ds : List Nat) (point : Int) (keep : Nat) : List Nat × Int :=
  if keep ≥ ds.length then (ds, point)
  else
    let kept := ds.take keep
    if ds.getD keep 0 ≥ 5 then
      let up := digitList (digitsValue kept + 1)
      if up.length > keep then (up.take keep, point + 1)
      else (List.replicate (keep - up.length) 0 ++ up, point)
    else (kept, point)

/-- Drops trailing zero digits, keeping at least one digit. -/
def trimZeros (ds : List Nat) : List Nat :=
  match (ds.reverse.dropWhile (· = 0)).reverse with
  | [] => [0]
  | r => r

/-- Takes a finite double apart, rounding to `round` significant digits but to no more
than `limit`; a `round` of zero or less keeps `-round` digits after the point instead.
`none` for an infinity or NaN. -/
def decompose (f : Float) (round : Int) (limit : Nat) : Option Digits :=
  match exact f with
  | none => none
  | some x =>
    if x.mantissa = 0 then some ⟨false, [0], 1⟩
    else
      let (v, exp) := wideDigits (if x.negative then -f else f)
      let ds := digitList v
      let point : Int := ds.length + exp
      let (ds, point, round) :=
        if round ≤ 0 then
          let r := point - round
          if r = 0 && ds.headD 0 ≥ 5 then (0 :: ds, point + 1, (1 : Int))
          else (ds, point, r)
        else (ds, point, round)
      let (ds, point) :=
        if 0 < round && (round < ds.length || ds.length > limit) then
          roundAt ds point (min round.toNat limit)
        else (ds, point)
      some ⟨x.negative, trimZeros ds, point⟩

/-- How a double is written: the conversion and its flags. -/
inductive Style where
  /-- `%f`: digits after the point. -/
  | fixed
  /-- `%e`: one digit, the point, the rest and an exponent. -/
  | exponent
  /-- `%g`: `%e` or `%f`, whichever the exponent calls for. -/
  | general
  deriving DecidableEq, Repr

/-- A float conversion with its flags. -/
structure FloatFormat where
  /-- The conversion. -/
  style : Style
  /-- Digits asked for; 6 when not given. -/
  precision : Option Nat := none
  /-- Whether the exponent letter is `E`. -/
  upper : Bool := false
  /-- The `#` flag: keep the point and trailing zeros. -/
  alternate : Bool := false
  /-- The `!` flag: up to twenty-six digits, and `.0` after a whole number. -/
  alternate2 : Bool := false
  /-- What is written before a non-negative number (`+` or a blank), if anything. -/
  plusSign : Option Char := none
  /-- The `,` flag: a comma between groups of three digits before the point. -/
  thousands : Bool := false
  /-- The `0` flag: an infinity is written as a run of nines (`9.0e+999`) and NaN as
  `null`. -/
  zeroFlag : Bool := false
  /-- Padding with zeros up to this width, after the sign (`0` flag, not left-justified);
  0 for none. -/
  zeroWidth : Nat := 0

/-- Writes the digits `ds` before the point for `e2 + 1` places (zeros past the digits),
with thousands commas; returns the text and the digits left. -/
def wholePart (thousands : Bool) : Nat → Nat → List Nat → List Char → List Char × List Nat
  | 0, _, ds, acc => (acc.reverse, ds)
  | fuel + 1, e2, ds, acc =>
    let (d, rest) := match ds with
      | d :: r => (d, r)
      | [] => (0, [])
    let acc := Char.ofNat (d + 48) :: acc
    let acc := if thousands && e2 % 3 = 0 && e2 > 1 then ',' :: acc else acc
    if e2 = 0 then (acc.reverse, rest) else wholePart thousands fuel (e2 - 1) rest acc

/-- Removes trailing zeros after a point, and the point if nothing follows it (or writes
`.0` then, when `keepPoint`). -/
def stripFraction (keepPoint : Bool) (cs : List Char) : List Char :=
  let r := cs.reverse.dropWhile (· = '0')
  match r with
  | '.' :: rest => if keepPoint then ('0' :: '.' :: rest).reverse else rest.reverse
  | _ => r.reverse

/-- How a double taken apart is laid out: `%g` becomes `%e` when the exponent is below −4
or above the precision less one, and `%f` otherwise, with the precision counting digits
after the point; answers the style, that precision, and whether trailing zeros are
removed (always for `%g` without `#`, and for the others with `!`). -/
def layout (fmt : FloatFormat) (p : Digits) : Style × Nat × Bool :=
  let precision0 := fmt.precision.getD 6
  let exp := p.point - 1
  let precision1 := if fmt.style = .general && precision0 > 0 then precision0 - 1 else precision0
  if fmt.style = .general then
    if exp < -4 || exp > (precision1 : Int) then (Style.exponent, precision1, !fmt.alternate)
    else (Style.fixed, (precision1 - exp).toNat, !fmt.alternate)
  else (fmt.style, precision1, fmt.alternate2)

/-- Writes a finite double taken apart by `decompose` in a conversion. -/
def renderDigits (fmt : FloatFormat) (p : Digits) : String :=
  let exp := p.point - 1
  let (style, precision, rtz) := layout fmt p
  let e2 : Int := if style = .exponent then 0 else p.point - 1
  let dp := precision > 0 || fmt.alternate || fmt.alternate2
  let (whole, rest) :=
    if e2 < 0 then (['0'], p.digits)
    else wholePart fmt.thousands (e2.toNat + 1) e2.toNat p.digits []
  let point := if dp then ['.'] else []
  -- zeros between the point and the first digit, then the digits
  let lead := if e2 < 0 then min precision (-(e2 + 1)).toNat else 0
  let frac := List.replicate lead '0' ++
    (List.range (precision - lead)).map fun i => Char.ofNat (rest.getD i 0 + 48)
  let body := whole ++ point ++ frac
  let body := if rtz && dp then stripFraction fmt.alternate2 body else body
  let suffix :=
    if style = .exponent then
      let x := exp
      let sign := if x < 0 then '-' else '+'
      let a := x.natAbs
      let hundreds := if a ≥ 100 then [Char.ofNat (a / 100 + 48)] else []
      let a := a % 100
      (if fmt.upper then 'E' else 'e') :: sign :: hundreds ++
        [Char.ofNat (a / 10 + 48), Char.ofNat (a % 10 + 48)]
    else []
  let signPart := if p.negative then ['-'] else fmt.plusSign.toList
  let number := body ++ suffix
  let padded :=
    if fmt.zeroWidth > signPart.length + number.length then
      signPart ++ List.replicate (fmt.zeroWidth - signPart.length - number.length) '0' ++ number
    else signPart ++ number
  String.ofList padded

/-- A double taken apart for a conversion: an infinity under the `0` flag is the digit 9
at the thousandth place; `none` for NaN and for an infinity without the flag. -/
def digitsFor (fmt : FloatFormat) (f : Float) : Option Digits :=
  let round : Int :=
    match fmt.style with
    | .fixed => -((fmt.precision.getD 6 : Nat) : Int)
    | .general => max (fmt.precision.getD 6) 1
    | .exponent => fmt.precision.getD 6 + 1
  let limit := if fmt.alternate2 then 26 else 16
  match decompose f round limit with
  | some p => some p
  | none => if !f.isNaN && fmt.zeroFlag then some ⟨f < 0, [9], 1000⟩ else none

def renderFloat (fmt : FloatFormat) (f : Float) : String :=
  match digitsFor fmt f with
  | some p => renderDigits fmt p
  | none =>
    if f.isNaN then (if fmt.zeroFlag then "null" else "NaN")
    else if f < 0 then "-Inf"
    else String.ofList (fmt.plusSign.toList ++ "Inf".toList)

/-- The size of the buffer a conversion of width `width` needs: the places before the
point, the precision, the width and 15, and a place per comma. A conversion that needs
more than the length limit of a text fails. -/
def bufferNeeded (fmt : FloatFormat) (width : Nat) (f : Float) : Nat :=
  match digitsFor fmt f with
  | some p =>
    let (style, precision, _) := layout fmt p
    let e2 : Int := if style = .exponent then 0 else p.point - 1
    let commas := if fmt.thousands && e2 > 0 then (e2.toNat + 2) / 3 else 0
    e2.toNat + precision + width + 15 + commas
  | none => 0

end Decimal

end CrateState
