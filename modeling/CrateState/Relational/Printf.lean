import CrateState.Relational.Value

/-!
# The `printf` function of the database

`Printf.render fmt args` is what `printf(fmt, args…)` answers, on the bytes of the format
and the texts, `none` standing for `NULL`. The format is a C string, read up to its first
NUL. Text outside a conversion is copied. A conversion is `%`, flags, a width, a precision, a
length and a conversion letter:

* flags `-` (left-justify), `+` and blank (sign of non-negative numbers), `#` (alternate
  form), `!` (more digits for floats; characters, not bytes, for texts), `0` (zero padding),
  `,` (thousands separators);
* the width is digits or `*`, taking the next argument (a negative one left-justifies); the
  precision is `.` and digits or `.*`; `l` and `ll` are read and ignored. After the width
  only `.` or `l` may come before the letter, after the precision only `l`: anything else
  is taken as the letter;
* `d` `i` signed, `u` unsigned, `x` `X` `o` in base 16 or 8 (`#` adds `0x`, `0X` or `0`),
  `p` in base 16 with capitals (`#` adds `0x`), `r` with an ordinal suffix, `f` `e` `E`
  `g` `G` floats (`Decimal.Rounded`), `c` the first character of a text repeated
  `precision` times, `s` `z` texts cut to `precision`, `q` `Q` `w` texts with quotes
  doubled (`Q` also quotes them and writes `NULL` for `NULL`), `%` itself, `n` nothing.

An unknown letter (a NUL included) ends the output; a `%` at the very end is written. Each
conversion takes the next argument, a missing one being 0, the empty text or `NULL`. Widths
count bytes, or characters for texts under `!`.

The answer is `NULL` when nothing was ever written (an empty format, or one starting with an
unknown conversion), and when the output would reach the length limit of a text, `10^9`
bytes.
-/

namespace CrateState

namespace Relational

namespace Printf

/-- The flags, width and precision of a conversion. -/
structure Spec where
  /-- `-`, or a negative width from `*`. -/
  leftJustify : Bool := false
  /-- `+` or blank. -/
  plusSign : Option UInt8 := none
  /-- `#` -/
  alternate : Bool := false
  /-- `!` -/
  alternate2 : Bool := false
  /-- `0` -/
  zeroPad : Bool := false
  /-- `,` -/
  thousands : Bool := false
  width : Nat := 0
  /-- The precision, if given. -/
  precision : Option Nat := none

/-- The arguments not yet used. -/
abbrev Args := List SqlValue

/-- The length limit of a text: an output that would reach it is dropped. -/
def lengthLimit : Nat := 1000000000

/-- Takes the next argument, `none` when they ran out. -/
def next (args : Args) : Option SqlValue × Args :=
  match args with
  | a :: rest => (some a, rest)
  | [] => (none, [])

/-- The integer of the next argument, 0 when they ran out. -/
def intArg (args : Args) : Int × Args :=
  let (a, r) := next args
  ((a.map SqlValue.toInt).getD 0, r)

/-- The bytes of a text argument as a C string has them (before its first NUL); `none`
for `NULL` or a missing argument. -/
def textArg (args : Args) : Option (List UInt8) × Args :=
  let (a, r) := next args
  match a with
  | some .null | none => (none, r)
  | some v => (some (Bytes.beforeNul v.bytes), r)

/-- Whether a byte is an ASCII digit. -/
def isDigit (b : UInt8) : Bool := 48 ≤ b.toNat && b.toNat ≤ 57

/-- Reads digits into a width or precision: accumulated in 32-bit unsigned arithmetic and
kept to 31 bits. -/
def readNumber : List UInt8 → Nat → Nat × List UInt8
  | b :: bs, n =>
    if isDigit b then readNumber bs ((n * 10 + (b.toNat - 48)) % Nat.pow 2 32)
    else (n % Nat.pow 2 31, b :: bs)
  | [], n => (n % Nat.pow 2 31, [])

/-- The next byte as the conversion letter (`none` at the end), with the bytes after it. -/
def letter (cs : List UInt8) : Option UInt8 × List UInt8 :=
  match cs with
  | c :: r => (some c, r)
  | [] => (none, [])

/-- Continues reading a spec after a width or precision: on `.` or `l` the reading goes on,
anything else is the letter. -/
def afterNumber (cs : List UInt8) : Bool :=
  match cs with
  | c :: _ => c.toNat = 46 || c.toNat = 108
  | [] => false

/-- Reads the flags, width, precision and length of a conversion: the spec, the
conversion letter (`none` when the format ended), the rest of the format and the
arguments left. -/
def readSpec : Nat → List UInt8 → Spec → Args → Spec × Option UInt8 × List UInt8 × Args
  | 0, cs, s, args => (s, none, cs, args)
  | _ + 1, [], s, args => (s, none, [], args)
  | fuel + 1, c :: r, s, args =>
    match c.toNat with
    | 45 => readSpec fuel r { s with leftJustify := true } args
    | 43 => readSpec fuel r { s with plusSign := some 43 } args
    | 32 => readSpec fuel r { s with plusSign := some 32 } args
    | 35 => readSpec fuel r { s with alternate := true } args
    | 33 => readSpec fuel r { s with alternate2 := true } args
    | 48 => readSpec fuel r { s with zeroPad := true } args
    | 44 => readSpec fuel r { s with thousands := true } args
    | 108 =>
      let r := match r with
        | l :: r' => if l.toNat = 108 then r' else l :: r'
        | [] => []
      let (c, r) := letter r
      (s, c, r, args)
    | 42 =>
      let (w, args) := intArg args
      let w := toInt32 w
      let s := if w < 0 then { s with leftJustify := true, width := if w ≥ -2147483647 then w.natAbs else 0 }
        else { s with width := w.toNat }
      if afterNumber r then readSpec fuel r s args
      else
        let (c, r) := letter r
        (s, c, r, args)
    | 46 =>
      let (s, r, args) := match r with
        | b :: r' =>
          if b.toNat = 42 then
            let (p, args) := intArg args
            let p := toInt32 p
            let precision := if p < 0 then (if p ≥ -2147483647 then some p.natAbs else none)
              else some p.toNat
            ({ s with precision }, r', args)
          else
            let (p, r) := readNumber (b :: r') 0
            ({ s with precision := some p }, r, args)
        | [] => ({ s with precision := some 0 }, [], args)
      match r with
      | l :: _ => if l.toNat = 108 then readSpec fuel r s args else
          let (c, r) := letter r
          (s, c, r, args)
      | [] => (s, none, [], args)
    | _ =>
      if isDigit c then
        let (w, r) := readNumber (c :: r) 0
        let s := { s with width := w }
        if afterNumber r then readSpec fuel r s args
        else
          let (c, r) := letter r
          (s, c, r, args)
      else (s, some c, r, args)
where
  /-- The low 32 bits of an integer as a signed integer. -/
  toInt32 (i : Int) : Int :=
    let n := (i % (Nat.pow 2 32 : Int)).toNat
    if n ≥ Nat.pow 2 31 then (n : Int) - (Nat.pow 2 32 : Int) else n

/-- Digits of a number in a base, with the digit bytes `set`. -/
def radixDigits (base : Nat) (set : List UInt8) : Nat → Nat → List UInt8 → List UInt8
  | 0, _, acc => acc
  | fuel + 1, n, acc =>
    let acc := set.getD (n % base) 48 :: acc
    if n / base = 0 then acc else radixDigits base set fuel (n / base) acc

/-- Inserts a comma between groups of three characters, counted from the right. -/
def groupThousands (ds : List UInt8) : List UInt8 :=
  let rec go : List UInt8 → Nat → List UInt8 → List UInt8
    | [], _, acc => acc
    | d :: rest, k, acc => go rest (k + 1) (if k > 0 && k % 3 = 0 then d :: 44 :: acc else d :: acc)
  go ds.reverse 0 []

/-- The ordinal suffix of a number: `st`, `nd`, `rd` or `th`. -/
def ordinalSuffix (n : Nat) : List Char :=
  let x := n % 10
  if x ≥ 4 || (n / 10) % 10 = 1 || x = 0 then ['t', 'h']
  else if x = 1 then ['s', 't'] else if x = 2 then ['n', 'd'] else ['r', 'd']

def ascii (s : String) : List UInt8 := s.toList.map fun c => c.toNat.toUInt8

/-- What one conversion does to the output. -/
inductive Step where
  /-- These bytes are written (perhaps none). -/
  | emit (bytes : List UInt8)
  /-- The conversion letter is unknown: the output ends here. -/
  | stop
  /-- The output would reach the length limit: the answer is `NULL`. -/
  | tooBig

/-- Pads converted bytes to `width`, counted in bytes: blanks before them, or after them
when left-justified. -/
def padBytes (left : Bool) (width : Nat) (body : List UInt8) : List UInt8 :=
  if width > body.length then
    let blanks := List.replicate (width - body.length) 32
    if left then body ++ blanks else blanks ++ body
  else body

/-- Writes a conversion padded to the width, unless the padded text would reach the
length limit. -/
def padded (s : Spec) (width : Nat) (body : List UInt8) : Step :=
  if max width body.length ≥ lengthLimit then .tooBig else .emit (padBytes s.leftJustify width body)

/-- The width of a text conversion in bytes: under `!`, each byte `0x80`–`0xBF` of the
text widens it by one, so that the width counts characters. -/
def textWidth (s : Spec) (body : List UInt8) : Nat :=
  if s.alternate2 && s.width > 0 then s.width + (body.filter Bytes.isCont).length else s.width

/-- The number of bytes of `cs` that `precision` characters take: at most `n` steps, each
a byte of `0xC0` or more with the bytes `0x80`–`0xBF` after it, or any other byte. -/
def charBytes : Nat → List UInt8 → Nat
  | 0, _ => 0
  | _, [] => 0
  | n + 1, c :: cs =>
    if c.toNat ≥ 0xC0 then
      let k := (cs.takeWhile Bytes.isCont).length
      1 + k + charBytes n (cs.drop k)
    else 1 + charBytes n cs

/-- An integer conversion: the digits of the argument in `base` (with an ordinal suffix
when `ordinal`), zero-padded to the precision — which the `0` flag raises to the width
less the sign — with thousands commas when `commas`, then the sign and the alternate
prefix. -/
def integerStep (s : Spec) (signed : Bool) (base : Nat) (upper : Bool) (altPrefix : List UInt8)
    (ordinal commas : Bool) (v : Int) : Step :=
  let (magnitude, sign) :=
    if signed then
      if v < 0 then (v.natAbs, some (45 : UInt8)) else (v.toNat, s.plusSign)
    else (toBits64 v, none)
  let alternate := s.alternate && magnitude ≠ 0
  let signWidth : Int := if sign.isSome then 1 else 0
  let precision : Int := match s.precision with
    | some p => p
    | none => -1
  let precision := if s.zeroPad && precision < (s.width : Int) - signWidth then (s.width : Int) - signWidth
    else precision
  let bufferNeeded := precision + 10 + (if commas then precision / 3 else 0)
  if precision ≥ 37 && bufferNeeded > (lengthLimit : Int) then .tooBig
  else
    let set := ascii (if upper then "0123456789ABCDEF" else "0123456789abcdef")
    let ds := radixDigits base set 70 magnitude []
    let ds := if ordinal then ds ++ ascii (String.ofList (ordinalSuffix magnitude)) else ds
    let ds := List.replicate (precision.toNat - ds.length) 48 ++ ds
    let ds := if commas then groupThousands ds else ds
    let ds := sign.toList ++ ds
    let ds := if alternate then altPrefix ++ ds else ds
    padded s s.width ds

/-- The largest precision a float conversion uses; a larger one is cut to it. -/
def floatPrecisionLimit : Nat := 100000000

/-- A float conversion (`Decimal.Rounded`), zero-padded after the sign under `0` when not
left-justified. -/
def floatStep (s : Spec) (style : Decimal.Style) (upper : Bool) (v : Float) : Step :=
  let fmt : Decimal.FloatFormat :=
    { style, precision := s.precision.map (min · floatPrecisionLimit), upper, alternate := s.alternate
      alternate2 := s.alternate2, plusSign := s.plusSign.map fun b => Char.ofNat b.toNat
      thousands := s.thousands, zeroFlag := s.zeroPad
      zeroWidth := if s.zeroPad && !s.leftJustify then s.width else 0 }
  if Decimal.bufferNeeded fmt s.width v > lengthLimit then .tooBig
  else padded s s.width (ascii (Decimal.renderFloat fmt v))

/-- `%c`: the first character of the text (a lead byte and up to three bytes
`0x80`–`0xBF` after it; a NUL for `NULL` or the empty text), written `precision` times.
The width counts characters: it is first reduced by the copies before the last, and
blanks not placed in front of them are placed around the last copy. -/
def charStep (s : Spec) (t : Option (List UInt8)) : Step :=
  let ch : List UInt8 := match t with
    | some (c :: rest) => if c.toNat ≥ 0xC0 then c :: (rest.takeWhile Bytes.isCont).take 3 else [c]
    | _ => [0]
  let n := max 1 (s.precision.getD 1)
  let cont : Int := (ch.filter Bytes.isCont).length
  let width : Int := s.width
  let last (w : Int) : List UInt8 :=
    let w := (if w > 0 then w + cont else w) - ch.length
    if w > 0 then
      let blanks := List.replicate w.toNat 32
      if s.leftJustify then ch ++ blanks else blanks ++ ch
    else ch
  if n * ch.length + s.width ≥ lengthLimit then .tooBig
  else if n > 1 then
    let w1 := width - (n - 1 : Nat)
    let copies := (List.replicate (n - 1) ch).flatten
    if w1 > 1 && !s.leftJustify then
      .emit (List.replicate (w1 - 1).toNat 32 ++ copies ++ ch)
    else .emit (copies ++ last w1)
  else .emit (last width)

/-- `%q`, `%Q` and `%w`: the text with the quote character doubled, cut to `precision`
bytes (characters under `!`); `%Q` encloses it in quotes. `NULL` is `NULL` for `%Q` and
`(NULL)` for the others. -/
def escapeStep (s : Spec) (c : Nat) (t : Option (List UInt8)) : Step :=
  let q : UInt8 := if c = 119 then 34 else 39
  let raw := match t with
    | some bs => bs
    | none => ascii (if c = 81 then "NULL" else "(NULL)")
  let taken := match s.precision with
    | some p => raw.take (if s.alternate2 then charBytes p raw else p)
    | none => raw
  let inner := taken.flatMap fun b => if b = q then [b, b] else [b]
  let body := if c = 81 && t.isSome then q :: inner ++ [q] else inner
  padded s (textWidth s body) body

/-- Converts one argument for the conversion letter `c`, with the arguments left. -/
def convert (s : Spec) (c : UInt8) (args : Args) : Step × Args :=
  match c.toNat with
  | 100 | 105 => let (v, r) := intArg args; (integerStep s true 10 false [] false s.thousands v, r)
  | 117 => let (v, r) := intArg args; (integerStep s false 10 false [] false s.thousands v, r)
  | 114 => let (v, r) := intArg args; (integerStep s true 10 false [] true false v, r)
  | 120 => let (v, r) := intArg args; (integerStep s false 16 false (ascii "0x") false false v, r)
  | 88 => let (v, r) := intArg args; (integerStep s false 16 true (ascii "0X") false false v, r)
  | 112 => let (v, r) := intArg args; (integerStep s false 16 true (ascii "0x") false false v, r)
  | 111 => let (v, r) := intArg args; (integerStep s false 8 false (ascii "0") false false v, r)
  | 102 | 101 | 69 | 103 | 71 =>
    let (a, r) := next args
    let v := (a.map SqlValue.toFloat).getD 0
    let style := if c.toNat = 102 then Decimal.Style.fixed
      else if c.toNat = 101 || c.toNat = 69 then .exponent else .general
    (floatStep s style (c.toNat = 69 || c.toNat = 71) v, r)
  | 115 | 122 =>
    let (t, r) := textArg args
    let bs := t.getD []
    let body := match s.precision with
      | some p => bs.take (if s.alternate2 then charBytes p bs else p)
      | none => bs
    (padded s (textWidth s body) body, r)
  | 99 => let (t, r) := textArg args; (charStep s t, r)
  | 113 | 81 | 119 => let (t, r) := textArg args; (escapeStep s c.toNat t, r)
  | 37 => (padded s s.width [37], args)
  | 110 => (.emit [], args)
  | _ => (.stop, args)

/-- Writes the format, converting arguments in order: the output so far (in reverse), its
length, and whether anything was written. `fuel` bounds the steps; each takes at least
one byte of the format. -/
def run : Nat → List UInt8 → Args → List UInt8 → Nat → Bool → Option (List UInt8)
  | 0, _, _, acc, _, written => if written then some acc.reverse else none
  | _, [], _, acc, _, written => if written then some acc.reverse else none
  | fuel + 1, c :: rest, args, acc, len, written =>
    if c.toNat ≠ 37 then
      let text := (c :: rest).takeWhile (·.toNat ≠ 37)
      let rest := (c :: rest).drop text.length
      if len + text.length ≥ lengthLimit then none
      else run fuel rest args (text.reverse ++ acc) (len + text.length) true
    else
      match rest with
      | [] => if len + 1 ≥ lengthLimit then none else some (37 :: acc).reverse
      | _ =>
        let (spec, c, rest, args) := readSpec (rest.length + 1) rest {} args
        match c with
        | none => if written then some acc.reverse else none
        | some c =>
          match convert spec c args with
          | (.emit bytes, args) =>
            if len + bytes.length ≥ lengthLimit then none
            else run fuel rest args (bytes.reverse ++ acc) (len + bytes.length) true
          | (.stop, _) => if written then some acc.reverse else none
          | (.tooBig, _) => none

/-- The bytes `printf(fmt, args…)` answers for a format's bytes; `none` for `NULL`. -/
def render (fmt : List UInt8) (args : List SqlValue) : Option (List UInt8) :=
  let fmt := Bytes.beforeNul fmt
  run (fmt.length + 1) fmt args [] 0 false

/-- The text of a format known to write something, such as `%.16g`; empty if it writes
nothing. -/
def format (fmt : String) (args : List SqlValue) : String :=
  Bytes.toText ((render (Bytes.ofText fmt) args).getD [])

end Printf

end Relational

end CrateState
