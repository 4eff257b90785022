import CrateState.Decimal.Rounded
import CrateState.Text.Bytes

/-!
# Values of the embedded relational database

A stored value has one of five storage classes: `NULL`, a 64-bit signed integer, a double,
a text and a blob. A column's *affinity* is the class it prefers: a value written into it
is converted toward it when that loses nothing (`'5'` becomes 5 in an integer column, 2.0
becomes 2, `'abc'` stays a text).

* Comparison orders `NULL < numbers < text < blob`. Numbers compare by exact value, even
  where a double cannot hold an integer. Texts compare under a *collation*: byte by byte,
  ignoring ASCII case (`NOCASE`), or ignoring trailing blanks (`RTRIM`).
* Arithmetic reads a text by its longest numeric prefix (`'12abc'` is 12); integers stay
  integers while the result fits, else turn into doubles; a non-number (`Inf - Inf`) is
  `NULL`.
* Bit operations work on 64-bit two's complement integers.
* A double written as text has fifteen significant digits (`Decimal.Rounded`).
-/

namespace CrateState

namespace Relational

/-- The storage class a column prefers. -/
inductive Affinity where
  /-- Whole numbers: declared types containing `INT`. -/
  | integer
  /-- Text: declared types containing `CHAR`, `CLOB` or `TEXT`. -/
  | text
  /-- Doubles: declared types containing `REAL`, `FLOA` or `DOUB`. -/
  | real
  /-- Numbers of either kind: every other declared type. -/
  | numeric
  /-- No preference: no declared type, or one containing `BLOB`. -/
  | blob
  deriving DecidableEq, Repr

/-- The affinity of a type name, by the substring rules in their order; a name matching
none of them, the empty one of `CAST(x AS )` included, is numeric. (A column declared
with no type at all has no preference: its definition decides that before asking.) -/
def Affinity.ofDeclared (declared : String) : Affinity :=
  let t := declared.toUpper
  let has (s : String) : Bool := (t.splitOn s).length > 1
  if has "INT" then .integer
  else if has "CHAR" || has "CLOB" || has "TEXT" then .text
  else if has "BLOB" then .blob
  else if has "REAL" || has "FLOA" || has "DOUB" then .real
  else .numeric

/-- Whether values are converted to numbers under this affinity. -/
def Affinity.isNumeric : Affinity → Bool
  | .integer | .real | .numeric => true
  | _ => false

/-- The declared type a table made from a query gives a column of this affinity. -/
def Affinity.typeName : Affinity → String
  | .integer => "INT"
  | .text => "TEXT"
  | .real => "REAL"
  | .numeric => "NUM"
  | .blob => ""

/-- How texts are ordered. -/
inductive Collation where
  /-- Byte by byte. -/
  | binary
  /-- Byte by byte after folding ASCII letters to lower case. -/
  | nocase
  /-- Byte by byte, ignoring trailing blanks. -/
  | rtrim
  deriving DecidableEq, Repr

/-- The collation of a name, matched without regard to ASCII case. -/
def Collation.ofName? (name : String) : Option Collation :=
  match name.toUpper with
  | "BINARY" => some .binary
  | "NOCASE" => some .nocase
  | "RTRIM" => some .rtrim
  | _ => none

/-- An ASCII letter folded to lower case; other characters unchanged. -/
def foldCase (c : Char) : Char :=
  if 'A' ≤ c && c ≤ 'Z' then Char.ofNat (c.toNat + 32) else c

/-- An ASCII letter raised to upper case; other characters unchanged. -/
def raiseCase (c : Char) : Char :=
  if 'a' ≤ c && c ≤ 'z' then Char.ofNat (c.toNat - 32) else c

/-- Orders byte lists lexicographically, a prefix first: `memcmp`, then the lengths. -/
def compareBytes : List UInt8 → List UInt8 → Ordering
  | [], [] => .eq
  | [], _ :: _ => .lt
  | _ :: _, [] => .gt
  | a :: as, b :: bs =>
    if a < b then .lt else if b < a then .gt else compareBytes as bs

/-- A byte with an ASCII capital folded to lower case. -/
def foldByte (b : UInt8) : Nat :=
  if 65 ≤ b.toNat && b.toNat ≤ 90 then b.toNat + 32 else b.toNat

/-- The first difference of two byte strings under case folding, over at most `n` bytes:
the comparison stops at a NUL byte of the first. -/
def nocasePrefix : Nat → List UInt8 → List UInt8 → Ordering
  | 0, _, _ => .eq
  | n + 1, a :: as, b :: bs =>
    if a ≠ 0 && foldByte a == foldByte b then nocasePrefix n as bs
    else compare (foldByte a) (foldByte b)
  | _ + 1, _, _ => .eq

/-- Orders two texts under a collation, by their bytes: `BINARY` as `memcmp` and then the
lengths; `NOCASE` the same after folding ASCII capitals, over the shorter length; `RTRIM`
as `BINARY` after dropping trailing blanks. -/
def Collation.compareBytes : Collation → List UInt8 → List UInt8 → Ordering
  | .binary, a, b => Relational.compareBytes a b
  | .nocase, a, b =>
    match nocasePrefix (min a.length b.length) a b with
    | .eq => compare a.length b.length
    | o => o
  | .rtrim, a, b =>
    let cut (bs : List UInt8) : List UInt8 := (bs.reverse.dropWhile (· = 32)).reverse
    Relational.compareBytes (cut a) (cut b)

/-- Orders two texts under a collation (`Collation.compareBytes`); two strings of
well-formed characters compare by code point under `BINARY`, which is the byte order of
their UTF-8. -/
def Collation.compare (c : Collation) (a b : String) : Ordering :=
  if c = .binary && !(a.any Bytes.isRaw) && !(b.any Bytes.isRaw) then Ord.compare a b
  else c.compareBytes (Bytes.ofText a) (Bytes.ofText b)

/-- The bytes of a blob: those written out, then a run of zero bytes kept only as its
length. `zeroblob` makes a blob of zeros without writing them out, so that its length and
type are known at once whatever its size. -/
structure Blob where
  /-- The bytes written out. -/
  written : List UInt8
  /-- The number of zero bytes that follow them. -/
  zeros : Nat := 0

namespace Blob

/-- The blob of the given bytes. -/
def ofList (bs : List UInt8) : Blob := { written := bs }

/-- The bytes of a blob, its run of zeros written out. -/
def toList (b : Blob) : List UInt8 := b.written ++ List.replicate b.zeros 0

def length (b : Blob) : Nat := b.written.length + b.zeros

/-- The bytes of a blob from position `start` (counted from 0), at most `count` of them. -/
def slice (b : Blob) (start count : Nat) : Blob :=
  let n := b.written.length
  if start ≥ n then { written := [], zeros := min count (b.zeros - (start - n)) }
  else
    let w := (b.written.drop start).take count
    { written := w, zeros := min (count - w.length) b.zeros }

/-- Orders a run of `z` zeros against bytes followed by a run of `z'` zeros, byte by
byte, the shorter first when one begins the other. -/
def zerosVersus : Nat → List UInt8 → Nat → Ordering
  | z, [], z' => compare z z'
  | 0, _ :: _, _ => .lt
  | z + 1, y :: ys, z' => if y != 0 then .lt else zerosVersus z ys z'

/-- Orders two blobs given as written bytes and runs of zeros, byte by byte. -/
def compareParts : List UInt8 → Nat → List UInt8 → Nat → Ordering
  | [], z, ys, z' => zerosVersus z ys z'
  | x :: xs, z, [], z' => (zerosVersus z' (x :: xs) z).swap
  | x :: xs, z, y :: ys, z' =>
    if x < y then .lt else if y < x then .gt else compareParts xs z ys z'

/-- Orders two blobs byte by byte, the shorter first when one begins the other. -/
def compare (a b : Blob) : Ordering := compareParts a.written a.zeros b.written b.zeros

end Blob

/-- A stored value. -/
inductive SqlValue where
  /-- The missing value. -/
  | null
  /-- A 64-bit signed integer. -/
  | int (i : Int)
  /-- A double. -/
  | real (f : Float)
  | text (s : String)
  | blob (bytes : Blob)

/-- The type name of a value as type checks of readers report it. -/
def SqlValue.typeName : SqlValue → String
  | .null => "NULL"
  | .int _ => "BIGINT"
  | .real _ => "DOUBLE"
  | .text _ => "TEXT"
  | .blob _ => "BLOB"

/-- The storage class of a value, as `typeof` names it. -/
def SqlValue.storageClass : SqlValue → String
  | .null => "null"
  | .int _ => "integer"
  | .real _ => "real"
  | .text _ => "text"
  | .blob _ => "blob"

/-- Whether a value is `NULL`. -/
def SqlValue.isNull : SqlValue → Bool
  | .null => true
  | _ => false

def SqlValue.isBlob : SqlValue → Bool
  | .blob _ => true
  | _ => false

/-- The smallest 64-bit signed integer. -/
def minInt : Int := -9223372036854775808

/-- The largest 64-bit signed integer. -/
def maxInt : Int := 9223372036854775807

/-- Whether an integer is in the 64-bit signed range. -/
def fitsInt (i : Int) : Bool := minInt ≤ i && i ≤ maxInt

/-- An integer saturated to the 64-bit signed range. -/
def clampInt (i : Int) : Int := max minInt (min maxInt i)

/-- A double with the value of an integer, rounded to nearest. -/
def floatOfInt (i : Int) : Float :=
  if i < 0 then -Float.ofNat i.natAbs else Float.ofNat i.natAbs

/-- The exact value of a finite double as a signed fraction `num / den`. -/
def exactFraction (f : Float) : Option (Int × Nat) :=
  (Decimal.exact f).map fun x =>
    let (num, den) := x.fraction
    ((if x.negative then -(num : Int) else num), den)

/-- The integer a double holds exactly, if it is a whole number strictly inside the 64-bit
range. -/
def exactInt (f : Float) : Option Int :=
  match exactFraction f with
  | none => none
  | some (num, den) =>
    if num % den ≠ 0 then none
    else
      let i := num / den
      if minInt < i && i < maxInt then some i else none

/-- A double cut toward zero to an integer and saturated to the 64-bit range; NaN is 0. -/
def floatToInt (f : Float) : Int :=
  match exactFraction f with
  | some (num, den) => clampInt (num.tdiv den)
  | none => if f.isNaN then 0 else if f < 0 then minInt else maxInt

/-! ## Reading numbers from text -/

/-- A decimal read from text: sign, digits, and the power of ten they are scaled by;
`whole` when it was written without a point or an exponent. -/
structure Numeral where
  /-- Whether a minus sign was read. -/
  negative : Bool
  /-- The digits as a number. -/
  digits : Nat
  /-- The power of ten applied to the digits. -/
  scale : Int
  /-- Whether no point and no exponent were read. -/
  whole : Bool

/-- The double a numeral stands for, as the database reads it (`Decimal.readDecimal`). -/
def Numeral.toFloat (n : Numeral) : Float :=
  let f := Decimal.readDecimal n.digits n.scale
  if n.negative then -f else f

/-- The number a numeral stands for: an integer when it is whole and in range, else a
double. -/
def Numeral.value (n : Numeral) : SqlValue :=
  let i : Int := if n.negative then -(n.digits : Int) else n.digits
  if n.whole && fitsInt i then .int i else .real n.toFloat

/-- Reads digits, returning the number, how many were read and the rest. -/
def readDigits : List Char → Nat → Nat → Nat × Nat × List Char
  | c :: cs, acc, k =>
    if '0' ≤ c && c ≤ '9' then readDigits cs (acc * 10 + (c.toNat - 48)) (k + 1)
    else (acc, k, c :: cs)
  | [], acc, k => (acc, k, [])

/-- Reads the digits of an exponent, returning its value, how many digits were read and
the rest. The value saturates as the database's reader has it: a digit is appended only
while the value is below 10000, and any later digit makes it 10000. -/
def readExponentDigits : List Char → Nat → Nat → Nat × Nat × List Char
  | c :: cs, acc, k =>
    if '0' ≤ c && c ≤ '9' then
      readExponentDigits cs (if acc < 10000 then acc * 10 + (c.toNat - 48) else 10000) (k + 1)
    else (acc, k, c :: cs)
  | [], acc, k => (acc, k, [])

/-- Whether a character is blank to the number reader. -/
def isSpace (c : Char) : Bool :=
  c = ' ' || c = '\t' || c = '\n' || c = '\r' || c = '\x0c' || c = '\x0b'

/-- Reads the longest numeral at the start of `cs` (after blanks), with what follows it;
`none` when no digit starts it. -/
def readNumeral (cs : List Char) : Option (Numeral × List Char) :=
  let cs := cs.dropWhile isSpace
  let (negative, cs) := match cs with
    | '-' :: r => (true, r)
    | '+' :: r => (false, r)
    | r => (false, r)
  let (intPart, intLen, cs) := readDigits cs 0 0
  let (digits, fracLen, cs, sawPoint) := match cs with
    | '.' :: r =>
      let (d, k, r') := readDigits r intPart 0
      (d, k, r', true)
    | r => (intPart, 0, r, false)
  if intLen + fracLen = 0 then none
  else
    let base : Numeral := ⟨negative, digits, -(fracLen : Int), !sawPoint⟩
    match cs with
    | e :: r =>
      if e = 'e' || e = 'E' then
        let (eneg, r) := match r with
          | '-' :: r' => (true, r')
          | '+' :: r' => (false, r')
          | r' => (false, r')
        let (ev, elen, r) := readExponentDigits r 0 0
        if elen = 0 then some (base, e :: r)
        else
          let shift : Int := if eneg then -(ev : Int) else ev
          some ({ base with scale := base.scale + shift, whole := false }, r)
      else some (base, cs)
    | [] => some (base, [])

/-- The number a whole text spells (blanks around it allowed), if it spells one. -/
def parseNumber (s : String) : Option SqlValue :=
  match readNumeral s.toList with
  | some (n, rest) => if rest.all isSpace then some n.value else none
  | none => none

/-- The number arithmetic reads from a text: its longest numeric prefix, or 0. -/
def prefixNumber (s : String) : SqlValue :=
  match readNumeral s.toList with
  | some (n, _) => n.value
  | none => .int 0

/-- The double a text starts with, or 0. -/
def prefixFloat (s : String) : Float :=
  match readNumeral s.toList with
  | some (n, _) => n.toFloat
  | none => 0

/-- The integer a text starts with, as integer conversion reads it: blanks, a sign, then
digits, saturated to the 64-bit range; 0 without digits. -/
def prefixInteger (s : String) : Int :=
  let cs := s.toList.dropWhile isSpace
  let (neg, cs) := match cs with
    | '-' :: r => (true, r)
    | '+' :: r => (false, r)
    | r => (false, r)
  let (n, _, _) := readDigits cs 0 0
  clampInt (if neg then -(n : Int) else n)

/-! ## Text and bytes -/

def utf8Bytes (s : String) : List UInt8 := Bytes.ofText s

/-- The text of bytes, kept byte for byte (`Text.Bytes`). -/
def utf8Text (bytes : List UInt8) : String := Bytes.toText bytes

/-- A double written as text the way the database stores it: fifteen significant digits,
positional for exponents from −4 to 14, otherwise with an exponent, and always with a
fractional part. -/
def realText (f : Float) : String :=
  Decimal.renderFloat { style := .general, precision := some 15, alternate2 := true } f

/-- The text of a value: numbers written out, a blob read as UTF-8; `NULL` has none. -/
def SqlValue.text? : SqlValue → Option String
  | .null => none
  | .int i => some (toString i)
  | .real f => some (realText f)
  | .text s => some s
  | .blob b => some (utf8Text b.toList)

/-- The text of a value, empty for `NULL`. -/
def SqlValue.textD (v : SqlValue) : String := v.text?.getD ""

/-- A text as an SQL literal: quotes doubled and enclosed. -/
def quoteText (s : String) : String :=
  "'" ++ String.ofList (s.toList.flatMap fun c => if c = '\'' then ['\'', '\''] else [c]) ++ "'"

/-- The bytes of a value: a text's UTF-8, a number's text. -/
def SqlValue.bytes : SqlValue → List UInt8
  | .blob b => b.toList
  | v => utf8Bytes v.textD

/-- The number of bytes of a value as the database stores it: a blob's bytes, the UTF-8
of a text or of a number's text, none for `NULL`. -/
def SqlValue.byteLength : SqlValue → Nat
  | .blob b => b.length
  | v => v.bytes.length

/-! ## Conversions -/

/-- A double that holds a whole number strictly inside the 64-bit range as an integer. -/
def intIfExact (f : Float) : SqlValue :=
  match exactInt f with
  | some i => .int i
  | none => .real f

/-- The text form of a value, as text affinity stores it. -/
def SqlValue.asText : SqlValue → SqlValue
  | .int i => .text (toString i)
  | .real f => .text (realText f)
  | v => v

/-- A value converted toward numbers: a text that spells a number becomes it; a double
that holds a whole number becomes an integer when `preferInt`. -/
def SqlValue.asNumber (preferInt : Bool) : SqlValue → SqlValue
  | .text s =>
    match parseNumber s with
    | some (.real f) => if preferInt then intIfExact f else .real f
    | some v => v
    | none => .text s
  | .real f => if preferInt then intIfExact f else .real f
  | v => v

/-- A value as a column of the given affinity stores it. -/
def SqlValue.withAffinity (v : SqlValue) : Affinity → SqlValue
  | .integer | .numeric => v.asNumber true
  | .real =>
    match v.asNumber true with
    | .int i => .real (floatOfInt i)
    | w => w
  | .text => v.asText
  | .blob => v

/-- The double of a value: a text's numeric prefix, 0 for `NULL`. -/
def SqlValue.toFloat : SqlValue → Float
  | .int i => floatOfInt i
  | .real f => f
  | .null => 0
  | v => prefixFloat v.textD

/-- The integer of a value: a double cut toward zero and saturated, a text's integer
prefix, 0 for `NULL`. -/
def SqlValue.toInt : SqlValue → Int
  | .int i => i
  | .real f => floatToInt f
  | .null => 0
  | v => prefixInteger v.textD

/-- The number arithmetic reads from a value; `none` for `NULL`. -/
def SqlValue.numeric : SqlValue → Option SqlValue
  | .null => none
  | .int i => some (.int i)
  | .real f => some (.real f)
  | v => some (prefixNumber v.textD)

/-- Whether a double is a whole number in `[-2⁵¹, 2⁵¹)`, small enough to be read as the
integer it equals. -/
def smallWhole (f : Float) : Option Int :=
  if f == 0 then some 0
  else
    match exactInt f with
    | some i => if -(Nat.pow 2 51 : Int) ≤ i && i < Nat.pow 2 51 then some i else none
    | none => none

/-- A text read as a number the way a cast to `NUMERIC` reads it: its integer prefix when
the text holds no point or exponent before any junk and that prefix is in range; else its
numeric prefix as a double, an integer if that is small and whole. -/
def numerify (s : String) : SqlValue :=
  let (wholeNumeral, value) := match readNumeral s.toList with
    | some (n, _) => (n.whole, n.toFloat)
    | none => (true, 0)
  let cs := s.toList.dropWhile isSpace
  let (neg, cs) := match cs with
    | '-' :: r => (true, r)
    | '+' :: r => (false, r)
    | r => (false, r)
  let (n, _, _) := readDigits cs 0 0
  let i : Int := if neg then -(n : Int) else n
  if wholeNumeral && fitsInt i then .int i
  else
    match smallWhole value with
    | some k => .int k
    | none => .real value

/-- `CAST(v AS type)` for the affinity of the type. -/
def SqlValue.cast (v : SqlValue) : Affinity → SqlValue
  | .blob =>
    match v with
    | .null => .null
    | v => .blob (Blob.ofList v.bytes)
  | .text =>
    match v with
    | .null => .null
    | v => .text v.textD
  | .integer =>
    match v with
    | .null => .null
    | v => .int v.toInt
  | .real =>
    match v with
    | .null => .null
    | v => .real v.toFloat
  | .numeric =>
    match v with
    | .text s => numerify s
    | .blob b => numerify (utf8Text b.toList)
    | v => v

/-! ## Comparison -/

/-- The rank of a storage class in the order `NULL < numbers < text < blob`. -/
def SqlValue.rank : SqlValue → Nat
  | .null => 0
  | .int _ | .real _ => 1
  | .text _ => 2
  | .blob _ => 3

/-- Compares an integer with a double by their exact values; NaN is below every
number. -/
def compareIntFloat (i : Int) (f : Float) : Ordering :=
  match exactFraction f with
  | some (num, den) => compare (i * den) num
  | none => if f.isNaN then .gt else if f < 0 then .gt else .lt

def compareFloats (a b : Float) : Ordering :=
  if a < b then .lt else if b < a then .gt else .eq

/-- The order of stored values: by class, numbers by exact value, texts under the
collation, blobs byte by byte. -/
def SqlValue.compareWith (c : Collation) (a b : SqlValue) : Ordering :=
  match a, b with
  | .int x, .int y => compare x y
  | .real x, .real y => compareFloats x y
  | .int x, .real y => compareIntFloat x y
  | .real x, .int y => (compareIntFloat y x).swap
  | .text x, .text y => c.compare x y
  | .blob x, .blob y => x.compare y
  | x, y => compare x.rank y.rank

/-- The order of stored values with byte-by-byte text comparison. -/
def SqlValue.compare (a b : SqlValue) : Ordering := a.compareWith .binary b

/-! ## Arithmetic -/

/-- An arithmetic operator. -/
inductive Arith where
  | add
  | sub
  | mul
  /-- Division: whole for integers, `NULL` by zero. -/
  | div
  /-- Remainder of integers, `NULL` by zero. -/
  | rem
  deriving DecidableEq, Repr

/-- A double result: `NULL` when it is not a number. -/
def realResult (f : Float) : SqlValue := if f.isNaN then .null else .real f

/-- Applies an operator to two doubles; the remainder works on their integer parts. -/
def Arith.onFloats (op : Arith) (x y : Float) : SqlValue :=
  match op with
  | .add => realResult (x + y)
  | .sub => realResult (x - y)
  | .mul => realResult (x * y)
  | .div => if y == 0 then .null else realResult (x / y)
  | .rem =>
    let a := floatToInt x
    let b := floatToInt y
    if b = 0 then .null
    else
      let b := if b = -1 then 1 else b
      .real (floatOfInt (a.tmod b))

/-- Applies an arithmetic operator. Integers stay integers while the result fits; an
overflow, or a double operand, makes the result a double. -/
def Arith.apply (op : Arith) (a b : SqlValue) : SqlValue :=
  match a.numeric, b.numeric with
  | some (.int x), some (.int y) =>
    let viaFloats := op.onFloats (floatOfInt x) (floatOfInt y)
    match op with
    | .add => if fitsInt (x + y) then .int (x + y) else viaFloats
    | .sub => if fitsInt (x - y) then .int (x - y) else viaFloats
    | .mul => if fitsInt (x * y) then .int (x * y) else viaFloats
    | .div =>
      if y = 0 then .null
      else if fitsInt (x.tdiv y) then .int (x.tdiv y) else viaFloats
    | .rem => if y = 0 then .null else .int (x.tmod (if y = -1 then 1 else y))
  | some x, some y =>
    match op with
    | .rem =>
      -- the remainder of non-integers works on the integer prefix of each operand
      let d := b.toInt
      if d = 0 then .null else .real (floatOfInt (a.toInt.tmod (if d = -1 then 1 else d)))
    | _ => op.onFloats x.toFloat y.toFloat
  | _, _ => .null

/-- Negation: an integer stays one unless it is the smallest, a text is read as a number,
`NULL` stays `NULL`. -/
def SqlValue.negate (v : SqlValue) : SqlValue :=
  match v.numeric with
  | some (.int i) => if fitsInt (-i) then .int (-i) else .real (-(floatOfInt i))
  | some (.real f) => .real (-f)
  | _ => .null

/-- The 64-bit two's complement bits of an integer. -/
def toBits64 (i : Int) : Nat := (i % (Nat.pow 2 64 : Int)).toNat

/-- The signed integer of 64 bits. -/
def ofBits64 (n : Nat) : Int :=
  if n ≥ Nat.pow 2 63 then (n : Int) - (Nat.pow 2 64 : Int) else n

/-- A bit operator. -/
inductive Bits where
  /-- `&` -/
  | and
  /-- `|` -/
  | or
  /-- `<<`: a negative amount shifts right. -/
  | shiftLeft
  /-- `>>`: a negative amount shifts left; the sign fills from the left. -/
  | shiftRight
  deriving DecidableEq, Repr

/-- Shifts an integer by `k` places left (`left`) or right, on 64 bits; 64 places or more
clear it (or fill it with the sign when shifting right). -/
def shiftBits (left : Bool) (i : Int) (k : Nat) : Int :=
  if k ≥ 64 then (if left || i ≥ 0 then 0 else -1)
  else if left then ofBits64 (toBits64 i * Nat.pow 2 k % Nat.pow 2 64)
  else i / (Nat.pow 2 k : Int)

/-- Applies a bit operator to the integers of two values; `NULL` if either is. -/
def Bits.apply (op : Bits) (a b : SqlValue) : SqlValue :=
  match a, b with
  | .null, _ | _, .null => .null
  | a, b =>
    let x := a.toInt
    let y := b.toInt
    match op with
    | .and => .int (ofBits64 (Nat.land (toBits64 x) (toBits64 y)))
    | .or => .int (ofBits64 (Nat.lor (toBits64 x) (toBits64 y)))
    | .shiftLeft => .int (if y ≥ 0 then shiftBits true x y.toNat else shiftBits false x y.natAbs)
    | .shiftRight => .int (if y ≥ 0 then shiftBits false x y.toNat else shiftBits true x y.natAbs)

/-- Bitwise complement of a value's integer; `NULL` stays `NULL`. -/
def SqlValue.complement : SqlValue → SqlValue
  | .null => .null
  | v => .int (-v.toInt - 1)

/-- The truth of a value in a condition: `none` for `NULL`, else whether its number is
not zero. -/
def SqlValue.truth : SqlValue → Option Bool
  | .null => none
  | .int i => some (i ≠ 0)
  | .real f => some (f != 0)
  | v => some (v.toFloat != 0)

/-- The value of a three-valued truth: 1, 0 or `NULL`. -/
def truthValue : Option Bool → SqlValue
  | none => .null
  | some b => .int (if b then 1 else 0)

end Relational

end CrateState
