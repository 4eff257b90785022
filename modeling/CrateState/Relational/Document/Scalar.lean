import CrateState.Relational.Document.Write
import CrateState.Relational.Value

/-!
# Elements as SQL values

`->>`, `json_extract` and the `value` and `key` columns of `json_each` give an element as an
SQL value:

* `null` is `NULL`, `true` `1`, `false` `0`;
* an integer is an integer when it fits 64 bits (a hexadecimal one wraps to the signed
  range), else the double its text spells; a text spelling no number is malformed;
* a real is the double its text spells;
* a string is its text with escapes decoded: a lone surrogate gives the three bytes UTF-8
  would give it, a meaningless escape is dropped, `\u0000` gives a NUL byte.

Labels match by the characters they stand for (`"a"` matches the key `a`); two labels
without escapes match byte for byte. Otherwise characters are compared until one label runs
out or reaches a NUL, which ends it: `"a\u0000b"` matches `a`.
-/

namespace CrateState

namespace Relational

namespace Document

/-- The code an escape that means nothing decodes to; it is dropped from a text. -/
def invalidCode : Nat := 0x99999

/-- The bits a lead byte contributes to the code point it starts. -/
def leadBits (b : Nat) : Nat :=
  if b < 0xE0 then b - 0xC0
  else if b < 0xF0 then b - 0xE0
  else if b < 0xF8 then b - 0xF0
  else if b < 0xFC then b - 0xF8
  else if b < 0xFE then b - 0xFC
  else 0

/-- Adds the continuation bytes after a lead byte, at most `n` of them. -/
def continueCode : Nat → Nat → List UInt8 → Nat × Nat
  | 0, c, _ => (c, 0)
  | n + 1, c, b :: rest =>
    if b.toNat / 64 == 2 then
      let (v, k) := continueCode n (c * 64 + b.toNat % 64) rest
      (v, k + 1)
    else (c, 0)
  | _ + 1, c, [] => (c, 0)

/-- The character at the start of bytes and how many bytes it takes: a byte below `C0`
alone, otherwise a lead byte and the continuation bytes after it (at most four bytes). -/
def readCharacter (bs : List UInt8) : Nat × Nat :=
  match bs with
  | [] => (0, 1)
  | b :: rest =>
    if b.toNat < 0xC0 then (b.toNat, 1)
    else
      let (v, k) := continueCode (min bs.length 4 - 1) (leadBits b.toNat) rest
      (v, k + 1)

/-- How many bytes of escaped line ends and line separators start bytes. -/
def bypassLength : Nat → List UInt8 → Nat
  | 0, _ => 0
  | fuel + 1, 92 :: 10 :: rest => 2 + bypassLength fuel rest
  | fuel + 1, 92 :: 13 :: 10 :: rest => 3 + bypassLength fuel rest
  | fuel + 1, 92 :: 13 :: rest => 2 + bypassLength fuel rest
  | fuel + 1, 92 :: 0xE2 :: 0x80 :: c :: rest =>
    if c == 0xA8 || c == 0xA9 then 4 + bypassLength fuel rest else 0
  | _, _ => 0

/-- The value of four hexadecimal digits. -/
def hex4Value (bs : List UInt8) : Nat :=
  (bs.take 4).foldl (fun acc b => acc * 16 + hexValue b) 0

/-- The character an escape at the start of bytes (which start with a backslash) stands
for, and how many bytes it takes. -/
def unescapeOne : Nat → List UInt8 → Nat × Nat
  | 0, bs => (invalidCode, bs.length)
  | fuel + 1, bs =>
    let n := bs.length
    match bs with
    | _ :: 117 :: rest =>
      if n < 6 then (invalidCode, n)
      else
        let v := hex4Value rest
        let low := rest.drop 4
        if v / 1024 == 0x36 && n ≥ 12 && low.take 2 == [92, 117] &&
            hex4Value (low.drop 2) / 1024 == 0x37 then
          ((v % 1024) * 1024 + hex4Value (low.drop 2) % 1024 + 0x10000, 12)
        else (v, 6)
    | _ :: 98 :: _ => (8, 2)
    | _ :: 102 :: _ => (12, 2)
    | _ :: 110 :: _ => (10, 2)
    | _ :: 114 :: _ => (13, 2)
    | _ :: 116 :: _ => (9, 2)
    | _ :: 118 :: _ => (11, 2)
    | _ :: 48 :: _ => (0, 2)
    | _ :: 39 :: _ => (39, 2)
    | _ :: 34 :: _ => (34, 2)
    | _ :: 47 :: _ => (47, 2)
    | _ :: 92 :: _ => (92, 2)
    | _ :: 120 :: rest =>
      if n < 4 then (invalidCode, n)
      else (hexValue (rest.headD 0) * 16 + hexValue ((rest.drop 1).headD 0), 4)
    | _ :: c :: _ =>
      if c == 0xE2 || c == 13 || c == 10 then
        let skip := bypassLength n bs
        if skip == 0 then (invalidCode, n)
        else if skip == n then (0, n)
        else
          let after := bs.drop skip
          if after.head? == some 92 then
            let (v, k) := unescapeOne fuel after
            (v, skip + k)
          else
            let (v, k) := readCharacter after
            (v, skip + k)
      else (invalidCode, 2)
    | _ => (invalidCode, n)

/-- The bytes a decoded character is written with; the code of an escape that means
nothing gives none. -/
def codeBytes (v : Nat) : List UInt8 :=
  if v ≤ 0x7F then [v.toUInt8]
  else if v ≤ 0x7FF then [(0xC0 + v / 64).toUInt8, (0x80 + v % 64).toUInt8]
  else if v < 0x10000 then
    [(0xE0 + v / 4096).toUInt8, (0x80 + v / 64 % 64).toUInt8, (0x80 + v % 64).toUInt8]
  else if v == invalidCode then []
  else
    [((0xF0 ||| v / 262144) % 256).toUInt8, (0x80 + v / 4096 % 64).toUInt8,
      (0x80 + v / 64 % 64).toUInt8, (0x80 + v % 64).toUInt8]

/-- The bytes of a string body with its escapes decoded. -/
def unescapeBody : Nat → List UInt8 → List UInt8
  | 0, _ => []
  | _, [] => []
  | fuel + 1, b :: rest =>
    if b == 92 then
      let (v, k) := unescapeOne (rest.length + 1) (b :: rest)
      codeBytes v ++ unescapeBody fuel ((b :: rest).drop k)
    else b :: unescapeBody fuel rest

/-- The text a string or label stands for. -/
def stringBytes (sp : Spelling) (t : List UInt8) : List UInt8 :=
  if sp.isLiteral then t else unescapeBody t.length t

/-- The characters of a label one by one, escapes decoded unless it is literal. -/
def labelCodes (literal : Bool) : Nat → List UInt8 → List Nat
  | 0, _ => []
  | _, [] => []
  | fuel + 1, b :: rest =>
    let bs := b :: rest
    let (v, k) := if !literal && b == 92 then unescapeOne bs.length bs else readCharacter bs
    v :: labelCodes literal fuel (bs.drop (max k 1))

/-- Whether two character sequences agree up to their end or first NUL. -/
def codesMatch : List Nat → List Nat → Bool
  | [], [] => true
  | [], c :: _ => c == 0
  | c :: _, [] => c == 0
  | a :: as, b :: bs => a == b && (a == 0 || codesMatch as bs)

/-- Whether two labels, each literal or not, stand for the same key. -/
def labelsMatch (litA : Bool) (a : List UInt8) (litB : Bool) (b : List UInt8) : Bool :=
  if litA && litB then a == b
  else codesMatch (labelCodes litA a.length a) (labelCodes litB b.length b)

def byteChars (bs : List UInt8) : List Char := bs.map fun b => Char.ofNat b.toNat

/-- The double a numeric text spells in full (blanks around it allowed). -/
def wholeFloat? (t : List UInt8) : Option Float :=
  match readNumeral (byteChars t) with
  | some (n, rest) => if rest.all isSpace then some n.toFloat else none
  | none => none

/-- How an integer text reads as a 64-bit integer: `ok` with its value, `exact` for
`9223372036854775808`, `tooLarge` past the range, `bad` for text that is no integer. -/
inductive IntegerReading where
  /-- It fits, with this (wrapped) value. -/
  | ok (i : Int)
  /-- It is exactly 2^63. -/
  | exact
  /-- It is too large. -/
  | tooLarge
  /-- It is no integer. -/
  | bad

/-- Reads an unsigned decimal or `0x` hexadecimal integer text. A hexadecimal integer
wraps to 64 bits but is too large with more than 16 digits after its leading zeros. -/
def readInteger (t : List UInt8) : IntegerReading :=
  match t with
  | 48 :: x :: rest =>
    if x == 120 || x == 88 then
      let digits := (rest.dropWhile (· == 48)).takeWhile isHexDigit
      let after := (rest.dropWhile (· == 48)).drop digits.length
      let u := digits.foldl (fun acc b => (acc * 16 + hexValue b) % Nat.pow 2 64) 0
      if digits.length > 16 then .tooLarge
      else if !after.isEmpty then .bad
      else .ok (ofBits64 u)
    else decimal t
  | _ => decimal t
where
  /-- An unsigned decimal text. -/
  decimal (t : List UInt8) : IntegerReading :=
    let digits := (t.dropWhile (· == 48)).takeWhile isDigit
    let after := (t.dropWhile (· == 48)).drop digits.length
    let n := digits.foldl (fun acc b => acc * 10 + (b.toNat - 48)) 0
    if t.isEmpty then .bad
    else if digits.length > 19 || n > Nat.pow 2 63 then .tooLarge
    else if n == Nat.pow 2 63 then .exact
    else if !(after.all fun b => isSpace (Char.ofNat b.toNat)) then .bad
    else .ok n

/-- The SQL value of an integer text, `none` when it is malformed. -/
def integerValue (t : List UInt8) : Option SqlValue :=
  let (neg, body) := match t with
    | 45 :: r => (true, r)
    | r => (false, r)
  if t.isEmpty || (neg && body.isEmpty) then none
  else
    match readInteger body with
    | .ok i => some (.int (if neg then ofBits64 (toBits64 (-i)) else i))
    | .exact => if neg then some (.int minInt) else (wholeFloat? t).map SqlValue.real
    | .tooLarge => (wholeFloat? t).map SqlValue.real
    | .bad => none

/-- The SQL value of a scalar element, the JSON text of a container; `none` when a
number's text spells no number. -/
def Element.sqlValue : Element → Option SqlValue
  | .null => some .null
  | .bool b => some (.int (if b then 1 else 0))
  | .integer t _ => integerValue t
  | .real t _ => if t.isEmpty then none else (wholeFloat? t).map SqlValue.real
  | .string sp t => some (.text (utf8Text (stringBytes sp t)))
  | e => some (.text (utf8Text e.render))

end Document

end Relational

end CrateState
