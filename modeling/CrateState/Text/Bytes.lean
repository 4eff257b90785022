/-!
# Texts as byte strings

A text of the database is a string of bytes, normally UTF-8 but not always: a blob read as
text keeps its bytes, and a code point that is no Unicode scalar value (a lone surrogate
from `char()` or a JSON escape) is written with the bytes of the UTF-8 pattern. Texts are
held as Lean strings, whose characters must be scalar values, so a byte that belongs to no
well-formed character is held as a character of a reserved range:

* the byte `b` (`0x80` or more) is the character `U+10FF00 + b`, one of `U+10FF80` …
  `U+10FFFF` (`rawChar`);
* a reserved character that the text itself contains is held by its four UTF-8 bytes, each
  as a reserved character.

So every string holds exactly one byte string (`Bytes.ofText`), and `Bytes.toText` chooses a
string for each: `Bytes.ofText (Bytes.toText bs) = bs`. Two strings may hold the same bytes
(a character cut in two and joined again), so texts with a reserved character are compared
by their bytes.

## Characters as the database steps through them

* Counting and cutting (`length`, `substr`): a character is a byte of `0xC0` or more with
  the bytes `0x80`–`0xBF` after it, or any other single byte (`units`); counting stops at
  the first NUL.
* A code point (`unicode`, pattern matching): the lead byte gives its low bits by a table
  (`leadBits`), each following byte `0x80`–`0xBF` adds six bits, in 32-bit arithmetic; a
  multi-byte reading below `0x80`, a surrogate, or `0xFFFE`/`0xFFFF` gives `U+FFFD`. A
  byte below `0xC0` reads as itself (`readCode`).
* Writing a code point (`char()`, JSON escapes) uses the UTF-8 bit patterns for any value
  below `2^21`, surrogates included (`encodeCode`).
-/

namespace CrateState

namespace Bytes

/-- The first code point of the reserved range, which stands for the byte `0x80`. -/
def rawBase : Nat := 0x10FF00

/-- Whether a character stands for a single byte. -/
def isRaw (c : Char) : Bool := c.toNat ≥ rawBase + 0x80

/-- The character standing for a byte. -/
def rawChar (b : UInt8) : Char := Char.ofNat (rawBase + b.toNat)

/-- Whether a byte continues a multi-byte character (`0x80`–`0xBF`). -/
def isCont (b : UInt8) : Bool := b.toNat / 64 = 2

def ofText (s : String) : List UInt8 :=
  if s.any isRaw then
    s.toList.flatMap fun c =>
      if isRaw c then [(c.toNat - rawBase).toUInt8] else String.utf8EncodeChar c
  else s.toUTF8.toList

/-- The well-formed UTF-8 character at the start of bytes, with its length: shortest form,
no surrogates, at most `U+10FFFF`. -/
def wellFormed : List UInt8 → Option (Char × Nat)
  | [] => none
  | b0 :: rest =>
    let n0 := b0.toNat
    let contAt (i : Nat) (lo hi : Nat) : Option Nat :=
      match rest[i]? with
      | some b => if lo ≤ b.toNat && b.toNat ≤ hi then some (b.toNat % 64) else none
      | none => none
    if n0 < 0x80 then some (Char.ofNat n0, 1)
    else if n0 < 0xC2 then none
    else if n0 < 0xE0 then
      (contAt 0 0x80 0xBF).map fun x1 => (Char.ofNat ((n0 % 32) * 64 + x1), 2)
    else if n0 < 0xF0 then
      let lo := if n0 = 0xE0 then 0xA0 else 0x80
      let hi := if n0 = 0xED then 0x9F else 0xBF
      match contAt 0 lo hi, contAt 1 0x80 0xBF with
      | some x1, some x2 => some (Char.ofNat ((n0 % 16) * 4096 + x1 * 64 + x2), 3)
      | _, _ => none
    else if n0 < 0xF5 then
      let lo := if n0 = 0xF0 then 0x90 else 0x80
      let hi := if n0 = 0xF4 then 0x8F else 0xBF
      match contAt 0 lo hi, contAt 1 0x80 0xBF, contAt 2 0x80 0xBF with
      | some x1, some x2, some x3 =>
        some (Char.ofNat ((n0 % 8) * 262144 + x1 * 4096 + x2 * 64 + x3), 4)
      | _, _, _ => none
    else none

/-- The characters holding bytes: each well-formed character outside the reserved range
as itself, every other byte as its reserved character. -/
def charsOf : Nat → List UInt8 → List Char
  | 0, _ => []
  | _, [] => []
  | fuel + 1, b :: rest =>
    match wellFormed (b :: rest) with
    | some (c, n) =>
      if isRaw c then rawChar b :: charsOf fuel rest
      else c :: charsOf fuel ((b :: rest).drop n)
    | none => rawChar b :: charsOf fuel rest

/-- A string holding bytes; well-formed UTF-8 is its own string. -/
def toText (bs : List UInt8) : String :=
  match String.fromUTF8? (ByteArray.mk bs.toArray) with
  | some s => if s.any isRaw then String.ofList (charsOf bs.length bs) else s
  | none => String.ofList (charsOf bs.length bs)

/-- The string holding the UTF-8 bytes of a string from outside the database, whose
characters of the reserved range are characters like any other. -/
def held (s : String) : String :=
  if s.any isRaw then toText s.toUTF8.toList else s

/-- The bytes before the first NUL, as functions reading a C string see a text. -/
def beforeNul (bs : List UInt8) : List UInt8 := bs.takeWhile (· ≠ 0)

/-- The database's characters of bytes, for counting and cutting (see the module
header). -/
def units : Nat → List UInt8 → List (List UInt8)
  | 0, _ => []
  | _, [] => []
  | fuel + 1, b :: rest =>
    if b.toNat ≥ 0xC0 then
      let cont := rest.takeWhile isCont
      (b :: cont) :: units fuel (rest.drop cont.length)
    else [b] :: units fuel rest

/-- The characters of a text before its first NUL, for counting and cutting. -/
def unitsOf (bs : List UInt8) : List (List UInt8) :=
  let bs := beforeNul bs
  units bs.length bs

/-- The low bits a lead byte `0xC0 + i` gives a code point. -/
def leadBits (i : Nat) : Nat :=
  if i < 32 then i else if i < 48 then i - 32 else if i < 56 then i - 48
  else if i < 60 then i - 56 else if i < 62 then i - 60 else 0

/-- The code point the database reads at the start of bytes, with the bytes after it
(see the module header); `none` for no bytes. -/
def readCode : List UInt8 → Option (Nat × List UInt8)
  | [] => none
  | b :: rest =>
    if b.toNat < 0xC0 then some (b.toNat, rest)
    else
      let cont := rest.takeWhile isCont
      let c := cont.foldl (fun c x => (c * 64 + x.toNat % 64) % Nat.pow 2 32) (leadBits (b.toNat - 0xC0))
      let c := if c < 0x80 || c / 2048 = 0x1B || c / 2 = 0x7FFF then 0xFFFD else c
      some (c, rest.drop cont.length)

/-- All the code points of bytes, read one after another. -/
def codes : Nat → List UInt8 → List Nat
  | 0, _ => []
  | fuel + 1, bs =>
    match readCode bs with
    | some (c, rest) => c :: codes fuel rest
    | none => []

/-- The code points of a text before its first NUL. -/
def codesOf (bs : List UInt8) : List Nat :=
  let bs := beforeNul bs
  codes bs.length bs

/-- The UTF-8 bit pattern of a code point below `2^21`, surrogates included. -/
def encodeCode (c : Nat) : List UInt8 :=
  if c < 0x80 then [c.toUInt8]
  else if c < 0x800 then [(0xC0 + c / 64 % 32).toUInt8, (0x80 + c % 64).toUInt8]
  else if c < 0x10000 then
    [(0xE0 + c / 4096 % 16).toUInt8, (0x80 + c / 64 % 64).toUInt8, (0x80 + c % 64).toUInt8]
  else
    [(0xF0 + c / 262144 % 8).toUInt8, (0x80 + c / 4096 % 64).toUInt8,
      (0x80 + c / 64 % 64).toUInt8, (0x80 + c % 64).toUInt8]

end Bytes

end CrateState
