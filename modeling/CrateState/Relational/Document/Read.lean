import CrateState.Relational.Document.Element

/-!
# Reading JSON text

The database reads standard JSON and the JSON5 extensions: comments and wider blanks,
single-quoted strings with JSON5 escapes, unquoted labels, hexadecimal integers, a leading
`+` or a point without a digit on one side, `Infinity` and `NaN` (any case; also `inf`,
`QNaN`, `SNaN`), and a comma before a closing bracket. A document using any is *extended*;
`json_valid` tells the two apart. Nesting is limited to 1000; the text ends at its first
NUL.

`step` reads what stands at a position after blanks: an element and the position after it,
the end, a closing bracket, comma or colon (which the caller may await), or a fault. The
last three set the *mark*, the position a failed read reports; a caller meeting what it
does not expect moves the mark to where it stood. The mark is kept across the read, so
text left after a complete document is reported at the last mark set, where
`json_error_position` points.

Numbers keep their text less a leading `+`; `Infinity` becomes the real `9e999` and `NaN`
`null`. A string keeps its bytes between the quotes, marked as having standard escapes,
JSON5 escapes or control characters, or neither (`Spelling`).
-/

namespace CrateState

namespace Relational

namespace Document

/-- The deepest nesting of arrays and objects a document may have. -/
def maxDepth : Nat := 1000

/-- The bytes of a text up to its first NUL, with the byte at each position (NUL past
the end). -/
structure Source where
  bytes : Array UInt8

/-- The byte at a position; NUL past the end. -/
def Source.at (z : Source) (i : Nat) : UInt8 := z.bytes.getD i 0

/-- The bytes from `i` up to `j`. -/
def Source.slice (z : Source) (i j : Nat) : List UInt8 := ((z.bytes.extract i j).toList)

def isBlank (b : UInt8) : Bool := b == 32 || b == 9 || b == 10 || b == 13

/-- A byte that may stand unescaped in a string: not a quote of either kind, not a
backslash, not a control character. -/
def plainByte (b : UInt8) : Bool := b ≥ 32 && b != 34 && b != 39 && b != 92

/-- A byte that may start an unquoted label: a letter, `_`, `$` or any byte of a
character beyond ASCII. -/
def labelStart (b : UInt8) : Bool := isAlpha b || b == 95 || b == 36 || b ≥ 128

/-- A byte that may continue an unquoted label: a start byte or a digit. -/
def labelByte (b : UInt8) : Bool := labelStart b || isDigit b

/-- The position after the standard blanks from `i`. -/
def Source.skipBlanks (z : Source) (i : Nat) : Nat :=
  let rest := (z.bytes.extract i z.bytes.size).toList
  i + (rest.takeWhile isBlank).length

/-- The end of a block comment whose body starts at `j`: the position after `*/`, or
`none` when the text ends first. -/
def Source.commentEnd (z : Source) : Nat → Nat → Option Nat
  | 0, _ => none
  | fuel + 1, j =>
    if z.at j == 47 && z.at (j - 1) == 42 then some (j + 1)
    else if z.at j == 0 then none
    else z.commentEnd fuel (j + 1)

/-- The end of a line comment whose body starts at `j`: after the line's end (a line
feed, a carriage return or a line or paragraph separator), or at the end of the text. -/
def Source.lineEnd (z : Source) : Nat → Nat → Nat
  | 0, j => j
  | fuel + 1, j =>
    let c := z.at j
    if c == 0 then j
    else if c == 10 || c == 13 then j + 1
    else if c == 0xE2 && z.at (j + 1) == 0x80 && (z.at (j + 2) == 0xA8 || z.at (j + 2) == 0xA9) then
      j + 3
    else z.lineEnd fuel (j + 1)

/-- The length of the JSON5 blanks and comments at `i`: tab, line feed, vertical tab,
form feed, carriage return and space, the no-break space, the Ogham space mark, the
spaces `U+2000` to `U+200A`, the line and paragraph separators, the narrow no-break
space, the medium mathematical space, the ideographic space, the byte order mark, and
comments. -/
def Source.json5Blank (z : Source) : Nat → Nat → Nat
  | 0, n => n
  | fuel + 1, n =>
    let i := n
    let c := z.at i
    if c == 9 || c == 10 || c == 11 || c == 12 || c == 13 || c == 32 then z.json5Blank fuel (n + 1)
    else if c == 47 then
      if z.at (i + 1) == 42 && z.at (i + 2) != 0 then
        match z.commentEnd (z.bytes.size + 1) (i + 3) with
        | some e => z.json5Blank fuel e
        | none => n
      else if z.at (i + 1) == 47 then z.json5Blank fuel (z.lineEnd (z.bytes.size + 1) (i + 2))
      else n
    else if c == 0xC2 then
      if z.at (i + 1) == 0xA0 then z.json5Blank fuel (n + 2) else n
    else if c == 0xE1 then
      if z.at (i + 1) == 0x9A && z.at (i + 2) == 0x80 then z.json5Blank fuel (n + 3) else n
    else if c == 0xE2 then
      if z.at (i + 1) == 0x80 then
        let d := z.at (i + 2)
        if d < 0x80 then n
        else if d ≤ 0x8A || d == 0xA8 || d == 0xA9 || d == 0xAF then z.json5Blank fuel (n + 3)
        else n
      else if z.at (i + 1) == 0x81 && z.at (i + 2) == 0x9F then z.json5Blank fuel (n + 3)
      else n
    else if c == 0xE3 then
      if z.at (i + 1) == 0x80 && z.at (i + 2) == 0x80 then z.json5Blank fuel (n + 3) else n
    else if c == 0xEF then
      if z.at (i + 1) == 0xBB && z.at (i + 2) == 0xBF then z.json5Blank fuel (n + 3) else n
    else n

/-- The number of bytes of JSON5 blanks and comments at `i`. -/
def Source.blankLength (z : Source) (i : Nat) : Nat :=
  z.json5Blank (z.bytes.size + 1) i - i

/-- Whether four hexadecimal digits stand at `i`. -/
def Source.hex4 (z : Source) (i : Nat) : Bool :=
  isHexDigit (z.at i) && isHexDigit (z.at (i + 1)) && isHexDigit (z.at (i + 2)) &&
    isHexDigit (z.at (i + 3))

/-- Whether the bytes at `i` spell `word`, letters in either case. -/
def Source.spellsNoCase (z : Source) (i : Nat) (word : String) : Bool :=
  (ascii word).zipIdx.all fun (w, k) =>
    let c := z.at (i + k)
    c == w || (isAlpha c && (c.toNat ||| 32) == (w.toNat ||| 32))

/-- Whether the bytes at `i` spell `word` exactly. -/
def Source.spells (z : Source) (i : Nat) (word : String) : Bool :=
  (ascii word).zipIdx.all fun (w, k) => z.at (i + k) == w

/-! ## Strings -/

/-- The end of a string's body from `j` (`delim` its quote): the closing quote's position and
the spelling, or a fault's position. A backslash must start an escape of standard JSON
(`\"`, `\\`, `\/`, `\b`, `\f`, `\n`, `\r`, `\t`, `\uXXXX`) or of JSON5 (`\'`, `\0`, `\v`,
`\xXX`, an escaped line end or separator); a control character other than NUL makes the
string extended, as does a double quote in a single-quoted string. -/
def Source.stringEnd (z : Source) (delim : UInt8) :
    Nat → Nat → Spelling → Except Nat (Nat × Spelling)
  | 0, j, _ => .error j
  | fuel + 1, j, sp =>
    let c := z.at j
    if plainByte c then z.stringEnd delim fuel (j + 1) sp
    else if c == delim then .ok (j, sp)
    else if c == 92 then
      let d := z.at (j + 1)
      if d == 34 || d == 92 || d == 47 || d == 98 || d == 102 || d == 110 || d == 114 ||
          d == 116 || (d == 117 && z.hex4 (j + 2)) then
        z.stringEnd delim fuel (j + 2) (if sp == .plain then .escaped else sp)
      else if d == 39 || d == 48 || d == 118 || d == 10 ||
          (d == 0xE2 && z.at (j + 2) == 0x80 && (z.at (j + 3) == 0xA8 || z.at (j + 3) == 0xA9)) ||
          (d == 120 && isHexDigit (z.at (j + 2)) && isHexDigit (z.at (j + 3))) then
        z.stringEnd delim fuel (j + 2) .extended
      else if d == 13 then
        z.stringEnd delim fuel (if z.at (j + 2) == 10 then j + 3 else j + 2) .extended
      else .error (j + 1)
    else if c < 32 then
      if c == 0 then .error j else z.stringEnd delim fuel (j + 1) .extended
    else if c == 34 then z.stringEnd delim fuel (j + 1) .extended
    else z.stringEnd delim fuel (j + 1) sp

/-! ## Numbers -/

/-- The end of the hexadecimal digits from `j`. -/
def Source.hexEnd (z : Source) : Nat → Nat → Nat
  | 0, j => j
  | fuel + 1, j => if isHexDigit (z.at j) then z.hexEnd fuel (j + 1) else j

/-- The number element of the text from `i` to `j` whose kind bits are `t` (1: JSON5,
2: with a point or an exponent); a leading `+` is dropped. -/
def Source.numberElement (z : Source) (i j t : Nat) : Element :=
  let i := if z.at i == 43 then i + 1 else i
  let text := z.slice i j
  if t / 2 % 2 == 1 then .real text (t % 2 == 1) else .integer text (t % 2 == 1)

/-- Reads the digits, point and exponent of a number whose first byte is at `i`, from
`j`, with kind bits `t` and whether an exponent was seen. Gives the position after the
number with the kind bits, or the position of a fault. A point right before the exponent
or at the end, after a digit, makes the number JSON5. -/
def Source.numberTail (z : Source) (i : Nat) : Nat → Nat → Nat → Bool → Except Nat (Nat × Nat)
  | 0, j, _, _ => .error j
  | fuel + 1, j, t, seenE =>
    let c := z.at j
    if isDigit c then z.numberTail i fuel (j + 1) t seenE
    else if c == 46 then
      if t / 2 % 2 == 1 then .error j else z.numberTail i fuel (j + 1) (t ||| 2) seenE
    else if c == 101 || c == 69 then
      let prevOk : Except Nat Nat :=
        if z.at (j - 1) < 48 then
          if z.at (j - 1) == 46 && j ≥ i + 2 && isDigit (z.at (j - 2)) then .ok (t ||| 1)
          else .error j
        else .ok t
      match prevOk with
      | .error p => .error p
      | .ok t =>
        if seenE then .error j
        else
          let j' := if z.at (j + 1) == 43 || z.at (j + 1) == 45 then j + 1 else j
          if isDigit (z.at (j' + 1)) then z.numberTail i fuel (j' + 1) (t ||| 2) true
          else .error j'
    else
      if z.at (j - 1) < 48 then
        if z.at (j - 1) == 46 && j ≥ i + 2 && isDigit (z.at (j - 2)) then .ok (j, t ||| 1)
        else .error j
      else .ok (j, t)

/-- Reads a number starting at `i` with a sign, a digit or a point: the element, the
position after it and whether it is JSON5; or the position of a fault. -/
def Source.number (z : Source) (i : Nat) : Except Nat (Element × Nat × Bool) :=
  let fuel := z.bytes.size + 2
  let tail (t : Nat) (ext : Bool) : Except Nat (Element × Nat × Bool) :=
    match z.numberTail i fuel (i + 1) t false with
    | .ok (j, t) => .ok (z.numberElement i j t, j, ext || t % 2 == 1)
    | .error p => .error p
  let hex (from_ : Nat) : Except Nat (Element × Nat × Bool) :=
    let j := z.hexEnd fuel from_
    .ok (z.numberElement i j 1, j, true)
  let c := z.at i
  if c == 46 then
    if isDigit (z.at (i + 1)) then tail 3 true else .error i
  else if c == 48 then
    if (z.at (i + 1) == 120 || z.at (i + 1) == 88) && isHexDigit (z.at (i + 2)) then hex (i + 3)
    else if isDigit (z.at (i + 1)) then .error (i + 1)
    else tail 0 false
  else if c == 45 || c == 43 then
    let ext := c == 43
    if !isDigit (z.at (i + 1)) then
      if (z.at (i + 1) == 73 || z.at (i + 1) == 105) && z.spellsNoCase (i + 1) "inf" then
        let text := ascii (if c == 45 then "-9e999" else "9e999")
        let next := i + (if z.spellsNoCase (i + 4) "inity" then 9 else 4)
        .ok (.real text false, next, true)
      else if z.at (i + 1) == 46 then tail 1 true
      else .error i
    else if z.at (i + 1) == 48 then
      if isDigit (z.at (i + 2)) then .error (i + 1)
      else if (z.at (i + 2) == 120 || z.at (i + 2) == 88) && isHexDigit (z.at (i + 3)) then
        hex (i + 4)
      else tail 0 ext
    else tail 0 ext
  else tail 0 false

/-- The names that stand for special numbers, with their length and whether they are
infinite (else not a number): `inf`, `infinity`, `NaN`, `QNaN`, `SNaN`. -/
def specialNames : List (String × Bool) :=
  [("inf", true), ("infinity", true), ("nan", false), ("qnan", false), ("snan", false)]

/-! ## Elements -/

/-- What one step of the reader finds. -/
inductive Found where
  /-- An element, and the position after it. -/
  | element (e : Element) (next : Nat)
  /-- The end of the text. -/
  | finish
  /-- A `}`, `]`, `,` or `:`; its position is the mark. -/
  | punct (c : UInt8)
  /-- A fault; its position is the mark. -/
  | fault

/-- What the reader carries across a read. -/
structure ReadState where
  /-- The position of the last punctuation or fault met. -/
  mark : Nat := 0
  /-- Whether anything beyond standard JSON was read. -/
  extended : Bool := false

/-- A fault at a position. -/
def ReadState.failAt (st : ReadState) (i : Nat) : Found × ReadState := (.fault, { st with mark := i })

/-- The position of the next thing to read from `i`: standard blanks are passed over, and
JSON5 blanks and comments too (which makes the document extended); a byte that could
only start a JSON5 blank and does not is a fault there. -/
def Source.nextToken (z : Source) : Nat → Nat → Bool → Except Nat (Nat × Bool)
  | 0, i, ext => .ok (i, ext)
  | fuel + 1, i, ext =>
    let c := z.at i
    if isBlank c then z.nextToken fuel (z.skipBlanks i) ext
    else if c == 11 || c == 12 || c == 47 || c == 0xC2 || c == 0xE1 || c == 0xE2 || c == 0xE3 ||
        c == 0xEF then
      let n := z.blankLength i
      if n > 0 then z.nextToken fuel (i + n) true else .error i
    else .ok (i, ext)

/-- The end of an unquoted label from `k`, and whether it holds a `\uXXXX` escape. -/
def Source.labelEnd (z : Source) : Nat → Nat → Bool → Nat × Bool
  | 0, k, esc => (k, esc)
  | fuel + 1, k, esc =>
    let c := z.at k
    if labelByte c && z.blankLength k == 0 then z.labelEnd fuel (k + 1) esc
    else if c == 92 && z.at (k + 1) == 117 && z.hex4 (k + 2) then z.labelEnd fuel (k + 1) true
    else (k, esc)

mutual

/-- Reads what stands at `i` (see the module header); `depth` counts the arrays and
objects open around it. -/
def Source.step (z : Source) : Nat → Nat → Nat → ReadState → Found × ReadState
  | 0, _, i, st => st.failAt i
  | fuel + 1, depth, i, st =>
    match z.nextToken (z.bytes.size + 1) i false with
    | .error p => st.failAt p
    | .ok (i, ext) =>
      let st := { st with extended := st.extended || ext }
      let c := z.at i
      if c == 123 then
        if depth + 1 > maxDepth then st.failAt i
        else z.members fuel (depth + 1) (i + 1) st []
      else if c == 91 then
        if depth + 1 > maxDepth then st.failAt i
        else z.items fuel (depth + 1) (i + 1) st []
      else if c == 34 || c == 39 then
        let st := if c == 39 then { st with extended := true } else st
        match z.stringEnd c (z.bytes.size + 1) (i + 1) .plain with
        | .ok (j, sp) =>
          let st := if sp == .extended then { st with extended := true } else st
          (.element (.string sp (z.slice (i + 1) j)) (j + 1), st)
        | .error p => st.failAt p
      else if c == 116 then
        if z.spells i "true" && !isAlnum (z.at (i + 4)) then (.element (.bool true) (i + 4), st)
        else st.failAt i
      else if c == 102 then
        if z.spells i "false" && !isAlnum (z.at (i + 5)) then (.element (.bool false) (i + 5), st)
        else st.failAt i
      else if c == 43 || c == 46 || c == 45 || isDigit c then
        let st := if c == 43 then { st with extended := true } else st
        match z.number i with
        | .ok (e, j, ext) => (.element e j, { st with extended := st.extended || ext })
        | .error p => st.failAt p
      else if c == 125 || c == 93 || c == 44 || c == 58 then (.punct c, { st with mark := i })
      else if c == 0 then (.finish, st)
      else if c == 110 && z.spells i "null" && !isAlnum (z.at (i + 4)) then (.element .null (i + 4), st)
      else
        match specialNames.find? fun (w, _) =>
            z.spellsNoCase i w && !isAlnum (z.at (i + w.length)) with
        | some (w, true) => (.element (.real (ascii "9e999") false) (i + w.length), { st with extended := true })
        | some (w, false) => (.element .null (i + w.length), { st with extended := true })
        | none => st.failAt i

/-- The elements of an array after its `[`, from `j`. -/
def Source.items (z : Source) : Nat → Nat → Nat → ReadState → List Element → Found × ReadState
  | 0, _, j, st, _ => st.failAt j
  | fuel + 1, depth, j, st, acc =>
    match z.step fuel depth j st with
    | (.element e x, st) => z.afterItem fuel depth x st (acc ++ [e])
    | (.punct 93, st) =>
      (.element (.array acc) (st.mark + 1), { st with extended := st.extended || !acc.isEmpty })
    | (.fault, st) => (.fault, st)
    | (_, st) => st.failAt j

/-- What follows an array element ending at `j`. -/
def Source.afterItem (z : Source) : Nat → Nat → Nat → ReadState → List Element → Found × ReadState
  | 0, _, j, st, _ => st.failAt j
  | fuel + 1, depth, j, st, acc =>
    let c := z.at j
    if c == 44 then z.items fuel depth (j + 1) st acc
    else if c == 93 then (.element (.array acc) (j + 1), st)
    else
      let j := if isBlank c then z.skipBlanks j else j
      if isBlank c && z.at j == 44 then z.items fuel depth (j + 1) st acc
      else if isBlank c && z.at j == 93 then (.element (.array acc) (j + 1), st)
      else
        match z.step fuel depth j st with
        | (.punct 44, st) => z.items fuel depth (st.mark + 1) st acc
        | (.punct 93, st) => (.element (.array acc) (st.mark + 1), st)
        | (_, st) => st.failAt j

/-- The members of an object after its `{`, from `j`. -/
def Source.members (z : Source) : Nat → Nat → Nat → ReadState → List (Label × Element) →
    Found × ReadState
  | 0, _, j, st, _ => st.failAt j
  | fuel + 1, depth, j, st, acc =>
    match z.step fuel depth j st with
    | (.element e x, st) =>
      match e with
      | .string sp t => z.afterLabel fuel depth x st acc ⟨sp, t⟩
      | _ => st.failAt j
    | (.punct 125, st) =>
      (.element (.object acc) (st.mark + 1), { st with extended := st.extended || !acc.isEmpty })
    | (found, st) =>
      let j := j + z.blankLength j
      let c := z.at j
      if labelStart c || (c == 92 && z.at (j + 1) == 117 && z.hex4 (j + 2)) then
        let (k, esc) := z.labelEnd (z.bytes.size + 1) (j + 1) (c == 92)
        let label : Label := ⟨if esc then .extended else .plain, z.slice j k⟩
        z.afterLabel fuel depth k { st with extended := true } acc label
      else
        match found with
        | .fault => (.fault, st)
        | _ => st.failAt j

/-- What follows an object label ending at `j`: a colon, then the value. -/
def Source.afterLabel (z : Source) : Nat → Nat → Nat → ReadState → List (Label × Element) →
    Label → Found × ReadState
  | 0, _, j, st, _, _ => st.failAt j
  | fuel + 1, depth, j, st, acc, label =>
    let c := z.at j
    if c == 58 then z.memberValue fuel depth (j + 1) st acc label
    else
      let j := if isBlank c then z.skipBlanks j else j
      if isBlank c && z.at j == 58 then z.memberValue fuel depth (j + 1) st acc label
      else
        match z.step fuel depth j st with
        | (.punct 58, st) => z.memberValue fuel depth (st.mark + 1) st acc label
        | (.fault, st) => (.fault, st)
        | (_, st) => st.failAt j

/-- The value of an object member, from `j`. -/
def Source.memberValue (z : Source) : Nat → Nat → Nat → ReadState → List (Label × Element) →
    Label → Found × ReadState
  | 0, _, j, st, _, _ => st.failAt j
  | fuel + 1, depth, j, st, acc, label =>
    match z.step fuel depth j st with
    | (.element v x, st) => z.afterMember fuel depth x st (acc ++ [(label, v)])
    | (.fault, st) => (.fault, st)
    | (_, st) => st.failAt j

/-- What follows an object member ending at `j`. -/
def Source.afterMember (z : Source) : Nat → Nat → Nat → ReadState → List (Label × Element) →
    Found × ReadState
  | 0, _, j, st, _ => st.failAt j
  | fuel + 1, depth, j, st, acc =>
    let c := z.at j
    if c == 44 then z.members fuel depth (j + 1) st acc
    else if c == 125 then (.element (.object acc) (j + 1), st)
    else
      let j := if isBlank c then z.skipBlanks j else j
      if isBlank c && z.at j == 44 then z.members fuel depth (j + 1) st acc
      else if isBlank c && z.at j == 125 then (.element (.object acc) (j + 1), st)
      else
        match z.step fuel depth j st with
        | (.punct 44, st) => z.members fuel depth (st.mark + 1) st acc
        | (.punct 125, st) => (.element (.object acc) (st.mark + 1), st)
        | (_, st) => st.failAt j

end

/-- What reading a whole text gives. -/
inductive ReadResult where
  /-- A document, and whether it uses JSON5. -/
  | ok (e : Element) (extended : Bool)
  /-- A fault at a byte offset. -/
  | fault (at_ : Nat)

/-- Reads a whole text as a document: one element, then only blanks and comments (which
make it extended). Text after the document is a fault at the reader's last mark. -/
def readText (text : List UInt8) : ReadResult :=
  let z : Source := ⟨(Bytes.beforeNul text).toArray⟩
  match z.step (4 * z.bytes.size + 8) 0 0 {} with
  | (.element e x, st) =>
    let i := z.skipBlanks x
    if z.at i != 0 then
      let i := i + z.blankLength i
      if z.at i != 0 then .fault st.mark else .ok e true
    else .ok e st.extended
  | (_, st) => .fault st.mark

/-- The character position `json_error_position` reports for a fault at a byte offset:
one more than the number of characters before it. -/
def faultPosition (text : List UInt8) (at_ : Nat) : Nat :=
  ((Bytes.beforeNul text).take at_).countP (fun b => b.toNat / 64 != 2) + 1

end Document

end Relational

end CrateState
