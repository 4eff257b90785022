import CrateState.Relational.Value

/-!
# Document elements

A JSON document held by the database is a tree of elements. An element keeps the text it
was written with wherever that text shows: a number keeps its digits (`1.50`, `1e5`), a
string its escapes, and JSON5 spellings (hexadecimal integers, `.5`, JSON5 escapes) are
marked, so that writing can turn them into standard JSON.

Every element is also written as bytes, the form the `jsonb` functions give and take: a
header, then a payload. The first header byte's low four bits name the kind
(`Element.code`); its high four bits are the payload length up to 11, or say the length
follows in 1, 2 or 4 bytes (`header`). A number's or string's payload is its text; an
array's its elements; an object's its labels and values alternately. Headers written here
are the shortest that hold the length. Byte offsets into this form are the element ids
`json_each` and `json_tree` report, so the lengths (`Element.length`) are observed.

`Element.ofBinary` accepts exactly the byte strings of well-formed headers whose payloads
add up, with strings as labels and numbers whose text the writer can use; anything else is
malformed JSON to the functions needing the whole document.
-/

namespace CrateState

namespace Relational

namespace Document

/-- How the characters of a string are written. -/
inductive Spelling where
  /-- Without escapes. -/
  | plain
  /-- With the escapes of standard JSON. -/
  | escaped
  /-- With JSON5 escapes or raw control characters. -/
  | extended
  /-- An SQL text taken as it is, escaped only when written out as JSON. -/
  | raw
  deriving DecidableEq, Repr, Inhabited

/-- An object label: a string with its spelling. -/
structure Label where
  /-- How the text is written. -/
  spelling : Spelling
  /-- The bytes between the quotes, escapes as written. -/
  text : List UInt8
  deriving DecidableEq, Repr, Inhabited

/-- An element of a document. -/
inductive Element where
  /-- `null` -/
  | null
  /-- `true` or `false` -/
  | bool (b : Bool)
  /-- An integer as written; `extended` for the JSON5 hexadecimal form. -/
  | integer (text : List UInt8) (extended : Bool)
  /-- A number with a point or an exponent as written; `extended` when a digit is
  missing beside the point. -/
  | real (text : List UInt8) (extended : Bool)
  /-- A string: its spelling and the bytes between its quotes. -/
  | string (spelling : Spelling) (text : List UInt8)
  | array (items : List Element)
  /-- An object: labels and values in order; a label may repeat. -/
  | object (members : List (Label × Element))
  deriving Inhabited

/-! ## Byte classes -/

/-- An ASCII digit. -/
def isDigit (b : UInt8) : Bool := 48 ≤ b && b ≤ 57

def isHexDigit (b : UInt8) : Bool := isDigit b || (65 ≤ b && b ≤ 70) || (97 ≤ b && b ≤ 102)

def isAlpha (b : UInt8) : Bool := (65 ≤ b && b ≤ 90) || (97 ≤ b && b ≤ 122)

def isAlnum (b : UInt8) : Bool := isAlpha b || isDigit b

/-- The value of a hexadecimal digit; other bytes give what the same arithmetic gives. -/
def hexValue (b : UInt8) : Nat :=
  let n := b.toNat
  (n + 9 * (n / 64 % 2)) % 16

def ascii (s : String) : List UInt8 := s.toUTF8.toList

/-! ## Kinds and headers -/

/-- The kind code of a string spelling. -/
def Spelling.code : Spelling → Nat
  | .plain => 7
  | .escaped => 8
  | .extended => 9
  | .raw => 10

/-- The spelling a kind code names, for codes 7 to 10. -/
def Spelling.ofCode? : Nat → Option Spelling
  | 7 => some .plain
  | 8 => some .escaped
  | 9 => some .extended
  | 10 => some .raw
  | _ => none

/-- Whether a spelling holds no escapes, so that its bytes are its characters. -/
def Spelling.isLiteral : Spelling → Bool
  | .plain | .raw => true
  | _ => false

def Element.code : Element → Nat
  | .null => 0
  | .bool true => 1
  | .bool false => 2
  | .integer _ false => 3
  | .integer _ true => 4
  | .real _ false => 5
  | .real _ true => 6
  | .string s _ => s.code
  | .array _ => 11
  | .object _ => 12

/-- The name `json_type` gives an element's kind. -/
def Element.typeName : Element → String
  | .null => "null"
  | .bool true => "true"
  | .bool false => "false"
  | .integer _ _ => "integer"
  | .real _ _ => "real"
  | .string _ _ => "text"
  | .array _ => "array"
  | .object _ => "object"

/-- Whether an element is an array or an object. -/
def Element.isContainer : Element → Bool
  | .array _ | .object _ => true
  | _ => false

/-- The length of the shortest header for a payload of `size` bytes. -/
def headerLength (size : Nat) : Nat :=
  if size ≤ 11 then 1 else if size ≤ 0xFF then 2 else if size ≤ 0xFFFF then 3 else 5

/-- The shortest header of an element of kind `code` with a payload of `size` bytes. -/
def header (code size : Nat) : List UInt8 :=
  if size ≤ 11 then [(size * 16 + code).toUInt8]
  else if size ≤ 0xFF then [(0xC0 + code).toUInt8, size.toUInt8]
  else if size ≤ 0xFFFF then [(0xD0 + code).toUInt8, (size / 256).toUInt8, (size % 256).toUInt8]
  else
    [(0xE0 + code).toUInt8, (size / 0x1000000 % 256).toUInt8, (size / 0x10000 % 256).toUInt8,
      (size / 256 % 256).toUInt8, (size % 256).toUInt8]

def Label.encode (l : Label) : List UInt8 := header l.spelling.code l.text.length ++ l.text

def Label.length (l : Label) : Nat := headerLength l.text.length + l.text.length

mutual

def Element.encode : Element → List UInt8
  | .null => [0]
  | .bool true => [1]
  | .bool false => [2]
  | .integer t x => header (if x then 4 else 3) t.length ++ t
  | .real t x => header (if x then 6 else 5) t.length ++ t
  | .string s t => header s.code t.length ++ t
  | .array items =>
    let body := encodeItems items
    header 11 body.length ++ body
  | .object members =>
    let body := encodeMembers members
    header 12 body.length ++ body

/-- The binary forms of elements one after another. -/
def encodeItems : List Element → List UInt8
  | [] => []
  | e :: es => e.encode ++ encodeItems es

/-- The binary forms of labels and values alternately. -/
def encodeMembers : List (Label × Element) → List UInt8
  | [] => []
  | (l, e) :: ms => l.encode ++ e.encode ++ encodeMembers ms

end

mutual

/-- The length of an element's binary form. -/
def Element.length : Element → Nat
  | .null | .bool _ => 1
  | .integer t _ | .real t _ | .string _ t => headerLength t.length + t.length
  | .array items =>
    let p := itemsLength items
    headerLength p + p
  | .object members =>
    let p := membersLength members
    headerLength p + p

/-- The length of elements' binary forms one after another. -/
def itemsLength : List Element → Nat
  | [] => 0
  | e :: es => e.length + itemsLength es

/-- The length of labels and values one after another. -/
def membersLength : List (Label × Element) → Nat
  | [] => 0
  | (l, e) :: ms => l.length + e.length + membersLength ms

end

/-- The length of an element's header. -/
def Element.headerSize : Element → Nat
  | .null | .bool _ => 1
  | .integer t _ | .real t _ | .string _ t => headerLength t.length
  | .array items => headerLength (itemsLength items)
  | .object members => headerLength (membersLength members)

/-! ## Reading the binary form -/

/-- The header at the start of bytes: the kind code, the header's length and the payload
length; `none` when the bytes end inside the header. A length in eight bytes must have
its first four zero. -/
def readHeader : List UInt8 → Option (Nat × Nat × Nat)
  | [] => none
  | b :: rest =>
    let x := b.toNat / 16
    let code := b.toNat % 16
    if x ≤ 11 then some (code, 1, x)
    else if x = 12 then
      match rest with
      | s :: _ => some (code, 2, s.toNat)
      | _ => none
    else if x = 13 then
      match rest with
      | s1 :: s0 :: _ => some (code, 3, s1.toNat * 256 + s0.toNat)
      | _ => none
    else if x = 14 then
      match rest with
      | s3 :: s2 :: s1 :: s0 :: _ =>
        some (code, 5, ((s3.toNat * 256 + s2.toNat) * 256 + s1.toNat) * 256 + s0.toNat)
      | _ => none
    else
      match rest with
      | 0 :: 0 :: 0 :: 0 :: s3 :: s2 :: s1 :: s0 :: _ =>
        some (code, 9, ((s3.toNat * 256 + s2.toNat) * 256 + s1.toNat) * 256 + s0.toNat)
      | _ => none

/-- Whether bytes look like one element in binary form, which is what decides whether a
blob argument is read as a binary document: a header of a known kind whose payload ends
exactly at the end, with no payload for `null`, `true` and `false`. -/
def looksBinary (bs : List UInt8) : Bool :=
  match readHeader bs with
  | some (code, n, size) => code ≤ 12 && n + size == bs.length && (code > 2 || size == 0)
  | none => false

/-- Whether the text of a JSON5 integer can be written out: after `0x` (and a sign) only
hexadecimal digits. -/
def hexTextOk (t : List UInt8) : Bool :=
  match t with
  | [] => false
  | c :: _ =>
    let skip := if c == 45 || c == 43 then 3 else 2
    (t.drop skip).all isHexDigit

/-- Whether the escapes of a JSON5 string can be written out: no backslash at its end,
`\x` with two bytes after it, and a backslash before `E2` only as part of an escaped line
separator. -/
def extendedTextOk : Nat → List UInt8 → Bool
  | 0, _ => true
  | _, [] => true
  | fuel + 1, b :: rest =>
    if b != 92 then extendedTextOk fuel rest
    else
      match rest with
      | [] => false
      | 120 :: more => more.length ≥ 2 && extendedTextOk fuel (more.drop 2)
      | 0xE2 :: more =>
        match more with
        | 0x80 :: c :: tail => (c == 0xA8 || c == 0xA9) && extendedTextOk fuel tail
        | _ => false
      | _ :: more => extendedTextOk fuel more

mutual

/-- One element at the start of bytes, with the bytes after it. -/
def readElement : Nat → List UInt8 → Option (Element × List UInt8)
  | 0, _ => none
  | fuel + 1, bs => do
    let (code, n, size) ← readHeader bs
    if n + size > bs.length then none
    else
      let body := (bs.drop n).take size
      let rest := bs.drop (n + size)
      let e ← match code with
        | 0 => if size == 0 then some .null else none
        | 1 => if size == 0 then some (.bool true) else none
        | 2 => if size == 0 then some (.bool false) else none
        | 3 => if size > 0 then some (.integer body false) else none
        | 4 => if size > 0 && hexTextOk body then some (.integer body true) else none
        | 5 => if size > 0 then some (.real body false) else none
        | 6 => if size > 0 then some (.real body true) else none
        | 9 => if extendedTextOk body.length body then some (.string .extended body) else none
        | 11 => (readItems fuel body).map Element.array
        | 12 => (readMembers fuel body).map Element.object
        | c => (Spelling.ofCode? c).map fun s => .string s body
      some (e, rest)

def readItems : Nat → List UInt8 → Option (List Element)
  | 0, _ => none
  | _, [] => some []
  | fuel + 1, bs => do
    let (e, rest) ← readElement fuel bs
    let es ← readItems fuel rest
    some (e :: es)

/-- Labels and values filling bytes exactly. -/
def readMembers : Nat → List UInt8 → Option (List (Label × Element))
  | 0, _ => none
  | _, [] => some []
  | fuel + 1, bs => do
    let (l, rest) ← readElement fuel bs
    let label ← match l with
      | .string s t => some (Label.mk s t)
      | _ => none
    let (v, rest) ← readElement fuel rest
    let ms ← readMembers fuel rest
    some ((label, v) :: ms)

end

/-- The element bytes hold in binary form, if they hold exactly one. -/
def Element.ofBinary (bs : List UInt8) : Option Element :=
  match readElement (2 * bs.length + 2) bs with
  | some (e, []) => some e
  | _ => none

end Document

end Relational

end CrateState
