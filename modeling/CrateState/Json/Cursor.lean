import CrateState.Json.Value
import CrateState.Decimal.Binary

/-!
# Reading JSON text: positions, errors and tokens

A `Cursor` is the unread rest of a JSON text together with the position reached. Positions
count lines from 1 and, within a line, the bytes (not characters) read so far, so a
position names the last byte read. An error found while looking at the next character
without reading it is placed one byte further on (`Cursor.peekPos`).

The token readers here (whitespace, literals, numbers, strings, and skipping a whole
value) each report the first fault they meet, with its position, in the wording of
`SyntaxError.message`.
-/

namespace CrateState

namespace Json

/-- A place in a text: line from 1, and bytes read on that line. -/
structure Pos where
  /-- The line, from 1. -/
  line : Nat
  /-- Bytes read on the line. -/
  column : Nat
  deriving DecidableEq, Repr

/-- The ways a JSON text can be malformed. -/
inductive SyntaxError where
  /-- The text ended inside an array. -/
  | eofList
  /-- The text ended inside an object. -/
  | eofObject
  /-- The text ended inside a string. -/
  | eofString
  /-- The text ended where a value was due. -/
  | eofValue
  /-- A member name was not followed by a colon. -/
  | expectedColon
  /-- An array item was followed by something other than a comma or `]`. -/
  | expectedListCommaOrEnd
  /-- An object member was followed by something other than a comma or `}`. -/
  | expectedObjectCommaOrEnd
  /-- A misspelt `null`, `true` or `false`. -/
  | expectedIdent
  /-- A character that cannot start a value. -/
  | expectedValue
  /-- A backslash followed by a character that is not an escape. -/
  | invalidEscape
  /-- A malformed number. -/
  | invalidNumber
  /-- A number too large for a double. -/
  | numberOutOfRange
  /-- A raw control character inside a string. -/
  | controlCharacter
  /-- An object member whose name is not a string. -/
  | keyMustBeString
  /-- A UTF-16 surrogate escape that is not part of a pair. -/
  | loneLeadingSurrogate
  /-- A comma before a closing bracket. -/
  | trailingComma
  /-- Text after the complete value. -/
  | trailingCharacters
  /-- A leading surrogate escape not followed by a second escape. -/
  | unexpectedEndOfHexEscape
  /-- More than 127 nested arrays and objects. -/
  | recursionLimit
  deriving DecidableEq, Repr

/-- The wording of each malformation. -/
def SyntaxError.message : SyntaxError → String
  | .eofList => "EOF while parsing a list"
  | .eofObject => "EOF while parsing an object"
  | .eofString => "EOF while parsing a string"
  | .eofValue => "EOF while parsing a value"
  | .expectedColon => "expected `:`"
  | .expectedListCommaOrEnd => "expected `,` or `]`"
  | .expectedObjectCommaOrEnd => "expected `,` or `\x7d`"
  | .expectedIdent => "expected ident"
  | .expectedValue => "expected value"
  | .invalidEscape => "invalid escape"
  | .invalidNumber => "invalid number"
  | .numberOutOfRange => "number out of range"
  | .controlCharacter => "control character (\\u0000-\\u001F) found while parsing a string"
  | .keyMustBeString => "key must be a string"
  | .loneLeadingSurrogate => "lone leading surrogate in hex escape"
  | .trailingComma => "trailing comma"
  | .trailingCharacters => "trailing characters"
  | .unexpectedEndOfHexEscape => "unexpected end of hex escape"
  | .recursionLimit => "recursion limit exceeded"

/-- A failure to read a text: a message and, when known, the position of the fault. -/
structure Error where
  /-- What went wrong. -/
  message : String
  /-- Where, if known. -/
  pos : Option Pos := none

/-- The text of a failure: the message, then the position when there is one. -/
def Error.render (e : Error) : String :=
  match e.pos with
  | some p => s!"{e.message} at line {p.line} column {p.column}"
  | none => e.message

/-- Gives a failure the position `p` unless it already has one. -/
def Error.at (e : Error) (p : Pos) : Error :=
  match e.pos with
  | some _ => e
  | none => { e with pos := some p }

/-- The unread rest of a text and the position reached. -/
structure Cursor where
  /-- Characters not yet read. -/
  rest : List Char
  /-- Position of the last byte read. -/
  pos : Pos

/-- The position after reading `c` from `p`. -/
def Pos.after (p : Pos) (c : Char) : Pos :=
  if c = '\n' then ⟨p.line + 1, 0⟩ else ⟨p.line, p.column + c.utf8Size⟩

/-- The position after reading only the first byte of `c`. -/
def Pos.afterByte (p : Pos) (c : Char) : Pos :=
  if c = '\n' then ⟨p.line + 1, 0⟩ else ⟨p.line, p.column + 1⟩

namespace Cursor

def start (s : String) : Cursor := ⟨s.toList, ⟨1, 0⟩⟩

/-- The next character, not read. -/
def peek (cur : Cursor) : Option Char := cur.rest.head?

def eat (cur : Cursor) : Cursor :=
  match cur.rest with
  | c :: cs => ⟨cs, cur.pos.after c⟩
  | [] => cur

/-- The position of a fault in the next character, which is not read. -/
def peekPos (cur : Cursor) : Pos :=
  match cur.rest with
  | c :: _ => cur.pos.afterByte c
  | [] => cur.pos

/-- A failure at the position reached. -/
def fail {α : Type} (cur : Cursor) (e : SyntaxError) : Except Error α :=
  .error ⟨e.message, some cur.pos⟩

/-- A failure in the next, unread character. -/
def failPeek {α : Type} (cur : Cursor) (e : SyntaxError) : Except Error α :=
  .error ⟨e.message, some cur.peekPos⟩

end Cursor

/-- Whether a character is JSON whitespace. -/
def isBlank (c : Char) : Bool := c = ' ' || c = '\n' || c = '\t' || c = '\r'

def skipBlanks (cs : List Char) (p : Pos) : Cursor :=
  match cs with
  | c :: rest => if isBlank c then skipBlanks rest (p.after c) else ⟨c :: rest, p⟩
  | [] => ⟨[], p⟩

/-- Reads whitespace up to the next meaningful character. -/
def Cursor.skipWs (cur : Cursor) : Cursor := skipBlanks cur.rest cur.pos

/-- Reads the rest of a literal (`ull` after `n`, …): each character read is checked. -/
def readIdent (cur : Cursor) : List Char → Except Error Cursor
  | [] => .ok cur
  | want :: more =>
    match cur.rest with
    | c :: _ => if c = want then readIdent cur.eat more else cur.eat.fail .expectedIdent
    | [] => cur.fail .eofValue

/-- Whether a character is an ASCII decimal digit. -/
def isDigit (c : Char) : Bool := '0' ≤ c && c ≤ '9'

/-- The value of a decimal digit character. -/
def digitVal (c : Char) : Nat := c.toNat - 48

/-- The doubles nearest to `10^0 … 10^308`. -/
def pow10 (k : Nat) : Float := Decimal.floatOfDecimal 1 k

/-- The double made of a significand and a decimal exponent: the significand rounded to a
double, then multiplied or divided by a power of ten, one rounding per step; too large a
value is out of range. -/
def floatOfParts (cur : Cursor) (positive : Bool) (significand : Nat) (exponent : Int) :
    Except Error Float :=
  let rec go (fuel : Nat) (f : Float) (e : Int) : Except Error Float :=
    match fuel with
    | 0 => .ok f
    | fuel + 1 =>
      if e.natAbs ≤ 308 then
        if 0 ≤ e then
          let g := f * pow10 e.natAbs
          if g.isInf then cur.fail .numberOutOfRange else .ok g
        else .ok (f / pow10 e.natAbs)
      else if f == 0.0 then .ok f
      else if 0 ≤ e then cur.fail .numberOutOfRange
      else go fuel (f / 1e308) (e + 308)
  match go 64 (Decimal.floatOfNat significand) exponent with
  | .ok f => .ok (if positive then f else -f)
  | .error e => .error e

/-- The largest significand kept exactly while reading digits. -/
def maxSignificand : Nat := Nat.pow 2 64 - 1

/-- Reads the digits of an exponent after `e`/`E` and its sign; an exponent beyond the
32-bit range is out of range for a non-zero positive power, and zero otherwise. -/
def readExponent (cur : Cursor) (positive : Bool) (significand : Nat) (start : Int) :
    Except Error (Float × Cursor) :=
  let cur := cur.eat
  let (positiveExp, cur) :=
    match cur.peek with
    | some '+' => (true, cur.eat)
    | some '-' => (false, cur.eat)
    | _ => (true, cur)
  match cur.rest with
  | [] => cur.fail .eofValue
  | c :: _ =>
    if !isDigit c then cur.eat.fail .invalidNumber
    else
      -- stops right after a digit that takes the exponent past the 32-bit range
      let rec digits (cs : List Char) (p : Pos) (exp : Nat) : List Char × Pos × Nat × Bool :=
        match cs with
        | d :: ds =>
          if isDigit d then
            if exp * 10 + digitVal d > 2147483647 then (ds, p.after d, exp, true)
            else digits ds (p.after d) (exp * 10 + digitVal d)
          else (cs, p, exp, false)
        | [] => ([], p, exp, false)
      let rec skipDigits (cs : List Char) (p : Pos) : Cursor :=
        match cs with
        | d :: ds => if isDigit d then skipDigits ds (p.after d) else ⟨cs, p⟩
        | [] => ⟨[], p⟩
      let cur1 := cur.eat
      let (rest, p, exp, overflowed) := digits cur1.rest cur1.pos (digitVal c)
      let cur2 : Cursor := ⟨rest, p⟩
      if overflowed then
        if significand ≠ 0 ∧ positiveExp then cur2.fail .numberOutOfRange
        else .ok (if positive then 0.0 else -0.0, skipDigits rest p)
      else
        let e : Int := if positiveExp then start + exp else start - exp
        match floatOfParts cur2 positive significand e with
        | .ok f => .ok (f, cur2)
        | .error err => .error err

/-- Reads the fraction after a decimal point; digits that no longer fit the significand are
read and dropped. -/
def readFraction (cur : Cursor) (positive : Bool) (significand : Nat) (start : Int) :
    Except Error (Float × Cursor) :=
  let cur := cur.eat
  let rec digits (cs : List Char) (p : Pos) (sig : Nat) (e : Int) (count : Nat) (overflowed : Bool) :
      List Char × Pos × Nat × Int × Nat × Bool :=
    match cs with
    | d :: ds =>
      if isDigit d then
        if overflowed then digits ds (p.after d) sig e (count + 1) true
        else if sig * 10 + digitVal d > maxSignificand then digits ds (p.after d) sig e (count + 1) true
        else digits ds (p.after d) (sig * 10 + digitVal d) (e - 1) (count + 1) false
      else (cs, p, sig, e, count, overflowed)
    | [] => ([], p, sig, e, count, overflowed)
  let (rest, p, sig, e, count, _) := digits cur.rest cur.pos significand start 0 false
  let cur2 : Cursor := ⟨rest, p⟩
  if count = 0 then
    match cur2.peek with
    | some _ => cur2.failPeek .invalidNumber
    | none => cur2.failPeek .eofValue
  else
    match cur2.peek with
    | some 'e' | some 'E' => readExponent cur2 positive sig e
    | _ =>
      match floatOfParts cur2 positive sig e with
      | .ok f => .ok (f, cur2)
      | .error err => .error err

/-- After a whole number: a fraction or exponent makes a double; otherwise a non-negative
number is `nat`, a negative one `neg`, and `-0` or a value below −2^63 a double. -/
def finishNumber (cur : Cursor) (positive : Bool) (significand : Nat) :
    Except Error (Number × Cursor) :=
  match cur.peek with
  | some '.' => (readFraction cur positive significand 0).map fun (f, c) => (.float f, c)
  | some 'e' | some 'E' => (readExponent cur positive significand 0).map fun (f, c) => (.float f, c)
  | _ =>
    if positive then .ok (.nat significand, cur)
    else if significand = 0 ∨ significand > Nat.pow 2 63 then
      .ok (.float (-(Float.ofNat significand)), cur)
    else .ok (.neg (-(significand : Int)), cur)

/-- Reads a number whose sign, if any, is already read. Digits beyond what a 64-bit
significand holds only raise the decimal exponent. -/
def readNumber (cur : Cursor) (positive : Bool) : Except Error (Number × Cursor) :=
  match cur.rest with
  | [] => cur.fail .eofValue
  | '0' :: _ =>
    let cur := cur.eat
    match cur.peek with
    | some d => if isDigit d then cur.failPeek .invalidNumber else finishNumber cur positive 0
    | none => finishNumber cur positive 0
  | c :: _ =>
    if !isDigit c then cur.eat.fail .invalidNumber
    else
      let rec digits (cs : List Char) (p : Pos) (sig : Nat) :
          Sum (List Char × Pos × Nat) (List Char × Pos × Nat) :=
        match cs with
        | d :: ds =>
          if isDigit d then
            if sig * 10 + digitVal d > maxSignificand then .inr (cs, p, sig)
            else digits ds (p.after d) (sig * 10 + digitVal d)
          else .inl (cs, p, sig)
        | [] => .inl ([], p, sig)
      let cur1 := cur.eat
      match digits cur1.rest cur1.pos (digitVal c) with
      | .inl (rest, p, sig) => finishNumber ⟨rest, p⟩ positive sig
      | .inr (rest, p, sig) =>
        -- too many digits for the significand: count the rest as a decimal exponent
        let rec more (cs : List Char) (p : Pos) (e : Nat) : List Char × Pos × Nat :=
          match cs with
          | d :: ds => if isDigit d then more ds (p.after d) (e + 1) else (cs, p, e)
          | [] => ([], p, e)
        let (rest2, p2, e) := more rest p 0
        let cur2 : Cursor := ⟨rest2, p2⟩
        match cur2.peek with
        | some '.' => (readFraction cur2 positive sig e).map fun (f, c) => (.float f, c)
        | some 'e' | some 'E' => (readExponent cur2 positive sig e).map fun (f, c) => (.float f, c)
        | _ => (floatOfParts cur2 positive sig e).map fun f => (.float f, cur2)

/-- The value of four ASCII hexadecimal digits. -/
def hex4 (cs : List Char) : Option Nat :=
  cs.foldlM (fun acc c =>
    if isDigit c then some (acc * 16 + digitVal c)
    else if 'a' ≤ c && c ≤ 'f' then some (acc * 16 + c.toNat - 87)
    else if 'A' ≤ c && c ≤ 'F' then some (acc * 16 + c.toNat - 55)
    else none) 0

def byteCount (cs : List Char) : Nat := cs.foldl (fun n c => n + c.utf8Size) 0

/-- Reads the four bytes of a `\u` escape: their value, or an invalid escape after them,
or the end of the text inside a string when fewer than four bytes are left. -/
def readHex4 (cur : Cursor) : Except Error (Nat × Cursor) :=
  if byteCount cur.rest < 4 then
    let p := cur.rest.foldl Pos.after cur.pos
    .error ⟨SyntaxError.eofString.message, some p⟩
  else
    let rec take (cs : List Char) (p : Pos) (need : Nat) (acc : List Char) :
        List Char × Pos × List Char :=
      match need, cs with
      | 0, _ => (cs, p, acc.reverse)
      | _, [] => ([], p, acc.reverse)
      | need + 1, c :: rest =>
        if c.utf8Size ≤ need + 1 then take rest (p.after c) (need + 1 - c.utf8Size) (c :: acc)
        else (rest, ⟨p.line, p.column + need + 1⟩, (c :: acc).reverse)
    let (rest, p, got) := take cur.rest cur.pos 4 []
    match (if got.length = 4 then hex4 got else none) with
    | some v => .ok (v, ⟨rest, p⟩)
    | none => .error ⟨SyntaxError.invalidEscape.message, some p⟩

/-- One step of reading a string body: an ordinary character, the end, or a fault. -/
def Cursor.discard (cur : Cursor) : Cursor :=
  match cur.rest with
  | c :: cs => ⟨cs, cur.pos.afterByte c⟩
  | [] => cur

/-- Reads a `\u` escape after its `u`: a character, or a surrogate pair written as two
escapes. A trailing surrogate alone, or a leading one not followed by a trailing one, is
refused. -/
def readUnicodeEscape (cur : Cursor) : Except Error (Char × Cursor) := do
  let (n, cur) ← readHex4 cur
  if 0xDC00 ≤ n ∧ n ≤ 0xDFFF then throw ⟨SyntaxError.loneLeadingSurrogate.message, some cur.pos⟩
  if n < 0xD800 ∨ n > 0xDBFF then return (Char.ofNat n, cur)
  match cur.rest with
  | [] => cur.fail .eofString
  | '\\' :: _ =>
    let cur := cur.discard
    match cur.rest with
    | [] => cur.fail .eofString
    | 'u' :: _ =>
      let cur := cur.discard
      let (n2, cur) ← readHex4 cur
      if n2 < 0xDC00 ∨ n2 > 0xDFFF then throw ⟨SyntaxError.loneLeadingSurrogate.message, some cur.pos⟩
      return (Char.ofNat (((n - 0xD800) * 1024 + (n2 - 0xDC00)) + 0x10000), cur)
    | _ :: _ => cur.discard.fail .unexpectedEndOfHexEscape
  | _ :: _ => cur.discard.fail .unexpectedEndOfHexEscape

/-- Reads the body of a string after its opening quote, up to and including the closing
quote. -/
def readString (cur : Cursor) : Except Error (String × Cursor) :=
  let rec go (fuel : Nat) (cur : Cursor) (acc : List Char) : Except Error (String × Cursor) :=
    match fuel with
    | 0 => cur.fail .eofString
    | fuel + 1 =>
      match cur.rest with
      | [] => cur.fail .eofString
      | '"' :: _ => .ok (String.ofList acc.reverse, cur.eat)
      | '\\' :: _ =>
        let cur := cur.eat
        match cur.rest with
        | [] => cur.fail .eofString
        | e :: _ =>
          let next := cur.eat
          match e with
          | '"' => go fuel next ('"' :: acc)
          | '\\' => go fuel next ('\\' :: acc)
          | '/' => go fuel next ('/' :: acc)
          | 'b' => go fuel next ('\x08' :: acc)
          | 'f' => go fuel next ('\x0c' :: acc)
          | 'n' => go fuel next ('\n' :: acc)
          | 'r' => go fuel next ('\r' :: acc)
          | 't' => go fuel next ('\t' :: acc)
          | 'u' =>
            match readUnicodeEscape next with
            | .ok (ch, cur') => go fuel cur' (ch :: acc)
            | .error err => .error err
          | _ => next.fail .invalidEscape
      | c :: _ =>
        if c.toNat < 0x20 then cur.eat.fail .controlCharacter
        else go fuel cur.eat (c :: acc)
  go (cur.rest.length + 1) cur []

/-- Skips the body of a string after its opening quote, checking only the escapes' shape;
a raw control character is reported before it is read. -/
def skipString (cur : Cursor) : Except Error Cursor :=
  let rec go (fuel : Nat) (cur : Cursor) : Except Error Cursor :=
    match fuel with
    | 0 => cur.fail .eofString
    | fuel + 1 =>
      match cur.rest with
      | [] => cur.fail .eofString
      | '"' :: _ => .ok cur.eat
      | '\\' :: _ =>
        let cur := cur.eat
        match cur.rest with
        | [] => cur.fail .eofString
        | e :: _ =>
          let next := cur.eat
          if e = '"' ∨ e = '\\' ∨ e = '/' ∨ e = 'b' ∨ e = 'f' ∨ e = 'n' ∨ e = 'r' ∨ e = 't' then
            go fuel next
          else if e = 'u' then
            match readHex4 next with
            | .ok (_, cur') => go fuel cur'
            | .error err => .error err
          else next.fail .invalidEscape
      | c :: _ =>
        if c.toNat < 0x20 then cur.fail .controlCharacter
        else go fuel cur.eat
  go (cur.rest.length + 1) cur

/-- Skips a number, checking its shape but not its size. -/
def skipNumber (cur : Cursor) : Except Error Cursor :=
  let rec digitsFrom (cur : Cursor) (fuel : Nat) : Cursor × Nat :=
    match fuel with
    | 0 => (cur, 0)
    | fuel + 1 =>
      match cur.peek with
      | some d => if isDigit d then
          let (c, n) := digitsFrom cur.eat fuel
          (c, n + 1)
        else (cur, 0)
      | none => (cur, 0)
  let n := cur.rest.length + 1
  let exponent (cur : Cursor) : Except Error Cursor :=
    let cur := cur.eat
    let cur := match cur.peek with
      | some '+' | some '-' => cur.eat
      | _ => cur
    match cur.peek with
    | some d => if isDigit d then .ok (digitsFrom cur.eat n).1 else cur.eat.fail .invalidNumber
    | none => cur.fail .invalidNumber
  let afterWhole (cur : Cursor) : Except Error Cursor :=
    match cur.peek with
    | some '.' =>
      let (c, k) := digitsFrom cur.eat n
      if k = 0 then c.failPeek .invalidNumber
      else match c.peek with
        | some 'e' | some 'E' => exponent c
        | _ => .ok c
    | some 'e' | some 'E' => exponent cur
    | _ => .ok cur
  match cur.peek with
  | some '0' =>
    let c := cur.eat
    match c.peek with
    | some d => if isDigit d then c.failPeek .invalidNumber else afterWhole c
    | none => afterWhole c
  | some d => if isDigit d && d ≠ '0' then afterWhole (digitsFrom cur.eat n).1 else cur.eat.fail .invalidNumber
  | none => cur.fail .invalidNumber

/-- Skips one whole value of any shape. Inside arrays and objects a comma must be followed
by another item, and member names must be strings. -/
def skipValue (fuel : Nat) (cur : Cursor) : Except Error Cursor :=
  match fuel with
  | 0 => cur.failPeek .recursionLimit
  | fuel + 1 =>
    let cur := cur.skipWs
    match cur.peek with
    | none => cur.failPeek .eofValue
    | some 'n' => readIdent cur.eat "ull".toList
    | some 't' => readIdent cur.eat "rue".toList
    | some 'f' => readIdent cur.eat "alse".toList
    | some '-' => skipNumber cur.eat
    | some '"' => skipString cur.eat
    | some '[' =>
      let cur := cur.eat.skipWs
      match cur.peek with
      | some ']' => .ok cur.eat
      | none => cur.failPeek .eofList
      | some _ => skipItems fuel cur
    | some '{' =>
      let cur := cur.eat.skipWs
      match cur.peek with
      | some '}' => .ok cur.eat
      | none => cur.failPeek .eofObject
      | some _ => skipMembers fuel cur
    | some c => if isDigit c then skipNumber cur else cur.failPeek .expectedValue
where
  /-- Items of an array after its first character. -/
  skipItems (fuel : Nat) (cur : Cursor) : Except Error Cursor :=
    match fuel with
    | 0 => cur.failPeek .recursionLimit
    | fuel + 1 => do
      let cur ← skipValue fuel cur
      let cur := cur.skipWs
      match cur.peek with
      | some ',' => skipItems fuel cur.eat
      | some ']' => .ok cur.eat
      | some _ => cur.failPeek .expectedListCommaOrEnd
      | none => cur.failPeek .eofList
  /-- Members of an object after its first character. -/
  skipMembers (fuel : Nat) (cur : Cursor) : Except Error Cursor :=
    match fuel with
    | 0 => cur.failPeek .recursionLimit
    | fuel + 1 => do
      let cur := cur.skipWs
      let cur ← match cur.peek with
        | some '"' => skipString cur.eat
        | some _ => cur.failPeek .keyMustBeString
        | none => cur.failPeek .eofObject
      let cur := cur.skipWs
      let cur ← match cur.peek with
        | some ':' => pure cur.eat
        | some _ => cur.failPeek .expectedColon
        | none => cur.failPeek .eofObject
      let cur ← skipValue fuel cur
      let cur := cur.skipWs
      match cur.peek with
      | some ',' => skipMembers fuel cur.eat
      | some '}' => .ok cur.eat
      | some _ => cur.failPeek .expectedObjectCommaOrEnd
      | none => cur.failPeek .eofObject

end Json

end CrateState
