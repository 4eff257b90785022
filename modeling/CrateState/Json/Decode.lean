import CrateState.Json.Reader
import CrateState.Text.Quoted
import CrateState.Decimal.Shortest

/-!
# Typed decoding of JSON

A `Codec α` reads an `α` from JSON text, token by token with each fault's position, and
from an already-read `Json` value, without positions. Both follow the same rules, so a
record read from text and from its value agree, except in what only text shows (a repeated
member, a fault's position).

Records (`Codec.record`) are read from an object or an array. From an object, a member
naming no field is skipped, a field named twice refused, and after the closing brace the
first required field absent is reported. From an array, items fill the fields in order;
missing trailing items leave optional fields at their default. An object held as a value is
read in its member names' order, as a sorted map lists them, the last of equal names
winning.

Refusals are worded by `Unexpected.render` and the helpers below: "invalid type: …,
expected …", "invalid value: …, expected …", "invalid length …", "missing field `…`",
"duplicate field `…`", "unknown variant `…`, expected …".
-/

namespace CrateState

namespace Json

/-- What a reader found in place of what it expected. -/
inductive Unexpected where
  /-- `null`. -/
  | null
  | bool (b : Bool)
  /-- A non-negative whole number. -/
  | unsigned (n : Nat)
  /-- A negative whole number. -/
  | signed (i : Int)
  /-- A double. -/
  | float (f : Float)
  | str (s : String)
  /-- An array. -/
  | seq
  /-- An object. -/
  | map

/-- A double for messages: the shortest digits, positional from `1e-5` below `1e16` (a
whole number with `.0`), otherwise scientific with a signed exponent (`1e-6`,
`1.8446744073709552e+19`). -/
def floatText (f : Float) : String :=
  if f.isFinite then Decimal.compactWith true f
  else Decimal.positional f

def Unexpected.render : Unexpected → String
  | .null => "null"
  | .bool b => s!"boolean `{b}`"
  | .unsigned n => s!"integer `{n}`"
  | .signed i => s!"integer `{i}`"
  | .float f =>
    let t := floatText f
    s!"floating point `{t}`"
  | .str s =>
    let q := Quoted.debug s
    s!"string {q}"
  | .seq => "sequence"
  | .map => "map"

/-- What a number is, for messages. -/
def numberUnexpected : Number → Unexpected
  | .nat n => .unsigned n
  | .neg i => .signed i
  | .float f => .float f

/-- What a value is, for messages. -/
def unexpected : Json → Unexpected
  | .null => .null
  | .bool b => .bool b
  | .num n => numberUnexpected n
  | .str s => .str s
  | .arr _ => .seq
  | .obj _ => .map

def invalidType (u : Unexpected) (exp : String) : Error :=
  let w := u.render
  { message := s!"invalid type: {w}, expected {exp}" }

/-- A value of the right kind but out of range. -/
def invalidValue (u : Unexpected) (exp : String) : Error :=
  let w := u.render
  { message := s!"invalid value: {w}, expected {exp}" }

def invalidLength (n : Nat) (exp : String) : Error :=
  { message := s!"invalid length {n}, expected {exp}" }

def missingField (f : String) : Error := { message := s!"missing field `{f}`" }

def duplicateField (f : String) : Error := { message := s!"duplicate field `{f}`" }

/-- Names listed for a message: `a`, `a` or `b`, or one of `a`, `b`, `c`. -/
def oneOf (names : List String) : String :=
  let ticked := names.map fun n => "`" ++ n ++ "`"
  match ticked with
  | [a] => a
  | [a, b] => a ++ " or " ++ b
  | _ => "one of " ++ ", ".intercalate ticked

/-- A name that is not one of the variants. -/
def unknownVariant (v : String) (names : List String) : Error :=
  if names.isEmpty then { message := s!"unknown variant `{v}`, there are no variants" }
  else
    let w := oneOf names
    { message := s!"unknown variant `{v}`, expected {w}" }

/-- The refusal of a value seen at the cursor where something else was expected: a scalar
is read first, so the refusal stands after it; an array or object is refused at its
opening bracket. -/
def peekInvalidType (cur : Cursor) (exp : String) : Error :=
  match cur.peek with
  | some 'n' =>
    match readIdent cur.eat "ull".toList with
    | .ok c => (invalidType .null exp).at c.pos
    | .error e => e
  | some 't' =>
    match readIdent cur.eat "rue".toList with
    | .ok c => (invalidType (.bool true) exp).at c.pos
    | .error e => e
  | some 'f' =>
    match readIdent cur.eat "alse".toList with
    | .ok c => (invalidType (.bool false) exp).at c.pos
    | .error e => e
  | some '-' =>
    match readNumber cur.eat false with
    | .ok (n, c) => (invalidType (numberUnexpected n) exp).at c.pos
    | .error e => e
  | some '"' =>
    match readString cur.eat with
    | .ok (s, c) => (invalidType (.str s) exp).at c.pos
    | .error e => e
  | some '[' => (invalidType .seq exp).at cur.pos
  | some '{' => (invalidType .map exp).at cur.pos
  | some c =>
    if isDigit c then
      match readNumber cur true with
      | .ok (n, c) => (invalidType (numberUnexpected n) exp).at c.pos
      | .error e => e
    else ⟨SyntaxError.expectedValue.message, some cur.peekPos⟩
  | none => ⟨SyntaxError.expectedValue.message, some cur.peekPos⟩

/-- Reads an `α` from text or from a value. -/
structure Codec (α : Type) where
  /-- What is expected, for messages. -/
  expecting : String
  /-- Reads from text; whitespace before the value is skipped. -/
  text : Cursor → Except Error (α × Cursor)
  /-- Reads from a value. -/
  value : Json → Except Error α

/-- The result of a check run on what was read, with a refusal placed at `p`. -/
def placed {α : Type} (r : Except Error α) (p : Pos) : Except Error α :=
  match r with
  | .ok a => .ok a
  | .error e => .error (e.at p)

namespace Codec

/-- A number read from text at the cursor, checked by `visit`; a non-number is refused. -/
def numberText {α : Type} (exp : String) (visit : Number → Except Error α) (cur : Cursor) :
    Except Error (α × Cursor) :=
  let cur := cur.skipWs
  match cur.peek with
  | none => cur.failPeek .eofValue
  | some '-' =>
    match readNumber cur.eat false with
    | .ok (n, c) => (placed (visit n) c.pos).map (·, c)
    | .error e => .error e
  | some d =>
    if isDigit d then
      match readNumber cur true with
      | .ok (n, c) => (placed (visit n) c.pos).map (·, c)
      | .error e => .error e
    else .error (peekInvalidType cur exp)

/-- A whole number from 0 to `max`, named `name` in messages (`u32`, `u64`, …). -/
def unsigned (name : String) (max : Nat) : Codec Nat :=
  let visit : Number → Except Error Nat
    | .nat n => if n ≤ max then .ok n else .error (invalidValue (.unsigned n) name)
    | .neg i => .error (invalidValue (.signed i) name)
    | .float f => .error (invalidType (.float f) name)
  { expecting := name
    text := numberText name visit
    value := fun
      | .num n => visit n
      | j => .error (invalidType (unexpected j) name) }

/-- A whole number in the signed 64-bit range. -/
def int64 : Codec Int :=
  let visit : Number → Except Error Int
    | .nat n => if n < Nat.pow 2 63 then .ok n else .error (invalidValue (.unsigned n) "i64")
    | .neg i => .ok i
    | .float f => .error (invalidType (.float f) "i64")
  { expecting := "i64"
    text := numberText "i64" visit
    value := fun
      | .num n => visit n
      | j => .error (invalidType (unexpected j) "i64") }

/-- `true` or `false`. -/
def bool : Codec Bool :=
  { expecting := "a boolean"
    text := fun cur =>
      let cur := cur.skipWs
      match cur.peek with
      | none => cur.failPeek .eofValue
      | some 't' => (readIdent cur.eat "rue".toList).map (true, ·)
      | some 'f' => (readIdent cur.eat "alse".toList).map (false, ·)
      | some _ => .error (peekInvalidType cur "a boolean")
    value := fun
      | .bool b => .ok b
      | j => .error (invalidType (unexpected j) "a boolean") }

/-- A string checked by `check`, whose refusal is placed right after the string. -/
def checkedString {α : Type} (exp : String) (check : String → Except Error α) : Codec α :=
  { expecting := exp
    text := fun cur =>
      let cur := cur.skipWs
      match cur.peek with
      | none => cur.failPeek .eofValue
      | some '"' =>
        match readString cur.eat with
        | .ok (s, c) => (placed (check s) c.pos).map (·, c)
        | .error e => .error e
      | some _ => .error (peekInvalidType cur exp)
    value := fun
      | .str s => check s
      | j => .error (invalidType (unexpected j) exp) }

def string : Codec String := checkedString "a string" .ok

/-- `null` for `none`, otherwise the inner value. -/
def option {α : Type} (c : Codec α) : Codec (Option α) :=
  { expecting := c.expecting
    text := fun cur =>
      let cur := cur.skipWs
      match cur.peek with
      | some 'n' => (readIdent cur.eat "ull".toList).map (none, ·)
      | _ => (c.text cur).map fun (a, c) => (some a, c)
    value := fun
      | .null => .ok none
      | j => (c.value j).map some }

def variant {α : Type} (names : List (String × α)) (s : String) : Except Error α :=
  match names.find? (·.1 == s) with
  | some (_, a) => .ok a
  | none => .error (unknownVariant s (names.map (·.1)))

/-- One of a fixed list of names, written as a string, or as an object whose one member
is the name with the value `null`. -/
def choice {α : Type} (typeName : String) (names : List (String × α)) : Codec α :=
  { expecting := "enum " ++ typeName
    text := fun cur =>
      let cur := cur.skipWs
      match cur.peek with
      | none => cur.failPeek .eofValue
      | some '"' =>
        match readString cur.eat with
        | .ok (s, c) => (placed (variant names s) c.pos).map (·, c)
        | .error e => .error e
      | some '{' => do
        let cur := cur.eat.skipWs
        let (a, cur) ← match cur.peek with
          | some '"' =>
            match readString cur.eat with
            | .ok (s, c) => (placed (variant names s) c.pos).map (·, c)
            | .error e => .error e
          | none => cur.failPeek .eofValue
          | some _ => .error (peekInvalidType cur "variant identifier")
        let cur := cur.skipWs
        let cur ← match cur.peek with
          | some ':' => pure cur.eat
          | some _ => cur.failPeek .expectedColon
          | none => cur.failPeek .eofObject
        let cur := cur.skipWs
        let cur ← match cur.peek with
          | none => cur.failPeek .eofValue
          | some 'n' => readIdent cur.eat "ull".toList
          | some _ => .error (peekInvalidType cur "unit")
        let cur := cur.skipWs
        match cur.peek with
        | some '}' => pure (a, cur.eat)
        | some _ => cur.fail .expectedValue
        | none => cur.fail .eofObject
      | some _ => cur.failPeek .expectedValue
    value := fun
      | .str s => variant names s
      | .obj [(k, v)] => do
        let a ← variant names k
        match v with
        | .null => pure a
        | j => throw (invalidType (unexpected j) "unit")
      | .obj _ => .error (invalidValue .map "map with a single key")
      | j => .error (invalidType (unexpected j) "string or map") }

end Codec

/-- One field of a record of type `σ`: its name, whether it must be present, and how its
value updates the record. -/
structure Field (σ : Type) where
  /-- The member name. -/
  name : String
  /-- Whether an absent field is refused. -/
  required : Bool
  /-- Reads the value from text. -/
  text : Cursor → Except Error ((σ → σ) × Cursor)
  /-- Reads the value from a value. -/
  value : Json → Except Error (σ → σ)

/-- A field read by a codec and stored by `set`. -/
def Field.of {σ α : Type} (name : String) (required : Bool) (c : Codec α) (set : α → σ → σ) :
    Field σ :=
  { name, required
    text := fun cur => (c.text cur).map fun (a, cur) => (set a, cur)
    value := fun j => (c.value j).map set }

/-- The first required field that was not seen, as a refusal. -/
def firstMissing {σ : Type} (fields : List (Field σ)) (seen : List String) : Option Error :=
  (fields.find? fun f => f.required && !seen.contains f.name).map fun f => missingField f.name

/-- Members of an object sorted by name, the last of equal names kept. -/
def sortedMembers (ms : List (String × Json)) : List (String × Json) :=
  let keep := ms.reverse.foldl (fun acc (k, v) =>
    if acc.any (·.1 == k) then acc else (k, v) :: acc) []
  keep.mergeSort fun a b => a.1 < b.1 || a.1 == b.1

namespace Record

variable {σ : Type}

/-- Fills the fields in order from array items (text), stopping at the closing bracket.
A missing item for a required field is refused with the field's position in the list. A
refusal comes with the cursor where reading stopped. -/
def seqText (exp : String) (fields : List (Field σ)) (i : Nat) (first : Bool) (r : σ)
    (cur : Cursor) : Except (Error × Cursor) (σ × Cursor) :=
  match fields with
  | [] => .ok (r, cur)
  | f :: fs =>
    let cur := cur.skipWs
    let next : Except Error (Option Cursor) :=
      match cur.peek with
      | some ']' => .ok none
      | none => cur.failPeek .eofList
      | some ',' =>
        if first then .ok (some cur)
        else
          let c := cur.eat.skipWs
          match c.peek with
          | some ']' => c.failPeek .trailingComma
          | none => c.failPeek .eofValue
          | some _ => .ok (some c)
      | some _ => if first then .ok (some cur) else cur.failPeek .expectedListCommaOrEnd
    match next with
    | .error e => .error (e, cur)
    | .ok none =>
      if f.required then .error (invalidLength i exp, cur)
      else seqText exp fs (i + 1) first r cur
    | .ok (some c) =>
      match f.text c with
      | .error e => .error (e, c)
      | .ok (set, c) => seqText exp fs (i + 1) false (set r) c

/-- After the items a record needs: the closing bracket, or a refusal of what follows.
The cursor moves on even when there is a refusal. -/
def endSeq (cur : Cursor) : Option Error × Cursor :=
  let cur := cur.skipWs
  match cur.peek with
  | some ']' => (none, cur.eat)
  | some ',' =>
    let c := cur.eat.skipWs
    match c.peek with
    | some ']' => (some ⟨SyntaxError.trailingComma.message, some c.peekPos⟩, c)
    | _ => (some ⟨SyntaxError.trailingCharacters.message, some c.peekPos⟩, c)
  | some _ => (some ⟨SyntaxError.trailingCharacters.message, some cur.peekPos⟩, cur)
  | none => (some ⟨SyntaxError.eofList.message, some cur.peekPos⟩, cur)

/-- After the members: the closing brace, or a refusal of what follows. -/
def endMap (cur : Cursor) : Option Error × Cursor :=
  let cur := cur.skipWs
  match cur.peek with
  | some '}' => (none, cur.eat)
  | some ',' => (some ⟨SyntaxError.trailingComma.message, some cur.peekPos⟩, cur)
  | some _ => (some ⟨SyntaxError.trailingCharacters.message, some cur.peekPos⟩, cur)
  | none => (some ⟨SyntaxError.eofObject.message, some cur.peekPos⟩, cur)

/-- Reads object members (text) until the closing brace, which is left unread. -/
def mapText (fields : List (Field σ)) (fuel : Nat) (first : Bool) (seen : List String) (r : σ)
    (cur : Cursor) : Except (Error × Cursor) (σ × List String × Cursor) :=
  match fuel with
  | 0 => .error (⟨SyntaxError.recursionLimit.message, some cur.peekPos⟩, cur)
  | fuel + 1 =>
    let cur := cur.skipWs
    let key : Except Error (Option Cursor) :=
      match cur.peek with
      | some '}' => .ok none
      | some ',' =>
        if first then cur.failPeek .keyMustBeString
        else
          let c := cur.eat.skipWs
          match c.peek with
          | some '"' => .ok (some c)
          | some '}' => c.failPeek .trailingComma
          | some _ => c.failPeek .keyMustBeString
          | none => c.failPeek .eofValue
      | some '"' => if first then .ok (some cur) else cur.failPeek .expectedObjectCommaOrEnd
      | some _ => if first then cur.failPeek .keyMustBeString else cur.failPeek .expectedObjectCommaOrEnd
      | none => cur.failPeek .eofObject
    match key with
    | .error e => .error (e, cur)
    | .ok none => .ok (r, seen, cur)
    | .ok (some c) =>
      match readString c.eat with
      | .error e => .error (e, c)
      | .ok (name, c) =>
        let colon (c : Cursor) : Except Error Cursor :=
          let c := c.skipWs
          match c.peek with
          | some ':' => .ok c.eat
          | some _ => c.failPeek .expectedColon
          | none => c.failPeek .eofObject
        match fields.find? (·.name == name) with
        | some f =>
          if seen.contains name then .error (duplicateField name, c)
          else
            match colon c with
            | .error e => .error (e, c)
            | .ok c =>
              match f.text c with
              | .error e => .error (e, c)
              | .ok (set, c) => mapText fields fuel false (name :: seen) (set r) c
        | none =>
          match colon c with
          | .error e => .error (e, c)
          | .ok c =>
            match skipValue (c.rest.length + 2) c with
            | .error e => .error (e, c)
            | .ok c => mapText fields fuel false seen r c

/-- Fills the fields in order from array items (value). -/
def seqValue (exp : String) (fields : List (Field σ)) (i : Nat) (r : σ) (items : List Json) :
    Except Error (σ × Nat) :=
  match fields, items with
  | [], _ => .ok (r, i)
  | f :: fs, [] => if f.required then .error (invalidLength i exp) else seqValue exp fs (i + 1) r []
  | f :: fs, x :: xs =>
    match f.value x with
    | .error e => .error e
    | .ok set => seqValue exp fs (i + 1) (set r) xs

end Record

/-- A record named `name` with the given fields, starting from `blank` (which holds the
defaults of the optional fields). -/
def Codec.record {σ : Type} (name : String) (fields : List (Field σ)) (blank : σ) : Codec σ :=
  let exp := "struct " ++ name
  let seqExp := s!"struct {name} with {fields.length} elements"
  { expecting := exp
    text := fun cur =>
      let cur := cur.skipWs
      match cur.peek with
      | none => cur.failPeek .eofValue
      | some '[' =>
        -- the closing bracket is looked for even after a refusal, and a refusal without
        -- a position is placed where that leaves the cursor
        match Record.seqText seqExp fields 0 true blank cur.eat with
        | .error (e, c) => .error (e.at (Record.endSeq c).2.pos)
        | .ok (v, c) =>
          match Record.endSeq c with
          | (none, c) => .ok (v, c)
          | (some e, _) => .error e
      | some '{' =>
        match Record.mapText fields (cur.rest.length + 2) true [] blank cur.eat with
        | .error (e, c) => .error (e.at (Record.endMap c).2.pos)
        | .ok (v, seen, c) =>
          match firstMissing fields seen, Record.endMap c with
          | some e, (_, c) => .error (e.at c.pos)
          | none, (none, c) => .ok (v, c)
          | none, (some e, _) => .error e
      | some _ => .error (peekInvalidType cur exp)
    value := fun
      | .obj ms => do
        let r ← (sortedMembers ms).foldlM (fun (r, seen) (k, v) =>
          match fields.find? (·.name == k) with
          | some f => (f.value v).map fun set => (set r, k :: seen)
          | none => pure (r, seen)) (blank, ([] : List String))
        match firstMissing fields r.2 with
        | some e => throw e
        | none => pure r.1
      | .arr items => do
        let (r, used) ← Record.seqValue seqExp fields 0 blank items
        if items.length > used then throw (invalidLength items.length "fewer elements in array")
        pure r
      | j => .error (invalidType (unexpected j) exp) }

/-- Reads a whole text with a codec, refusing anything after the value but whitespace. -/
def Codec.readText {α : Type} (c : Codec α) (s : String) : Except Error α := do
  let (a, cur) ← c.text (Cursor.start s)
  expectEnd cur
  return a

end Json

end CrateState
