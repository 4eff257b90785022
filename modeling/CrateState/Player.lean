/-!
# Player identifiers

A player is a 128-bit account id, 32 hexadecimal digits. The canonical text is lowercase
with hyphens after the 8th, 12th, 16th and 20th digit (`8-4-4-4-12`). Reading accepts the
32 digits alone, the hyphenated form, that form in braces, and that form after `urn:uuid:`
(in any case), with digits of either case.

Any other text is refused with a cause (`IdError`). A text with a spelling's length and
shape (32 bytes; 36; 38 in braces; 45 after the prefix) is diagnosed on that part as it
stands. Any other text over 45 bytes is refused for its length; any other is diagnosed on
its body: the inside of braces, what follows the prefix, or the whole, taken off once.

The cause is, in order: the first character neither digit nor hyphen, at its byte offset
(in the part; in the text for a body); for a whole text of digits diagnosed on its body,
its length; a count of hyphen-separated groups other than five; the first group of the
wrong length, the last measured as the text less the 24 bytes before it.
`hexValue_hexDigit` says every digit value survives being written and read.
-/

namespace CrateState

/-- A hexadecimal digit value written as a lowercase character. -/
def hexDigit (d : Fin 16) : Char :=
  if d.val < 10 then Char.ofNat (48 + d.val) else Char.ofNat (87 + d.val)

/-- The value of a hexadecimal digit character of either case. -/
def hexValue (c : Char) : Option (Fin 16) :=
  if h : 48 ≤ c.toNat ∧ c.toNat ≤ 57 then some ⟨c.toNat - 48, by omega⟩
  else if h : 97 ≤ c.toNat ∧ c.toNat ≤ 102 then some ⟨c.toNat - 87, by omega⟩
  else if h : 65 ≤ c.toNat ∧ c.toNat ≤ 70 then some ⟨c.toNat - 55, by omega⟩
  else none

theorem hexValue_hexDigit (d : Fin 16) : hexValue (hexDigit d) = some d := by
  revert d; decide

/-- A player identifier: exactly 32 hexadecimal digits, most significant first. Comparing
the digit lists left to right orders identifiers as their 16 bytes are ordered. -/
structure PlayerId where
  /-- The 32 digits. -/
  digits : List (Fin 16)
  /-- There are exactly 32 of them. -/
  length_digits : digits.length = 32
  deriving DecidableEq

/-- Why a text is not a player identifier. -/
inductive IdError where
  /-- A character that is neither a hexadecimal digit nor a hyphen, at a byte offset. -/
  | badChar (c : Char) (index : Nat)
  /-- A text of digits only whose length (in bytes) is not 32. -/
  | badLength (len : Nat)
  /-- A hyphenated text with other than five groups. -/
  | groupCount (count : Nat)
  /-- A hyphenated text whose group number `group` has `len` digits. -/
  | groupLength (group : Nat) (len : Nat)
  deriving DecidableEq, Repr

/-- The digit counts of the five groups of the hyphenated form. -/
def groupSizes : List Nat := [8, 4, 4, 4, 12]

def IdError.message : IdError → String
  | .badChar c i => s!"invalid character: found `{c}` at {i}"
  | .badLength n => s!"invalid length: found {n}"
  | .groupCount n => s!"invalid group count: expected 5, found {n}"
  | .groupLength g n =>
    let e := groupSizes.getD g 0
    s!"invalid group length in group {g}: expected {e}, found {n}"

namespace PlayerId

/-- The digits with hyphens in front of the 9th, 13th, 17th and 21st. -/
def hyphenate : Nat → List Char → List Char
  | _, [] => []
  | i, c :: cs =>
    if i = 8 ∨ i = 12 ∨ i = 16 ∨ i = 20 then '-' :: c :: hyphenate (i + 1) cs
    else c :: hyphenate (i + 1) cs

/-- The canonical text: lowercase, hyphenated `8-4-4-4-12`. -/
def render (p : PlayerId) : String :=
  String.ofList (hyphenate 0 (p.digits.map hexDigit))

instance : ToString PlayerId := ⟨render⟩

/-- The identifier whose digits are all zero. -/
def nil : PlayerId := ⟨List.replicate 32 0, by simp⟩

/-- Lexicographic order of the digits, which is the order of the identifier's bytes. -/
def compareDigits : List (Fin 16) → List (Fin 16) → Ordering
  | [], [] => .eq
  | [], _ :: _ => .lt
  | _ :: _, [] => .gt
  | a :: as, b :: bs =>
    match compare a.val b.val with
    | .eq => compareDigits as bs
    | o => o

/-- Identifiers compared by their bytes. -/
def order (p q : PlayerId) : Ordering := compareDigits p.digits q.digits

/-- Reads 32 digit characters in a row, all of them digits. -/
def digitsOf (cs : List Char) : Option (List (Fin 16)) :=
  cs.mapM hexValue

/-- Whether a hyphen stands at each of the offsets 8, 13, 18 and 23 of a 36-character
text, and nowhere else. -/
def hyphensAt (cs : List Char) : Bool :=
  (cs.zipIdx.all fun (c, i) =>
    if i = 8 ∨ i = 13 ∨ i = 18 ∨ i = 23 then c = '-' else c ≠ '-')

/-- The digits of a hyphenated text of 36 characters, if it is well formed. -/
def ofHyphenated (cs : List Char) : Option (List (Fin 16)) :=
  if cs.length = 36 ∧ hyphensAt cs then digitsOf (cs.filter (· ≠ '-')) else none

/-- Whether a text starts with `urn:uuid:`, letters in either case. -/
def urnPrefixed (cs : List Char) : Bool :=
  (cs.take 9).map Char.toLower == "urn:uuid:".toList

/-- Whether a text is wrapped in braces. -/
def braced (cs : List Char) : Bool :=
  cs.length ≥ 2 && cs.head? == some '{' && cs.getLast? == some '}'

/-- The number of bytes of a list of characters in UTF-8. -/
def byteLength (cs : List Char) : Nat := cs.foldl (fun n c => n + c.utf8Size) 0

/-- The part of a text read as an identifier when the text has the length and shape of
one of the four spellings: the whole of a text of 32 or 36 bytes, the inside of a text of
38 bytes in braces, what follows the prefix of a text of 45 bytes. -/
def shapedPart (cs : List Char) : Option (List Char) :=
  match byteLength cs with
  | 32 | 36 => some cs
  | 38 => if braced cs then some ((cs.drop 1).dropLast) else none
  | 45 => if urnPrefixed cs then some (cs.drop 9) else none
  | _ => none

/-- The body of a text of no spelling's shape, the byte offset at which it starts, and
whether the text is unwrapped: the inside of braces, or what follows the `urn:uuid:`
prefix, or the whole text. -/
def body (cs : List Char) : List Char × Nat × Bool :=
  if braced cs then ((cs.drop 1).dropLast, 1, false)
  else if urnPrefixed cs then (cs.drop 9, 9, false)
  else (cs, 0, true)

/-- Scans a body whose first character stands at byte offset `i` of the text: the first
character that is neither digit nor hyphen with its offset, else the number of hyphens and
the offsets in the body of the first four. -/
def scanBody : List Char → Nat → Nat → Nat → List Nat → Option IdError × Nat × List Nat
  | [], _, _, hyphens, bounds => (none, hyphens, bounds)
  | c :: cs, i, j, hyphens, bounds =>
    if c = '-' then
      scanBody cs (i + c.utf8Size) (j + c.utf8Size) (hyphens + 1)
        (if hyphens < 4 then bounds ++ [j] else bounds)
    else if (hexValue c).isSome then scanBody cs (i + c.utf8Size) (j + c.utf8Size) hyphens bounds
    else (some (.badChar c i), hyphens, bounds)

/-- The offsets at which the five groups of a hyphenated body start. -/
def groupStarts : List Nat := [0, 9, 14, 19, 24]

/-- The first of the first four groups whose closing hyphen is misplaced, given the
offsets of the four hyphens. -/
def misplacedGroup : Nat → List Nat → Option IdError
  | g, b :: bs =>
    if b + 1 = groupStarts.getD (g + 1) 0 then misplacedGroup (g + 1) bs
    else some (.groupLength g (b - groupStarts.getD g 0))
  | _, [] => none

/-- The cause found on digits and hyphens alone: a group count other than five, else the
first group of the wrong length, the last measured from `len` bytes less the 24 before it. -/
def groupCause (hyphens : Nat) (bounds : List Nat) (len : Nat) : IdError :=
  if hyphens ≠ 4 then .groupCount (hyphens + 1)
  else
    match misplacedGroup 0 bounds with
    | some e => e
    | none => .groupLength 4 (len - 24)

/-- The cause of a refusal of the part of a text of a spelling's shape, read as it stands. -/
def partCause (part : List Char) : IdError :=
  match scanBody part 0 0 0 [] with
  | (some e, _, _) => e
  | (none, hyphens, bounds) => groupCause hyphens bounds (byteLength part)

/-- The longest spelling, in bytes. -/
def longest : Nat := 45

/-- The cause of a refusal of a text of no spelling's shape (see the module header). -/
def textCause (whole : List Char) : IdError :=
  if byteLength whole > longest then .badLength (byteLength whole)
  else
    let (inner, offset, unwrapped) := body whole
    match scanBody inner offset 0 0 [] with
    | (some e, _, _) => e
    | (none, hyphens, bounds) =>
      if hyphens = 0 ∧ unwrapped then .badLength (byteLength whole)
      else groupCause hyphens bounds (byteLength whole)

/-- The digits of the part of a text of a spelling's shape: 32 digits alone, or the
hyphenated form. -/
def partDigits (part : List Char) : Option (List (Fin 16)) :=
  if byteLength part = 32 then digitsOf part else ofHyphenated part

/-- Reads a player identifier in any of its four spellings. -/
def parse (s : String) : Except IdError PlayerId :=
  let cs := s.toList
  match shapedPart cs with
  | some part =>
    match partDigits part with
    | some ds => if h : ds.length = 32 then .ok ⟨ds, h⟩ else .error (partCause part)
    | none => .error (partCause part)
  | none => .error (textCause cs)

end PlayerId

end CrateState
