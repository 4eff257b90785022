import CrateState.Relational.Document.Element

/-!
# Writing JSON text

A document is written as standard JSON; what was written in standard JSON comes back byte
for byte, numbers with their digits and strings with their escapes. JSON5 spellings become
standard ones:

* a hexadecimal integer is written in decimal, or `9.0e999` past 64 bits;
* a missing digit beside a point becomes `0` (`.5` is `0.5`, `1.` is `1.0`);
* in a JSON5 string `\'` becomes `'`, `\xXX` `\u00XX`, `\0` `\u0000`, `\v` `\u0009` (the
  database writes the tab's code), an escaped line end or separator disappears, and a
  double quote or control character is escaped;
* an SQL text taken into a document is quoted: `"` and `\` get a backslash, `\b \t \n \f
  \r` their short escapes, other controls `\u00XX`.

`json_pretty` puts each element of a non-empty array or object on its own line, indented one
more than its container, with `": "` after a label.
-/

namespace CrateState

namespace Relational

namespace Document

/-- The lowercase hexadecimal digit of a value below 16. -/
def hexDigitByte (d : Nat) : UInt8 := (if d < 10 then 48 + d else 87 + d).toUInt8

/-- The escape of a control character: a short escape for backspace, tab, line feed,
form feed and carriage return, `\u00XX` for the others. -/
def controlEscape (b : UInt8) : List UInt8 :=
  match b with
  | 8 => ascii "\\b"
  | 9 => ascii "\\t"
  | 10 => ascii "\\n"
  | 12 => ascii "\\f"
  | 13 => ascii "\\r"
  | _ => ascii "\\u00" ++ [hexDigitByte (b.toNat / 16), hexDigitByte (b.toNat % 16)]

/-- The escaped body of an SQL text inside a JSON string. -/
def escapeRaw : List UInt8 → List UInt8
  | [] => []
  | b :: rest =>
    let here := if b == 34 || b == 92 then [92, b] else if b < 32 then controlEscape b else [b]
    here ++ escapeRaw rest

def quoteRaw (t : List UInt8) : List UInt8 := [34] ++ escapeRaw t ++ [34]

/-- The standard body of a JSON5 string body (see the module header). -/
def standardBody : Nat → List UInt8 → List UInt8
  | 0, _ => []
  | _, [] => []
  | fuel + 1, b :: rest =>
    if b == 92 then
      match rest with
      | 39 :: more => 39 :: standardBody fuel more
      | 118 :: more => ascii "\\u0009" ++ standardBody fuel more
      | 120 :: h1 :: h2 :: more => ascii "\\u00" ++ [h1, h2] ++ standardBody fuel more
      | 48 :: more => ascii "\\u0000" ++ standardBody fuel more
      | 13 :: 10 :: more => standardBody fuel more
      | 13 :: more => standardBody fuel more
      | 10 :: more => standardBody fuel more
      | 0xE2 :: 0x80 :: c :: more =>
        if c == 0xA8 || c == 0xA9 then standardBody fuel more
        else [92, 0xE2] ++ standardBody fuel (0x80 :: c :: more)
      | d :: more => [92, d] ++ standardBody fuel more
      | [] => [92]
    else if b == 34 then [92, 34] ++ standardBody fuel rest
    else if b < 32 then controlEscape b ++ standardBody fuel rest
    else b :: standardBody fuel rest

/-- The JSON text of a string or label of a spelling. -/
def stringText (sp : Spelling) (t : List UInt8) : List UInt8 :=
  match sp with
  | .plain | .escaped => [34] ++ t ++ [34]
  | .extended => [34] ++ standardBody t.length t ++ [34]
  | .raw => quoteRaw t

/-- The decimal digits of a natural number. -/
def decimalBytes (n : Nat) : List UInt8 := ascii (toString n)

/-- The standard text of a JSON5 integer `0xHEX` (with an optional sign): its decimal
value, or `9.0e999` past 64 bits. -/
def hexIntegerText (t : List UInt8) : List UInt8 :=
  let (sign, digits) := match t with
    | 45 :: r => (ascii "-", r.drop 2)
    | 43 :: r => ([], r.drop 2)
    | r => ([], r.drop 2)
  let (u, overflowed) := digits.foldl (fun (acc : Nat × Bool) d =>
    if acc.1 / Nat.pow 2 60 != 0 then (acc.1, true) else (acc.1 * 16 + hexValue d, acc.2)) (0, false)
  sign ++ (if overflowed then ascii "9.0e999" else decimalBytes u)

/-- The standard text of a JSON5 real: a `0` before a leading point and after a point
that no digit follows. -/
def pointText (t : List UInt8) : List UInt8 :=
  let (sign, body) : List UInt8 × List UInt8 := match t with
    | 45 :: r => ([45], r)
    | r => ([], r)
  let lead : List UInt8 := if body.head? == some 46 then [48] else []
  let rec fill : List UInt8 → List UInt8
    | [] => []
    | b :: rest =>
      if b == 46 && !(rest.head?.any isDigit) then [46, 48] ++ fill rest
      else b :: fill rest
  sign ++ lead ++ fill body

mutual

/-- The standard JSON text of an element. -/
def Element.render : Element → List UInt8
  | .null => ascii "null"
  | .bool true => ascii "true"
  | .bool false => ascii "false"
  | .integer t false => t
  | .integer t true => hexIntegerText t
  | .real t false => t
  | .real t true => pointText t
  | .string sp t => stringText sp t
  | .array items => [91] ++ renderItems items ++ [93]
  | .object members => [123] ++ renderMembers members ++ [125]

/-- Elements written one after another, separated by commas. -/
def renderItems : List Element → List UInt8
  | [] => []
  | [e] => e.render
  | e :: es => e.render ++ [44] ++ renderItems es

/-- Members written as `label:value`, separated by commas. -/
def renderMembers : List (Label × Element) → List UInt8
  | [] => []
  | [(l, e)] => stringText l.spelling l.text ++ [58] ++ e.render
  | (l, e) :: ms => stringText l.spelling l.text ++ [58] ++ e.render ++ [44] ++ renderMembers ms

end

/-- `n` copies of an indent. -/
def indentBy (indent : List UInt8) (n : Nat) : List UInt8 := (List.replicate n indent).flatten

mutual

/-- The pretty JSON text of an element nested `level` deep. -/
def Element.pretty (indent : List UInt8) (level : Nat) : Element → List UInt8
  | .array [] => ascii "[]"
  | .array items =>
    ascii "[\n" ++ prettyItems indent (level + 1) items ++ [10] ++ indentBy indent level ++ [93]
  | .object [] => ascii "\x7b\x7d"
  | .object members =>
    ascii "\x7b\n" ++ prettyMembers indent (level + 1) members ++ [10] ++ indentBy indent level ++
      [125]
  | e => e.render

/-- Elements on lines of their own at a level, separated by commas. -/
def prettyItems (indent : List UInt8) (level : Nat) : List Element → List UInt8
  | [] => []
  | [e] => indentBy indent level ++ e.pretty indent level
  | e :: es => indentBy indent level ++ e.pretty indent level ++ ascii ",\n" ++ prettyItems indent level es

/-- Members on lines of their own at a level, separated by commas. -/
def prettyMembers (indent : List UInt8) (level : Nat) : List (Label × Element) → List UInt8
  | [] => []
  | [(l, e)] => indentBy indent level ++ stringText l.spelling l.text ++ ascii ": " ++ e.pretty indent level
  | (l, e) :: ms =>
    indentBy indent level ++ stringText l.spelling l.text ++ ascii ": " ++ e.pretty indent level ++
      ascii ",\n" ++ prettyMembers indent level ms

end

end Document

end Relational

end CrateState
