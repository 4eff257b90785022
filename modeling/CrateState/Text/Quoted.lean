import CrateState.Text.Hidden

/-!
# Quoted text for messages

`Quoted.debug` writes a string between double quotes so that a reader of a message can
see exactly what it held: a double quote and a backslash get a backslash, tab, carriage
return, line feed and NUL their short escapes (`\t`, `\r`, `\n`, `\0`), and characters that
do not print, or that only combine with the character before them, are written as
`\u{…}` with their code point in lowercase hexadecimal. Everything else, non-ASCII letters
included, is written as it is.

Which characters count as not printing or combining is the table of `Text.Hidden`.
-/

namespace CrateState

namespace Quoted

/-- Lowercase hexadecimal digits of a number, without leading zeros. -/
def hex (n : Nat) : String :=
  String.ofList ((Nat.toDigits 16 n).map fun c => c.toLower)

/-- The characters that stand for `c` between the quotes. -/
def escape (c : Char) : String :=
  if c = '"' then "\\\""
  else if c = '\\' then "\\\\"
  else if c = '\t' then "\\t"
  else if c = '\r' then "\\r"
  else if c = '\n' then "\\n"
  else if c = '\x00' then "\\0"
  else if Hidden.contains c then "\\u" ++ "\x7b" ++ hex c.toNat ++ "\x7d"
  else c.toString

/-- A string between double quotes with the escapes above. -/
def debug (s : String) : String :=
  "\"" ++ String.join (s.toList.map escape) ++ "\""

end Quoted

end CrateState
