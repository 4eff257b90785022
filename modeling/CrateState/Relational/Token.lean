import CrateState.Relational.Value

/-!
# Tokens of statement text

`Token.scan` cuts statement text into tokens, longest match first, as the database does:

* blanks and comments (`-- …` to the line's end, `/* … */`, possibly left open) separate
  tokens and are dropped;
* a word starts with a letter, `_` or a character beyond ASCII and goes on with those,
  digits and `$`; the reader decides which are keywords;
* `"name"`, `` `name` `` and `[name]` are quoted names, `'text'` a string (a doubled quote
  for one), `x'…'` a blob of an even number of hex digits;
* a number is digits with optional fraction and exponent, or `0x` and hex digits; `_` may
  separate digits; a letter right after a number makes it unrecognizable;
* `?`, `?NNN`, `:name`, `@name`, `$name` and `#name` are parameters;
* operators are the longest of `||`, `<=`, `>=`, `==`, `<>`, `!=`, `<<`, `>>`, `->`,
  `->>` and single characters.

A character starting no token, an open quote and a malformed number or blob give an
`illegal` token, reported as `unrecognized token` when the reader reaches it, so an earlier
syntax error comes first. Positions are character offsets, used to quote tokens in errors
and keep spans of source text.
-/

namespace CrateState

namespace Relational

/-- What a token is. -/
inductive Lexeme where
  /-- A bare word: a keyword or a name. -/
  | word (text : String)
  /-- A quoted name; `double` for `"…"`. -/
  | quotedName (name : String) (double : Bool)
  /-- A string literal, unquoted. -/
  | string (text : String)
  /-- A blob literal. -/
  | blob (bytes : List UInt8)
  /-- A number as written; `float` when it has a point or an exponent. -/
  | number (text : String) (float : Bool)
  | parameter (text : String)
  /-- An operator or punctuation. -/
  | symbol (text : String)
  /-- Text that starts no token. -/
  | illegal
  /-- The end of the text. -/
  | finish
  deriving DecidableEq, Repr, Inhabited

/-- A token and where it stands in the text. -/
structure Token where
  /-- What it is. -/
  lexeme : Lexeme
  /-- The offset of its first character. -/
  start : Nat
  /-- The offset just past its last character. -/
  stop : Nat
  deriving DecidableEq, Repr, Inhabited

/-- Whether a character may continue a word. -/
def wordChar (c : Char) : Bool :=
  c.isAlphanum || c = '_' || c = '$' || c.toNat ≥ 128

/-- Whether a character may start a word. -/
def wordStart (c : Char) : Bool :=
  c.isAlpha || c = '_' || c.toNat ≥ 128

/-- Whether a character is blank between tokens. -/
def blankChar (c : Char) : Bool :=
  c = ' ' || c = '\t' || c = '\n' || c = '\x0c' || c = '\r'

/-- Whether a character is a hex digit. -/
def hexDigit (c : Char) : Bool :=
  c.isDigit || ('a' ≤ c && c ≤ 'f') || ('A' ≤ c && c ≤ 'F')

def hexValue (c : Char) : Nat :=
  if c.isDigit then c.toNat - 48
  else if 'a' ≤ c && c ≤ 'f' then c.toNat - 87
  else c.toNat - 55

/-- The bytes of an even run of hex digits. -/
def hexBytes : List Char → List UInt8
  | a :: b :: rest => (hexValue a * 16 + hexValue b).toUInt8 :: hexBytes rest
  | _ => []

/-- Counts the characters of `cs` taken while `p` holds. -/
def runLength (p : Char → Bool) (cs : List Char) : Nat := (cs.takeWhile p).length

/-- Reads a quoted run closed by `q`, where a doubled `q` stands for one: the content and
the length taken (closing quote included), or `none` when it never closes. -/
def readQuotedRun (q : Char) : List Char → List Char → Nat → Option (List Char × Nat)
  | [], _, _ => none
  | c :: cs, acc, n =>
    if c = q then
      match cs with
      | d :: ds => if d = q then readQuotedRun q ds (q :: acc) (n + 2) else some (acc.reverse, n + 1)
      | [] => some (acc.reverse, n + 1)
    else readQuotedRun q cs (c :: acc) (n + 1)

/-- Digits (with `_` between them) as `digit`, the length taken and whether a `_` was
seen. -/
def digitRun (digit : Char → Bool) (cs : List Char) : Nat × Bool :=
  let run := cs.takeWhile fun c => digit c || c = '_'
  (run.length, run.contains '_')

/-- The length of a number at the start of `cs` and whether it is a float; `none` when
it is malformed (a word character follows it). -/
def numberLength (cs : List Char) : Nat × Bool × Bool :=
  match cs with
  | '0' :: x :: h :: _ =>
    if (x = 'x' || x = 'X') && hexDigit h then
      let (n, _) := digitRun hexDigit (cs.drop 2)
      let len := n + 2
      (len, false, (cs.drop len).head?.all (!wordChar ·))
    else decimalLength cs
  | _ => decimalLength cs
where
  /-- A decimal number: digits, fraction, exponent. -/
  decimalLength (cs : List Char) : Nat × Bool × Bool :=
    let (a, _) := digitRun Char.isDigit cs
    let (b, float) := match cs.drop a with
      | '.' :: r => let (k, _) := digitRun Char.isDigit r; (a + 1 + k, true)
      | _ => (a, false)
    let (c, float) := match cs.drop b with
      | e :: d :: r =>
        if (e = 'e' || e = 'E') then
          if d.isDigit then
            let (k, _) := digitRun Char.isDigit (d :: r); (b + 1 + k, true)
          else if (d = '+' || d = '-') && (r.head?.any Char.isDigit) then
            let (k, _) := digitRun Char.isDigit r; (b + 2 + k, true)
          else (b, float)
        else (b, float)
      | _ => (b, float)
    (c, float, (cs.drop c).head?.all (!wordChar ·))

/-- The operators, longest first. -/
def operatorTexts : List String :=
  ["->>", "||", "<=", ">=", "==", "<>", "!=", "<<", ">>", "->",
   "-", "(", ")", ";", "+", "*", "/", "%", "=", "<", ">", ",", "&", "|", "~", "."]

/-- The length of a parameter after its sigil (`:`, `@`, `$`, `#`): word characters, `::`
inside, and a parenthesized suffix; with whether it is well formed (it has a word
character, and a suffix that is opened is closed before a blank). -/
def parameterLength (cs : List Char) : Nat × Bool :=
  let rec go : Nat → List Char → Nat → Nat → Nat × Bool
    | 0, _, i, n => (i, n > 0)
    | fuel + 1, cs, i, n =>
      match cs with
      | c :: rest =>
        if wordChar c then go fuel rest (i + 1) (n + 1)
        else if c = '(' && n > 0 then
          let inner := rest.takeWhile fun d => !blankChar d && d != ')'
          match rest.drop inner.length with
          | ')' :: _ => (i + inner.length + 2, true)
          | _ => (i + inner.length + 1, false)
        else if c = ':' && rest.head? = some ':' then go fuel rest.tail (i + 2) n
        else (i, n > 0)
      | [] => (i, n > 0)
  go (cs.length + 1) cs 0 0

/-- One token at the start of `cs` (which is not blank): its lexeme and length. -/
def scanOne (cs : List Char) : Lexeme × Nat :=
  match cs with
  | [] => (.finish, 0)
  | c :: rest =>
    if c = '\'' then
      match readQuotedRun '\'' rest [] 0 with
      | some (body, n) => (.string (String.ofList body), n + 1)
      | none => (.illegal, cs.length)
    else if c = '"' || c = '`' then
      match readQuotedRun c rest [] 0 with
      | some (body, n) => (.quotedName (String.ofList body) (c = '"'), n + 1)
      | none => (.illegal, cs.length)
    else if c = '[' then
      let body := rest.takeWhile (· != ']')
      if body.length < rest.length then (.quotedName (String.ofList body) false, body.length + 2)
      else (.illegal, cs.length)
    else if (c = 'x' || c = 'X') && rest.head? = some '\'' then
      let digits := (rest.drop 1).takeWhile hexDigit
      match rest.drop (1 + digits.length) with
      | '\'' :: _ =>
        if digits.length % 2 = 0 then (.blob (hexBytes digits), digits.length + 3)
        else (.illegal, digits.length + 3)
      | after =>
        let junk := after.takeWhile (· != '\'')
        let n := 2 + digits.length + junk.length
        (.illegal, if junk.length < after.length then n + 1 else n)
    else if c.isDigit || (c = '.' && rest.head?.any Char.isDigit) then
      let (n, float, ok) := numberLength cs
      if ok then (.number (String.ofList (cs.take n)) float, n)
      else (.illegal, n + runLength wordChar (cs.drop n))
    else if wordStart c then
      let n := 1 + runLength wordChar rest
      (.word (String.ofList (cs.take n)), n)
    else if c = '?' then
      let n := 1 + runLength Char.isDigit rest
      (.parameter (String.ofList (cs.take n)), n)
    else if c = ':' || c = '@' || c = '$' || c = '#' then
      match parameterLength rest with
      | (n, true) => (.parameter (String.ofList (cs.take (n + 1))), n + 1)
      | (n, false) => (.illegal, n + 1)
    else
      match operatorTexts.find? (fun op => op.toList.isPrefixOf cs) with
      | some op => (.symbol op, op.length)
      | none => (.illegal, 1)

/-- The length of blanks and comments at the start of `cs`. -/
def skipLength (cs : List Char) : Nat :=
  let rec go : Nat → List Char → Nat → Nat
    | 0, _, n => n
    | fuel + 1, cs, n =>
      match cs with
      | c :: rest =>
        if blankChar c then go fuel rest (n + 1)
        else if c = '-' && rest.head? = some '-' then
          let line := rest.tail.takeWhile (· != '\n')
          go fuel (rest.tail.drop line.length) (n + 2 + line.length)
        else if c = '/' && rest.head? = some '*' && rest.length ≥ 2 then
          let body := rest.tail
          let rec close : List Char → Nat → Option Nat
            | '*' :: '/' :: _, k => some (k + 2)
            | _ :: r, k => close r (k + 1)
            | [], _ => none
          match close body 0 with
          | some k => go fuel (body.drop k) (n + 2 + k)
          | none => n + 2 + body.length
        else n
      | [] => n
  go (cs.length + 1) cs 0

/-- Cuts text into tokens, ending with one `finish` token. -/
def Token.scan (text : List Char) : List Token :=
  let rec go : Nat → List Char → Nat → List Token → List Token
    | 0, _, pos, acc => (⟨.finish, pos, pos⟩ :: acc).reverse
    | fuel + 1, cs, pos, acc =>
      let skip := skipLength cs
      let cs := cs.drop skip
      let pos := pos + skip
      match cs with
      | [] => (⟨.finish, pos, pos⟩ :: acc).reverse
      | _ =>
        let (lx, n) := scanOne cs
        let n := max n 1
        go fuel (cs.drop n) (pos + n) (⟨lx, pos, pos + n⟩ :: acc)
  go (text.length + 1) text 0 []

def Token.text (t : Token) (source : List Char) : String :=
  String.ofList ((source.drop t.start).take (t.stop - t.start))

/-- The value of an integer literal: decimal digits (unbounded, so that a minus sign in
front can still make the smallest integer), or hex digits wrapped to 64 bits; `none` for
more than sixteen significant hex digits. -/
def integerLiteral (text : String) : Option Int :=
  let cs := text.toList.filter (· != '_')
  match cs with
  | '0' :: x :: hex =>
    if x = 'x' || x = 'X' then
      let significant := hex.dropWhile (· = '0')
      if significant.length > 16 then none
      else some (ofBits64 (hex.foldl (fun acc c => acc * 16 + hexValue c) 0))
    else some (cs.foldl (fun acc c => acc * 10 + (c.toNat - 48)) 0)
  | _ => some (cs.foldl (fun acc c => acc * 10 + (c.toNat - 48)) 0)

def floatLiteral (text : String) : Float :=
  let cs := text.toList.filter (· != '_')
  match readNumeral cs with
  | some (n, _) => n.toFloat
  | none => 0

/-- Whether the `_` of a number all stand between two digits (hex digits after `0x`). -/
def separatorsValid (text : String) : Bool :=
  let cs := text.toList
  let digit : Char → Bool := match cs with
    | '0' :: x :: _ => if x = 'x' || x = 'X' then hexDigit else Char.isDigit
    | _ => Char.isDigit
  let rec go : List Char → Option Char → Bool
    | [], _ => true
    | '_' :: rest, prev => (prev.any digit) && (rest.head?.any digit) && go rest (some '_')
    | c :: rest, _ => go rest (some c)
  go cs none

end Relational

end CrateState
