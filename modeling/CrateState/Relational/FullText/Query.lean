import CrateState.Relational.FullText.Tokenize

/-!
# Full-text queries

The text right of `MATCH` is a query of its own language:

* a *phrase* is a word or double-quoted string, read with the table's tokenizer into terms
  at consecutive positions; `+` joins words to a phrase, `*` after a word lets its last
  term match any token it begins, `^` pins a phrase to a column's start;
* `NEAR(p1 p2 …, n)` asks for phrases within `n` tokens (default 10) of each other;
* `col : q`, `{a b} : q` and `- {a b} : q` confine `q` to columns;
* phrases side by side must all match (`AND` written or not); `NOT` binds tightest, then
  `AND`, then `OR`; brackets group.

A word is a run of ASCII letters, digits, `_` and characters above ASCII; upper-case
`AND`, `OR` and `NOT` are operators, and `NEAR` starts a group only before a bracket.

Reading stops at the first error, with the database's messages: a character that cannot
start a word, or an unexpected token, is a syntax error near it; a column filter naming no
column; a `NEAR` distance that is no integer. A phrase with no terms (a quoted string
without a word character) matches nothing, and is dropped beside other phrases.
-/

namespace CrateState

namespace Relational

namespace FullText

/-- A term of a phrase: a token's folded text, matched whole or, when `leading`, as the
beginning of a token. -/
structure Term where
  /-- The folded text. -/
  text : String
  /-- Whether any token the text begins matches. -/
  leading : Bool := false
  deriving Inhabited, BEq, Repr

/-- A phrase: terms at consecutive positions of one column; when `initial`, the first at
the column's start. -/
structure Phrase where
  terms : List Term
  /-- Whether the phrase must open its column. -/
  initial : Bool := false
  deriving Inhabited, BEq, Repr

/-- A group of phrases that must all appear within `distance` tokens of each other (one
phrase is a group of its own), confined to some columns. -/
structure Near where
  phrases : List Phrase
  /-- The most tokens between the end of one phrase and the start of the last. -/
  distance : Nat := 10
  /-- The columns the group is confined to, ascending; `none` for all. -/
  columns : Option (List Nat) := none
  /-- Whether column filters left it no column, so that it matches nothing. -/
  cleared : Bool := false
  deriving Inhabited, BEq, Repr

/-- A query. -/
inductive Query where
  /-- A group of phrases. -/
  | near (n : Near)
  /-- Both match. -/
  | and (a b : Query)
  /-- Either matches. -/
  | or (a b : Query)
  /-- The first matches and the second does not. -/
  | not (a b : Query)
  deriving Inhabited, BEq, Repr

/-- Whether a group can never match because one of its phrases has no terms or filters
left it no column: the groups a query side by side with others drops. -/
def Near.isVoid (n : Near) : Bool := n.cleared || n.phrases.any (·.terms.isEmpty)

/-- The phrases of a query in the order they were written, each with its group. -/
def Query.groups : Query → List (Phrase × Near)
  | .near n => n.phrases.map fun p => (p, n)
  | .and a b | .or a b | .not a b => a.groups ++ b.groups

/-! ## Reading -/

/-- A token of a query. -/
inductive Lexeme where
  | lp | rp | lcp | rcp | colon | comma | plus | star | minus | caret | finish
  /-- A word or a quoted string, as written. -/
  | word (raw : String)
  | andOp | orOp | notOp
  /-- A character that starts no token, or an unterminated string: the message. -/
  | bad (message : String)
  deriving Inhabited, BEq, Repr

/-- Whether a character may be part of a word. -/
def isWordChar (c : Char) : Bool :=
  c.toNat ≥ 128 || c.isAlphanum || c == '_' || c.toNat == 26

/-- Whether a character separates the tokens of a query. -/
def isQuerySpace (c : Char) : Bool := c == ' ' || c == '\t' || c == '\n' || c == '\r'

/-- The text of a syntax error near a token. -/
def nearError (raw : String) : String := "fts5: syntax error near \"" ++ raw ++ "\""

/-- Reads a quoted string after its opening quote: the characters up to the closing one,
a doubled quote standing for one; `none` when the text ends first. -/
def quotedRun : List Char → List Char → Option (List Char × List Char)
  | [], _ => none
  | '"' :: '"' :: rest, acc => quotedRun rest ('"' :: '"' :: acc)
  | '"' :: rest, acc => some (acc.reverse, rest)
  | c :: rest, acc => quotedRun rest (c :: acc)

/-- The tokens of a query, each with its text as written; the list ends with `finish`,
or with the bad token that stops reading. A NUL character ends the text. -/
def lexQuery : Nat → List Char → List (Lexeme × String)
  | 0, _ => [(.finish, "")]
  | fuel + 1, cs =>
    match cs.dropWhile isQuerySpace with
    | [] => [(.finish, "")]
    | c :: rest =>
      let single (l : Lexeme) := (l, String.singleton c) :: lexQuery fuel rest
      match c with
      | '(' => single .lp
      | ')' => single .rp
      | '{' => single .lcp
      | '}' => single .rcp
      | ':' => single .colon
      | ',' => single .comma
      | '+' => single .plus
      | '*' => single .star
      | '-' => single .minus
      | '^' => single .caret
      | '"' =>
        match quotedRun rest [] with
        | none => [(.bad "unterminated string", "")]
        | some (body, after) =>
          (.word ("\"" ++ String.ofList body ++ "\""), "\"" ++ String.ofList body ++ "\"") ::
            lexQuery fuel after
      | _ =>
        if c.toNat == 0 then [(.finish, "")]
        else if !isWordChar c then [(.bad (nearError (String.singleton c)), "")]
        else
          let w := String.ofList (c :: rest.takeWhile isWordChar)
          let l : Lexeme := if w == "AND" then .andOp else if w == "OR" then .orOp
            else if w == "NOT" then .notOp else .word w
          (l, w) :: lexQuery fuel (rest.dropWhile isWordChar)

/-- A word's text without its quotes: a string in `"`, `'`, `` ` `` or `[…]` loses them,
a doubled closing quote standing for one. -/
def dequote (s : String) : String :=
  match s.toList with
  | q :: rest =>
    let close := if q == '[' then some ']' else if q == '"' || q == '\'' || q == '`' then some q else none
    match close with
    | none => s
    | some cl =>
      let rec go : List Char → List Char → List Char
        | [], acc => acc.reverse
        | c :: d :: more, acc => if c == cl && d == cl then go more (c :: acc)
          else if c == cl then acc.reverse
          else go (d :: more) (c :: acc)
        | [c], acc => if c == cl then acc.reverse else (c :: acc).reverse
      String.ofList (go rest [])
  | [] => s

/-- What reading a query needs of its table: the tokenizer and the column names. -/
structure Reading where
  tokenizer : Tokenizer
  /-- The column names. -/
  columns : List String
  /-- Whether the index keeps the positions of tokens, which phrases of more than one
  token, `^` and `NEAR` groups of more than one phrase need. -/
  positions : Bool := true
  /-- Whether the index keeps the columns of tokens, which column filters need. -/
  columnsKept : Bool := true
  deriving Inhabited

/-- A reader of query tokens: the position of the next one. -/
abbrev QueryReader := StateT Nat (Except String)

/-- The group's columns confined further to a set: the common ones; a group that had no
filter takes the set as it is. -/
def Near.confine (n : Near) (cols : List Nat) : Near :=
  match n.columns with
  | none => { n with columns := some cols }
  | some own =>
    let common := own.filter cols.contains
    { n with columns := some common, cleared := n.cleared || common.isEmpty }

/-- A query confined to a set of columns. -/
def Query.confine (cols : List Nat) : Query → Query
  | .near n => .near (n.confine cols)
  | .and a b => .and (a.confine cols) (b.confine cols)
  | .or a b => .or (a.confine cols) (b.confine cols)
  | .not a b => .not (a.confine cols) (b.confine cols)

/-- Two queries side by side: a group that can never match is dropped, whichever side it
stands on (on the left, the last of the conjunctions so far). -/
def implicitAnd (left right : Query) : Query :=
  match right with
  | .near r => if r.isVoid then left else
    match left with
    | .near l => if l.isVoid then right else .and left right
    | .and a (.near l) => if l.isVoid then .and a right else .and left right
    | _ => .and left right
  | _ => .and left right

section Reader

variable (tokens : Array (Lexeme × String)) (cfg : Reading)

/-- The token at hand, stopping on a bad one. -/
def peekQ : QueryReader (Lexeme × String) := do
  let t := tokens.getD (← get) (.finish, "")
  match t.1 with
  | .bad m => throw m
  | _ => pure t

def peekNextQ : QueryReader (Lexeme × String) := do
  let t := tokens.getD ((← get) + 1) (.finish, "")
  match t.1 with
  | .bad m => throw m
  | _ => pure t

def advanceQ : QueryReader Unit := modify (· + 1)

def expectQ (l : Lexeme) : QueryReader Unit := do
  let t ← peekQ tokens
  if t.1 == l then advanceQ else throw (nearError t.2)

def columnIndex (name : String) : QueryReader Nat :=
  let n := dequote name
  match cfg.columns.findIdx? fun c => c.toLower == n.toLower with
  | some k => pure k
  | none => throw ("no such column: " ++ n)

/-- The terms a word or string stands for. -/
def termsOf (raw : String) : List Term :=
  (cfg.tokenizer.tokens (dequote raw)).map fun t => { text := t.text }

/-- The terms with the last one's `leading` set as given. -/
def markLast (terms : List Term) (leading : Bool) : List Term :=
  match terms.reverse with
  | [] => []
  | t :: rest => ({ t with leading } :: rest).reverse

/-- Reads a phrase: a word, an optional `*`, then any number of `+ word *?`. -/
def readPhrase : Nat → List Term → QueryReader Phrase
  | 0, _ => throw "fts5: query too complex"
  | fuel + 1, acc => do
    let t ← peekQ tokens
    match t.1 with
    | .word w =>
      advanceQ
      let star := (← peekQ tokens).1 == .star
      if star then advanceQ
      let terms := markLast (acc ++ termsOf cfg w) star
      if (← peekQ tokens).1 == .plus then
        advanceQ
        readPhrase fuel terms
      else pure { terms }
    | _ => throw (nearError t.2)

/-- Reads the phrases of a `NEAR` group, up to its distance or its closing bracket. -/
def readNearPhrases : Nat → List Phrase → QueryReader (List Phrase)
  | 0, _ => throw "fts5: query too complex"
  | fuel + 1, acc => do
    let p ← readPhrase tokens cfg (fuel + 1) []
    match (← peekQ tokens).1 with
    | .word _ => readNearPhrases fuel (acc ++ [p])
    | _ => pure (acc ++ [p])

/-- The error of a group that needs the positions of tokens from an index that does not
keep them. -/
def positionError (cfg : Reading) (n : Near) : Option String :=
  if cfg.positions then none
  else
    match n.phrases with
    | [p] =>
      if p.terms.length > 1 || (p.initial && !p.terms.isEmpty) then
        some "fts5: phrase queries are not supported (detail!=full)"
      else none
    | _ => some "fts5: NEAR queries are not supported (detail!=full)"

/-- The error of a column filter on an index that does not keep columns. -/
def columnError (cfg : Reading) : QueryReader Unit :=
  if cfg.columnsKept then pure ()
  else throw "fts5: column queries are not supported (detail=none)"

/-- Reads a group: `^phrase`, a phrase, or `NEAR(…)`. -/
def readNearGroup (fuel : Nat) : QueryReader Near := do
  let t ← peekQ tokens
  match t.1 with
  | .caret =>
    advanceQ
    let t2 ← peekQ tokens
    match t2.1 with
    | .word _ =>
      let p ← readPhrase tokens cfg fuel []
      pure { phrases := [{ p with initial := !p.terms.isEmpty }] }
    | _ => throw (nearError t2.2)
  | .word w =>
    if (← peekNextQ tokens).1 == .lp then
      advanceQ; advanceQ
      let t3 ← peekQ tokens
      match t3.1 with
      | .word _ => pure ()
      | _ => throw (nearError t3.2)
      let phrases ← readNearPhrases tokens cfg fuel []
      let dist ← if (← peekQ tokens).1 == .comma then do
          advanceQ
          let d ← peekQ tokens
          match d.1 with
          | .word raw => advanceQ; pure (some raw)
          | _ => throw (nearError d.2)
        else pure none
      expectQ tokens .rp
      if w != "NEAR" then throw (nearError w)
      match dist with
      | none => pure { phrases }
      | some raw =>
        if raw.toList.all Char.isDigit then
          pure { phrases, distance := raw.toList.foldl (fun n c => n * 10 + (c.toNat - 48)) 0 }
        else throw ("expected integer, got \"" ++ raw ++ "\"")
    else
      let p ← readPhrase tokens cfg fuel []
      pure { phrases := [p] }
  | _ => throw (nearError t.2)

/-- Reads a group, `^phrase`, a phrase or `NEAR(…)`, which the index must be able to
answer. -/
def readNearset (fuel : Nat) : QueryReader Near := do
  let n ← readNearGroup tokens cfg fuel
  match positionError cfg n with
  | some m => throw m
  | none => pure n

/-- Reads the names of a column set up to its closing brace. -/
def readColumnList : Nat → List Nat → QueryReader (List Nat)
  | 0, _ => throw "fts5: query too complex"
  | fuel + 1, acc => do
    let t ← peekQ tokens
    match t.1 with
    | .word w =>
      advanceQ
      let next ← peekQ tokens
      let k ← columnIndex cfg w
      let acc := if acc.contains k then acc else acc ++ [k]
      match next.1 with
      | .word _ => readColumnList fuel acc
      | .rcp => advanceQ; pure acc
      | _ => throw (nearError next.2)
    | _ => throw (nearError t.2)

/-- Reads a column set that starts with `-` or `{`, before its colon. -/
def readColumnSet (fuel : Nat) : QueryReader (List Nat) := do
  let t ← peekQ tokens
  let all := List.range cfg.columns.length
  match t.1 with
  | .minus =>
    advanceQ
    let t2 ← peekQ tokens
    match t2.1 with
    | .lcp =>
      advanceQ
      let cols ← readColumnList tokens cfg fuel []
      pure (all.filter (!cols.contains ·))
    | .word w =>
      advanceQ
      let _ ← peekQ tokens
      let k ← columnIndex cfg w
      pure (all.filter (· != k))
    | _ => throw (nearError t2.2)
  | .lcp =>
    advanceQ
    let cols ← readColumnList tokens cfg fuel []
    pure (cols.mergeSort (· ≤ ·))
  | _ => throw (nearError t.2)

mutual

/-- Reads a query whose operators bind at least as tightly as `minPrec` (`OR` 1, `AND` 2,
`NOT` 3). -/
def readQuery : Nat → Nat → QueryReader Query
  | 0, _ => throw "fts5: query too complex"
  | fuel + 1, minPrec => do
    let left ← readUnit fuel
    readOperators fuel minPrec left

/-- Reads the operators after a query, each with the query on its right. -/
def readOperators : Nat → Nat → Query → QueryReader Query
  | 0, _, _ => throw "fts5: query too complex"
  | fuel + 1, minPrec, left => do
    let t ← peekQ tokens
    let prec : Nat := match t.1 with
      | .orOp => 1
      | .andOp => 2
      | .notOp => 3
      | _ => 0
    if prec == 0 || prec < minPrec then pure left
    else
      advanceQ
      let right ← readQuery fuel (prec + 1)
      let q := match t.1 with
        | .orOp => Query.or left right
        | .andOp => Query.and left right
        | _ => Query.not left right
      readOperators fuel minPrec q

/-- Reads what follows a column set and its colon: a bracketed query (only at the start
of a run of groups, when `first`) or a group. -/
def readAfterColon : Nat → List Nat → Bool → QueryReader Query
  | 0, _, _ => throw "fts5: query too complex"
  | fuel + 1, cols, first => do
    let t ← peekQ tokens
    match t.1 with
    | .lp =>
      if first then
        advanceQ
        let e ← readQuery fuel 1
        expectQ tokens .rp
        columnError cfg
        pure (e.confine cols)
      else throw (nearError t.2)
    | .word _ | .caret =>
      let n ← readNearset tokens cfg fuel
      columnError cfg
      let q := Query.near (n.confine cols)
      if first then readRun fuel q else pure q
    | _ => throw (nearError t.2)

/-- Reads one group of a run, with its column filter if it has one. -/
def readGroup : Nat → QueryReader Query
  | 0 => throw "fts5: query too complex"
  | fuel + 1 => do
    let t ← peekQ tokens
    match t.1 with
    | .lcp | .minus =>
      let cols ← readColumnSet tokens cfg fuel
      expectQ tokens .colon
      readAfterColon fuel cols false
    | .word w =>
      if (← peekNextQ tokens).1 == .colon then
        let k ← columnIndex cfg w
        advanceQ; advanceQ
        readAfterColon fuel [k] false
      else pure (.near (← readNearset tokens cfg fuel))
    | _ => pure (.near (← readNearset tokens cfg fuel))

/-- Reads the groups that follow a group side by side. -/
def readRun : Nat → Query → QueryReader Query
  | 0, _ => throw "fts5: query too complex"
  | fuel + 1, left => do
    let t ← peekQ tokens
    match t.1 with
    | .word _ | .caret | .lcp | .minus =>
      let g ← readGroup fuel
      readRun fuel (implicitAnd left g)
    | _ => pure left

/-- Reads an operand: a bracketed query, a column filter over a bracketed query, or a run
of groups. -/
def readUnit : Nat → QueryReader Query
  | 0 => throw "fts5: query too complex"
  | fuel + 1 => do
    let t ← peekQ tokens
    match t.1 with
    | .lp =>
      advanceQ
      let e ← readQuery fuel 1
      expectQ tokens .rp
      pure e
    | .lcp | .minus =>
      let cols ← readColumnSet tokens cfg fuel
      expectQ tokens .colon
      readAfterColon fuel cols true
    | .word w =>
      if (← peekNextQ tokens).1 == .colon then
        let k ← columnIndex cfg w
        advanceQ; advanceQ
        readAfterColon fuel [k] true
      else readRun fuel (.near (← readNearset tokens cfg fuel))
    | .caret => readRun fuel (.near (← readNearset tokens cfg fuel))
    | _ => throw (nearError t.2)

end

end Reader

/-- Reads a query, whole: the text must end where the query does. -/
def parseQuery (cfg : Reading) (text : String) : Except String Query := do
  let tokens := (lexQuery (text.length + 2) text.toList).toArray
  let fuel := 4 * tokens.size + 8
  let (q, pos) ← (readQuery tokens cfg fuel 1).run 0
  let t := tokens.getD pos (.finish, "")
  match t.1 with
  | .finish => pure q
  | .bad m => throw m
  | _ => throw (nearError t.2)

end FullText

end Relational

end CrateState
