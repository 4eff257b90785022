import CrateState.Relational.Syntax
import CrateState.Relational.Token
import CrateState.Relational.Error

/-!
# Reading tokens: the reader's state and its small steps

The reader walks one text's tokens, keeping those left and where the last one taken ended
(to cut out spans of source text). A step that cannot go on fails as the database does:
`near "token": syntax error` where no rule fits; `incomplete input` where the text ends
too soon; `unrecognized token: "text"` at a token that starts no token.

A bare word is a keyword when its ASCII uppercase is in `keywordList`. Most keywords not
needed to tell statements apart (`fallbackList`) read as names where a name is expected and
the keyword's meaning cannot stand; the join words (`LEFT`, `CROSS`, …) and `INDEXED` are
names in some places too. Quoted names are never keywords, and a string literal may stand
for a name where the grammar allows.
-/

namespace CrateState

namespace Relational

def keywordList : List String :=
  ["ABORT", "ACTION", "ADD", "AFTER", "ALL", "ALTER", "ALWAYS", "ANALYZE", "AND", "AS", "ASC",
   "ATTACH", "AUTOINCREMENT", "BEFORE", "BEGIN", "BETWEEN", "BY", "CASCADE", "CASE", "CAST",
   "CHECK", "COLLATE", "COLUMN", "COMMIT", "CONFLICT", "CONSTRAINT", "CREATE", "CROSS",
   "CURRENT", "CURRENT_DATE", "CURRENT_TIME", "CURRENT_TIMESTAMP", "DATABASE", "DEFAULT",
   "DEFERRABLE", "DEFERRED", "DELETE", "DESC", "DETACH", "DISTINCT", "DO", "DROP", "EACH",
   "ELSE", "END", "ESCAPE", "EXCEPT", "EXCLUDE", "EXCLUSIVE", "EXISTS", "EXPLAIN", "FAIL",
   "FIRST", "FOLLOWING", "FOR", "FOREIGN", "FROM", "FULL", "GENERATED", "GLOB", "GROUP",
   "GROUPS", "HAVING", "IF", "IGNORE", "IMMEDIATE", "IN", "INDEX", "INDEXED", "INITIALLY",
   "INNER", "INSERT", "INSTEAD", "INTERSECT", "INTO", "IS", "ISNULL", "JOIN", "KEY", "LAST",
   "LEFT", "LIKE", "LIMIT", "MATCH", "MATERIALIZED", "NATURAL", "NO", "NOT", "NOTHING",
   "NOTNULL", "NULL", "NULLS", "OF", "OFFSET", "ON", "OR", "ORDER", "OTHERS", "OUTER",
   "PARTITION", "PLAN", "PRAGMA", "PRECEDING", "PRIMARY", "QUERY", "RAISE", "RANGE",
   "RECURSIVE", "REFERENCES", "REGEXP", "REINDEX", "RELEASE", "RENAME", "REPLACE", "RESTRICT",
   "RETURNING", "RIGHT", "ROLLBACK", "ROW", "ROWS", "SAVEPOINT", "SELECT", "SET", "TABLE",
   "TEMP", "TEMPORARY", "THEN", "TIES", "TO", "TRANSACTION", "TRIGGER", "UNBOUNDED", "UNION",
   "UNIQUE", "UPDATE", "USING", "VACUUM", "VALUES", "VIEW", "VIRTUAL", "WHEN", "WHERE", "WITH",
   "WITHOUT"]

/-- Keywords that read as names where their own meaning cannot stand. -/
def fallbackList : List String :=
  ["ABORT", "ACTION", "AFTER", "ANALYZE", "ASC", "ATTACH", "BEFORE", "BEGIN", "BY", "CASCADE",
   "CAST", "COLUMN", "CONFLICT", "DATABASE", "DEFERRED", "DESC", "DETACH", "DO", "EACH", "END",
   "EXCLUSIVE", "EXPLAIN", "FAIL", "FOR", "IGNORE", "IMMEDIATE", "INITIALLY", "INSTEAD",
   "LIKE", "GLOB", "REGEXP", "MATCH", "NO", "PLAN", "QUERY", "KEY", "OF", "OFFSET", "PRAGMA",
   "RAISE", "RECURSIVE", "RELEASE", "REPLACE", "RESTRICT", "ROW", "ROWS", "ROLLBACK",
   "SAVEPOINT", "TEMP", "TEMPORARY", "TRIGGER", "VACUUM", "VIEW", "VIRTUAL", "WITH", "WITHOUT",
   "NULLS", "FIRST", "LAST", "CURRENT", "FOLLOWING", "PARTITION", "PRECEDING", "RANGE",
   "UNBOUNDED", "EXCLUDE", "GROUPS", "OTHERS", "TIES", "GENERATED", "ALWAYS", "MATERIALIZED",
   "REINDEX", "RENAME", "CURRENT_DATE", "CURRENT_TIME", "CURRENT_TIMESTAMP", "IF"]

/-- The words that name a kind of join. -/
def joinWords : List String := ["CROSS", "FULL", "INNER", "LEFT", "NATURAL", "OUTER", "RIGHT"]

/-- The keyword a token is, if it is one. -/
def Token.keyword? (t : Token) : Option String :=
  match t.lexeme with
  | .word w => let u := w.toUpper; if keywordList.contains u then some u else none
  | _ => none

/-- Which tokens may stand for a name in a given place. -/
structure NameRule where
  /-- Whether the join words are names here. -/
  joins : Bool
  /-- Whether a string literal is a name here. -/
  strings : Bool

/-- The name a token stands for under a rule: a plain word, a quoted name, a keyword that
falls back (or `INDEXED`), a join word or a string where the rule allows them. -/
def Token.name? (rule : NameRule) (t : Token) : Option String :=
  match t.lexeme with
  | .word w =>
    let u := w.toUpper
    if !keywordList.contains u || fallbackList.contains u || u == "INDEXED" then some w
    else if rule.joins && joinWords.contains u then some w
    else none
  | .quotedName n _ => some n
  | .string s => if rule.strings then some s else none
  | _ => none

/-- Any name the grammar's `nm` allows: words, join words, quoted names and strings. -/
def anyName : NameRule := ⟨true, true⟩

/-- Names of identifiers proper: words and quoted names, no join words or strings. -/
def idName : NameRule := ⟨false, false⟩

/-- Names of aliases written without `AS`: words, quoted names and strings. -/
def aliasName : NameRule := ⟨false, true⟩

/-- What the reader keeps: the tokens left, and where the last one taken ended. -/
structure Cursor where
  /-- The tokens left, the `finish` token last. -/
  rest : List Token
  /-- The offset just past the last token taken. -/
  lastStop : Nat := 0
  /-- The largest parameter number given so far. -/
  params : Nat := 0

/-- A reader of tokens of a text. -/
abbrev Reader := ReaderT (Array Char) (StateT Cursor (Except SqlError))

namespace Reader

/-- The text between two offsets of the source. -/
def slice (start stop : Nat) : Reader String := do
  let src ← read
  pure (String.ofList (src.extract start stop).toList)

def tokenText (t : Token) : Reader String := slice t.start t.stop

/-- The next token, whatever it is. -/
def current : Reader Token := do
  match (← get).rest with
  | t :: _ => pure t
  | [] => pure ⟨.finish, (← get).lastStop, (← get).lastStop⟩

/-- The token after the next one, whatever it is. -/
def second : Reader Token := do
  match (← get).rest with
  | _ :: t :: _ => pure t
  | _ => pure ⟨.finish, 0, 0⟩

/-- The token two after the next one, whatever it is. -/
def third : Reader Token := do
  match (← get).rest with
  | _ :: _ :: t :: _ => pure t
  | _ => pure ⟨.finish, 0, 0⟩

/-- The next token; one that starts no token is an error here. -/
def peek : Reader Token := do
  let t ← current
  match t.lexeme with
  | .illegal => throw (.unrecognized (← tokenText t))
  | _ => pure t

def advance : Reader Token := do
  let t ← peek
  match t.lexeme with
  | .finish => pure t
  | _ =>
    modify fun c => { c with rest := c.rest.drop 1, lastStop := t.stop }
    pure t

/-- Fails at the next token: a syntax error near it, or `incomplete input` at the end. -/
def stuck {α : Type} : Reader α := do
  let t ← peek
  match t.lexeme with
  | .finish => throw (.general "incomplete input")
  | _ => throw (.near (← tokenText t))

/-- Whether the next token is the keyword `k`. -/
def isKeyword (k : String) : Reader Bool := do
  pure ((← peek).keyword? == some k)

/-- Takes the keyword `k` if it is next. -/
def acceptKeyword (k : String) : Reader Bool := do
  if ← isKeyword k then
    let _ ← advance
    pure true
  else pure false

/-- Takes the keyword `k`, which must be next. -/
def expectKeyword (k : String) : Reader Unit := do
  unless ← acceptKeyword k do stuck

/-- Whether the next token is the symbol `s`. -/
def isSymbol (s : String) : Reader Bool := do
  pure ((← peek).lexeme == .symbol s)

/-- Takes the symbol `s` if it is next. -/
def acceptSymbol (s : String) : Reader Bool := do
  if ← isSymbol s then
    let _ ← advance
    pure true
  else pure false

/-- Takes the symbol `s`, which must be next. -/
def expectSymbol (s : String) : Reader Unit := do
  unless ← acceptSymbol s do stuck

/-- Takes a name under a rule, which must be next. -/
def name (rule : NameRule) : Reader String := do
  match (← peek).name? rule with
  | some n =>
    let _ ← advance
    pure n
  | none => stuck

/-- Takes a name under a rule if one is next. -/
def acceptName (rule : NameRule) : Reader (Option String) := do
  match (← peek).name? rule with
  | some n =>
    let _ ← advance
    pure (some n)
  | none => pure none

/-- Whether a `WINDOW` clause starts here: the word `WINDOW`, a name, then `AS` (only
then is `WINDOW` a keyword). -/
def isWindowClause : Reader Bool := do
  let isWord := match (← current).lexeme with
    | .word w => w.toUpper == "WINDOW"
    | _ => false
  pure (isWord && ((← second).name? anyName).isSome && (← third).keyword? == some "AS")

def nextStart : Reader Nat := do pure (← current).start

/-- Where the last token taken ended. -/
def lastStop : Reader Nat := do pure (← get).lastStop

/-- A comma-separated list of names in brackets: `(a, b, …)`. -/
def nameList (rule : NameRule) : Reader (List String) := do
  expectSymbol "("
  let first ← name rule
  let rec more : Nat → List String → Reader (List String)
    | 0, acc => pure acc.reverse
    | fuel + 1, acc => do
      if ← acceptSymbol "," then
        let n ← name rule
        more fuel (n :: acc)
      else pure acc.reverse
  let names ← more ((← get).rest.length) [first]
  expectSymbol ")"
  pure names

/-- `OR conflict` or `ON CONFLICT conflict` resolution words. -/
def conflictWord : Reader Conflict := do
  let t ← peek
  match t.keyword? with
  | some "ROLLBACK" => let _ ← advance; pure .rollback
  | some "ABORT" => let _ ← advance; pure .abort
  | some "FAIL" => let _ ← advance; pure .fail
  | some "IGNORE" => let _ ← advance; pure .ignore
  | some "REPLACE" => let _ ← advance; pure .replace
  | _ => stuck

end Reader

end Relational

end CrateState
