import CrateState.Relational.Read.Basic
import CrateState.Relational.Depth

/-!
# Reading expressions and queries

Expressions are read by precedence, loosest first:

| level | operators |
|---|---|
| 1 | `OR` |
| 2 | `AND` |
| 3 | prefix `NOT` |
| 4 | `IS`, `IS NOT`, `[NOT] LIKE/GLOB/REGEXP/MATCH`, `[NOT] BETWEEN`, `[NOT] IN`, `ISNULL`, `NOTNULL`, `NOT NULL`, `=`, `==`, `<>`, `!=` |
| 5 | `<`, `<=`, `>`, `>=` |
| 6 | `ESCAPE` (of a pattern) |
| 7 | `&`, `|`, `<<`, `>>` |
| 8 | `+`, `-` |
| 9 | `*`, `/`, `%` |
| 10 | `||`, `->`, `->>` |
| 11 | postfix `COLLATE` |
| 12 | prefix `-`, `+`, `~` |

Infix operators group to the left. Brackets around one expression leave no trace, so a
minus before a bracketed number still folds into the literal (so `-9223372036854775808`
stays an integer: literals are read unbounded and the evaluator narrows them).

A query is `[WITH …] core (set-op core)* [ORDER BY …] [LIMIT …]`; `ORDER BY` or `LIMIT` on
any core but the last is refused once the query is read, naming the set operator after
it, and `VALUES` rows must all be as long as the first.

Every node the database checks as it builds it (an operator, call, `CASE`, subquery)
passes through `bounded`, which refuses a tree deeper than the database accepts
(`Relational.Depth`) when it is built, before anything read after it. Every function takes
fuel, spent one per nested call; the entry points bound it by the number of tokens.
-/

namespace CrateState

namespace Relational

namespace Reader

/-- Whether a number token is written in hex. -/
def isHexText (text : String) : Bool :=
  match text.toList with
  | '0' :: x :: _ => x = 'x' || x = 'X'
  | _ => false

/-- The value of a number token; separators must stand between digits and a hex literal
must have at most sixteen significant digits. A decimal integer beyond the 64-bit range
is read as a double. -/
def numberValue (t : Token) (text : String) (float : Bool) : Reader SqlValue := do
  let written ← tokenText t
  if written.contains '_' && !separatorsValid written then throw (.unrecognized written)
  if float then pure (.real (floatLiteral text))
  else
    match integerLiteral text with
    | some i => pure (if fitsInt i then .int i else .real (floatLiteral text))
    | none => throw (.general ("hex literal too big: " ++ written))

/-- The literal a minus sign makes of the number token right after it, when the sign
changes what the token means: `-9223372036854775808` is the smallest integer (the token
alone is beyond the range), and a hex literal of the smallest integer cannot be negated.
Other numbers are negated as values (`negate`). -/
def minusNumber (t : Token) : Reader (Option Expr) := do
  match t.lexeme with
  | .number text false =>
    let written ← tokenText t
    match integerLiteral text with
    | some i =>
      if isHexText text then
        if i = minInt then throw (.general ("hex literal too big: -" ++ written)) else pure none
      else if i = maxInt + 1 then pure (some (.lit (.int minInt)))
      else pure none
    | none => pure none
  | _ => pure none

/-- The number of a parameter: `?N` is `N`, which must be in range; any other takes the
number after the largest given so far. -/
def parameterNumber (text : String) : Reader Nat := do
  let last := (← get).params
  let n ← match text.toList with
    | '?' :: digits =>
      if digits.isEmpty then pure (last + 1)
      else
        let n := digits.foldl (fun acc c => acc * 10 + (c.toNat - 48)) 0
        if n = 0 || n > 32766 then
          throw (.general "variable number must be between ?1 and ?32766")
        else pure n
    | _ => pure (last + 1)
  modify fun c => { c with params := max c.params n }
  pure n

/-- A minus sign applied to an expression: a literal number as written, without a sign,
takes the sign itself (unless the negated integer leaves the 64-bit range); a negative
literal, which already stands for a minus sign, stays under a second one. -/
def negate : Expr → Expr
  | .lit (.int i) =>
    if i ≥ 0 && fitsInt (-i) then .lit (.int (-i)) else .unary .neg (.lit (.int i))
  | .lit (.real f) =>
    if litHeight (.real f) = 1 then .lit (.real (-f)) else .unary .neg (.lit (.real f))
  | e => .unary .neg e

/-- The level of the infix or postfix operator a token starts, if any. -/
def operatorLevel (t : Token) : Option Nat :=
  match t.lexeme with
  | .symbol s =>
    if s == "=" || s == "==" || s == "!=" || s == "<>" then some 4
    else if s == "<" || s == "<=" || s == ">" || s == ">=" then some 5
    else if s == "&" || s == "|" || s == "<<" || s == ">>" then some 7
    else if s == "+" || s == "-" then some 8
    else if s == "*" || s == "/" || s == "%" then some 9
    else if s == "||" || s == "->" || s == "->>" then some 10
    else none
  | .word _ =>
    match t.keyword? with
    | some "OR" => some 1
    | some "AND" => some 2
    | some "IS" | some "LIKE" | some "GLOB" | some "REGEXP" | some "MATCH" | some "BETWEEN"
    | some "IN" | some "ISNULL" | some "NOTNULL" | some "NOT" => some 4
    | some "COLLATE" => some 11
    | _ => none
  | _ => none

/-- The binary operator of an operator symbol. -/
def symbolOperator (s : String) : BinaryOp :=
  match s with
  | "=" | "==" => .eq
  | "!=" | "<>" => .ne
  | "<" => .lt
  | "<=" => .le
  | ">" => .gt
  | ">=" => .ge
  | "&" => .bits .and
  | "|" => .bits .or
  | "<<" => .bits .shiftLeft
  | ">>" => .bits .shiftRight
  | "+" => .arith .add
  | "-" => .arith .sub
  | "*" => .arith .mul
  | "/" => .arith .div
  | "%" => .arith .rem
  | "->" => .extract
  | "->>" => .extractValue
  | _ => .concat

/-- The pattern operator a keyword names. -/
def patternOf? : Option String → Option PatternOp
  | some "LIKE" => some .like
  | some "GLOB" => some .glob
  | some "REGEXP" => some .regexp
  | some "MATCH" => some .matchOp
  | _ => none

/-- Whether a token starts a query (`SELECT`, `WITH` or `VALUES`). -/
def startsQuery (t : Token) : Bool :=
  t.keyword? == some "SELECT" || t.keyword? == some "WITH" || t.keyword? == some "VALUES"

/-- A type name: words (or strings) with an optional bracketed size or two; its text as
written, `""` when there is none. -/
def typeName : Reader String := do
  let start ← nextStart
  let rec words : Nat → Nat → Reader Nat
    | 0, n => pure n
    | fuel + 1, n => do
      match (← peek).name? aliasName with
      | some _ =>
        let _ ← advance
        words fuel (n + 1)
      | none => pure n
  let n ← words ((← get).rest.length) 0
  if n = 0 then return ""
  if ← acceptSymbol "(" then
    let signed : Reader Unit := do
      if !(← acceptSymbol "+") then
        let _ ← acceptSymbol "-"
      match (← peek).lexeme with
      | .number _ _ => let _ ← advance
      | _ => stuck
    signed
    if ← acceptSymbol "," then signed
    expectSymbol ")"
  slice start (← lastStop)

/-- The kind of a join from its words (`NATURAL`, `LEFT`, `OUTER`, …): the kind and
whether it is natural, or the words when they name no join. -/
def joinKindOf (ws : List String) : Except String (JoinKind × Bool) :=
  let ups := ws.map String.toUpper
  let natural := ups.contains "NATURAL"
  let left := ups.contains "LEFT"
  let right := ups.contains "RIGHT"
  let full := ups.contains "FULL"
  let outer := ups.contains "OUTER"
  let inner := ups.contains "INNER" || ups.contains "CROSS"
  let known := ups.all fun u => ["NATURAL", "LEFT", "RIGHT", "FULL", "OUTER", "INNER", "CROSS"].contains u
  if !known || (inner && (left || right || full || outer)) || (outer && !(left || right || full)) then
    .error (" ".intercalate ws)
  else if full || (left && right) then .ok (.full, natural)
  else if left then .ok (.left, natural)
  else if right then .ok (.right, natural)
  else if ups.contains "CROSS" then .ok (.cross, natural)
  else .ok (.inner, natural)

/-- The words of a join operator up to and including `JOIN` (at most three words). -/
def joinKeywords : Nat → List String → Reader (List String)
  | 0, acc => pure acc.reverse
  | n + 1, acc => do
    let u ← peek
    if u.keyword? == some "JOIN" then
      let _ ← advance
      pure acc.reverse
    else if acc.length ≥ 3 then stuck
    else
      match u.name? anyName with
      | some w =>
        let _ ← advance
        joinKeywords n (w :: acc)
      | none => stuck

/-- The most arguments a function call may have. -/
def maxCallArgs : Nat := 127

/-- The most parts a compound query may join by set operators. -/
def maxCompoundTerms : Nat := 500

/-- How deep named windows are looked for in an expression. -/
def maxResolveDepth : Nat := 100000

/-- Fails the reading with the error of a check. -/
def liftExcept {α : Type} : Except SqlError α → Reader α
  | .ok a => pure a
  | .error e => throw e

/-- An alias after a source: `AS name`, or a name that does not start a `WINDOW`
clause. -/
def tableAlias : Reader (Option String) := do
  if ← acceptKeyword "AS" then some <$> name anyName
  else if ← isWindowClause then pure none
  else acceptName aliasName

/-- A window built on a named window: it takes the named window's partition terms, and
its ordering terms when it has none of its own. It may not add partition terms, replace
ordering terms, or build on a window with a frame. -/
def chainWindow (defs : List (String × Window)) : Window → Except SqlError Window
  | .mk (some b) partition order frame =>
    match defs.find? (fun d => d.1.toLower == b.toLower) with
    | some (_, .mk _ bp bo bf) =>
      let clash := if !partition.isEmpty then some "PARTITION clause"
        else if !bo.isEmpty && !order.isEmpty then some "ORDER BY clause"
        else if bf.isSome then some "frame specification"
        else none
      match clash with
      | some what => .error (.general ("cannot override " ++ what ++ " of window: " ++ b))
      | none => .ok (.mk none bp (if order.isEmpty then bo else order) frame)
    | some (_, .named _) | none => .error (.general ("no such window: " ++ b))
  | w => .ok w

/-- A window with the window of the `WINDOW` clause it names filled in. -/
def resolveWindow (defs : List (String × Window)) : Window → Except SqlError Window
  | .named n =>
    match defs.find? (fun d => d.1.toLower == n.toLower) with
    | some (_, w) => .ok w
    | none => .error (.general ("no such window: " ++ n))
  | w => chainWindow defs w

/-- The windows of an expression's window calls with the windows of the `WINDOW` clause
they name filled in. -/
def resolveWindows (defs : List (String × Window)) (e : Expr) : Except SqlError Expr := do
  for c in e.windowCalls maxResolveDepth do
    match c with
    | .window _ w => let _ ← resolveWindow defs w
    | _ => pure ()
  pure (e.mapWindows (fun w => ((resolveWindow defs w).toOption).getD w) maxResolveDepth)

/-- Calls whose value is not fixed by their arguments: aggregates and the functions that
answer differently from call to call. -/
def unsettledCalls : List String :=
  ["random", "randomblob", "changes", "total_changes", "last_insert_rowid", "count", "sum",
    "total", "avg", "min", "max", "group_concat", "string_agg", "json_group_array",
    "json_group_object", "jsonb_group_array", "jsonb_group_object"]

/-- Whether an expression is constant as it is read, before any name is looked up: no
column, subquery, window or `RAISE`, and no call that `unsettledCalls` names (a
`min` or `max` of several arguments is constant). The words `TRUE` and `FALSE` are
constants. -/
def Expr.readConstant : Nat → Expr → Bool
  | 0, _ => false
  | n + 1, e =>
    match e with
    | .column none none name => name.toLower == "true" || name.toLower == "false"
    | .column _ _ _ | .quoted _ | .subquery _ | .hasRows _ | .inQuery _ _ _ | .window _ _
    | .raise _ _ => false
    | .call name _ args star filter order =>
      !star && filter.isNone && order.isEmpty &&
        (!unsettledCalls.contains name.toLower ||
          (["min", "max"].contains name.toLower && args.length > 1)) &&
        args.attach.all fun ⟨a, _⟩ => Expr.readConstant n a
    | _ => e.children.attach.all fun ⟨a, _⟩ => Expr.readConstant n a

/-- How deep `Expr.readConstant` looks while reading. -/
def readConstantDepth : Nat := 1000

/-- `lhs IN (items)` as it is kept: an empty list is the constant answer, without `lhs`
(which is never looked at); a list of one constant is the equality `lhs == +item`, so
that the item's own collation counts (under `NOT` its negation); a list of one subquery
is a search of that subquery. With a row on the left the list is the rows of a `VALUES`
query, each of which must have as many terms as that row. -/
def inListOf (lhs : Expr) (items : List Expr) (negated : Bool) : Except SqlError Expr :=
  let notIf (e : Expr) : Expr := if negated then .unary .not e else e
  match lhs, items with
  | _, [] => .ok (.lit (.int (if negated then 1 else 0)))
  | .row xs, _ => do
    let rows ← items.mapM fun item =>
      let terms := match item with
        | .row ys => ys
        | y => [y]
      if terms.length == xs.length then .ok terms
      else .error (.general ("IN(...) element has " ++ toString terms.length ++ " term" ++
        (if terms.length > 1 then "s" else "") ++ " - expected " ++ toString xs.length))
    pure (.inQuery lhs (Query.ofCore (.values rows)) negated)
  | _, [item] =>
    if Expr.readConstant readConstantDepth item then .ok (notIf (.binary .eq lhs (.unary .plus item)))
    else
      match item with
      | .subquery q => .ok (.inQuery lhs q negated)
      | _ => .ok (.inList lhs items negated)
  | _, _ => .ok (.inList lhs items negated)

/-- An expression node as it is built, refused when it is deeper than the database
accepts (see `Expr.height`). -/
def bounded (e : Expr) : Reader Expr :=
  if e.shallow then pure e else throw depthError

/-- `a AND b` as it is kept: when either side is the integer literal `0` the whole is
that `0`, and the other side is never looked at, so a name in it that does not exist is
no error. -/
def andOf (a b : Expr) : Expr :=
  match a, b with
  | .lit (.int 0), _ | _, .lit (.int 0) => .lit (.int 0)
  | _, _ => .binary .and a b

mutual

/-- An expression whose operators bind at least at `level`. -/
def expr : Nat → Nat → Reader Expr
  | 0, _ => stuck
  | fuel + 1, level => do
    let lhs ← unary fuel
    climb fuel level lhs

/-- Extends `lhs` with infix and postfix operators binding at least at `level`. -/
def climb : Nat → Nat → Expr → Reader Expr
  | 0, _, lhs => pure lhs
  | fuel + 1, level, lhs => do
    let t ← peek
    match operatorLevel t with
    | none => pure lhs
    | some l =>
      if l < level then pure lhs
      else
        let e ← bounded (← operatorAfter fuel l lhs)
        climb fuel level e

/-- Reads the infix or postfix operator at the next token, of level `l`, applied to
`lhs`. -/
def operatorAfter : Nat → Nat → Expr → Reader Expr
  | 0, _, _ => stuck
  | fuel + 1, l, lhs => do
    let t ← peek
    match t.lexeme with
    | .symbol s =>
      let _ ← advance
      let rhs ← expr fuel (l + 1)
      pure (.binary (symbolOperator s) lhs rhs)
    | _ =>
      match t.keyword? with
      | some "OR" =>
        let _ ← advance
        pure (.binary .or lhs (← expr fuel (l + 1)))
      | some "AND" =>
        let _ ← advance
        pure (andOf lhs (← expr fuel (l + 1)))
      | some "COLLATE" =>
        let _ ← advance
        pure (.collate lhs (← name aliasName))
      | some "ISNULL" =>
        let _ ← advance
        pure (.nullTest lhs true)
      | some "NOTNULL" =>
        let _ ← advance
        pure (.nullTest lhs false)
      | some "IS" =>
        let _ ← advance
        let negated ← acceptKeyword "NOT"
        let distinct ← acceptKeyword "DISTINCT"
        if distinct then expectKeyword "FROM"
        let rhs ← expr fuel 5
        pure (.binary (if negated != distinct then .isNot else .is) lhs rhs)
      | some "NOT" =>
        let _ ← advance
        let t2 ← peek
        if t2.keyword? == some "NULL" then
          let _ ← advance
          pure (.nullTest lhs false)
        else if t2.keyword? == some "BETWEEN" || t2.keyword? == some "IN" ||
            (patternOf? t2.keyword?).isSome then
          negatable fuel lhs true
        else stuck
      | _ => negatable fuel lhs false

/-- `BETWEEN`, `IN` or a pattern operator after `lhs`, `negated` when a `NOT` came
first. -/
def negatable : Nat → Expr → Bool → Reader Expr
  | 0, _, _ => stuck
  | fuel + 1, lhs, negated => do
    let t ← advance
    match t.keyword? with
    | some "BETWEEN" =>
      let lo ← expr fuel 5
      expectKeyword "AND"
      let hi ← expr fuel 5
      pure (.between lhs lo hi negated)
    | some "IN" =>
      if ← acceptSymbol "(" then
        if startsQuery (← peek) then
          let q ← query fuel
          expectSymbol ")"
          pure (.inQuery lhs q negated)
        else if ← acceptSymbol ")" then liftExcept (inListOf lhs [] negated)
        else
          let items ← exprList fuel
          expectSymbol ")"
          liftExcept (inListOf lhs items negated)
      else
        let first ← name anyName
        let (schema, table) ← if ← acceptSymbol "." then
            pure (some first, ← name anyName)
          else pure (none, first)
        let q := Query.ofCore (.select false [.all] (some (.table schema table none)) none [] none)
        pure (.inQuery lhs q negated)
    | k =>
      match patternOf? k with
      | some op =>
        let pat ← expr fuel 5
        let escape ← if ← acceptKeyword "ESCAPE" then some <$> expr fuel 7 else pure none
        pure (.pattern op lhs pat escape negated)
      | none => stuck

/-- An operand: a prefix operator applied to an operand, or a primary term. -/
def unary : Nat → Reader Expr
  | 0 => stuck
  | fuel + 1 => do
    let t ← peek
    match t.lexeme with
    | .symbol "-" =>
      let _ ← advance
      match ← minusNumber (← peek) with
      | some e =>
        let _ ← advance
        pure e
      | none => bounded (negate (← unary fuel))
    | .symbol "+" =>
      let _ ← advance
      bounded (.unary .plus (← unary fuel))
    | .symbol "~" =>
      let _ ← advance
      bounded (.unary .bitNot (← unary fuel))
    | _ =>
      if t.keyword? == some "NOT" then
        let _ ← advance
        bounded (.unary .not (← expr fuel 3))
      else primary fuel

/-- A primary term: a literal, a parameter, a name, a call, a bracketed expression or
query, `CAST`, `CASE`, `EXISTS` or `RAISE`. -/
def primary : Nat → Reader Expr
  | 0 => stuck
  | fuel + 1 => do
    let t ← peek
    match t.lexeme with
    | .number text float =>
      let _ ← advance
      pure (.lit (← numberValue t text float))
    | .string s =>
      if (← second).lexeme == .symbol "." then reference fuel
      else
        let _ ← advance
        pure (.lit (.text s))
    | .blob b =>
      let _ ← advance
      pure (.lit (.blob (Blob.ofList b)))
    | .parameter p =>
      let _ ← advance
      match p.toList with
      | '#' :: d :: _ =>
        if d.isDigit then
          let _ ← peek
          throw (.near p)
        else pure (.param (← parameterNumber p))
      | _ => pure (.param (← parameterNumber p))
    | .symbol "(" =>
      let _ ← advance
      if startsQuery (← peek) then
        let q ← query fuel
        expectSymbol ")"
        bounded (.subquery q)
      else
        let items ← exprList fuel
        expectSymbol ")"
        match items with
        | [e] => pure e
        | es => pure (.row es)
    | .quotedName _ _ => reference fuel
    | .word w =>
      match t.keyword? with
      | some "NULL" =>
        let _ ← advance
        pure (.lit .null)
      | some "CURRENT_TIME" | some "CURRENT_DATE" | some "CURRENT_TIMESTAMP" =>
        let _ ← advance
        pure (.call w.toLower false [] false none [])
      | some "CAST" =>
        let _ ← advance
        expectSymbol "("
        let e ← expr fuel 0
        expectKeyword "AS"
        let ty ← typeName
        expectSymbol ")"
        pure (.cast e ty)
      | some "CASE" =>
        let _ ← advance
        let operand ← if ← isKeyword "WHEN" then pure none else some <$> expr fuel 0
        let arms ← caseArms fuel
        let otherwise ← if ← acceptKeyword "ELSE" then some <$> expr fuel 0 else pure none
        expectKeyword "END"
        bounded (.case operand arms otherwise)
      | some "EXISTS" =>
        let _ ← advance
        expectSymbol "("
        let q ← query fuel
        expectSymbol ")"
        bounded (.hasRows q)
      | some "RAISE" =>
        let _ ← advance
        expectSymbol "("
        if ← acceptKeyword "IGNORE" then
          expectSymbol ")"
          pure (.raise .ignore none)
        else
          let action ← match (← peek).keyword? with
            | some "ROLLBACK" => pure RaiseAction.rollback
            | some "ABORT" => pure .abort
            | some "FAIL" => pure .fail
            | _ => stuck
          let _ ← advance
          expectSymbol ","
          let message ← expr fuel 0
          expectSymbol ")"
          pure (.raise action (some message))
      | _ =>
        match t.name? ⟨true, false⟩ with
        | some _ => reference fuel
        | none => stuck
    | _ => stuck

/-- A name in an expression: a column (`c`, `t.c`, `s.t.c`) or a function call. -/
def reference : Nat → Reader Expr
  | 0 => stuck
  | fuel + 1 => do
    let t ← advance
    let first := (t.name? anyName).getD ""
    if ← isSymbol "(" then
      match t.lexeme with
      | .string _ => stuck
      | _ => call fuel first
    else if ← acceptSymbol "." then
      let second ← name anyName
      if ← acceptSymbol "." then
        let third ← name anyName
        pure (.column (some first) (some second) third)
      else pure (.column none (some first) second)
    else
      match t.lexeme with
      | .quotedName n true => pure (.quoted n)
      | _ => pure (.column none none first)

/-- The rest of a function call after its name: arguments in brackets, possibly none
after `DISTINCT` or `ALL`, and `ORDER BY` terms after them (dropped when there is no
argument to order); then an optional `FILTER (WHERE …)` and an optional window. -/
def call : Nat → String → Reader Expr
  | 0, _ => stuck
  | fuel + 1, fname => do
    expectSymbol "("
    let (distinct, star, args) ←
      if ← acceptSymbol "*" then pure (false, true, [])
      else
        let distinct ← acceptKeyword "DISTINCT"
        if !distinct then
          let _ ← acceptKeyword "ALL"
        if (← isSymbol ")") || (← isKeyword "ORDER") then pure (distinct, false, [])
        else pure (distinct, false, ← exprList fuel)
    let ordered ← if star then pure false else acceptKeyword "ORDER"
    let order ← if ordered then do
        expectKeyword "BY"
        orderTerms fuel
      else pure []
    let order := if args.isEmpty then [] else order
    expectSymbol ")"
    let t ← peek
    let isFilter := match t.lexeme with
      | .word w => w.toUpper == "FILTER"
      | _ => false
    let filter ← if isFilter && (← second).lexeme == .symbol "(" then do
        let _ ← advance
        expectSymbol "("
        expectKeyword "WHERE"
        let c ← expr fuel 0
        expectSymbol ")"
        pure (some c)
      else pure none
    let isWindow := match (← peek).lexeme with
      | .word w => w.toUpper == "OVER"
      | _ => false
    if args.length > maxCallArgs then
      throw (.general ("too many arguments on function " ++ fname))
    if isWindow then
      let _ ← advance
      let w ← overClause fuel
      if !order.isEmpty then
        throw (.general ("ORDER BY may not be used with non-aggregate " ++ fname ++ "()"))
      if distinct then throw (.general "DISTINCT is not supported for window functions")
      pure (.window (← bounded (.call fname distinct args star filter [])) w)
    else bounded (.call fname distinct args star filter order)

/-- The window after `OVER`: the name of a window of the `WINDOW` clause, or a window in
brackets. -/
def overClause : Nat → Reader Window
  | 0 => stuck
  | fuel + 1 => do
    if ← acceptSymbol "(" then
      let w ← windowBody fuel
      expectSymbol ")"
      pure w
    else pure (.named (← name anyName))

/-- What stands between the brackets of a window: the name of a window it builds on,
`PARTITION BY` terms, `ORDER BY` terms and a frame, each optional. -/
def windowBody : Nat → Reader Window
  | 0 => stuck
  | fuel + 1 => do
    let clause ← [ "PARTITION", "ORDER", "RANGE", "ROWS", "GROUPS"].anyM isKeyword
    let base ← if clause || (← isSymbol ")") then pure none else some <$> name anyName
    let partition ← if ← acceptKeyword "PARTITION" then do
        expectKeyword "BY"
        exprList fuel
      else pure []
    let order ← if ← acceptKeyword "ORDER" then do
        expectKeyword "BY"
        orderTerms fuel
      else pure []
    pure (.mk base partition order (← frameSpec fuel))

/-- A frame: `RANGE`, `ROWS` or `GROUPS`, one end (the other being the current row) or
`BETWEEN` two ends, and an optional `EXCLUDE`. A frame may not start after the current
row and end at or before it, nor start at the current row and end before it. -/
def frameSpec : Nat → Reader (Option (FrameUnit × FrameBound × FrameBound × FrameExclude))
  | 0 => stuck
  | fuel + 1 => do
    let unit ← if ← acceptKeyword "RANGE" then pure (some FrameUnit.range)
      else if ← acceptKeyword "ROWS" then pure (some FrameUnit.rows)
      else if ← acceptKeyword "GROUPS" then pure (some FrameUnit.groups)
      else pure none
    match unit with
    | none => pure none
    | some u =>
      let (start, finish) ← if ← acceptKeyword "BETWEEN" then do
          let s ← frameBound fuel true
          expectKeyword "AND"
          pure (s, ← frameBound fuel false)
        else pure (← frameBound fuel true, FrameBound.currentRow)
      let exclude ← if ← acceptKeyword "EXCLUDE" then do
          if ← acceptKeyword "NO" then
            expectKeyword "OTHERS"
            pure FrameExclude.noOthers
          else if ← acceptKeyword "CURRENT" then
            expectKeyword "ROW"
            pure FrameExclude.currentRow
          else if ← acceptKeyword "GROUP" then pure FrameExclude.group
          else
            expectKeyword "TIES"
            pure FrameExclude.ties
        else pure FrameExclude.noOthers
      let unsupported := match start, finish with
        | .currentRow, .preceding _ => true
        | .following _, .preceding _ | .following _, .currentRow => true
        | _, _ => false
      if unsupported then throw (.general "unsupported frame specification")
      pure (some (u, start, finish, exclude))

/-- One end of a frame: `UNBOUNDED PRECEDING` (a start only), `UNBOUNDED FOLLOWING` (an
end only), `CURRENT ROW`, or an offset `PRECEDING` or `FOLLOWING`. -/
def frameBound : Nat → Bool → Reader FrameBound
  | 0, _ => stuck
  | fuel + 1, isStart => do
    if ← acceptKeyword "UNBOUNDED" then
      if isStart then
        expectKeyword "PRECEDING"
        pure .unboundedPreceding
      else
        expectKeyword "FOLLOWING"
        pure .unboundedFollowing
    else if ← acceptKeyword "CURRENT" then
      expectKeyword "ROW"
      pure .currentRow
    else
      let e ← expr fuel 0
      if ← acceptKeyword "PRECEDING" then pure (.preceding e)
      else
        expectKeyword "FOLLOWING"
        pure (.following e)

/-- The windows of a `WINDOW` clause, each `name AS (window)`, comma-separated; a window
may build on one defined before it. -/
def windowDefinitions : Nat → List (String × Window) → Reader (List (String × Window))
  | 0, _ => stuck
  | fuel + 1, defs => do
    let n ← name anyName
    expectKeyword "AS"
    expectSymbol "("
    let w ← windowBody fuel
    expectSymbol ")"
    let w ← liftExcept (chainWindow defs w)
    let defs := defs ++ [(n, w)]
    if ← acceptSymbol "," then windowDefinitions fuel defs else pure defs

/-- `WHEN … THEN …` arms of a `CASE`, at least one. -/
def caseArms : Nat → Reader (List (Expr × Expr))
  | 0 => stuck
  | fuel + 1 => do
    expectKeyword "WHEN"
    let c ← expr fuel 0
    expectKeyword "THEN"
    let v ← expr fuel 0
    if ← isKeyword "WHEN" then pure ((c, v) :: (← caseArms fuel)) else pure [(c, v)]

/-- Comma-separated expressions, at least one. -/
def exprList : Nat → Reader (List Expr)
  | 0 => stuck
  | fuel + 1 => do
    let e ← expr fuel 0
    if ← acceptSymbol "," then pure (e :: (← exprList fuel)) else pure [e]

/-- Ordering terms: `expr [ASC|DESC] [NULLS FIRST|LAST]`, comma-separated. -/
def orderTerms : Nat → Reader (List OrderTerm)
  | 0 => stuck
  | fuel + 1 => do
    let e ← expr fuel 0
    let desc ← if ← acceptKeyword "DESC" then pure true else do
      let _ ← acceptKeyword "ASC"
      pure false
    let nulls ← if ← acceptKeyword "NULLS" then
        if ← acceptKeyword "FIRST" then pure (some true)
        else do expectKeyword "LAST"; pure (some false)
      else pure none
    let term : OrderTerm := (e, desc, nulls)
    if ← acceptSymbol "," then pure (term :: (← orderTerms fuel)) else pure [term]

/-- A query: common table expressions, cores joined by set operators, then `ORDER BY`
and `LIMIT`. -/
def query : Nat → Reader Query
  | 0 => stuck
  | fuel + 1 => do
    let (ctes, recursive) ←
      if ← acceptKeyword "WITH" then
        let recursive ← acceptKeyword "RECURSIVE"
        pure (← cteList fuel, recursive)
      else pure ([], false)
    let (body, order, limit, offset) ← compound fuel
    pure (.mk ctes recursive body order limit offset)

/-- Common table expressions, comma-separated. -/
def cteList : Nat → Reader (List Cte)
  | 0 => stuck
  | fuel + 1 => do
    let n ← name anyName
    let columns ← if ← isSymbol "(" then nameList anyName else pure []
    expectKeyword "AS"
    if ← acceptKeyword "NOT" then expectKeyword "MATERIALIZED"
    else let _ ← acceptKeyword "MATERIALIZED"
    expectSymbol "("
    let q ← query fuel
    expectSymbol ")"
    let c := Cte.mk n columns q
    if ← acceptSymbol "," then pure (c :: (← cteList fuel)) else pure [c]

/-- Cores joined by set operators, with the last one's `ORDER BY` and `LIMIT`. -/
def compound : Nat → Reader (Compound × List OrderTerm × Option Expr × Option Expr)
  | 0 => stuck
  | fuel + 1 => do
    let (first, order, limit, offset) ← core fuel
    moreCores fuel (.single first) [] order limit offset

/-- Further cores after `acc`; `ops` holds, newest first, each set operator read with the
clause (`ORDER BY` or `LIMIT`) the core before it wrongly carried, if any. At the end the
parts are counted back from the last to the latest one carrying such a clause (or to the
first), and more than `maxCompoundTerms` of them is an error reported before the clause. -/
def moreCores : Nat → Compound → List (SetOp × Option String) → List OrderTerm →
    Option Expr → Option Expr → Reader (Compound × List OrderTerm × Option Expr × Option Expr)
  | 0, acc, _, order, limit, offset => pure (acc, order, limit, offset)
  | fuel + 1, acc, ops, order, limit, offset => do
    let op? ← if ← acceptKeyword "UNION" then
        if ← acceptKeyword "ALL" then pure (some SetOp.unionAll) else pure (some SetOp.union)
      else if ← acceptKeyword "INTERSECT" then pure (some SetOp.intersect)
      else if ← acceptKeyword "EXCEPT" then pure (some SetOp.except)
      else pure none
    match op? with
    | none =>
      let misplaced := ops.findIdx? (·.2.isSome)
      let terms := match misplaced with
        | some i => i + 2
        | none => ops.length + 1
      if terms > maxCompoundTerms then throw (.general "too many terms in compound SELECT")
      match misplaced.bind (ops[·]?) with
      | some (op, clause) =>
        throw (.general (clause.getD "" ++ " clause should come after " ++ op.keyword ++
          " not before"))
      | none => pure (acc, order, limit, offset)
    | some op =>
      let clause := if !order.isEmpty then some "ORDER BY"
        else if limit.isSome then some "LIMIT" else none
      let (next, order', limit', offset') ← core fuel
      moreCores fuel (.combine op acc next) ((op, clause) :: ops) order' limit' offset'

/-- One core: `VALUES` rows, or a `SELECT` with its clauses, `ORDER BY` and `LIMIT`. -/
def core : Nat → Reader (Core × List OrderTerm × Option Expr × Option Expr)
  | 0 => stuck
  | fuel + 1 => do
    if ← acceptKeyword "VALUES" then
      let rows ← valueRows fuel none
      pure (.values rows, [], none, none)
    else
      expectKeyword "SELECT"
      let distinct ← if ← acceptKeyword "DISTINCT" then pure true else do
        let _ ← acceptKeyword "ALL"
        pure false
      let items ← itemList fuel
      let source ← if ← acceptKeyword "FROM" then some <$> fromClause fuel else pure none
      let filter ← if ← acceptKeyword "WHERE" then some <$> expr fuel 0 else pure none
      let groupBy ← if ← acceptKeyword "GROUP" then do
          expectKeyword "BY"
          exprList fuel
        else pure []
      let having ← if ← acceptKeyword "HAVING" then some <$> expr fuel 0 else pure none
      let defs ← if ← isWindowClause then do
          let _ ← advance
          windowDefinitions fuel []
        else pure []
      let order ← if ← acceptKeyword "ORDER" then do
          expectKeyword "BY"
          orderTerms fuel
        else pure []
      let items ← if defs.isEmpty then pure items else items.mapM fun
        | .expr e aliasName text => do pure (.expr (← liftExcept (resolveWindows defs e)) aliasName text)
        | item => pure item
      let order ← if defs.isEmpty then pure order else order.mapM fun (e, desc, nulls) => do
        pure (← liftExcept (resolveWindows defs e), desc, nulls)
      let (limit, offset) ← if ← acceptKeyword "LIMIT" then do
          let a ← expr fuel 0
          if ← acceptKeyword "OFFSET" then pure (some a, some (← expr fuel 0))
          else if ← acceptSymbol "," then pure (some (← expr fuel 0), some a)
          else pure (some a, none)
        else pure (none, none)
      pure (.select distinct items source filter groupBy having, order, limit, offset)

/-- `(…), (…)` rows of `VALUES`; every row has as many terms as the first. -/
def valueRows : Nat → Option Nat → Reader (List (List Expr))
  | 0, _ => stuck
  | fuel + 1, width => do
    expectSymbol "("
    let row ← exprList fuel
    expectSymbol ")"
    if width.any (· != row.length) then
      throw (.general "all VALUES must have the same number of terms")
    if ← acceptSymbol "," then pure (row :: (← valueRows fuel (some row.length)))
    else pure [row]

/-- Result columns, comma-separated. -/
def itemList : Nat → Reader (List Item)
  | 0 => stuck
  | fuel + 1 => do
    let i ← item fuel
    if ← acceptSymbol "," then pure (i :: (← itemList fuel)) else pure [i]

/-- A result column: `*`, `table.*`, or an expression with an optional alias. -/
def item : Nat → Reader Item
  | 0 => stuck
  | fuel + 1 => do
    if ← acceptSymbol "*" then return .all
    let t ← peek
    if (t.name? anyName).isSome && (← second).lexeme == .symbol "." &&
        (← third).lexeme == .symbol "*" then
      let _ ← advance
      let _ ← advance
      let _ ← advance
      return .allOf ((t.name? anyName).getD "")
    let start ← nextStart
    let e ← expr fuel 0
    let text ← slice start (← lastStop)
    let aliasName ← if ← acceptKeyword "AS" then some <$> name anyName else acceptName aliasName
    pure (.expr e aliasName text)

/-- A `FROM` clause: sources joined left to right. -/
def fromClause : Nat → Reader Source
  | 0 => stuck
  | fuel + 1 => do
    let first ← unit fuel
    if (← isKeyword "ON") || (← isKeyword "USING") then
      let which := if ← isKeyword "ON" then "ON" else "USING"
      let _ ← joinConstraint fuel
      throw (.general ("a JOIN clause is required before " ++ which))
    joins fuel first

/-- Joins that follow `left`. -/
def joins : Nat → Source → Reader Source
  | 0, left => pure left
  | fuel + 1, left => do
    let t ← peek
    let kind? ← if t.lexeme == .symbol "," then do
        let _ ← advance
        pure (some (JoinKind.inner, false))
      else if t.keyword? == some "JOIN" then do
        let _ ← advance
        pure (some (JoinKind.inner, false))
      else if (t.keyword?.map joinWords.contains).getD false then do
        let ws ← joinKeywords 4 []
        match joinKindOf ws with
        | .ok k => pure (some k)
        | .error text => throw (.general ("unknown join type: " ++ text))
      else pure none
    match kind? with
    | none => pure left
    | some (kind, natural) =>
      let right ← unit fuel
      let (on, usingColumns) ← joinConstraint fuel
      joins fuel (.join kind natural left right on usingColumns)

/-- `ON expr`, `USING (columns)` or nothing. -/
def joinConstraint : Nat → Reader (Option Expr × List String)
  | 0 => stuck
  | fuel + 1 => do
    if ← acceptKeyword "ON" then pure (some (← expr fuel 0), [])
    else if ← acceptKeyword "USING" then pure (none, ← nameList anyName)
    else pure (none, [])

/-- One source: a table or view with its alias, a bracketed query, or bracketed joins. -/
def unit : Nat → Reader Source
  | 0 => stuck
  | fuel + 1 => do
    if ← acceptSymbol "(" then
      if startsQuery (← peek) then
        let q ← query fuel
        expectSymbol ")"
        pure (.query q (← tableAlias))
      else
        let s ← fromClause fuel
        expectSymbol ")"
        let _ ← tableAlias
        pure s
    else
      let first ← name anyName
      let (schema, table) ← if ← acceptSymbol "." then
          pure (some first, ← name anyName)
        else pure (none, first)
      if ← acceptSymbol "(" then
        let args ← if ← isSymbol ")" then pure [] else exprList fuel
        expectSymbol ")"
        return .call table args (← tableAlias)
      let aliasName ← tableAlias
      if ← acceptKeyword "INDEXED" then
        expectKeyword "BY"
        let _ ← name anyName
      else if (← isKeyword "NOT") && (← second).keyword? == some "INDEXED" then
        let _ ← advance
        let _ ← advance
      pure (.table schema table aliasName)

end

end Reader

end Relational

end CrateState
