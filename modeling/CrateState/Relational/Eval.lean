import CrateState.Relational.Window
import CrateState.Relational.Pragma
import CrateState.Relational.FullText.Rows
import CrateState.Relational.Plan.Join

/-!
# Evaluating expressions and queries

`eval` computes an expression in an environment and `runQuery` a query, each calling the
other through subqueries. Every function takes a budget and spends one unit per call, so
evaluation is total: nesting or recursion beyond the budget stops with an error.

## A simple query

`SELECT` reads its sources (`sourceRows`: tables, views, common table expressions,
subqueries, joins), keeps the rows `WHERE` holds for, and computes its result columns row
by row, or, with `GROUP BY` or an aggregate among them, once per group (groups in key
order; without `GROUP BY` all rows make one). A column named outside an aggregate takes
its value from the group's last row, or from the row where the last `min()` or `max()`
found its value. `DISTINCT` keeps the first of equal rows.

## A full query

Simple queries combine left to right: `UNION ALL` concatenates; `UNION`, `INTERSECT` and
`EXCEPT` give distinct rows in ascending order. `ORDER BY` sorts stably; a term that is a
result column's alias or a number stands for that column, any other is computed in the
row's scope. `LIMIT` and `OFFSET` must be integers (or texts spelling them), else the
query fails with `datatype mismatch`.

A recursive common table expression runs as the database runs it: each row taken from a
queue joins the result and is given to the recursive part, whose rows join the queue (for
`UNION`, only rows not seen before).
-/

namespace CrateState

namespace Relational

/-- The error when the evaluation budget runs out. -/
def outOfFuel {α : Type} : Eval α := failWith "query too complex"

/-- Lifts a database error into evaluation. -/
def liftError {α : Type} : Except SqlError α → Eval α
  | .ok a => pure a
  | .error e => fail e

/-- The ordinal of a term number in messages: `1st`, `2nd`, … -/
def ordinal (n : Nat) : String := toString n ++ String.ofList (Printf.ordinalSuffix n)

/-! ## Walking expressions and queries -/

mutual

/-- The aggregate calls of an expression outside subqueries and outside other aggregate
calls' arguments, left to right. -/
def Expr.aggregateCalls : Nat → Expr → List Expr
  | 0, _ => []
  | n + 1, e =>
    match e with
    | .call name _ args star _ _ =>
      if (Aggregate.ofCall name args.length star).isSome then [e] else Expr.aggregateCallsOf n args
    | .unary _ a | .collate a _ | .cast a _ | .nullTest a _ | .inQuery a _ _ => a.aggregateCalls n
    | .binary _ a b => a.aggregateCalls n ++ b.aggregateCalls n
    | .between a b c _ => a.aggregateCalls n ++ b.aggregateCalls n ++ c.aggregateCalls n
    | .inList a items _ => a.aggregateCalls n ++ Expr.aggregateCallsOf n items
    | .pattern _ a b c _ => Expr.aggregateCallsOf n ([a, b] ++ c.toList)
    | .case o arms d =>
      Expr.aggregateCallsOf n (o.toList ++ arms.flatMap (fun (x, y) => [x, y]) ++ d.toList)
    | .raise _ m => Expr.aggregateCallsOf n m.toList
    | .row items => Expr.aggregateCallsOf n items
    | .window f w => Expr.aggregateCallsOf n (f.children ++ w.terms)
    | _ => []

/-- The aggregate calls of a list of expressions. -/
def Expr.aggregateCallsOf : Nat → List Expr → List Expr
  | 0, _ => []
  | _, [] => []
  | n + 1, e :: rest => e.aggregateCalls n ++ Expr.aggregateCallsOf n rest

end

/-- Whether an expression calls an aggregate outside subqueries. -/
def Expr.hasAggregate (e : Expr) : Bool := !(e.aggregateCalls walkDepth).isEmpty

mutual

/-- Whether a query reads a source of the given name (not through subqueries of its
expressions). -/
def Query.mentions (name : String) : Nat → Query → Bool
  | 0, _ => false
  | n + 1, .mk _ _ body _ _ _ => Compound.mentions name n body

/-- Whether a compound query reads a source of the given name. -/
def Compound.mentions (name : String) : Nat → Compound → Bool
  | 0, _ => false
  | n + 1, .single c => Core.mentions name n c
  | n + 1, .combine _ l r => Compound.mentions name n l || Core.mentions name n r

/-- Whether a simple query reads a source of the given name. -/
def Core.mentions (name : String) : Nat → Core → Bool
  | 0, _ => false
  | n + 1, .select _ _ (some s) _ _ _ => Source.mentions name n s
  | _, _ => false

/-- Whether a source reads a source of the given name. -/
def Source.mentions (name : String) : Nat → Source → Bool
  | 0, _ => false
  | _ + 1, .table none t _ => sameName t name
  | _ + 1, .table (some _) _ _ => false
  | n + 1, .query q _ => Query.mentions name n q
  | _ + 1, .call _ _ _ => false
  | n + 1, .join _ _ l r _ _ => Source.mentions name n l || Source.mentions name n r

end

/-- The truth of a value where a condition needs one: `NULL` is not true. -/
def SqlValue.holds (v : SqlValue) : Bool := v.truth == some true

/-- Three-valued `AND` of two truth values. -/
def andValues (x y : SqlValue) : SqlValue :=
  match x.truth, y.truth with
  | some false, _ | _, some false => .int 0
  | some true, some true => .int 1
  | _, _ => .null

/-- Three-valued `NOT`. -/
def notValue (x : SqlValue) : SqlValue := truthValue (x.truth.map (!·))

/-- A `LIMIT` or `OFFSET` value: an integer, or a text or double that is one. -/
def countValue (v : SqlValue) : Eval Int :=
  match v.asNumber true with
  | .int i => pure i
  | _ => fail .mismatch

/-- Rows after an offset and up to a limit (a negative limit is none). -/
def applyLimit {α : Type} (rows : List α) (limit offset : Option Int) : List α :=
  let rows := match offset with
    | some o => if o > 0 then rows.drop o.toNat else rows
    | none => rows
  match limit with
  | some l => if l ≥ 0 then rows.take l.toNat else rows
  | none => rows

/-- The common table expressions of a `WITH` clause put in scope, each seeing those
before it. -/
def Env.withCtes (env : Env) (ctes : List Cte) : Eval Env := do
  let names := ctes.map fun | .mk name _ _ => name
  match names.find? (fun n => (names.filter (sameName · n)).length > 1) with
  | some dup => failWith ("duplicated WITH table name: " ++ dup)
  | none =>
    pure { env with
      ctes := (ctes.map fun | .mk name cols q => ⟨name, cols, .query q⟩).reverse ++ env.ctes }

/-- Names columns by a list written after a name, which must have as many names as there
are columns. -/
def renameColumns (what : String) (names : List String) (cols : List ColumnInfo) :
    Eval (List ColumnInfo) :=
  if names.isEmpty then pure cols
  else if names.length ≠ cols.length then
    failWith ("table " ++ what ++ " has " ++ toString cols.length ++ " values for " ++
      toString names.length ++ " columns")
  else pure ((cols.zip names).map fun (c, n) => { c with name := n })

/-- Names the columns of a view's query by the view's column list, if it has one, which
must name as many columns as the query has. -/
def viewColumns (view : String) (names : List String) (cols : List ColumnInfo) :
    Eval (List ColumnInfo) :=
  if names.isEmpty then pure cols
  else if names.length ≠ cols.length then
    failWith ("expected " ++ toString names.length ++ " columns for '" ++ view ++ "' but got " ++
      toString cols.length)
  else pure ((cols.zip names).map fun (c, n) => { c with name := n })

/-- The bindings of rows of a named result. -/
def relationBindings (name : String) (r : Relation) : List Binding × List (List Binding) :=
  let cols := (r.columns.zip (uniqueNames (r.columns.map (·.name)))).map fun (c, n) =>
    { c with name := n }
  let b : Binding := { name, columns := cols, values := cols.map fun _ => .null }
  ([b], r.rows.map fun vals => [{ b with values := vals }])

/-- Whether an expression is a probability `likelihood` accepts: a number written with a
point or an exponent, between 0 and 1. -/
def Expr.isProbability : Expr → Bool
  | .lit (.real f) => 0 ≤ f && f ≤ 1
  | _ => false

/-- The error of a `likelihood` call, named as it was written, whose second argument is
not a probability. -/
def likelihoodMessage (name : String) : String :=
  "second argument to " ++ name ++ "() must be a constant between 0.0 and 1.0"

/-- Whether an expression merely names a column. -/
def Expr.namesColumn : Expr → Bool
  | .column _ _ _ | .quoted _ => true
  | _ => false

/-- Whether the database reads a simple query in place when it stands in `FROM`: no
`VALUES`, `DISTINCT`, grouping, aggregate or window. -/
def Core.readInPlace : Core → Bool
  | .select distinct items _ _ groupBy having =>
    !distinct && groupBy.isEmpty && having.isNone &&
      items.all fun
        | .expr e _ _ => !e.hasAggregate && (e.windowCalls walkDepth).isEmpty
        | _ => true
  | .values _ => false

/-- Whether the database reads a compound query in place: simple queries read in place,
joined by `UNION ALL` only. -/
def Compound.readInPlace : Compound → Bool
  | .single c => c.readInPlace
  | .combine op l r => op == .unionAll && l.readInPlace && r.readInPlace

/-- The first simple query of a compound query. -/
def Compound.firstCore : Compound → Core
  | .single c => c
  | .combine _ l _ => l.firstCore

/-- Which of the `width` result columns of a query in `FROM` pass the JSON marks of their
values on to the query around it. A query read in place (see `readInPlace`, and with no
common table expression, ordering or limit) passes the marks of the columns that merely
name a column, `*` included; any other query is computed into storage first, which keeps
no marks. -/
def Query.passesMarks (q : Query) (width : Nat) : List Bool :=
  match q with
  | .mk [] _ body [] none none =>
    if !body.readInPlace then []
    else
      match body.firstCore with
      | .select _ items _ _ _ _ =>
        let stars := items.filter fun
          | .expr _ _ _ => false
          | _ => true
        if stars.length > 1 then []
        else
          let starWidth := width - (items.length - stars.length)
          items.flatMap fun
            | .expr e _ _ => [e.namesColumn]
            | _ => List.replicate starWidth true
      | .values _ => []
  | _ => []

/-- The bindings of the rows of a stored table, as the table shows them. -/
def tableBindings (db : Database) (t : Table) (aliasName : Option String) :
    List Binding × List (List Binding) :=
  let name := aliasName.getD t.name
  let rows := if t.withoutRowid then (t.scanOrder db t.rows).map fun r => (r.rowid, r.values)
    else t.readRows db
  ([t.binding name (t.columns.map fun _ => .null) none],
    rows.map fun (rowid, vals) => [t.binding name vals (some rowid)])

/-! ## Full-text constraints -/

/-- The conjuncts of a condition: the sides of its `AND`s. -/
def Expr.conjuncts : Expr → List Expr
  | .binary .and a b => a.conjuncts ++ b.conjuncts
  | e => [e]

/-- Conditions joined by `AND`; `none` for no condition. -/
def conjoin : List Expr → Option Expr
  | [] => none
  | e :: rest => some (rest.foldl (.binary .and) e)

/-- The full-text binding a column reference of a level names, as its position among the
level's bindings and the column: `some k` for a column of the table, `none` for the
column named after the table, which stands for all of them. -/
def fullTextColumn (bindings : List Binding) : Expr → Option (Nat × Option Nat)
  | .column schema table name =>
    let candidates := bindings.zipIdx.filter fun (b, _) =>
      match table with
      | some t => b.answers schema t
      | none => !b.qualifiedOnly
    let hits := candidates.filterMap fun (b, i) =>
      (b.columns.findIdx? (sameName ·.name name)).map fun k => (b, i, k)
    match hits with
    | [(b, i, k)] =>
      match b.fullText with
      | some cur =>
        let width := cur.table.columns.length
        if k < width then some (i, some k) else if k == width then some (i, none) else none
      | none => none
    | _ => none
  | _ => none

/-- A condition the full-text table of a level answers itself: `x MATCH q`, where `x` is
the table's own column or one of its columns, or `t = q` for the table's own column `t`;
the binding's position, the column and the query's expression. -/
def fullTextConstraint (bindings : List Binding) : Expr → Option (Nat × Option Nat × Expr)
  | .pattern .matchOp lhs q none false =>
    (fullTextColumn bindings lhs).map fun (i, k) => (i, k, q)
  | .binary .eq a b =>
    match fullTextColumn bindings a, fullTextColumn bindings b with
    | some (i, none), _ => some (i, none, b)
    | _, some (i, none) => some (i, none, a)
    | _, _ => none
  | _ => none

/-- The binding of a full-text row that matched a query: the rank filled in and the
query kept for the functions over the match. -/
def Binding.matched (b : Binding) (cur : FullTextCursor) (s : FullTextShape) (q : FullText.Query)
    (rowid : Int) : Binding :=
  let rankAt := cur.table.columns.length + 1
  { b with values := b.values.set rankAt (.real (cur.table.rankOf s q rowid)),
           fullText := some { cur with query := some q } }

/-- The full-text binding a function over a match names by its first argument: the
innermost binding whose column named after its table the argument names. -/
def Env.fullTextBinding (env : Env) : Expr → Option Binding
  | .column schema table name =>
    env.frames.findSome? fun f =>
      let candidates := f.bindings.filter fun b =>
        match table with
        | some t => b.answers schema t
        | none => !b.qualifiedOnly
      candidates.find? fun b =>
        match b.fullText with
        | some cur => sameName cur.table.name name
        | none => false
  | _ => none

/-- Marks the columns merged into an earlier source on the bindings of a joined source. -/
def markMerged (common : List String) (bs : List Binding) : List Binding :=
  bs.map fun b =>
    { b with merged := b.merged ++ common.filter (fun c => b.columns.any (sameName ·.name c)) }

/-- The column names two sides of a join share, in the order of the right side. -/
def sharedColumns (left right : List Binding) : List String :=
  let visible (bs : List Binding) : List String :=
    bs.flatMap fun b => (b.columns.map (·.name)).filter fun n =>
      !b.merged.any (sameName · n) && !b.hidden.any (sameName · n)
  (visible right).filter fun n => (visible left).any (sameName · n)

/-- The value and description of a column named without qualifier among bindings. -/
def findColumn (bs : List Binding) (name : String) : Option (SqlValue × ColumnInfo) :=
  (bs.flatMap (·.matches false name)).head?

/-- The display name of a table for `no such table`. -/
def tableDisplay (schema : Option String) (name : String) : String :=
  match schema with
  | some s => s ++ "." ++ name
  | none => name

/-- The result number a term stands for, if it is an integer literal. -/
def Expr.ordinalTerm? : Expr → Option Int
  | .lit (.int k) => some k
  | _ => none

/-- The result column a bare name stands for among aliases. -/
def aliasIndex (aliases : List (Option String)) (e : Expr) : Option Nat :=
  match e with
  | .column none none name => aliases.findIdx? fun a => match a with
    | some a => sameName a name
    | none => false
  | _ => none

/-- The collation of a column reference, without following aliases. -/
def Env.plainColumnCollation (env : Env) (e : Expr) : Except SqlError (Option Collation) :=
  let found := match e with
    | .column schema table name => env.lookup schema table name
    | .quoted name => env.lookup none none name
    | _ => .ok none
  match found with
  | .ok (some (.column _ info)) => .ok (if isRowidName info.name then none else some info.collation)
  | _ => .ok none

/-- The collation of a column reference; an alias has the collation of its expression,
which fails as the expression's does. -/
def Env.columnCollation (env : Env) (e : Expr) : Except SqlError (Option Collation) :=
  let found := match e with
    | .column schema table name => env.lookup schema table name
    | .quoted name => env.lookup none none name
    | _ => .ok none
  match found with
  | .ok (some (.column _ info)) => .ok (if isRowidName info.name then none else some info.collation)
  | .ok (some (.aliased a depth)) => Expr.collation (env.forAlias depth).plainColumnCollation walkDepth a
  | _ => .ok none

/-- The collation of an expression in an environment. -/
def exprCollation (env : Env) (e : Expr) : Except SqlError (Option Collation) :=
  Expr.collation env.columnCollation walkDepth e

/-- The collation of a comparison: an explicit one on the left, then on the right, then
the left side's, then the right side's, else `BINARY`. -/
def binaryCollation (env : Env) (a b : Expr) : Except SqlError Collation := do
  pure ((← Expr.comparisonCollation env.columnCollation a b).getD .binary)

/-! ## Table-valued functions -/

/-- Whether a source is a table-valued function call. -/
def Source.isCall : Source → Bool
  | .call _ _ _ => true
  | _ => false

/-- The columns of a table-valued function and which of them are hidden; `none` for a
name that is no table-valued function. -/
def tableFunctionColumns (name : String) : Option (List String × List String) :=
  match name.toLower with
  | "json_each" | "json_tree" => some (Document.walkColumns, ["json", "root"])
  | other => if other.startsWith "pragma_" then pragmaColumns (other.drop 7).toString else none

/-- The binding of a table-valued function, every value `NULL`; its columns have no
type. -/
def callBinding (name : String) (aliasName : Option String) (cols hidden : List String) : Binding :=
  { name := aliasName.getD name, columns := cols.map fun c => { name := c, affinity := some .blob },
    values := cols.map fun _ => .null, hasRowid := true, hidden }

/-- The rows of a table-valued function on its arguments, each value with its JSON mark
(only the `value` column of `json_each` and `json_tree` makes one). -/
def callRows (db : Database) (name : String) (args : List SqlValue) :
    Except SqlError (List (List Document.Marked)) :=
  match name.toLower with
  | "json_each" => Document.walkTable false args
  | "json_tree" => Document.walkTable true args
  | other =>
    if other.startsWith "pragma_" then
      (pragmaRows db (other.drop 7).toString args).map (·.map (·.map Document.plain))
    else .ok []

/-- The table a pragma reads as when named without arguments: its columns but the hidden
ones, and its rows. -/
def pragmaTable (db : Database) (name : String) : Option Relation :=
  let lower := name.toLower
  if lower.startsWith "pragma_" then
    (pragmaColumns (lower.drop 7).toString).map fun (cols, _) =>
      { columns := cols.map fun c => { name := c },
        rows := (pragmaRows db (lower.drop 7).toString []).toOption.getD [] }
  else none

def Expr.calledName : Expr → String
  | .call name _ _ _ _ _ => name
  | _ => ""

/-- Checks the offset of a frame end: a non-negative integer for `ROWS` and `GROUPS`, a
non-negative number for `RANGE`. -/
def frameOffset (unit : FrameUnit) (isStart : Bool) (v : SqlValue) : Except SqlError SqlValue :=
  let which := if isStart then "starting" else "ending"
  if unit == .range then
    match v.asNumber false with
    | .int i => if i ≥ 0 then .ok (.int i) else .error (.general ("frame " ++ which ++ " offset must be a non-negative number"))
    | .real f => if f ≥ 0 then .ok (.real f) else .error (.general ("frame " ++ which ++ " offset must be a non-negative number"))
    | _ => .error (.general ("frame " ++ which ++ " offset must be a non-negative number"))
  else
    match exactInteger? v with
    | some i => if i ≥ 0 then .ok (.int i) else .error (.general ("frame " ++ which ++ " offset must be a non-negative integer"))
    | none => .error (.general ("frame " ++ which ++ " offset must be a non-negative integer"))

/-- Whether a frame end has an offset. -/
def FrameBound.hasOffset : FrameBound → Bool
  | .preceding _ | .following _ => true
  | _ => false

/-- Replaces the window calls of expressions, left to right, by values. -/
def fillWindowsIn (vals : List SqlValue) (exprs : List Expr) : List Expr :=
  (exprs.foldl (fun (acc : List Expr × List SqlValue) e =>
    let (e', rest) := e.fillWindows walkDepth acc.2
    (acc.1 ++ [e'], rest)) ([], vals)).1

/-- The stored table a query reads when its source is one ordinary table named in its
`FROM` clause: not a common table expression, a view, the schema table or a virtual
table. -/
def Env.plannedTable (env : Env) : Option Source → Option Table
  | some (.table schema name _) =>
    if schema.isNone && (env.cte? name).isSome then none
    else if isMasterName name then none
    else
      match env.db.findIn? schema name with
      | some (.table t) => if t.isVirtual then none else some t
      | _ => none
  | _ => none

/-- A table of a `FROM` clause that joins stored tables only: the table, how it joins the
tables before it, and the join's `ON` condition and `USING` columns. -/
structure JoinItem where
  table : Table
  /-- How it joins the tables before it. -/
  kind : JoinKind := .inner
  /-- Whether the join is `NATURAL`. -/
  natural : Bool := false
  /-- The `ON` condition. -/
  on : Option Expr := none
  /-- The `USING` columns. -/
  usingColumns : List String := []
  deriving Inhabited

/-- The tables of a `FROM` clause left to right, when it joins ordinary stored tables
only, each joined to all the tables before it. -/
def Env.joinItems (env : Env) : Source → Option (List JoinItem)
  | .join kind natural l r on usingColumns =>
    match env.joinItems l, env.plannedTable (some r) with
    | some items, some t => some (items ++ [{ table := t, kind, natural, on, usingColumns }])
    | _, _ => none
  | s => (env.plannedTable (some s)).map fun t => [{ table := t }]

/-- The sources of a `FROM` clause left to right, each with how it joins those before it:
the kind of join, whether it is natural, and its `USING` columns. -/
def Source.spine : Source → List (Source × JoinKind × Bool × List String)
  | .join kind natural l r _ usingColumns => l.spine ++ [(r, kind, natural, usingColumns)]
  | s => [(s, .inner, false, [])]

/-- In a `FROM` clause with a `RIGHT` or `FULL` join, the first column a `USING` (or
`NATURAL`) join takes from more than one table on its left where a later such table does
not itself join by that column; the tables are the bindings of `template`, one per
source. -/
def usingAmbiguity (spine : List (Source × JoinKind × Bool × List String))
    (template : List Binding) : Option String :=
  if !spine.any (fun (_, k, _, _) => k == .right || k == .full) || spine.length != template.length then none
  else
    let has (b : Binding) (c : String) : Bool :=
      b.columns.any fun col => sameName col.name c && !b.hidden.any (sameName · c)
    let common (k : Nat) : List String :=
      match spine[k]? with
      | some (_, _, natural, usingColumns) =>
        if natural then sharedColumns (template.take k) [template.getD k default] else usingColumns
      | none => []
    (List.range spine.length).findSome? fun k =>
      if k == 0 then none
      else
        (common k).find? fun c =>
          match (List.range k).filter (fun j => has (template.getD j default) c) with
          | _ :: later => later.any fun j => !(common j).any (sameName · c)
          | [] => false

/-- The position a row id has in a table read in some order, from the pairs of row id and
position sorted by row id; `0` when it is not there. -/
def positionOf (ids : Array (Int × Nat)) (id : Int) : Nat :=
  let rec go : Nat → Nat → Nat → Nat
    | 0, _, _ => 0
    | fuel + 1, lo, hi =>
      if lo ≥ hi then 0
      else
        let mid := (lo + hi) / 2
        match ids[mid]? with
        | some (k, p) => if k == id then p else if k < id then go fuel (mid + 1) hi else go fuel lo mid
        | none => 0
  go 64 0 ids.size

/-- The conjuncts of a join's condition: those of `WHERE`, then, join by join, those of
its `ON` clause, or for `USING` and `NATURAL` an `=` for each shared column between the
first table on the left that has it and the table on the right. -/
def joinConjuncts (items : List JoinItem) (template : List Binding) (filter : Option Expr) :
    List Plan.JoinConjunct :=
  let whereCs := ((filter.map Expr.conjuncts).getD []).map fun e => ({ expr := e } : Plan.JoinConjunct)
  let joinCs := items.zipIdx.flatMap fun (it, i) =>
    if i == 0 then []
    else
      let outer := it.kind == .left || it.kind == .right || it.kind == .full
      let right := template.getD i default
      let common := if it.natural then sharedColumns (template.take i) [right] else it.usingColumns
      let exprs :=
        if !common.isEmpty then
          common.filterMap fun c =>
            ((template.take i).find? fun b => b.columns.any (sameName ·.name c)).map fun l =>
              Expr.binary .eq (.column none (some l.name) c) (.column none (some right.name) c)
        else (it.on.map Expr.conjuncts).getD []
      exprs.map fun e => ({ expr := e, onJoin := some i, outer } : Plan.JoinConjunct)
  whereCs ++ joinCs

/-- The value of a `LIMIT` written as an integer literal that fits in 32 bits, a sign
allowed, when it is not negative. -/
def fixedLimit : Expr → Option Nat
  | .lit (.int k) => if 0 ≤ k && k ≤ 2147483647 then some k.toNat else none
  | .unary .plus (.lit (.int k)) => if 0 ≤ k && k ≤ 2147483647 then some k.toNat else none
  | .unary .neg (.lit (.int 0)) => some 0
  | _ => none

/-- Whether a function compares its arguments by a collation: `min`, `max` and `nullif`. -/
def comparesArguments (name : String) : Bool :=
  ["min", "max", "nullif"].contains name.toLower

/-- The collation of the first argument that has one, looked up argument by argument;
`BINARY` when none has. -/
def firstCollation (env : Env) : List Expr → Eval Collation
  | [] => pure .binary
  | a :: rest => do
    match ← liftError (exprCollation env a) with
    | some c => pure c
    | none => firstCollation env rest

/-! ## The evaluator -/

mutual

def eval : Nat → Env → Expr → Eval SqlValue
  | 0, _, _ => outOfFuel
  | n + 1, env, e =>
    match e with
    | .lit v => pure v
    | .param k => pure (env.params.getD (k - 1) .null)
    | .column _ _ _ | .quoted _ | .subquery _ | .cast _ _ => do
      let (v, _) ← evalTyped n env e
      pure v
    | .unary op a => do
      let v ← eval n env a
      match op with
      | .neg => pure v.negate
      | .plus => pure v
      | .bitNot => pure v.complement
      | .not => pure (notValue v)
    | .binary op a b =>
      if op.isComparison then compareExprs n env op a b
      else
        match op with
        | .and => do
          let x ← eval n env a
          if x.truth == some false then pure (.int 0)
          else pure (andValues x (← eval n env b))
        | .or => do
          let x ← eval n env a
          if x.truth == some true then pure (.int 1)
          else
            let y ← eval n env b
            match x.truth, y.truth with
            | _, some true => pure (.int 1)
            | some false, some false => pure (.int 0)
            | _, _ => pure .null
        | .arith op => do
          let x ← eval n env a
          let y ← eval n env b
          pure (op.apply x y)
        | .bits op => do
          let x ← eval n env a
          let y ← eval n env b
          pure (op.apply x y)
        | .concat => do
          let x ← eval n env a
          let y ← eval n env b
          if x.isNull || y.isNull then pure .null
          else if x.byteLength + y.byteLength > Printf.lengthLimit then liftError (.error .tooBig)
          else pure (.text (x.textD ++ y.textD))
        | _ => do
          let (v, _) ← evalTagged n env e
          pure v
    | .collate a _ => eval n env a
    | .nullTest a isNull => do
      let v ← eval n env a
      pure (truthValue (some (v.isNull == isNull)))
    | .between a lo hi negated => do
      let ge ← compareExprs n env .ge a lo
      let le ← compareExprs n env .le a hi
      let r := andValues ge le
      pure (if negated then notValue r else r)
    | .inList a items negated => do
      let (va, affA) ← evalTyped n env a
      let coll ← liftError (exprCollation env a)
      if items.isEmpty then pure (.int (if negated then 1 else 0))
      else
        let vals ← items.mapM (eval n env)
        if va.isNull then pure .null
        else
          let found := vals.any fun v => compareValues affA (coll.getD .binary) va v == some .eq
          let r := if found then some true else if vals.any (·.isNull) then none else some false
          pure (truthValue (if negated then r.map (!·) else r))
    | .inQuery (.row xs) q negated => do
      let r ← runQuery n env q
      if r.columns.length ≠ xs.length then
        failWith ("sub-select returns " ++ toString r.columns.length ++ " columns - expected " ++
          toString xs.length)
      else
        let lhs ← xs.mapM (evalTyped n env)
        let fields ← (xs.zip r.columns).mapM fun (x, info) => do
          let coll ← liftError (exprCollation env x)
          let coll := if x.hasCollate walkDepth then coll.getD .binary else coll.getD info.collation
          pure (info.affinity, coll)
        -- a row matches when every field is equal; `NULL` when none differs but one is unknown
        let rowTruth (row : List SqlValue) : Option Bool :=
          ((lhs.zip fields).zip row).foldl (fun acc (((v, affV), (affR, coll)), w) =>
            let field := (compareValues (comparisonAffinity affR affV) coll v w).map (· == .eq)
            match acc, field with
            | some false, _ | _, some false => some false
            | some true, some true => some true
            | _, _ => none) (some true)
        let truths := r.rows.map rowTruth
        let res := if truths.contains (some true) then some true
          else if truths.contains none then none else some false
        pure (truthValue (if negated then res.map (!·) else res))
    | .inQuery a q negated => do
      let (va, affA) ← evalTyped n env a
      let r ← runQuery n env q
      if r.columns.length ≠ 1 then
        failWith ("sub-select returns " ++ toString r.columns.length ++ " columns - expected 1")
      else
        let info := r.columns.headD default
        let aff := comparisonAffinity info.affinity affA
        let coll ← liftError (exprCollation env a)
        let coll := if a.hasCollate walkDepth then coll.getD .binary
          else coll.getD info.collation
        if r.rows.isEmpty then pure (.int (if negated then 1 else 0))
        else if va.isNull then pure .null
        else
          let vals := r.rows.map (·.headD .null)
          let found := vals.any fun v => compareValues aff coll va v == some .eq
          let res := if found then some true else if vals.any (·.isNull) then none else some false
          pure (truthValue (if negated then res.map (!·) else res))
    | .pattern op a pat esc negated => do
      match op with
      | .regexp => failWith "no such function: REGEXP"
      | .matchOp => failWith "unable to use function MATCH in the requested context"
      | _ =>
        let p ← eval n env pat
        let x ← eval n env a
        let escV ← match esc with
          | some ex => do pure (some (← eval n env ex))
          | none => pure none
        let r ← liftError (matchPattern (op == .glob) p x escV)
        pure (if negated then notValue r else r)
    | .case _ _ _ | .call _ _ _ _ _ _ => do
      let (v, _) ← evalTagged n env e
      pure v
    | .hasRows q => do
      let r ← runQuery n env q
      pure (truthValue (some !r.rows.isEmpty))
    | .raise action message => do
      if !env.inTrigger then failWith "RAISE() may only be used within a trigger-program"
      else
        let text ← match message with
          | some m => do pure (← eval n env m).textD
          | none => pure ""
        match action with
        | .ignore => throw .ignore
        | .rollback => throw (.error ⟨1811, text⟩ .transaction)
        | .abort => throw (.error ⟨1811, text⟩ .statement)
        | .fail => throw (.error ⟨1811, text⟩ .keep)
    | .row _ => failWith "row value misused"
    | .window f _ => failWith ("misuse of window function " ++ f.calledName ++ "()")

/-- The value of an expression with whether it carries the JSON mark. Only the JSON
functions and `->` make the mark, and only `CASE`, `COLLATE`, `coalesce`, `ifnull`, `iif`
and `likelihood` pass it on from their operands. -/
def evalTagged : Nat → Env → Expr → Eval Document.Marked
  | 0, _, _ => outOfFuel
  | n + 1, env, e =>
    match e with
    | .call name distinct args star filter order =>
      evalCall n env name distinct args star filter order
    | .case operand arms otherwise => do
      match operand with
      | none => caseArms n env none arms otherwise
      | some o =>
        let base ← evalTyped n env o
        caseArms n env (some (o, base)) arms otherwise
    | .collate a _ => evalTagged n env a
    | .binary op a b =>
      if op == .extract || op == .extractValue then do
        let x ← eval n env a
        let y ← eval n env b
        liftError (Document.jsonArrow (op == .extract) x y)
      else do pure (Document.plain (← eval n env e))
    | .column schema table name => do
      match ← liftError (env.lookup schema table name) with
      | some (.column v info) => pure (v, info.json)
      | some (.aliased a depth) => evalTagged n (env.forAlias depth) a
      | none => pure (Document.plain (← eval n env e))
    | .quoted name => do
      match ← liftError (env.lookup none none name) with
      | some (.column v info) => pure (v, info.json)
      | some (.aliased a depth) => evalTagged n (env.forAlias depth) a
      | none => pure (Document.plain (← eval n env e))
    | .subquery q => do
      let r ← runQuery n env q
      if r.columns.length ≠ 1 then
        failWith ("sub-select returns " ++ toString r.columns.length ++ " columns - expected 1")
      else
        match r.rows with
        | row :: _ => pure (row.headD .null, (r.marked.headD []).headD false)
        | [] => pure (Document.plain .null)
    | .cast a type => do
      let (v, marked) ← evalTagged n env a
      pure (v.cast (Affinity.ofDeclared type), marked)
    | .unary .plus a => evalTagged n env a
    | e => do pure (Document.plain (← eval n env e))

/-- The value of an expression with its affinity (none for a value that has none). -/
def evalTyped : Nat → Env → Expr → Eval (SqlValue × Option Affinity)
  | 0, _, _ => outOfFuel
  | n + 1, env, e =>
    match e with
    | .column schema table name => do
      match ← liftError (env.lookup schema table name) with
      | some (.column v info) => pure (v, info.affinity)
      | some (.aliased a depth) => evalTyped n (env.forAlias depth) a
      | none =>
        if schema.isNone && table.isNone && sameName name "true" then pure (.int 1, none)
        else if schema.isNone && table.isNone && sameName name "false" then pure (.int 0, none)
        else fail (.noColumn (columnDisplay schema table name))
    | .quoted name => do
      match ← liftError (env.lookup none none name) with
      | some (.column v info) => pure (v, info.affinity)
      | some (.aliased a depth) => evalTyped n (env.forAlias depth) a
      | none => pure (.text name, none)
    | .subquery q => do
      let r ← runQuery n env q
      if r.columns.length ≠ 1 then
        failWith ("sub-select returns " ++ toString r.columns.length ++ " columns - expected 1")
      else
        let v := match r.rows with
          | row :: _ => row.headD .null
          | [] => .null
        pure (v, (r.columns.headD default).affinity)
    | .cast a type => do
      let v ← eval n env a
      let aff := Affinity.ofDeclared type
      pure (v.cast aff, some aff)
    | .collate a _ => evalTyped n env a
    | e => do
      let v ← eval n env e
      pure (v, none)

/-- The arms of a `CASE`: the first whose condition holds (or whose value equals the
operand) gives the result. -/
def caseArms : Nat → Env → Option (Expr × SqlValue × Option Affinity) → List (Expr × Expr) →
    Option Expr → Eval Document.Marked
  | 0, _, _, _, _ => outOfFuel
  | n + 1, env, base, arms, otherwise =>
    match arms with
    | [] =>
      match otherwise with
      | some d => evalTagged n env d
      | none => pure (Document.plain .null)
    | (w, t) :: rest => do
      let hit ← match base with
        | none => do pure (← eval n env w).holds
        | some (o, (vo, affO)) => do
          let (vw, affW) ← evalTyped n env w
          let coll ← liftError (binaryCollation env o w)
          pure (compareValues (comparisonAffinity affO affW) coll vo vw == some .eq)
      if hit then evalTagged n env t else caseArms n env base rest otherwise

/-- The value of a comparison of two expressions. -/
def compareExprs : Nat → Env → BinaryOp → Expr → Expr → Eval SqlValue
  | 0, _, _, _, _ => outOfFuel
  | n + 1, env, op, a, b =>
    match a, b with
    | .row xs, .row ys =>
      if xs.length ≠ ys.length then failWith "row value misused"
      else compareVector n env op (xs.zip ys)
    | .row _, _ | _, .row _ => failWith "row value misused"
    | _, _ => do
      let word ← match (if op == .is || op == .isNot then b.truthWord? walkDepth else none) with
        | some (name, w) => do
          pure (if (← liftError (env.lookup none none name)).isNone then some w else none)
        | none => pure none
      match word with
      | some w => do
        let v ← eval n env a
        pure (truthValue (some (truthTest op w v)))
      | none => do
        let (va, affA) ← evalTyped n env a
        let (vb, affB) ← evalTyped n env b
        -- `x IS NULL` tests for `NULL` and compares nothing
        let nullTest := (op == .is || op == .isNot) && (match b with
          | .lit .null => true
          | _ => false)
        let coll ← if nullTest then pure .binary else liftError (binaryCollation env a b)
        let aff := comparisonAffinity affA affB
        match op with
        | .is | .isNot =>
          if va.isNull && vb.isNull then pure (truthValue (some (op.holds .eq)))
          else if va.isNull || vb.isNull then pure (truthValue (some (op.holds .lt)))
          else
            let (x, y) := applyComparisonAffinity aff va vb
            pure (truthValue (some (op.holds (SqlValue.compareWith coll x y))))
        | _ =>
          match compareValues aff coll va vb with
          | some o => pure (truthValue (some (op.holds o)))
          | none => pure .null

/-- The value of a comparison of two row values, element by element. -/
def compareVector : Nat → Env → BinaryOp → List (Expr × Expr) → Eval SqlValue
  | 0, _, _, _ => outOfFuel
  | n + 1, env, op, pairs =>
    match op with
    | .eq | .is => do
      let vs ← pairs.mapM fun (x, y) => compareExprs n env op x y
      pure (vs.foldl andValues (.int 1))
    | .ne | .isNot => do
      let vs ← pairs.mapM fun (x, y) => compareExprs n env (if op == .ne then .eq else .is) x y
      pure (notValue (vs.foldl andValues (.int 1)))
    | _ =>
      match pairs with
      | [] => pure (.int 0)
      | [(x, y)] => compareExprs n env op x y
      | (x, y) :: rest => do
        let same ← compareExprs n env .eq x y
        match same.truth with
        | none => pure .null
        | some true => compareVector n env op rest
        | some false =>
          let strict := match op with
            | .le => BinaryOp.lt
            | .ge => .gt
            | o => o
          compareExprs n env strict x y

def evalCall : Nat → Env → String → Bool → List Expr → Bool → Option Expr →
    List (Expr × Bool × Option Bool) → Eval Document.Marked
  | 0, _, _, _, _, _, _, _ => outOfFuel
  | n + 1, env, name, distinct, args, star, filter, order =>
    match arityAccepts name args.length with
    | none => failWith ("no such function: " ++ name)
    | some false => failWith ("wrong number of arguments to function " ++ name ++ "()")
    | some true =>
      match Aggregate.ofCall name args.length star with
      | some agg =>
        if distinct && args.length != 1 then
          failWith "DISTINCT aggregates must have exactly one argument"
        else
        match env.frames with
        | f :: rest =>
          match f.group with
          | some rows => do
            let keyed ← rows.filterMapM fun row => do
              let rowEnv := { env with frames := { f with bindings := row, group := none } :: rest }
              let keep ← match filter with
                | some c => do pure (← eval n rowEnv c).holds
                | none => pure true
              if keep then do
                let keys ← order.mapM fun (x, desc, nulls) => do
                  let c ← liftError (exprCollation rowEnv x)
                  pure (← eval n rowEnv x, c.getD .binary, desc, nulls)
                pure (some (keys, ← args.mapM (evalTagged n rowEnv)))
              else pure none
            let coll ← match args with
              | a :: _ =>
                if distinct || comparesArguments name then do
                  pure ((← liftError (exprCollation env a)).getD .binary)
                else pure ((exprCollation env a).toOption.bind id |>.getD .binary)
              | [] => pure .binary
            -- with an ordering, the distinct rows are kept in the order they were read
            -- and only then sorted
            let sameFirst (p q : List Document.Marked) : Bool :=
              SqlValue.compareWith coll (p.headD (Document.plain .null)).1
                (q.headD (Document.plain .null)).1 == .eq
            let (distinct, perRow) := if order.isEmpty then (distinct, keyed.map (·.2))
              else
                let kept := if distinct then
                    keyed.foldl (fun acc r => if acc.any (sameFirst ·.2 r.2) then acc else acc ++ [r]) []
                  else keyed
                (false, (sortStable (fun a b => compareKeys a.1 b.1) kept).map (·.2))
            match agg with
            | .json fname =>
              let rows := if distinct then
                  perRow.foldl (fun acc r => if acc.any (sameFirst · r) then acc else acc ++ [r]) []
                else perRow
              liftError (Document.jsonGroup fname rows)
            | _ => do
              let v ← liftError (agg.finish distinct coll (perRow.map (·.map (·.1))))
              -- `min` and `max` answer one of the values read, with its mark
              let marked := (agg == .min || agg == .max) &&
                perRow.any fun r => match r with
                  | [(x, true)] => SqlValue.compareWith .binary x v == .eq
                  | _ => false
              pure (v, marked)
          | none => failWith ("misuse of aggregate function " ++ name ++ "()")
        | [] => failWith ("misuse of aggregate function " ++ name ++ "()")
      | none =>
        match name.toLower with
        | "coalesce" | "ifnull" => firstNonNull n env args
        | "iif" =>
          match args with
          | [c, t, f] => do
            if (← eval n env c).holds then evalTagged n env t else evalTagged n env f
          | _ => pure (Document.plain .null)
        | "changes" => pure (Document.plain (.int env.db.changes))
        | "total_changes" => pure (Document.plain (.int env.db.totalChanges))
        | "last_insert_rowid" => pure (Document.plain (.int env.db.lastRowid))
        | "likelihood" => do
          match args with
          | [x, p] =>
            if !p.isProbability then failWith (likelihoodMessage name)
            else evalTagged n env x
          | _ => pure (Document.plain .null)
        | "bm25" | "highlight" | "snippet" => do
          pure (Document.plain (← fullTextCall n env name.toLower args))
        | "offsets" | "matchinfo" | "optimize" | "fts5" =>
          failWith ("unable to use function " ++ name.toLower ++ " in the requested context")
        | lname =>
          if Document.isJsonFunction lname then do
            let vals ← args.mapM (evalTagged n env)
            liftError (Document.applyJson lname vals)
          else do
            let vals ← args.mapM (eval n env)
            let coll ← if comparesArguments name then firstCollation env args else pure .binary
            pure (Document.plain (← liftError (applyScalar env.db.clock coll name vals)))

/-- A function over a full-text match, `bm25`, `highlight` or `snippet`: the first
argument names the table's own column, whose binding holds the row and the query it
matched; any other first argument leaves the function unusable. -/
def fullTextCall : Nat → Env → String → List Expr → Eval SqlValue
  | 0, _, _, _ => outOfFuel
  | n + 1, env, lname, args => do
    let unusable : Eval SqlValue :=
      failWith ("unable to use function " ++ lname ++ " in the requested context")
    match args with
    | [] => unusable
    | first :: rest =>
      match env.fullTextBinding first with
      | none => unusable
      | some b =>
        match b.fullText, b.fullText.bind (·.table.fullText), b.rowid with
        | some cur, some shape, some rowid => do
          let vals ← rest.mapM (eval n env)
          let shown := b.values.take cur.table.columns.length
          match lname with
          | "bm25" => pure (cur.table.bm25Value shape cur.query rowid (vals.map (·.toFloat)))
          | "highlight" =>
            match vals with
            | [c, o, cl] => pure (cur.table.highlightValue shape cur.query rowid shown c.toInt o.text? cl.text?)
            | _ => failWith "wrong number of arguments to function highlight()"
          | _ =>
            match vals with
            | [c, o, cl, e, k] =>
              pure (cur.table.snippetValue shape cur.query rowid shown c.toInt (o.text?.getD "")
                (cl.text?.getD "") (e.text?.getD "") k.toInt)
            | _ => failWith "wrong number of arguments to function snippet()"
        | _, _, _ => pure .null

/-- A row of a level with the `MATCH` constraints on its full-text tables applied: `none`
when a table's row does not match, else the row with each such table's rank and query
filled in. -/
def matchRow : Nat → Env → (List Binding → Frame) → List Binding → List (Nat × Option Nat × Expr) →
    Eval (Option (List Binding))
  | 0, _, _, _, _ => outOfFuel
  | n + 1, env, frameOf, row, cs => do
    let targets := cs.foldl (fun (acc : List Nat) (i, _, _) => if acc.contains i then acc else acc ++ [i]) []
    targets.foldlM (fun (acc : Option (List Binding)) i => do
      match acc with
      | none => pure none
      | some row =>
        let b := row.getD i default
        match b.fullText, b.fullText.bind (·.table.fullText), b.rowid with
        | some cur, some shape, some rowid => do
          let texts ← (cs.filter (·.1 == i)).mapM fun (_, col, q) => do
            let v ← eval n (env.push (frameOf row)) q
            pure (col, v.text?.getD "")
          match ← liftError (cur.table.matchQuery shape texts) with
          | none => pure none
          | some query =>
            if query.holds (cur.table.documentOf shape rowid) then
              pure (some (row.set i (b.matched cur shape query rowid)))
            else pure none
        | _, _, _ => pure none) (some row)

/-- The rows of a level that pass its `WHERE`: the conjuncts a full-text table of the
level answers (`MATCH`) are applied by the table first, filling in its rank, and the
others are evaluated on the rows that match. A table read alone reads its queries before
its first row, so that a query in error fails even when no row is read. -/
def filterLevel : Nat → Env → (List Binding → Frame) → List Binding → Expr → List (List Binding) →
    Eval (List (List Binding))
  | 0, _, _, _, _, _ => outOfFuel
  | n + 1, env, frameOf, template, c, rows => do
    let parts := c.conjuncts.map fun e => (e, fullTextConstraint template e)
    let cs := parts.filterMap (·.2)
    if cs.isEmpty then
      rows.filterM fun row => do pure (← eval n (env.push (frameOf row)) c).holds
    else
      let rest := conjoin (parts.filterMap fun (e, k) => if k.isNone then some e else none)
      if template.length == 1 then
        for (i, col, q) in cs do
          match eval n env q, (template.getD i default).fullText with
          | .ok v, some cur =>
            match cur.table.fullText with
            | some shape => do
              let _ ← liftError (cur.table.matchQuery shape [(col, v.text?.getD "")])
              pure ()
            | none => pure ()
          | _, _ => pure ()
      rows.filterMapM fun row => do
        match ← matchRow n env frameOf row cs with
        | none => pure none
        | some row' =>
          match rest with
          | some r => do
            if (← eval n (env.push (frameOf row')) r).holds then pure (some row') else pure none
          | none => pure (some row')

/-- The first argument that is not `NULL`, computing no further ones. -/
def firstNonNull : Nat → Env → List Expr → Eval Document.Marked
  | 0, _, _ => outOfFuel
  | _ + 1, _, [] => pure (Document.plain .null)
  | n + 1, env, a :: rest => do
    let v ← evalTagged n env a
    if v.1.isNull then firstNonNull n env rest else pure v

/-- The result rows of the frames of a simple query: its result expressions computed in
each. Window calls are computed first, over all the frames, and then the rows come in the
order of the first window. -/
def resultRows : Nat → Env → List Expr → List Frame →
    Eval (List (List SqlValue × List Bool × Frame))
  | 0, _, _, _ => outOfFuel
  | n + 1, env, exprs, frames => do
    let calls := exprs.flatMap (·.windowCalls walkDepth)
    let row (fr : Frame) (es : List Expr) : Eval (List SqlValue × List Bool × Frame) := do
      let vals ← es.mapM (evalTagged n (env.push fr))
      pure (vals.map (·.1), vals.map (·.2), fr)
    if calls.isEmpty then frames.mapM fun fr => row fr exprs
    else
      let columns ← calls.mapM (windowValues n env frames)
      let rows ← frames.zipIdx.mapM fun (fr, i) =>
        row fr (fillWindowsIn (columns.map fun (vs, _) => vs.getD i .null) exprs)
      pure (((columns.headD ([], [])).2).filterMap (rows[·]?))

/-- The values of a window call over the frames of a query, in their order, with the
order of the frames in the window. -/
def windowValues : Nat → Env → List Frame → Expr → Eval (List SqlValue × List Nat)
  | 0, _, _, _ => outOfFuel
  | n + 1, env, frames, e =>
    match e with
    | .window (.call name _ args star filter _) w => do
      let (partition, order, written) ← match w with
        | .mk none p o f => pure (p, o, f)
        | .mk (some b) _ _ _ | .named b => failWith ("no such window: " ++ b)
      let fn ← match Ranking.ofName? name.toLower with
        | some r => pure (WindowFn.ranking r)
        | none =>
          match Aggregate.ofCall name args.length star with
          | some a => pure (WindowFn.aggregate a)
          | none => failWith (name ++ "() may not be used as a window function")
      let rows ← frames.mapM fun fr => do
        let fenv := env.push fr
        let counted ← match filter with
          | some c => do pure (← eval n fenv c).holds
          | none => pure true
        pure ({ partition := ← partition.mapM (eval n fenv),
                order := ← order.mapM fun (x, _, _) => eval n fenv x,
                args := ← args.mapM (eval n fenv), counted } : WindowRow)
      let cenv := env.push (frames.headD {})
      let collOf (x : Expr) : Eval Collation := do
        pure ((← liftError (exprCollation cenv x)).getD .binary)
      let partitionColls ← partition.mapM collOf
      let spec ← order.mapM fun (x, desc, nulls) => do pure (← collOf x, desc, nulls)
      let coll ← if comparesArguments name then firstCollation cenv args else pure .binary
      let frame ← match written with
        | none => pure FrameSpec.standard
        | some (unit, s, f, ex) =>
          if unit == .range && (s.hasOffset || f.hasOffset) && order.length != 1 then
            failWith "RANGE with offset PRECEDING/FOLLOWING requires one ORDER BY expression"
          else if frames.isEmpty then pure FrameSpec.standard
          else do
            let bound (isStart : Bool) (b : FrameBound) : Eval FrameEnd :=
              match b with
              | .unboundedPreceding => pure .unboundedPreceding
              | .currentRow => pure .currentRow
              | .unboundedFollowing => pure .unboundedFollowing
              | .preceding x => do
                pure (.preceding (← liftError (frameOffset unit isStart (← eval n env x))))
              | .following x => do
                pure (.following (← liftError (frameOffset unit isStart (← eval n env x))))
            pure ⟨unit, ← bound true s, ← bound false f, ex⟩
      liftError (windowColumn fn coll partitionColls spec frame rows)
    | _ => pure (frames.map fun _ => .null, List.range frames.length)

def runQuery : Nat → Env → Query → Eval Relation
  | 0, _, _ => outOfFuel
  | n + 1, env, .mk ctes _ body order limit offset => do
    let env ← env.withCtes ctes
    let (cols, rows) ← runCompound n env order limit body
    let sorted ← orderRows n env body cols order (rows.map fun (v, _, f) => (v, f))
    let lim ← match limit with
      | some l => do pure (some (← countValue (← eval n env l)))
      | none => pure none
    let off ← match offset with
      | some o => do pure (some (← countValue (← eval n env o)))
      | none => pure none
    -- sorting reads rows back from storage, which keeps no marks
    let marked := if order.isEmpty then applyLimit (rows.map (·.2.1)) lim off else []
    pure { columns := cols, rows := applyLimit sorted lim off, marked }

/-- Sorts the rows of a query by its `ORDER BY` terms. -/
def orderRows : Nat → Env → Compound → List ColumnInfo → List (Expr × Bool × Option Bool) →
    List (List SqlValue × Option Frame) → Eval (List (List SqlValue))
  | 0, _, _, _, _, _ => outOfFuel
  | n + 1, env, body, cols, order, rows =>
    if order.isEmpty then pure (rows.map (·.1))
    else do
      let aliases : List (Option String) := match body with
        | .single (.select _ items _ _ _ _) =>
          items.flatMap fun
            | .expr _ a _ => [a]
            | _ => []
        | _ => []
      let compound := match body with
        | .single _ => false
        | .combine _ _ _ => true
      -- each term becomes a result column number or an expression to compute per row
      let terms ← (order.zip (List.range order.length)).mapM fun ((e, desc, nulls), i) => do
        match e.ordinalTerm? with
        | some k =>
          if k ≤ 0 || k > cols.length then
            failWith (ordinal (i + 1) ++ " ORDER BY term out of range - should be between 1 and " ++
              toString cols.length)
          else pure (Sum.inl (k.toNat - 1), desc, nulls)
        | none =>
          if compound then
            match e with
            | .column none none name | .quoted name =>
              match cols.findIdx? (sameName ·.name name) with
              | some k => pure (Sum.inl k, desc, nulls)
              | none =>
                failWith (ordinal (i + 1) ++
                  " ORDER BY term does not match any column in the result set")
            | .collate (.column none none name) _ =>
              if cols.any (sameName ·.name name) then pure (Sum.inr e, desc, nulls)
              else
                failWith (ordinal (i + 1) ++
                  " ORDER BY term does not match any column in the result set")
            | _ =>
              failWith (ordinal (i + 1) ++
                " ORDER BY term does not match any column in the result set")
          else
            match aliasIndex aliases e with
            | some k => pure (Sum.inl k, desc, nulls)
            | none => pure (Sum.inr e, desc, nulls)
      let keyed ← rows.mapM fun (vals, frame) => do
        let fenv := match frame with
          | some f => env.push f
          | none => env
        let key ← terms.mapM fun (t, desc, nulls) => do
          match t with
          | .inl k =>
            let c := (cols.getD k default).collation
            pure (vals.getD k .null, c, desc, nulls)
          | .inr e =>
            match frame with
            | some _ => do
              let v ← eval n fenv e
              let c ← liftError (exprCollation fenv e)
              pure (v, c.getD .binary, desc, nulls)
            | none =>
              -- a compound's term with a collation: the named column under that collation
              match e with
              | .collate (.column none none name) cname => do
                let c ← liftError (collationNamed cname)
                let k := (cols.findIdx? (sameName ·.name name)).getD 0
                pure (vals.getD k .null, c, desc, nulls)
              | _ => pure (.null, .binary, desc, nulls)
        pure (key, vals)
      pure ((sortStable (fun a b => compareKeys a.1 b.1) keyed).map (·.2))

/-- The rows of a compound query, each with the scope it was computed in (none for rows
of a set operation); a simple query is read and grouped for the ordering `order` and the
limit `limit` of the query around it. -/
def runCompound : Nat → Env → List (Expr × Bool × Option Bool) → Option Expr → Compound →
    Eval (List ColumnInfo × List (List SqlValue × List Bool × Option Frame))
  | 0, _, _, _, _ => outOfFuel
  | n + 1, env, order, limit, .single c => do
    let (cols, rows) ← runCore n env order limit c
    pure (cols, rows.map fun (v, m, f) => (v, m, some f))
  | n + 1, env, _, _, .combine op left right => do
    let (lc, lrows) ← runCompound n env [] none left
    let (rc, rrows) ← runCore n env [] none right
    if lc.length ≠ rc.length then
      failWith ("SELECTs to the left and right of " ++ op.keyword ++
        " do not have the same number of result columns")
    else
      let colls := lc.map (·.collation)
      let l := lrows.map (·.1)
      let r := rrows.map (·.1)
      let inRight (row : List SqlValue) : Bool := r.any (compareRows colls row · == .eq)
      let plain (rows : List (List SqlValue)) := rows.map fun v => (v, v.map fun _ => false, none)
      match op with
      | .unionAll =>
        pure (lc, lrows.map (fun (v, m, _) => (v, m, none)) ++ rrows.map fun (v, m, _) => (v, m, none))
      | .union => pure (lc, plain (sortedDistinct colls (l ++ r)))
      | .intersect => pure (lc, plain (sortedDistinct colls (l.filter inRight)))
      | .except => pure (lc, plain (sortedDistinct colls (l.filter (!inRight ·))))

/-- The rows of a simple query, each with the scope its values were computed in. A query
over one stored table reads its rows in the order of the access path the planner chooses
for the ordering `order` and the limit `limit`. Its groups come in the order they are read
when that path delivers them grouped, else in key order, in the directions of the ordering
terms when there are as many of them as grouping terms, else ascending. -/
def runCore : Nat → Env → List (Expr × Bool × Option Bool) → Option Expr → Core →
    Eval (List ColumnInfo × List (List SqlValue × List Bool × Frame))
  | 0, _, _, _, _ => outOfFuel
  | n + 1, env, _, _, .values rows => do
    let vals ← rows.mapM fun r => r.mapM (eval n env)
    let width := (rows.headD []).length
    let cols := (List.range width).map fun i => ({ name := "column" ++ toString (i + 1) } : ColumnInfo)
    pure (cols, vals.map fun v => (v, v.map fun _ => false, {}))
  | n + 1, env, order, limit, .select distinct items source filter groupBy having => do
    let descending := order.map (·.2.1)
    let (template, rows) ← match source with
      | some s =>
        if s.width > maxJoinWidth then
          failWith ("at most " ++ toString maxJoinWidth ++ " tables in a join")
        else sourceRows n env s
      | none => pure ([], [[]])
    let results ← itemColumns n env template items
    let aliases := results.filterMap fun (e, _, a) => a.map fun a => (a, e)
    let frameOf (row : List Binding) : Frame := { bindings := row, aliases }
    let rows ← match filter with
      | some c => filterLevel n env frameOf template c rows
      | none => pure rows
    let exprs := results.map (·.1)
    let (rows, grouped) ← match env.plannedTable source, template with
      | some t, [_] =>
        let names := results.map (·.2.2)
        let resolve (e : Expr) : Expr :=
          match e.ordinalTerm? with
          | some k => if 0 < k && k.toNat ≤ exprs.length then exprs.getD (k.toNat - 1) e else e
          | none =>
            match aliasIndex names e, e with
            | some k, _ => exprs.getD k e
            | none, .collate inner c =>
              match aliasIndex names inner with
              | some k => .collate (exprs.getD k inner) c
              | none => e
            | none, _ => e
        let orderBy := order.map fun (e, d, nulls) => (resolve e, d, nulls)
        let keys := groupBy.map fun g =>
          match g.ordinalTerm? with
          | some k => if 0 < k && k.toNat ≤ exprs.length then exprs.getD (k.toNat - 1) g else g
          | none => g
        let havingTerms := (having.map Expr.conjuncts).getD []
        let calls := (exprs ++ orderBy.map (·.1) ++ having.toList).flatMap (·.aggregateCalls walkDepth)
        let req : Plan.Request :=
          { conjuncts := (filter.map Expr.conjuncts).getD [], orderBy, groupBy := keys,
            hasHaving := having.isSome, plainHaving := havingTerms.filter (!·.hasAggregate),
            aggregate := !groupBy.isEmpty || !calls.isEmpty, distinct, results := exprs, calls,
            limit := limit.bind fixedLimit,
            reads := exprs ++ filter.toList ++ groupBy ++ having.toList ++ order.map (·.1) }
        readOrder n env t frameOf template req rows
      | _, _ :: _ :: _ =>
        match source.bind env.joinItems with
        | some items =>
          if items.length == template.length then do
            let reads := exprs ++ filter.toList ++ groupBy ++ having.toList ++ order.map (·.1)
            let unordered := order.isEmpty && groupBy.isEmpty
            pure (← joinOrder n env items template (frameOf template) filter reads unordered rows, false)
          else pure (rows, false)
        | none => pure (rows, false)
      | _, _ => pure (rows, false)
    -- grouping reads the rows back from a sorter, which keeps no marks
    let rows := if groupBy.isEmpty then rows else rows.map (·.map Binding.unmarked)
    let isAggregate := !groupBy.isEmpty || exprs.any Expr.hasAggregate ||
      (having.map Expr.hasAggregate).getD false
    let frames ←
      if !isAggregate then do
        if having.isSome then failWith "HAVING clause on a non-aggregate query"
        else pure (rows.map frameOf)
      else do
        let keys ← (groupBy.zip (List.range groupBy.length)).mapM fun (g, i) =>
          match g.ordinalTerm? with
          | some k =>
            if k ≤ 0 || k > exprs.length then
              failWith (ordinal (i + 1) ++ " GROUP BY term out of range - should be between 1 and " ++
                toString exprs.length)
            else pure (exprs.getD (k.toNat - 1) default)
          | none => pure g
        if keys.any Expr.hasAggregate then
          failWith "aggregate functions are not allowed in the GROUP BY clause"
        else
          -- grouping takes the directions of an ordering with as many terms
          let senses := if descending.length == keys.length then descending else []
          let groups ← groupRows n env frameOf keys senses grouped rows
          let calls := (exprs ++ having.toList).flatMap (·.aggregateCalls walkDepth)
          let minMax := (calls.filter fun
            | .call name _ [_] _ _ _ => name.toLower == "min" || name.toLower == "max"
            | _ => false).getLast?
          let groups := if groupBy.isEmpty && groups.isEmpty then [[]] else groups
          let perGroup ← groups.mapM fun g => do
            let rep ← representative n env frameOf minMax g
            let rep := rep.getD (template.map Binding.blank)
            let fr : Frame := { bindings := rep, group := some g, aliases }
            let fenv := env.push fr
            -- every aggregate reads every group, kept or not, and may fail on any
            for c in calls do
              let _ ← evalTagged n fenv c
            let keep ← match having with
              | some h => do pure (← eval n fenv h).holds
              | none => pure true
            if keep then pure (some fr) else pure none
          pure perGroup.reduceOption
    let out ← resultRows n env exprs frames
    let infos := results.map (·.2.1)
    let out := if distinct then
        out.foldl (fun acc (v, m, f) =>
          if acc.any (fun (w, _) => compareRows (infos.map (·.collation)) v w == .eq) then acc
          else acc ++ [(v, m, f)]) []
      else out
    pure (infos, out)

/-- The rows of a query grouped by keys, groups in key order: ascending, or descending
for the keys `descending` marks; the rows of a group in the order they were read. Rows
that arrive grouped (`presorted`) form their groups where they stand. -/
def groupRows : Nat → Env → (List Binding → Frame) → List Expr → List Bool → Bool →
    List (List Binding) → Eval (List (List (List Binding)))
  | 0, _, _, _, _, _, _ => outOfFuel
  | n + 1, env, frameOf, keys, descending, presorted, rows =>
    if keys.isEmpty then pure [rows]
    else do
      let colls ← keys.mapM fun k => liftError (exprCollation (env.push (frameOf (rows.headD []))) k)
      let colls := colls.map (·.getD .binary)
      let keyed ← rows.mapM fun row => do
        let vals ← keys.mapM (eval n (env.push (frameOf row)))
        pure (vals, row)
      let senses := descending ++ keys.map fun _ => false
      let spec (vals : List SqlValue) : List (SqlValue × Collation × Bool × Option Bool) :=
        (vals.zip (colls.zip senses)).map fun (v, c, d) => (v, c, d, none)
      let sorted := if presorted then keyed
        else sortStable (fun a b => compareKeys (spec a.1) (spec b.1)) keyed
      let runs := groupRuns (fun a b => compareRows colls a.1 b.1 == .eq) sorted
      pure (runs.map fun g => g.map (·.2))

/-- The access path as `reverse_unordered_selects` turns it: a query that asks for no
order of its rows reads them backwards. -/
def Plan.Access.unordered (access : Plan.Access) (db : Database) (q : Plan.Query) : Plan.Access :=
  if db.setting "reverse_unordered_selects" && q.order.isEmpty then
    { access with reverse := !access.reverse }
  else access

/-- Rows of a stored table (each with its place in table order) in the order an access
path reads them: the table in row-id order (primary-key order for a table without row ids),
or an index in key order, entries of one key in row-id (or primary-key) order; either
possibly backwards. -/
def arrangeRows : Nat → Env → Table → (List Binding → Frame) → Plan.Access →
    List (Plan.Probe × Option Index) → List (List Binding × Nat) → Eval (List (List Binding × Nat))
  | 0, _, _, _, _, _, _ => outOfFuel
  | n + 1, env, t, frameOf, access, probes, rows => do
    let (probe, index) := probes.getD access.probe default
    let sorted ← match index, access.orTerm with
      | some ix, none =>
        if t.withoutRowid && ix.origin == .primaryKey then pure rows
        else do
          let keyed ← rows.mapM fun (row, k) => do
            let vals ← ix.columns.mapM fun c => eval n (env.push (frameOf row)) c.expr
            pure (vals, (row, k))
          let spec (vals : List SqlValue) : List (SqlValue × Collation × Bool × Option Bool) :=
            (vals.zip probe.columns).map fun (v, c) => (v, c.collation, c.desc, none)
          pure ((sortStable (fun a b => compareKeys (spec a.1) (spec b.1)) keyed).map (·.2))
      | _, _ => pure rows
    pure (if access.reverse then sorted.reverse else sorted)

/-- The rows of a simple query over one stored table in the order its access path reads
them, and whether they arrive grouped by the `GROUP BY` terms. A path through an `OR` term
reads the rows of each side in turn, each side by the path chosen for it alone, and skips
the rows an earlier side read. -/
def readOrder : Nat → Env → Table → (List Binding → Frame) → List Binding → Plan.Request →
    List (List Binding) → Eval (List (List Binding) × Bool)
  | 0, _, _, _, _, _, _ => outOfFuel
  | n + 1, env, t, frameOf, template, req, rows => do
    let frame := frameOf template
    let fenv := env.push frame
    let scope : Plan.Scope :=
      { db := env.db, table := t, binding := frame.bindings.headD default,
        aliases := frame.aliases,
        affinity := fun e =>
          match exprAffinity n fenv e with
          | .ok a => a
          | .error _ => none,
        collation := fun e => ((exprCollation fenv e).toOption.bind id).getD .binary,
        compareCollation := fun a b => (binaryCollation fenv a b).toOption.getD .binary }
    let (q, probes) := scope.query walkDepth req
    let access := (q.choose (probes.map (·.1))).unordered env.db q
    let numbered := rows.zipIdx
    let arranged ← match access.orTerm with
      | some i => do
        let parts ← (scope.branchRequests walkDepth req q i).mapM fun (side, sub) => do
          let (sq, sprobes) := scope.query walkDepth sub
          let sideAccess := sq.choose (sprobes.map (·.1))
          let matching ← numbered.filterM fun (row, _) => do
            pure (← eval n (env.push (frameOf row)) side).holds
          arrangeRows n env t frameOf sideAccess sprobes matching
        pure (parts.flatten.foldl (fun (acc : List (List Binding × Nat) × List Nat) (row, k) =>
          if acc.2.contains k then acc else (acc.1 ++ [(row, k)], k :: acc.2)) ([], [])).1
      | none => arrangeRows n env t frameOf access probes numbered
    let grouped := q.mode == .groupBy && !req.groupBy.isEmpty && access.ordered == req.groupBy.length
    pure (arranged.map (·.1), grouped)

/-- The rows of a join of stored tables in the order the planner's nested loops read them.
Every conjunct of `WHERE` and of the joins' `ON` and `USING` clauses is read from each table,
the planner chooses a loop per table and their order (`Plan.solveJoin`), and rows come
ordered by each table's row's place in its loop, outermost first: a loop reads its table in
its probe's order, or its automatic index's (key columns, the other columns read, then the
row id), backwards for an unordered query under `reverse_unordered_selects`. Rows a `RIGHT`
or `FULL` join adds for unmatched right rows keep their place at the end. -/
def joinOrder : Nat → Env → List JoinItem → List Binding → Frame → Option Expr → List Expr →
    Bool → List (List Binding) → Eval (List (List Binding))
  | 0, _, _, _, _, _, _, _, _ => outOfFuel
  | n + 1, env, items, template, frame, filter, reads, unordered, rows => do
    let fenv := env.push frame
    let tables := items.map (·.table)
    let scopeAt (k : Nat) : Plan.Scope :=
      { db := env.db, table := tables.getD k default, binding := template.getD k default,
        aliases := frame.aliases, self := k,
        peers := (List.range items.length).filterMap fun j =>
          if j == k then none else some (j, tables.getD j default, template.getD j default),
        affinity := fun e =>
          match exprAffinity n fenv e with
          | .ok a => a
          | .error _ => none,
        collation := fun e => ((exprCollation fenv e).toOption.bind id).getD .binary,
        compareCollation := fun a b => (binaryCollation fenv a b).toOption.getD .binary }
    let conjuncts := joinConjuncts items template filter
    let reads := reads ++ conjuncts.map (·.expr)
    let (flags, conjuncts) :=
      (scopeAt 0).simplifyJoins walkDepth (Plan.joinFlags (items.map (·.kind))) conjuncts
    let prereqs := Plan.joinPrereqs flags
    let planned := (List.range items.length).map fun k =>
      (scopeAt k).joinQuery walkDepth conjuncts reads (prereqs.getD k []) (flags.getD k default)
    let loops := planned.flatMap fun (q, probes) =>
      (q.loopsWith (probes.map (·.1)) Plan.insertLoop).map fun l => { l with table := q.self }
    match Plan.solveJoin loops items.length 0 with
    | none => pure rows
    | some path =>
      let reverse := unordered && env.db.setting "reverse_unordered_selects"
      let levels ← path.loops.zipIdx.mapM fun (l, depth) => do
        let k := l.table
        let t := tables.getD k default
        let (q, probes) := planned.getD k default
        let (_, trows) := tableBindings env.db t (some (template.getD k default).name)
        let numbered := trows.zipIdx
        let arranged ←
          if l.auto then
            let outer := (path.loops.take depth).map (·.table)
            let cols := q.autoColumns outer
            let spec (row : List Binding) : List (SqlValue × Collation × Bool × Option Bool) :=
              let vals := (row.headD default).values
              cols.map fun (c, coll) => (vals.getD c .null, coll, false, none)
            pure (sortStable (fun a b => compareKeys (spec a.1) (spec b.1)) numbered)
          else
            arrangeRows n env t (fun row => { bindings := row }) { probe := l.probe } probes numbered
        let arranged := if reverse then arranged.reverse else arranged
        let ids := arranged.zipIdx.map fun ((row, _), pos) => ((row.headD default).rowid.getD 0, pos)
        pure (k, (ids.mergeSort fun a b => a.1 ≤ b.1).toArray)
      let anyRight := flags.any (·.right) || items.any (fun it => it.kind == .right || it.kind == .full)
      let keyOf (row : List Binding) : Bool × List Nat :=
        let unmatched := anyRight && ((row.headD default).rowid.isNone)
        (unmatched, if unmatched then []
          else levels.map fun (k, ids) =>
            match (row.getD k default).rowid with
            | some id => positionOf ids id
            | none => 0)
      let keyed := rows.map fun row => (keyOf row, row)
      let cmp (a b : (Bool × List Nat) × List Binding) : Ordering :=
        match a.1.1, b.1.1 with
        | false, true => .lt
        | true, false => .gt
        | true, true => .eq
        | false, false => compareOfLessAndEq a.1.2 b.1.2
      pure ((sortStable cmp keyed).map (·.2))

/-- The row of a group that columns outside aggregates are read from: the row where the
value of the last `min()` or `max()` was found, else the first row. -/
def representative : Nat → Env → (List Binding → Frame) → Option Expr → List (List Binding) →
    Eval (Option (List Binding))
  | 0, _, _, _, _ => outOfFuel
  | n + 1, env, frameOf, minMax, g =>
    match minMax with
    | some (.call name _ [arg] _ _ _) => do
      let greatest := name.toLower == "max"
      let coll ← liftError (exprCollation (env.push (frameOf (g.headD []))) arg)
      let coll := coll.getD .binary
      let vals ← g.mapM fun row => do pure (← eval n (env.push (frameOf row)) arg, row)
      let step (acc : Option SqlValue × Option (List Binding)) (x : SqlValue × List Binding) :=
        let (best, _) := acc
        let (v, row) := x
        match best, v with
        | none, .null => (none, some row)
        | _, .null => acc
        | none, v => (some v, some row)
        | some b, v =>
          let c := SqlValue.compareWith coll b v
          if (greatest && c == .lt) || (!greatest && c == .gt) then (some v, some row) else acc
      pure (vals.foldl step (none, none)).2
    | _ => pure g.head?

/-- The result columns of a simple query: each item's expression, description and
alias, with `*` and `t.*` spelled out. -/
def itemColumns : Nat → Env → List Binding → List Item →
    Eval (List (Expr × ColumnInfo × Option String))
  | 0, _, _, _ => outOfFuel
  | n + 1, env, template, items => do
    let star (bs : List Binding) : List (Expr × ColumnInfo × Option String) :=
      bs.flatMap fun b =>
        (b.columns.filter fun c => !b.merged.any (sameName · c.name) &&
            !b.hidden.any (sameName · c.name)).map fun c =>
          (.column none (some b.name) c.name, c, none)
    let fenv := env.push { bindings := template }
    let parts ← items.mapM fun item =>
      match item with
      | .all =>
        if template.isEmpty then failWith "no tables specified" else pure (star template)
      | .allOf t =>
        match template.filter (sameName ·.name t) with
        | [] => failWith ("no such table: " ++ t)
        | bs => pure (star bs)
      | .expr e aliasName text => do
        let aff ← exprAffinity n fenv e
        -- a result column's collation is looked up only when something compares by it
        let coll := (exprCollation fenv e).toOption.bind id
        let name := match aliasName with
          | some a => a
          | none =>
            match e with
            | .column _ _ c =>
              match fenv.lookup none none c with
              | .ok (some (.column _ info)) => info.name
              | _ => c
            | _ => text
        pure [(e, { name, affinity := aff, collation := coll.getD .binary }, aliasName)]
    pure parts.flatten

/-- The rows of a source: the template of its bindings (every value `NULL`) and one list
of bindings per row. -/
def sourceRows : Nat → Env → Source → Eval (List Binding × List (List Binding))
  | 0, _, _ => outOfFuel
  | n + 1, env, .table schema name aliasName => namedSource n env schema name aliasName
  | n + 1, env, .query q aliasName => do
    let r ← runQuery n env q
    let (b, rows) := relationBindings (aliasName.getD "") r
    let passes := q.passesMarks r.columns.length
    pure (b, (rows.zip (r.marked ++ rows.map fun _ => [])).map fun (row, marks) =>
      row.map (·.withMarks ((passes.zip marks).map fun (p, m) => p && m)))
  | n + 1, env, .call name args aliasName => do
    match env.db.findIn? none name with
    | some (.table t) =>
      if t.fullText.isSome then do
        let template ← sourceShape n env (.call name args aliasName)
        let (_, rows) := tableBindings env.db t (some (aliasName.getD name))
        match ← args.head?.mapM (eval n env) with
        | none => pure (template, rows)
        | some v =>
          let c := Expr.binary .eq (.column none none t.name) (.lit v)
          pure (template, ← filterLevel n env (fun row => { bindings := row }) template c rows)
      else failWith ("'" ++ name ++ "' is not a function")
    | _ =>
      let b := (← sourceShape n env (.call name args aliasName)).headD default
      let vals ← args.mapM (eval n env)
      let rows ← liftError (callRows env.db name vals)
      pure ([b], rows.zipIdx.map fun (r, k) =>
        [({ b with values := r.map (·.1), rowid := some k } : Binding).withMarks (r.map (·.2))])
  | n + 1, env, .join kind natural left right on usingColumns => do
    let (lt, lrows) ← sourceRows n env left
    -- a table-valued function on the right reads the columns of the left row
    let (rt, rrows) ← if right.isCall then do pure ((← sourceShape n env right), [])
      else sourceRows n env right
    let common ← if natural then pure (sharedColumns lt rt) else do
      for c in usingColumns do
        if (findColumn lt c).isNone || (findColumn rt c).isNone then
          failWith ("cannot join using column " ++ c ++ " - column not present in both tables")
      pure usingColumns
    let rt := markMerged common rt
    let rrows := rrows.map (markMerged common)
    let matchRows (l r : List Binding) : Eval Bool := do
      -- the right side's shared columns are merged away for names, not for the match
      let usingOk := common.all fun c =>
        match findColumn l c, (r.flatMap (·.matches true c)).head? with
        | some (x, xi), some (y, yi) =>
          compareValues (comparisonAffinity xi.affinity yi.affinity) xi.collation x y == some .eq
        | _, _ => false
      if !usingOk then pure false
      else
        match on with
        | some c => do pure (← eval n (env.push { bindings := l ++ r }) c).holds
        | none => pure true
    let pairs ← lrows.mapM fun l => do
      let candidates ← if right.isCall then do
          pure ((← sourceRows n (env.push { bindings := l }) right).2.map (markMerged common))
        else pure rrows
      let ms ← candidates.filterM (matchRows l)
      pure (l, ms)
    let leftPart := pairs.flatMap fun (l, ms) =>
      if ms.isEmpty && (kind == .left || kind == .full) then [l ++ rt.map Binding.blank]
      else ms.map (l ++ ·)
    let rightExtra ←
      if kind == .right || kind == .full then
        rrows.filterM fun r => do
          let hit ← lrows.anyM fun l => matchRows l r
          pure !hit
      else pure []
    pure (lt ++ rt, leftPart ++ rightExtra.map fun r => lt.map Binding.blank ++ r)

/-- The rows of a named source: a common table expression, the schema table, a table or
a view. -/
def namedSource : Nat → Env → Option String → String → Option String →
    Eval (List Binding × List (List Binding))
  | 0, _, _, _, _ => outOfFuel
  | n + 1, env, schema, name, aliasName =>
    match (if schema.isNone then env.cte? name else none) with
    | some (entry, scope) => do
      let r ← runCte n env entry scope
      pure (relationBindings (aliasName.getD entry.name) r)
    | none =>
      if isMasterName name then
        pure (tableBindings env.db (env.db.masterNamed schema name) aliasName)
      else
        match env.db.findIn? schema name with
        | some (.table t) => pure (tableBindings env.db t (some (aliasName.getD name)))
        | some (.view v) => do
          let r ← runQuery n (v.scope env.db) v.query
          let cols ← viewColumns v.name v.columns r.columns
          pure (relationBindings (aliasName.getD name) { r with columns := cols })
        | _ =>
          match pragmaTable env.db name with
          | some r => pure (relationBindings (aliasName.getD name) r)
          | none => failWith ("no such table: " ++ tableDisplay (schema.orElse fun _ => env.home) name)

/-- The rows of a common table expression, with the entries in scope at its
definition. -/
def runCte : Nat → Env → CteEntry → List CteEntry → Eval Relation
  | 0, _, _, _ => outOfFuel
  | n + 1, env, entry, scope =>
    match entry.body with
    | .rows r => pure r
    | .query q => do
      let inner := { env with ctes := scope }
      if q.mentions entry.name walkDepth then
        match q with
        | .mk ctes _ (.combine op left right) _ limit offset => do
          let inner ← inner.withCtes ctes
          let (cols, initial) ← runCompound n inner [] none left
          let cols ← renameColumns entry.name entry.columns cols
          let colls := cols.map (·.collation)
          let lim ← match limit with
            | some l => do pure (some (← countValue (← eval n inner l)))
            | none => pure none
          let off ← match offset with
            | some o => do pure (some (← countValue (← eval n inner o)))
            | none => pure none
          let initial := initial.map (·.1)
          let initial := if op == .union then distinctRows colls initial else initial
          let rows ← recursiveSteps n inner entry cols (op == .union) right lim initial []
          pure { columns := cols, rows := applyLimit rows none off }
        | _ => failWith ("circular reference: " ++ entry.name)
      else do
        let r ← runQuery n inner q
        let cols ← renameColumns entry.name entry.columns r.columns
        pure { r with columns := cols }

/-- Runs the recursive part of a common table expression on queued rows until the queue
is empty or the limit is reached; answers the rows in the order they left the queue. -/
def recursiveSteps : Nat → Env → CteEntry → List ColumnInfo → Bool → Core → Option Int →
    List (List SqlValue) → List (List SqlValue) → Eval (List (List SqlValue))
  | 0, _, _, _, _, _, _, _, _ => outOfFuel
  | n + 1, env, entry, cols, distinct, step, limit, queue, done =>
    match queue with
    | [] => pure done.reverse
    | row :: rest =>
      let done := row :: done
      let reached := match limit with
        | some l => l ≥ 0 && done.length ≥ l.toNat
        | none => false
      if reached then pure done.reverse
      else do
        let stepEnv := { env with ctes := ⟨entry.name, entry.columns, .rows { columns := cols, rows := [row] }⟩ :: env.ctes }
        let (_, fresh) ← runCore n stepEnv [] none step
        let fresh := fresh.map (·.1)
        let colls := cols.map (·.collation)
        let fresh := if distinct then
            (distinctRows colls fresh).filter fun r =>
              !(done ++ rest).any (compareRows colls r · == .eq)
          else fresh
        recursiveSteps n env entry cols distinct step limit (rest ++ fresh) done

/-- The columns a query gives, without running it. -/
def queryColumns : Nat → Env → Query → Eval (List ColumnInfo)
  | 0, _, _ => outOfFuel
  | n + 1, env, .mk ctes _ body _ _ _ => do
    let env ← env.withCtes ctes
    compoundColumns n env body

/-- The columns a compound query gives: those of its first simple query. -/
def compoundColumns : Nat → Env → Compound → Eval (List ColumnInfo)
  | 0, _, _ => outOfFuel
  | n + 1, env, .single c => coreColumns n env c
  | n + 1, env, .combine _ l _ => compoundColumns n env l

/-- The columns a simple query gives. -/
def coreColumns : Nat → Env → Core → Eval (List ColumnInfo)
  | 0, _, _ => outOfFuel
  | _ + 1, _, .values rows =>
    pure ((List.range (rows.headD []).length).map fun i => ({ name := "column" ++ toString (i + 1) } : ColumnInfo))
  | n + 1, env, .select _ items source _ _ _ => do
    let template ← match source with
      | some s => sourceShape n env s
      | none => pure []
    let results ← itemColumns n env template items
    pure (results.map (·.2.1))

/-- The bindings of a source with every value `NULL`, without reading its rows. -/
def sourceShape : Nat → Env → Source → Eval (List Binding)
  | 0, _, _ => outOfFuel
  | n + 1, env, .table schema name aliasName =>
    match (if schema.isNone then env.cte? name else none) with
    | some (entry, scope) => do
      let cols ← match entry.body with
        | .rows r => pure r.columns
        | .query q => queryColumns n { env with ctes := scope } q
      let cols ← renameColumns entry.name entry.columns cols
      pure (relationBindings (aliasName.getD entry.name) { columns := cols, rows := [] }).1
    | none =>
      if isMasterName name then
        pure (tableBindings env.db (env.db.masterNamed schema name) aliasName).1
      else
        match env.db.findIn? schema name with
        | some (.table t) => pure (tableBindings env.db t (some (aliasName.getD name))).1
        | some (.view v) => do
          let cols ← queryColumns n (v.scope env.db) v.query
          let cols ← viewColumns v.name v.columns cols
          pure (relationBindings (aliasName.getD name) { columns := cols, rows := [] }).1
        | _ =>
          match pragmaTable env.db name with
          | some r => pure (relationBindings (aliasName.getD name) { r with rows := [] }).1
          | none => failWith ("no such table: " ++ tableDisplay (schema.orElse fun _ => env.home) name)
  | n + 1, env, .query q aliasName => do
    let cols ← queryColumns n env q
    pure (relationBindings (aliasName.getD "") { columns := cols, rows := [] }).1
  | _ + 1, env, .call name args aliasName =>
    match tableFunctionColumns name with
    | some (cols, hidden) => pure [callBinding name aliasName cols hidden]
    | none =>
      match env.db.findIn? none name with
      | some (.table t) =>
        if t.fullText.isSome then
          if args.length > 2 then
            failWith ("too many arguments on " ++ name ++ "() - max 2")
          else pure (tableBindings env.db t (some (aliasName.getD name))).1
        else failWith ("'" ++ name ++ "' is not a function")
      | some (.view _) => failWith ("'" ++ name ++ "' is not a function")
      | _ => failWith ("no such table: " ++ tableDisplay env.home name)
  | n + 1, env, .join _ natural left right _ usingColumns => do
    let lt ← sourceShape n env left
    let rt ← sourceShape n env right
    let common := if natural then sharedColumns lt rt else usingColumns
    pure (lt ++ markMerged common rt)

/-- The affinity of an expression: a column's, a cast's type's, a subquery's first
column's; none for other expressions. -/
def exprAffinity : Nat → Env → Expr → Eval (Option Affinity)
  | 0, _, _ => outOfFuel
  | n + 1, env, e =>
    match e with
    | .column schema table name => do
      match env.lookup schema table name with
      | .ok (some (.column _ info)) => pure info.affinity
      | .ok (some (.aliased a depth)) => exprAffinity n (env.forAlias depth) a
      | _ => pure none
    | .quoted name => do
      match env.lookup none none name with
      | .ok (some (.column _ info)) => pure info.affinity
      | .ok (some (.aliased a depth)) => exprAffinity n (env.forAlias depth) a
      | _ => pure none
    | .subquery q => do pure ((← queryColumns n env q).headD default).affinity
    | .cast _ type => pure (some (Affinity.ofDeclared type))
    | .collate a _ => exprAffinity n env a
    | .row (a :: _) => exprAffinity n env a
    | _ => pure none

end

/-- The order a write changes the rows it matched (in table order) in, when it changes
them as it reads them: the order of the access path the planner picks for its `WHERE`.
A path through an `OR` term, or through an index the write changes (`changes`), first
collects the rows, which are then changed in table order. -/
def writeOrder (n : Nat) (env : Env) (t : Table) (template : List Binding) (req : Plan.Request)
    (changes : Index → Bool) (rows : List (List Binding)) : Eval (List (List Binding)) := do
  let frameOf (row : List Binding) : Frame := { bindings := row }
  let fenv := env.push (frameOf template)
  let scope : Plan.Scope :=
    { db := env.db, table := t, binding := template.headD default,
      affinity := fun e =>
        match exprAffinity n fenv e with
        | .ok a => a
        | .error _ => none,
      collation := fun e => ((exprCollation fenv e).toOption.bind id).getD .binary,
      compareCollation := fun a b => (binaryCollation fenv a b).toOption.getD .binary }
  let (q, probes) := scope.query walkDepth req
  let access := (q.choose (probes.map (·.1))).unordered env.db q
  let changed := match (probes.getD access.probe default).2 with
    | some ix => changes ix
    | none => false
  if access.orTerm.isSome || changed then pure rows
  else do
    let arranged ← arrangeRows n env t frameOf access probes rows.zipIdx
    pure (arranged.map (·.1))

end Relational

end CrateState
