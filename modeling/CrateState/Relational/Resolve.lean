import CrateState.Relational.Generated

/-!
# Checking a statement before it runs

The database reads a whole statement before running it, and refuses one that names what it
cannot find even when no row would reach the name: `DELETE … WHERE nope = 1` on an empty
table fails with `no such column: nope`. The checks walk a statement as evaluation would,
every source's row all `NULL`, raising evaluation's errors:

* every table and view read exists (`no such table`), and `USING` names a column of both
  sides;
* every column reference is found in the scope evaluation gives it: the query's sources,
  then the levels around; result aliases in `WHERE`, `GROUP BY`, `HAVING` and `ORDER BY`;
  `excluded` only by name in an upsert;
* every function exists and takes that many arguments;
* an aggregate stands only where a group is summarised (result columns, `HAVING`,
  `ORDER BY`), never in another aggregate's arguments, `GROUP BY` or `WHERE` (a misuse of
  the function in a query without aggregates, else, found later, of the aggregate);
* `RAISE` appears only in a trigger.

Every branch is checked, taken or not. A common table expression is checked where it is
read (never if unread); a recursive one reads itself by its columns only, which `visiting`
tracks.
-/

namespace CrateState

namespace Relational

/-- Whether a call is to an aggregate function. -/
def isAggregateCall (name : String) (args : Nat) (star : Bool) : Bool :=
  (Aggregate.ofCall name args star).isSome

/-- Checks that a name is found in scope. -/
def checkColumn (env : Env) (schema table : Option String) (name : String) : Eval Unit := do
  match ← liftError (env.lookup schema table name) with
  | some _ => pure ()
  | none =>
    if schema.isNone && table.isNone && (sameName name "true" || sameName name "false") then
      pure ()
    else fail (.noColumn (columnDisplay schema table name))

/-- Checks the result columns of a simple query against its sources. -/
def checkStars (template : List Binding) : Item → Eval Unit
  | .all => if template.isEmpty then failWith "no tables specified" else pure ()
  | .allOf t =>
    if template.any (sameName ·.name t) then pure () else failWith ("no such table: " ++ t)
  | .expr _ _ _ => pure ()

/-- The number of columns of a simple query's result, `*` and `t.*` spelled out. -/
def resultWidth (template : List Binding) (items : List Item) : Nat :=
  let star (bs : List Binding) : Nat :=
    bs.foldl (fun n b => n + (b.columns.filter fun c => !b.merged.any (sameName · c.name) &&
      !b.hidden.any (sameName · c.name)).length) 0
  items.foldl (fun n item => n + match item with
    | .all => star template
    | .allOf t => star (template.filter (sameName ·.name t))
    | .expr _ _ _ => 1) 0

/-- The error a check met last while it goes on; a check that cannot go on stops with it. -/
abbrev Pending := Option SqlError

/-- Enters a node of an expression: a node other than a column or a call stops the check
when an error was met before it. -/
def enter (pending : Pending) : Eval Unit :=
  match pending with
  | some e => fail e
  | none => pure ()

/-- Whether a function's value may change from call to call. -/
def isVolatile (name : String) : Bool :=
  ["random", "randomblob", "changes", "total_changes", "last_insert_rowid", "sqlite_version",
   "sqlite_source_id", "current_date", "current_time", "current_timestamp"].contains name.toLower

/-- The error a call gives before its arguments are read, if any: an unknown function, a
wrong number of arguments, an aggregate where none may stand, `FILTER` or `ORDER BY` on a
plain function,
or a function of changing value in a schema expression that refuses one. -/
def callError (env : Env) (aggregates : Bool) (name : String) (args : Nat)
    (star filter ordered : Bool) : Pending :=
  match arityAccepts name args with
  | none => some (.general ("no such function: " ++ name))
  | some false => some (.general ("wrong number of arguments to function " ++ name ++ "()"))
  | some true =>
    let changing : Pending := match env.own with
      | some p =>
        if p.fixed && isVolatile name then
          some (.general ("non-deterministic functions prohibited in " ++ p.phrase))
        else none
      | none => none
    if isWindowOnly name then some (.general ("misuse of window function " ++ name ++ "()"))
    else if isAggregateCall name args star then
      if aggregates then changing
      else some (.general ("misuse of aggregate function " ++ name ++ "()"))
    else if filter then
      some (.general ("FILTER may not be used with non-aggregate " ++ name ++ "()"))
    else if ordered then
      some (.general ("ORDER BY may not be used with non-aggregate " ++ name ++ "()"))
    else changing

/-- The error a call over a window gives before its arguments are read, if any: an unknown
function, one that cannot be called over a window, a window where none may stand, or a
wrong number of arguments. -/
def windowCallError (aggregates : Bool) (name : String) (args : Nat) (star : Bool) : Pending :=
  let arity := arityAccepts name args
  let windowable := isWindowOnly name ||
    (if arity == some true then isAggregateCall name args star
     else (List.range 3).any fun k => isAggregateCall name k false)
  match arity with
  | none => some (.general ("no such function: " ++ name))
  | some accepted =>
    if !windowable then some (.general (name ++ "() may not be used as a window function"))
    else if accepted && !aggregates then
      some (.general ("misuse of window function " ++ name ++ "()"))
    else if !accepted then
      some (.general ("wrong number of arguments to function " ++ name ++ "()"))
    else none

/-- The error the window of a call gives once its arguments are read, if any: a window
name that names none, a `RANGE` frame with an offset but not one ordering term, or
`FILTER` on a function that is no aggregate. -/
def windowError (name : String) (w : Window) (filter : Bool) : Pending :=
  match w with
  | .named b | .mk (some b) _ _ _ => some (.general ("no such window: " ++ b))
  | .mk none _ order frame =>
    let rangeOffset := match frame with
      | some (unit, s, f, _) => unit == .range && (s.hasOffset || f.hasOffset)
      | none => false
    if rangeOffset && order.length != 1 then
      some (.general "RANGE with offset PRECEDING/FOLLOWING requires one ORDER BY expression")
    else if isWindowOnly name && filter then
      some (.general "FILTER clause may only be used with aggregate window functions")
    else none

/-! ## Collations looked up

Preparing a statement looks up a collation only where one is used: in a comparison (both
sides of it, of `BETWEEN`, of an `IN` and of each `WHEN` of a `CASE` with an operand), for
the arguments of `min`, `max` and `nullif`, for the keys of ordering, grouping, `DISTINCT`
and windows, for the columns of a compound query that removes duplicates and for the
columns of a subquery, view or common table expression read as a source. A `COLLATE` that
names no collation fails there, even when no row is ever compared, and nowhere else: a
value written with one is just the value. These lookups come after every name of the
statement is found, so they are made on a second reading (`Env.collations`). -/

/-- Looks up a collation when the reading does. -/
def lookUp (env : Env) (found : Except SqlError (Option Collation)) : Eval Unit :=
  if env.collations then do
    let _ ← liftError found
  else pure ()

/-- Looks up the collation a comparison of `a` with `b` uses; row values are compared
element by element, and a truth test (`x IS TRUE`) compares nothing. -/
def lookUpComparison (env : Env) (op : BinaryOp) (a b : Expr) : Eval Unit := do
  let word := if op == .is || op == .isNot then b.truthWord? walkDepth else none
  let truth := match word with
    | some (name, _) => match env.lookup none none name with
      | .ok none => true
      | _ => false
    | none => false
  let nullTest := (op == .is || op == .isNot) && (match b with
    | .lit .null => true
    | _ => false)
  if env.collations && !truth && !nullTest then
    let pairs := match a, b with
      | .row xs, .row ys => xs.zip ys
      | _, _ => [(a, b)]
    for (x, y) in pairs do
      lookUp env (Expr.comparisonCollation env.columnCollation x y)

/-- Looks up the collations of arguments until one has one: the collation `min`, `max`
and `nullif` compare with. -/
def lookUpFirst (env : Env) : List Expr → Eval Unit
  | [] => pure ()
  | a :: rest => do
    if env.collations then
      match ← liftError (exprCollation env a) with
      | some _ => pure ()
      | none => lookUpFirst env rest

/-- Looks up the collations a call uses: those `min`, `max` and `nullif` compare with, and
those of the arguments of an aggregate over distinct values and of its ordering terms. -/
def lookUpCall (env : Env) (name : String) (distinct : Bool) (args : List Expr)
    (order : List Expr) : Eval Unit := do
  if ["min", "max", "nullif"].contains name.toLower then lookUpFirst env args
  if distinct then
    for a in args do lookUp env (exprCollation env a)
  for o in order do lookUp env (exprCollation env o)

/-- The collation of an expression judged without its scope: what its `COLLATE` names,
a column reference standing for a column, which always has a collation (the row id and
the words `TRUE` and `FALSE` aside). -/
def Expr.namedCollation (e : Expr) : Except SqlError (Option Collation) :=
  Expr.collation (fun x => match x with
    | .column _ _ name =>
      .ok (if isRowidName name || sameName name "true" || sameName name "false" then none
        else some .binary)
    | .quoted _ => .ok (some .binary)
    | _ => .ok none) walkDepth e

/-- The simple queries of a compound, left to right. -/
def Compound.cores : Compound → List Core
  | .single c => [c]
  | .combine _ l r => l.cores ++ [r]

/-- Whether a compound removes duplicate rows somewhere (any set operator but
`UNION ALL`). -/
def Compound.removesDuplicates : Compound → Bool
  | .single _ => false
  | .combine op l _ => op != .unionAll || l.removesDuplicates

/-- The result expressions of a simple query by position, `none` for a `*`. -/
def Core.resultExprs : Core → List (Option Expr)
  | .values rows => (rows.head?.getD []).map some
  | .select _ items _ _ _ _ => items.map fun
    | .expr e _ _ => some e
    | _ => none

/-- The aliases of a simple query's result columns by position. -/
def Core.resultAliases : Core → List (Option String)
  | .values _ => []
  | .select _ items _ _ _ _ => items.map fun
    | .expr _ a _ => a
    | _ => none

/-- The collation of a compound's column: that of the first simple query, from the left,
whose expression there has one. -/
def compoundCollation (cores : List Core) (k : Nat) : Except SqlError (Option Collation) :=
  cores.foldlM (fun acc c =>
    match acc with
    | some x => pure (some x)
    | none =>
      match c.resultExprs.getD k none with
      | some e => Expr.namedCollation e
      | none => pure none) none

/-- Looks up the collations of the columns of a query read as a source: those of its
first simple query's result expressions. -/
def lookUpColumns (env : Env) (q : Query) : Eval Unit :=
  match q with
  | .mk _ _ body _ _ _ =>
    match body.cores.head? with
    | some c =>
      for e in c.resultExprs do
        match e with
        | some e => lookUp env (Expr.namedCollation e)
        | none => pure ()
    | none => pure ()

/-- The result column an ordering or grouping term stands for: by number or by alias. -/
def termColumn (aliases : List (Option String)) (e : Expr) : Option Nat :=
  match e.ordinalTerm? with
  | some k => if k ≥ 1 then some (k.toNat - 1) else none
  | none => aliasIndex aliases e

/-- Looks up the collations of the ordering or grouping terms of a simple query, in the
scope of its result columns: a term standing for a result column uses that column's
expression. -/
def lookUpKeys (env : Env) (aliases : List (Option String)) (results : List (Option Expr))
    (terms : List Expr) : Eval Unit :=
  for t in terms do
    match termColumn aliases t with
    | some k =>
      match results.getD k none with
      | some e => lookUp env (exprCollation env e)
      | none => pure ()
    | none => lookUp env (exprCollation env t)

/-- Looks up the collations of the ordering terms of a compound query: a term's own
`COLLATE`, else the collation of the column it names. -/
def lookUpCompoundKeys (env : Env) (cores : List Core) (terms : List Expr) : Eval Unit :=
  for t in terms do
    if t.hasCollate walkDepth then lookUp env (Expr.namedCollation t)
    else
      match cores.head? with
      | some c =>
        match termColumn c.resultAliases t with
        | some k => lookUp env (compoundCollation cores k)
        | none => pure ()
      | none => pure ()

mutual

/-- Reads an expression after the errors met so far (`pending`) and answers the error met
last; `aggregates` says whether an aggregate may stand here. Reading stops at a missing
column, and at any node but a column, a call or a `NULL` test once an error is met; a call
reads its arguments after its own error and lets the reading go on after them. -/
def walkExpr : Nat → Env → List String → Bool → Pending → Expr → Eval Pending
  | 0, _, _, _, _, _ => outOfFuel
  | n + 1, env, visiting, aggregates, pending, e =>
    match e with
    | .lit _ => do
      enter pending
      pure none
    | .param _ =>
      match env.own with
      | some p => failWith ("parameters prohibited in " ++ p.phrase)
      | none => do
        enter pending
        pure none
    | .column schema table name => do
      checkColumn env schema table name
      pure pending
    | .quoted name => do
      let _ ← liftError (env.lookup none none name)
      pure pending
    | .unary _ a | .cast a _ => do
      enter pending
      walkExpr n env visiting aggregates none a
    | .nullTest a _ => walkArgs n env visiting aggregates pending [a]
    | .binary op a b => do
      enter pending
      -- `IS` reads a bare name on its right first, to tell `TRUE` and `FALSE` from columns
      let order := match op, b with
        | .is, .column none none _ | .isNot, .column none none _ | .is, .quoted _
        | .isNot, .quoted _ => [b, a]
        | _, _ => [a, b]
      let p ← walkList n env visiting aggregates none order
      if p.isNone && op.isComparison then lookUpComparison env op a b
      pure p
    | .collate a _ => do
      enter pending
      walkExpr n env visiting aggregates none a
    | .between a lo hi _ => do
      enter pending
      let p ← walkList n env visiting aggregates none [a, lo, hi]
      if p.isNone then
        lookUpComparison env .ge a lo
        lookUpComparison env .le a hi
      pure p
    | .inList a items _ => do
      enter pending
      let p ← walkList n env visiting aggregates none (a :: items)
      if p.isNone then lookUp env (exprCollation env a)
      pure p
    | .inQuery a q _ => do
      enter pending
      match env.own with
      | some p => failWith ("subqueries prohibited in " ++ p.phrase)
      | none =>
        -- the subquery is read before the value it is searched for
        checkQuery n env visiting q
        let p ← walkExpr n env visiting aggregates none a
        let first := match q with
          | .mk _ _ body _ _ _ => ((body.cores.head?.map Core.resultExprs).getD []).head?.join
        if p.isNone then
          lookUp env (Expr.comparisonCollation env.columnCollation a (first.getD (.lit .null)))
        pure p
    | .pattern op a pat escape _ =>
      -- a pattern operator is a call of its function, the pattern first
      let own : Pending := match op with
        | .regexp => some (.general "no such function: REGEXP")
        | _ => none
      walkArgs n env visiting aggregates (own.orElse fun _ => pending) (pat :: a :: escape.toList)
    | .case operand arms otherwise => do
      enter pending
      let p ← walkList n env visiting aggregates none
        (operand.toList ++ arms.flatMap (fun (c, r) => [c, r]) ++ otherwise.toList)
      if p.isNone then
        match operand with
        | some o =>
          for (w, _) in arms do lookUpComparison env .eq o w
        | none => pure ()
      pure p
    | .call name distinct args star filter order => do
      let own := (callError env aggregates name args.length star filter.isSome !order.isEmpty).orElse
        fun _ => match args with
          | [_, p] =>
            if name.toLower == "likelihood" && !p.isProbability then
              some (.general (likelihoodMessage name))
            else none
          | _ => none
      let aggregate := own.isNone && isAggregateCall name args.length star
      let pending ← walkArgs n env visiting (aggregates && !aggregate)
        (own.orElse fun _ => pending) args
      let p ← if aggregate then walkArgs n env visiting false pending (order.map (·.1) ++ filter.toList)
        else pure pending
      if p.isNone then lookUpCall env name distinct args (order.map (·.1))
      pure p
    | .hasRows q | .subquery q => do
      enter pending
      match env.own with
      | some p => failWith ("subqueries prohibited in " ++ p.phrase)
      | none =>
        checkQuery n env visiting q
        pure none
    | .raise _ message => do
      enter pending
      if !env.inTrigger then failWith "RAISE() may only be used within a trigger-program"
      else walkList n env visiting aggregates none message.toList
    | .row items => do
      enter pending
      walkList n env visiting aggregates none items
    | .window f w =>
      match f with
      | .call name _ args star filter _ => do
        let own := windowCallError aggregates name args.length star
        let pending ← walkArgs n env visiting aggregates (own.orElse fun _ => pending) args
        if pending.isSome then pure pending
        else
          let pending ← walkArgs n env visiting aggregates (windowError name w filter.isSome) w.terms
          let p ← walkArgs n env visiting aggregates pending filter.toList
          if p.isNone then
            lookUpCall env name false args []
            for t in w.terms do lookUp env (exprCollation env t)
          pure p
      | _ => pure pending

/-- Reads expressions one after another; a stop in one stops the whole reading. -/
def walkList : Nat → Env → List String → Bool → Pending → List Expr → Eval Pending
  | 0, _, _, _, _, _ => outOfFuel
  | n + 1, env, visiting, aggregates, pending, es =>
    es.foldlM (walkExpr n env visiting aggregates) pending

/-- Reads the arguments of a call one after another; a stop in one ends the reading of
the arguments, its error the one met last, and the reading around the call goes on. -/
def walkArgs : Nat → Env → List String → Bool → Pending → List Expr → Eval Pending
  | 0, _, _, _, _, _ => outOfFuel
  | n + 1, env, visiting, aggregates, pending, es => do
    let step (acc : Pending × Bool) (a : Expr) : Eval (Pending × Bool) :=
      if acc.2 then pure acc
      else
        match walkExpr n env visiting aggregates acc.1 a with
        | .ok p => pure (p, false)
        | .error (.error err _) => pure (some err, true)
        | .error s => throw s
    let (p, _) ← es.foldlM step (pending, false)
    pure p

/-- Checks an expression on its own, failing with the error it met last. -/
def checkExpr : Nat → Env → List String → Bool → Expr → Eval Unit
  | 0, _, _, _, _ => outOfFuel
  | n + 1, env, visiting, aggregates, e => do
    match ← walkExpr n env visiting aggregates none e with
    | some err => fail err
    | none => pure ()

def checkExprs : Nat → Env → List String → Bool → List Expr → Eval Unit
  | 0, _, _, _, _ => outOfFuel
  | n + 1, env, visiting, aggregates, es => es.forM (checkExpr n env visiting aggregates)

/-- Checks a full query: its body, then its ordering terms in the scope of its simple
query (terms naming a result column by number or alias need nothing), then its limit. -/
def checkQuery : Nat → Env → List String → Query → Eval Unit
  | 0, _, _, _ => outOfFuel
  | n + 1, env, visiting, .mk ctes _ body order limit offset => do
    let env ← env.withCtes ctes
    let frame ← checkCompound n env visiting body
    match frame with
    | some f =>
      let aliases := f.aliases.map fun (a, _) => some a
      let terms := order.filterMap fun (e, _, _) =>
        if e.ordinalTerm?.isSome || (aliasIndex aliases e).isSome then none else some e
      checkExprs n (env.push f) visiting true terms
      match body with
      | .single c => lookUpKeys (env.push f) c.resultAliases c.resultExprs (order.map (·.1))
      | _ => pure ()
    | none => lookUpCompoundKeys env body.cores (order.map (·.1))
    if body.removesDuplicates then
      let width := ((body.cores.head?.map Core.resultExprs).getD []).length
      for k in List.range width do lookUp env (compoundCollation body.cores k)
    checkExprs n env visiting false (limit.toList ++ offset.toList)

/-- Checks a compound query; answers the scope of its simple query when it has only one. -/
def checkCompound : Nat → Env → List String → Compound → Eval (Option Frame)
  | 0, _, _, _ => outOfFuel
  | n + 1, env, visiting, .single c => some <$> checkCore n env visiting c
  | n + 1, env, visiting, .combine _ left right => do
    let _ ← checkCompound n env visiting left
    let _ ← checkCore n env visiting right
    pure none

/-- Checks a simple query in the order the database does (sources, result columns,
`HAVING`, `WHERE`, `GROUP BY`); answers its scope with its result aliases. -/
def checkCore : Nat → Env → List String → Core → Eval Frame
  | 0, _, _, _ => outOfFuel
  | n + 1, env, visiting, .values rows => do
    checkExprs n env visiting false rows.flatten
    pure {}
  | n + 1, env, visiting, .select distinct items source filter groupBy having => do
    let template ← match source with
      | some s => do
        let template ← checkSource n env visiting s
        match usingAmbiguity s.spine template with
        | some c => failWith ("ambiguous reference to " ++ c ++ " in USING()")
        | none => pure template
      | none => pure []
    for item in items do
      checkStars template item
    if resultWidth template items > maxColumns then failWith "too many columns in result set"
    let exprs := items.filterMap fun
      | .expr e _ _ => some e
      | _ => none
    checkExprs n (env.push { bindings := template }) visiting true exprs
    let aliases := items.filterMap fun
      | .expr e (some a) _ => some (a, e)
      | _ => none
    let frame : Frame := { bindings := template, aliases }
    let inner := env.push frame
    let isAggregate := !groupBy.isEmpty || exprs.any Expr.hasAggregate
    match having with
    | some h =>
      if !isAggregate then failWith "HAVING clause on a non-aggregate query"
      else checkExpr n inner visiting true h
    | none => pure ()
    checkExprs n inner visiting isAggregate filter.toList
    let keys := groupBy.filter fun g => g.ordinalTerm?.isNone
    checkExprs n inner visiting true keys
    if keys.any Expr.hasAggregate then
      failWith "aggregate functions are not allowed in the GROUP BY clause"
    -- an aggregate query reads its `WHERE` before grouping, so no aggregate can stand there
    match (filter.toList.flatMap (fun (e : Expr) => e.aggregateCalls walkDepth)).head? with
    | some (.call name _ _ _ _ _) => failWith ("misuse of aggregate: " ++ name ++ "()")
    | _ => pure ()
    let core : Core := .select distinct items source filter groupBy having
    lookUpKeys inner core.resultAliases core.resultExprs groupBy
    if distinct then
      for e in exprs do lookUp inner (exprCollation inner e)
    pure frame

/-- Checks a source and answers its bindings, every value `NULL`. -/
def checkSource : Nat → Env → List String → Source → Eval (List Binding)
  | 0, _, _, _ => outOfFuel
  | n + 1, env, visiting, .table schema name aliasName => do
    match (if schema.isNone then env.cte? name else none) with
    | some (entry, scope) =>
      if !visiting.any (sameName · entry.name) then
        match entry.body with
        | .query q =>
          checkQuery n { env with ctes := entry :: scope } (entry.name :: visiting) q
          lookUpColumns env q
        | .rows _ => pure ()
    | none =>
      if !isMasterName name then
        match env.db.findIn? schema name with
        | some (.view v) =>
          if !visiting.any (sameName · v.name) then
            let inner := { v.scope env.db with collations := env.collations }
            checkQuery n inner (v.name :: visiting) v.query
            lookUpColumns inner v.query
        | _ => pure ()
    sourceShape n env (.table schema name aliasName)
  | n + 1, env, visiting, .query q aliasName => do
    checkQuery n env visiting q
    lookUpColumns env q
    sourceShape n env (.query q aliasName)
  | n + 1, env, visiting, .call name args aliasName => do
    checkExprs n env visiting false args
    sourceShape n env (.call name args aliasName)
  | n + 1, env, visiting, .join _ natural left right on usingColumns => do
    let lt ← checkSource n env visiting left
    let rt ← checkSource n (if right.isCall then env.push { bindings := lt } else env) visiting right
    for c in usingColumns do
      if (findColumn lt c).isNone || (findColumn rt c).isNone then
        failWith ("cannot join using column " ++ c ++ " - column not present in both tables")
    let common := if natural then sharedColumns lt rt else usingColumns
    let rt := markMerged common rt
    checkExprs n (env.push { bindings := lt ++ rt }) visiting false on.toList
    pure (lt ++ rt)

end

/-- Checks a query that runs as a statement of its own. -/
def Env.checkReads (env : Env) (fuel : Nat) (q : Query) : Eval Unit :=
  checkQuery fuel env [] q

/-- Checks the `RETURNING` items of a write, in the scope of the written row. -/
def checkReturning (fuel : Nat) (env : Env) (row : Binding) (items : Returning) : Eval Unit := do
  for item in items do
    checkStars [row] item
  let exprs := items.filterMap fun
    | .expr e _ _ => some e
    | _ => none
  checkExprs fuel (env.push { bindings := [row] }) [] false exprs

/-- Checks assignments: each value in the scope of the row, then the columns it
writes, which must be columns of the row (or its row id, when `rowid` allows it) and not
generated ones. -/
def checkAssignments (fuel : Nat) (env : Env) (scope : List Binding) (columns : List String)
    (generated : List String) (rowid : Bool) (sets : List Assignment) : Eval Unit := do
  for (names, e) in sets do
    checkExpr fuel (env.push { bindings := scope }) [] false e
    for name in names do
      match columns.find? (sameName · name) with
      | some c =>
        if generated.contains c then failWith ("cannot UPDATE generated column \"" ++ c ++ "\"")
      | none => if !(rowid && isRowidName name) then fail (.noColumn name)

/-- Checks an `UPDATE` whose written row is `row`: assignments, then `FROM` and
`WHERE`, then `RETURNING`. -/
def checkUpdate (fuel : Nat) (env : Env) (row : Binding) (generated : List String) (rowid : Bool)
    (u : Update) : Eval Unit := do
  let more ← match u.source with
    | some s => checkSource fuel env [] s
    | none => pure []
  let scope := row :: more
  checkAssignments fuel env scope (row.columns.map (·.name)) generated rowid u.sets
  checkExprs fuel (env.push { bindings := scope }) [] false u.filter.toList
  checkReturning fuel env row u.returning

/-- Checks a `DELETE` whose deleted row is `row`. -/
def checkDelete (fuel : Nat) (env : Env) (row : Binding) (d : Delete) : Eval Unit := do
  checkExprs fuel (env.push { bindings := [row] }) [] false d.filter.toList
  checkReturning fuel env row d.returning

/-- The column an indexed column or conflict target names, if it names one. -/
def IndexedColumn.columnName? (c : IndexedColumn) : Option String :=
  match c.expr with
  | .column none none n | .quoted n => some n
  | _ => none

/-- Whether an upsert's conflict target names the row id: its one column is the integer
primary key, or a name of the row id that no column takes. -/
def Table.targetIsRowid (t : Table) (cols : List IndexedColumn) : Bool :=
  match cols with
  | [c] =>
    match c.columnName? with
    | some n =>
      let primary := match t.rowidColumn with
        | some k => sameName (t.columns.getD k default).name n
        | none => false
      !t.withoutRowid && (primary || (isRowidName n && !t.columns.any (sameName ·.name n)))
    | none => false
  | _ => false

/-- Whether a conflict target names a unique index: as many columns, each column of the
index named by the target (in any order), under the same collation when the target
gives one; a partial index needs a target with a `WHERE`. -/
def Table.targetCovers (t : Table) (ix : Index) (cols : List IndexedColumn)
    (filter : Option Expr) : Bool :=
  ix.unique && cols.length == ix.columns.length && (ix.filter.isNone || filter.isSome) &&
    ix.columns.all fun ic =>
      match ic.columnName? with
      | some n =>
        let own := ((t.columns.find? (sameName ·.name n)).map (·.collation)).getD .binary
        let coll := (ic.collation.bind Collation.ofName?).getD own
        cols.any fun tc =>
          match tc.columnName? with
          | some m =>
            -- a target naming the row id's column names the row id, never an index column
            sameName m n && !(t.rowidColumn.any fun k => sameName (t.columns.getD k default).name m) &&
              (match tc.collation with
                | some c => Collation.ofName? c == some coll
                | none => true)
          | none => false
      | none => false

/-- Checks that every conflict target of an insert into a table names its row id or one
of its unique indexes. -/
def checkUpsertTargets (db : Database) (t : Table) (ups : List Upsert) : Eval Unit := do
  let numbered := ups.zip (List.range ups.length)
  for (up, k) in numbered do
    match up.target with
    | some (cols, filter) =>
      let found := t.targetIsRowid cols ||
        (db.indexesOf t.name).any fun ix => t.targetCovers ix cols filter
      if !found then
        let which := if ups.length == 1 then "" else ordinal (k + 1) ++ " "
        failWith (which ++ "ON CONFLICT clause does not match any PRIMARY KEY or UNIQUE constraint")
    | none => pure ()

/-- Checks the column list, rows, upserts and `RETURNING` of an `INSERT` into a row
shaped like `row`, whose `generated` columns take no value. -/
def checkInsert (fuel : Nat) (env : Env) (row : Binding) (generated : List String) (rowid : Bool)
    (ins : Insert) : Eval Unit := do
  let columns := row.columns.map (·.name)
  let display := tableDisplay ins.schema ins.table
  for nm in ins.columns.getD [] do
    match columns.find? (sameName · nm) with
    | some c =>
      if generated.contains c then failWith ("cannot INSERT into generated column \"" ++ c ++ "\"")
    | none =>
      if !(rowid && isRowidName nm) then
        failWith ("table " ++ display ++ " has no column named " ++ nm)
  let written := columns.filter fun c => !generated.contains c && !row.hidden.contains c
  match ins.source with
  | .query q => do
    checkQuery fuel env [] q
    let width := (← queryColumns fuel env q).length
    match ins.columns with
    | none =>
      if width ≠ written.length then
        failWith ("table " ++ display ++ " has " ++ toString written.length ++
          " columns but " ++ toString width ++ " values were supplied")
    | some names =>
      if width ≠ names.length then
        failWith (toString width ++ " values for " ++ toString names.length ++ " columns")
  | .defaults => pure ()
  match env.db.findIn? ins.schema ins.table with
  | some (.table t) =>
    if t.isVirtual && !ins.upserts.isEmpty then
      failWith ("UPSERT not implemented for virtual table \"" ++ t.name ++ "\"")
  | _ => pure ()
  let excluded : Binding := { row with name := "excluded", qualifiedOnly := true }
  for up in ins.upserts do
    match up.target with
    | some (cols, filter) =>
      checkExprs fuel (env.push { bindings := [row] }) [] false
        (cols.map (·.expr) ++ filter.toList)
    | none => pure ()
  match env.db.findIn? ins.schema ins.table with
  | some (.table t) => checkUpsertTargets env.db t ins.upserts
  | _ => if ins.upserts.isEmpty then pure () else failWith "cannot UPSERT a view"
  for up in ins.upserts do
    match up.action with
    | .update sets filter =>
      checkAssignments fuel env [row, excluded] columns generated rowid sets
      checkExprs fuel (env.push { bindings := [row, excluded] }) [] false filter.toList
    | .nothing => pure ()
  checkReturning fuel env row ins.returning

/-- Looks up the collations of the `CHECK` constraints a write tests: every one for an
insert, and for an update (`changed` its columns) those that read a changed column. -/
def lookUpChecks (fuel : Nat) (env : Env) (t : Table) (changed : Option (List String)) :
    Eval Unit := do
  if env.collations then
    let tested := t.checks.filter fun c =>
      match changed with
      | none => true
      | some names => (t.columnsRead fuel c.expr).any fun k =>
        names.any (sameName · (t.columns.getD k default).name)
    let scope : Env :=
      { db := env.db, collations := true,
        frames := [{ bindings := [t.binding t.name (t.columns.map fun _ => .null) none] }] }
    checkExprs fuel scope [] false (tested.map (·.expr))

/-! ## Statements with the triggers they fire

A write is read together with the programs of every trigger it may fire, whether or not
a row ever fires them: their `WHEN` conditions and their statements, and in turn the
triggers those statements may fire. A trigger already being read is not read again
inside itself, so the reading ends. Inside a trigger, `NEW` and `OLD` are reached only
by those names, and a table that is missing is named with the schema the trigger was
made in. -/

/-- Whether a trigger watches inserts. -/
def TriggerEvent.isInsert : TriggerEvent → Bool
  | .insert => true
  | _ => false

/-- Whether a trigger watches deletes. -/
def TriggerEvent.isDelete : TriggerEvent → Bool
  | .delete => true
  | _ => false

/-- Whether a trigger watches updates of any of the given columns. -/
def TriggerEvent.watchesUpdate (changed : List String) : TriggerEvent → Bool
  | .update cols => cols.isEmpty || cols.any fun c => changed.any (sameName · c)
  | _ => false

/-- What a write statement writes to, as a check sees it. -/
structure WriteTarget where
  /-- The table's or view's name. -/
  name : String
  /-- The written row, every value `NULL`, under the statement's alias. -/
  row : Binding
  /-- Whether the row has a row id. -/
  rowid : Bool
  /-- The generated columns of the row, which no write names. -/
  generated : List String := []

/-- Finds what a write statement writes to: a table, or a view with `INSTEAD OF`
triggers for the event; the schema tables may not be written. A view's query is checked
first, so an error in it comes before the refusal to write it; a view that names more or
fewer columns than its query has takes its names with no affinity. -/
def findWriteTarget (fuel : Nat) (env : Env) (schema : Option String) (name : String)
    (aliasName : Option String) (event : TriggerEvent → Bool) : Eval WriteTarget := do
  match env.db.findIn? schema name with
  | some (.table t) =>
    if isMasterName name then failWith ("table " ++ name ++ " may not be modified")
    else
      let row := ((tableBindings env.db t (some (aliasName.getD t.name))).1).headD default
      let generated := t.generatedColumns.map fun k => (t.columns.getD k default).name
      pure { name := t.name, row, rowid := !t.withoutRowid, generated }
  | some (.view v) =>
    let inner := { v.scope env.db with collations := env.collations }
    checkQuery fuel inner [v.name] v.query
    let cols ← queryColumns fuel (v.scope env.db) v.query
    let cols ← if v.columns.isEmpty || v.columns.length == cols.length then do
        lookUpColumns inner v.query
        renameColumns v.name v.columns cols
      else pure (v.columns.map fun n => ({ name := n } : ColumnInfo))
    if (env.db.triggersOf v.name).any (fun tr => tr.time == .insteadOf && event tr.event) then
      pure { name := v.name, rowid := false,
             row := { name := aliasName.getD v.name, columns := cols, values := cols.map fun _ => .null } }
    else failWith ("cannot modify " ++ v.name ++ " because it is a view")
  | _ =>
    if isMasterName name then
      if env.db.setting "writable_schema" then
        let t := env.db.masterNamed schema name
        let row := ((tableBindings env.db t (some (aliasName.getD t.name))).1).headD default
        pure { name := t.name, row, rowid := true }
      else failWith ("table " ++ name ++ " may not be modified")
    else fail (.noTable (tableDisplay (schema.orElse fun _ => env.home) name))

/-- Checks that the generated columns of a table written to can be computed. -/
def checkGeneratedOrder (t : Table) : Eval Unit :=
  match t.generatedOrder with
  | .ok _ => pure ()
  | .error name => failWith ("generated column loop on \"" ++ name ++ "\"")

/-- The environment a trigger's program is read and run in: `NEW` and `OLD` of the
written row, reached only by name. -/
def triggerScope (env : Env) (tr : Trigger) (row : Binding) : Env :=
  let newB : Binding := { row with name := "new", qualifiedOnly := true }
  let oldB : Binding := { row with name := "old", qualifiedOnly := true }
  let bindings := match tr.event with
    | .insert => [newB]
    | .delete => [oldB]
    | .update _ => [newB, oldB]
  { db := env.db, frames := [{ bindings }], inTrigger := true, params := env.params,
    home := tr.store.home, collations := env.collations }

mutual

/-- Checks an `INSERT` and the triggers it may fire; `active` are the triggers being read. -/
def checkInsertStatement : Nat → Env → List String → Insert → Eval Unit
  | 0, _, _, _ => outOfFuel
  | n + 1, env, active, ins => do
    let env ← env.withCtes ins.ctes
    let target ← findWriteTarget n env ins.schema ins.table ins.aliasName TriggerEvent.isInsert
    checkInsert n env target.row target.generated target.rowid ins
    match env.db.findIn? ins.schema ins.table with
    | some (.table t) =>
      checkGeneratedOrder t
      lookUpChecks n env t none
      -- one row written at the top, with no trigger, cannot mend a dangling reference
      let oneRow := match ins.source with
        | .defaults | .query (.mk [] _ (.single (.values [_])) [] none none) => true
        | _ => false
      let alone := oneRow && !env.inTrigger &&
        !(env.db.triggersOf t.name).any (TriggerEvent.isInsert ·.event)
      checkForeignKeys env.db t (fun _ => true) (fun fk => !alone || fk.target.deferred)
    | _ => pure ()
    checkFired n env active target TriggerEvent.isInsert
    for up in ins.upserts do
      match up.action with
      | .update sets _ =>
        checkFired n env active target (TriggerEvent.watchesUpdate (sets.flatMap (·.1)))
      | .nothing => pure ()

/-- Checks an `UPDATE` and the triggers it may fire. -/
def checkUpdateStatement : Nat → Env → List String → Update → Eval Unit
  | 0, _, _, _ => outOfFuel
  | n + 1, env, active, u => do
    let env ← env.withCtes u.ctes
    let event := TriggerEvent.watchesUpdate (u.sets.flatMap (·.1))
    let target ← findWriteTarget n env u.schema u.table u.aliasName event
    checkUpdate n env target.row target.generated target.rowid u
    match env.db.findIn? u.schema u.table with
    | some (.table t) =>
      checkGeneratedOrder t
      let changed := u.sets.flatMap (·.1)
      lookUpChecks n env t (some changed)
      checkForeignKeys env.db t (fun fk => fk.selfReferring t || fk.childChanged t changed)
        (fun fk => fk.parentChanged t changed)
    | _ => pure ()
    checkFired n env active target event

/-- Checks a `DELETE` and the triggers it may fire. -/
def checkDeleteStatement : Nat → Env → List String → Delete → Eval Unit
  | 0, _, _, _ => outOfFuel
  | n + 1, env, active, d => do
    let env ← env.withCtes d.ctes
    let target ← findWriteTarget n env d.schema d.table d.aliasName TriggerEvent.isDelete
    checkDelete n env target.row d
    match env.db.findIn? d.schema d.table with
    | some (.table t) => checkForeignKeys env.db t (fun _ => true) (fun _ => true)
    | _ => pure ()
    checkFired n env active target TriggerEvent.isDelete

/-- Checks the programs of the triggers a write to a target may fire. -/
def checkFired : Nat → Env → List String → WriteTarget → (TriggerEvent → Bool) → Eval Unit
  | 0, _, _, _, _ => outOfFuel
  | n + 1, env, active, target, event => do
    let trigs := (env.db.triggersOf target.name).filter fun tr =>
      event tr.event && !active.any (sameName · tr.name)
    for tr in trigs do
      let inner := triggerScope env tr target.row
      checkExprs n inner [] false tr.condition.toList
      for a in tr.body do
        checkAction n inner (tr.name :: active) a

/-- Checks one statement of a trigger's program. -/
def checkAction : Nat → Env → List String → Action → Eval Unit
  | 0, _, _, _ => outOfFuel
  | n + 1, env, active, a =>
    match a with
    | .insert i => checkInsertStatement n env active i
    | .update u => checkUpdateStatement n env active u
    | .delete d => checkDeleteStatement n env active d
    | .select q => checkQuery n env [] q

end

end Relational

end CrateState
