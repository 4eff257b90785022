import CrateState.Relational.Value

/-!
# The syntax of statements

Statements of the database's language as trees. Names are kept as written (case
included); matching them against the schema, which ignores ASCII case, is the work of
name resolution and evaluation.

Expressions and queries refer to each other (a query holds expressions, an expression
may hold a subquery), so they form one mutual family: `Expr`, `Query`, `Compound`,
`Core`, `Item`, `Source` and `Cte`.

A few pieces of source text are kept beside the tree because the database shows them:
the text of a result column without an alias (its name), of a `CHECK` constraint (its
failure message) and of every `CREATE` statement (the schema table's `sql` column).
-/

namespace CrateState

namespace Relational

/-- A prefix operator. -/
inductive UnaryOp where
  /-- `-x` -/
  | neg
  /-- `+x`: the value unchanged, but without the affinity of a column. -/
  | plus
  /-- `~x` -/
  | bitNot
  /-- `NOT x` -/
  | not
  deriving DecidableEq, Repr, Inhabited

/-- An infix operator. -/
inductive BinaryOp where
  /-- `+` `-` `*` `/` `%` -/
  | arith (op : Arith)
  /-- `||` -/
  | concat
  /-- `&` `|` `<<` `>>` -/
  | bits (op : Bits)
  /-- `=` or `==` -/
  | eq
  /-- `<>` or `!=` -/
  | ne
  /-- `<` -/
  | lt
  /-- `<=` -/
  | le
  /-- `>` -/
  | gt
  /-- `>=` -/
  | ge
  /-- `IS` or `IS NOT DISTINCT FROM`: equality where `NULL` equals `NULL`. -/
  | is
  /-- `IS NOT` or `IS DISTINCT FROM`. -/
  | isNot
  /-- `AND` -/
  | and
  /-- `OR` -/
  | or
  /-- `->`: a JSON element as JSON text. -/
  | extract
  /-- `->>`: a JSON element as a value. -/
  | extractValue
  deriving DecidableEq, Repr, Inhabited

/-- A pattern-matching operator. -/
inductive PatternOp where
  /-- `LIKE`: `%` and `_` wildcards, ASCII case ignored. -/
  | like
  /-- `GLOB`: `*`, `?` and `[...]`, case kept. -/
  | glob
  /-- `REGEXP`: no such function is defined. -/
  | regexp
  /-- `MATCH`: no such function is defined. -/
  | matchOp
  deriving DecidableEq, Repr, Inhabited

/-- What `RAISE` does. -/
inductive RaiseAction where
  /-- `RAISE(IGNORE)`: skip the row being written. -/
  | ignore
  /-- `RAISE(ROLLBACK, msg)`: fail and end the transaction. -/
  | rollback
  /-- `RAISE(ABORT, msg)`: fail and undo the statement. -/
  | abort
  /-- `RAISE(FAIL, msg)`: fail and keep what the statement did so far. -/
  | fail
  deriving DecidableEq, Repr, Inhabited

/-- How two sources are joined. -/
inductive JoinKind where
  /-- `,`, `JOIN` or `INNER JOIN`. -/
  | inner
  /-- `CROSS JOIN`: an inner join whose tables the planner keeps in the order written. -/
  | cross
  /-- `LEFT [OUTER] JOIN`. -/
  | left
  /-- `RIGHT [OUTER] JOIN`. -/
  | right
  /-- `FULL [OUTER] JOIN`. -/
  | full
  deriving DecidableEq, Repr, Inhabited

/-- How two queries combine. -/
inductive SetOp where
  /-- `UNION`: distinct rows of either. -/
  | union
  /-- `UNION ALL`: all rows of both. -/
  | unionAll
  /-- `INTERSECT`: distinct rows of both. -/
  | intersect
  /-- `EXCEPT`: distinct rows of the first not in the second. -/
  | except
  deriving DecidableEq, Repr, Inhabited

/-- The name of a set operator as written. -/
def SetOp.keyword : SetOp → String
  | .union => "UNION"
  | .unionAll => "UNION ALL"
  | .intersect => "INTERSECT"
  | .except => "EXCEPT"

/-- What a write does when a row breaks a constraint. -/
inductive Conflict where
  /-- Fail and end the transaction. -/
  | rollback
  /-- Fail and undo the statement (the default). -/
  | abort
  /-- Fail and keep what the statement did so far. -/
  | fail
  /-- Skip the row. -/
  | ignore
  /-- Remove the rows in the way, then write. -/
  | replace
  deriving DecidableEq, Repr, Inhabited

/-- What a window frame counts in: rows, values of the ordering term, or groups of rows
equal under the ordering terms. -/
inductive FrameUnit where
  /-- `ROWS` -/
  | rows
  /-- `RANGE` -/
  | range
  /-- `GROUPS` -/
  | groups
  deriving DecidableEq, Repr, Inhabited

/-- The rows of a window frame that `EXCLUDE` leaves out. -/
inductive FrameExclude where
  /-- `EXCLUDE NO OTHERS` (the default): none. -/
  | noOthers
  /-- `EXCLUDE CURRENT ROW` -/
  | currentRow
  /-- `EXCLUDE GROUP`: the current row and the rows equal to it. -/
  | group
  /-- `EXCLUDE TIES`: the rows equal to the current row but the row itself. -/
  | ties
  deriving DecidableEq, Repr, Inhabited

mutual

/-- An expression. -/
inductive Expr where
  | lit (v : SqlValue)
  /-- A column, possibly qualified by a table (and a schema). -/
  | column (schema : Option String) (table : Option String) (name : String)
  /-- A double-quoted name that is read as a string literal when no column has it. -/
  | quoted (name : String)
  /-- A prefix operator. -/
  | unary (op : UnaryOp) (e : Expr)
  /-- An infix operator. -/
  | binary (op : BinaryOp) (a b : Expr)
  /-- `e COLLATE name`. -/
  | collate (e : Expr) (name : String)
  /-- `CAST(e AS type)`. -/
  | cast (e : Expr) (type : String)
  /-- `e ISNULL` (`true`) or `e NOTNULL` (`false`). -/
  | nullTest (e : Expr) (isNull : Bool)
  /-- `e [NOT] BETWEEN lo AND hi`. -/
  | between (e lo hi : Expr) (negated : Bool)
  /-- `e [NOT] IN (list)`. -/
  | inList (e : Expr) (items : List Expr) (negated : Bool)
  /-- `e [NOT] IN (query)` or `e [NOT] IN table`. -/
  | inQuery (e : Expr) (q : Query) (negated : Bool)
  /-- `e [NOT] LIKE pattern [ESCAPE c]` and the other pattern operators. -/
  | pattern (op : PatternOp) (e pat : Expr) (escape : Option Expr) (negated : Bool)
  /-- `CASE [operand] WHEN … THEN … [ELSE …] END`. -/
  | case (operand : Option Expr) (arms : List (Expr × Expr)) (otherwise : Option Expr)
  /-- A function call: name, `DISTINCT`, arguments, `*`, `FILTER (WHERE …)`, and the
  `ORDER BY` terms (term, descending, nulls first) an aggregate reads its rows in. -/
  | call (name : String) (distinct : Bool) (args : List Expr) (star : Bool)
      (filter : Option Expr) (order : List (Expr × Bool × Option Bool))
  /-- `EXISTS (query)`. -/
  | hasRows (q : Query)
  /-- `(query)`: the first column of its first row. -/
  | subquery (q : Query)
  /-- `RAISE(action[, message])`. -/
  | raise (action : RaiseAction) (message : Option Expr)
  /-- `(a, b, …)`: a row value. -/
  | row (items : List Expr)
  /-- A parameter, by its number from 1. -/
  | param (index : Nat)
  /-- A function call (a `call`) over a window: `f(…) OVER …`. -/
  | window (f : Expr) (w : Window)

/-- One end of a window frame. -/
inductive FrameBound where
  /-- `UNBOUNDED PRECEDING` -/
  | unboundedPreceding
  /-- `expr PRECEDING` -/
  | preceding (offset : Expr)
  /-- `CURRENT ROW` -/
  | currentRow
  /-- `expr FOLLOWING` -/
  | following (offset : Expr)
  /-- `UNBOUNDED FOLLOWING` -/
  | unboundedFollowing

/-- A window: the named window it builds on, the partition terms, the ordering terms and
the frame, when one is written (its unit, start, end and exclusion). -/
inductive Window where
  /-- `OVER name`: the window the `WINDOW` clause defines under the name, as it is. -/
  | named (name : String)
  /-- The parts of a window. -/
  | mk (base : Option String) (partition : List Expr) (order : List (Expr × Bool × Option Bool))
      (frame : Option (FrameUnit × FrameBound × FrameBound × FrameExclude))

/-- A full query: common table expressions, a compound body, ordering and a limit. -/
inductive Query where
  /-- `WITH [RECURSIVE] ctes body ORDER BY … LIMIT … OFFSET …`. -/
  | mk (ctes : List Cte) (recursive : Bool) (body : Compound)
      (order : List (Expr × Bool × Option Bool)) (limit : Option Expr) (offset : Option Expr)

/-- Simple queries combined by set operators, left to right. -/
inductive Compound where
  /-- One simple query. -/
  | single (c : Core)
  /-- `left op right`. -/
  | combine (op : SetOp) (left : Compound) (right : Core)

/-- A simple query. -/
inductive Core where
  /-- `SELECT [DISTINCT] items FROM … WHERE … GROUP BY … HAVING …`. -/
  | select (distinct : Bool) (items : List Item) (source : Option Source) (filter : Option Expr)
      (groupBy : List Expr) (having : Option Expr)
  /-- `VALUES (…), (…)`. -/
  | values (rows : List (List Expr))

/-- A result column. -/
inductive Item where
  /-- `*` -/
  | all
  /-- `table.*` -/
  | allOf (table : String)
  /-- An expression with its alias and its text. -/
  | expr (e : Expr) (aliasName : Option String) (text : String)

/-- What a `FROM` clause reads. -/
inductive Source where
  /-- A table or view, with its alias. -/
  | table (schema : Option String) (name : String) (aliasName : Option String)
  /-- A subquery, with its alias. -/
  | query (q : Query) (aliasName : Option String)
  /-- A table-valued function called with arguments, with its alias. -/
  | call (name : String) (args : List Expr) (aliasName : Option String)
  /-- Two sources joined: `NATURAL`, the kind, and an `ON` condition or `USING` columns. -/
  | join (kind : JoinKind) (natural : Bool) (left right : Source) (on : Option Expr)
      (usingColumns : List String)

/-- A common table expression: `name(columns) AS (query)`. -/
inductive Cte where
  /-- The definition. -/
  | mk (name : String) (columns : List String) (q : Query)

end

instance : Inhabited Expr := ⟨.lit .null⟩

instance : Inhabited Core := ⟨.values []⟩

instance : Inhabited Compound := ⟨.single default⟩

instance : Inhabited Query := ⟨.mk [] false default [] none none⟩

/-! ## The parts of an expression -/

/-- The expressions directly inside an expression, left to right, outside its
subqueries; a window call has none. -/
def Expr.children : Expr → List Expr
  | .unary _ a | .collate a _ | .cast a _ | .nullTest a _ | .inQuery a _ _ => [a]
  | .binary _ a b => [a, b]
  | .between a lo hi _ => [a, lo, hi]
  | .inList a items _ => a :: items
  | .pattern _ a p esc _ => [a, p] ++ esc.toList
  | .case o arms d => o.toList ++ arms.flatMap (fun (x, y) => [x, y]) ++ d.toList
  | .call _ _ args _ filter order => args ++ filter.toList ++ order.map (·.1)
  | .raise _ m => m.toList
  | .row items => items
  | _ => []

/-- Pairs up a list: the first two, the next two, and so on. -/
def pairUp {α : Type} : List α → List (α × α)
  | x :: y :: rest => (x, y) :: pairUp rest
  | _ => []

/-- An expression with the expressions directly inside it replaced, left to right, by
those given (as many as `children` gives). -/
def Expr.withChildren (e : Expr) (cs : List Expr) : Expr :=
  let at_ (k : Nat) : Expr := cs.getD k (.lit .null)
  match e with
  | .unary op _ => .unary op (at_ 0)
  | .collate _ c => .collate (at_ 0) c
  | .cast _ t => .cast (at_ 0) t
  | .nullTest _ b => .nullTest (at_ 0) b
  | .inQuery _ q neg => .inQuery (at_ 0) q neg
  | .binary op _ _ => .binary op (at_ 0) (at_ 1)
  | .between _ _ _ neg => .between (at_ 0) (at_ 1) (at_ 2) neg
  | .inList _ _ neg => .inList (at_ 0) (cs.drop 1) neg
  | .pattern op _ _ esc neg => .pattern op (at_ 0) (at_ 1) (esc.map fun _ => at_ 2) neg
  | .case o arms d =>
    let k := o.toList.length
    let armCs := (cs.drop k).take (2 * arms.length)
    .case (o.map fun _ => at_ 0) (pairUp armCs) (d.map fun _ => at_ (k + 2 * arms.length))
  | .call name distinct args star filter order =>
    let k := args.length + filter.toList.length
    .call name distinct (cs.take args.length) star (filter.map fun _ => at_ args.length)
      ((order.zip (cs.drop k)).map fun ((_, d, nulls), x) => (x, d, nulls))
  | .raise a m => .raise a (m.map fun _ => at_ 0)
  | .row _ => .row cs
  | e => e

/-- The partition and ordering terms of a window. -/
def Window.terms : Window → List Expr
  | .mk _ partition order _ => partition ++ order.map (·.1)
  | .named _ => []

/-- The window calls of an expression outside its subqueries, left to right. -/
def Expr.windowCalls : Nat → Expr → List Expr
  | 0, _ => []
  | n + 1, e =>
    match e with
    | .window _ _ => [e]
    | e => e.children.flatMap (Expr.windowCalls n)

/-- Replaces the window calls of an expression, left to right (as `windowCalls` lists
them), by the values given for them; answers the values left over. -/
def Expr.fillWindows : Nat → List SqlValue → Expr → Expr × List SqlValue
  | 0, vs, e => (e, vs)
  | n + 1, vs, e =>
    match e with
    | .window _ _ =>
      match vs with
      | v :: rest => (.lit v, rest)
      | [] => (e, [])
    | e =>
      let (cs, rest) := e.children.foldl (fun (acc : List Expr × List SqlValue) c =>
        let (c', vs') := Expr.fillWindows n acc.2 c
        (acc.1 ++ [c'], vs')) ([], vs)
      (e.withChildren cs, rest)

/-- Applies a change to the window of every window call of an expression outside its
subqueries. -/
def Expr.mapWindows (f : Window → Window) : Nat → Expr → Expr
  | 0, e => e
  | n + 1, e =>
    match e with
    | .window c w => .window c (f w)
    | e => e.withChildren (e.children.map (Expr.mapWindows f n))

/-- The number of tables and subqueries a source joins. -/
def Source.width : Source → Nat
  | .table _ _ _ => 1
  | .query _ _ => 1
  | .call _ _ _ => 1
  | .join _ _ l r _ _ => l.width + r.width

/-- The most tables and subqueries one `FROM` clause may join. -/
def maxJoinWidth : Nat := 64

/-- The most columns a table or a query's result may have. -/
def maxColumns : Nat := 2000

/-- A query of one simple part with nothing around it. -/
def Query.ofCore (c : Core) : Query := .mk [] false (.single c) [] none none

/-- An ordering term: the expression, whether descending, and where `NULL`s go
(`some true` for first). -/
abbrev OrderTerm := Expr × Bool × Option Bool

/-- A column of an index or a conflict target: the indexed expression (usually a
column), its collation and whether it is descending. -/
structure IndexedColumn where
  expr : Expr
  /-- An explicit collation. -/
  collation : Option String := none
  /-- Whether it sorts descending. -/
  desc : Bool := false
  deriving Inhabited

/-- `SET` assignments: the columns (one, or a parenthesized list) and the value. -/
abbrev Assignment := List String × Expr

/-- What an upsert does with a row that conflicts. -/
inductive UpsertAction where
  /-- `DO NOTHING` -/
  | nothing
  /-- `DO UPDATE SET … WHERE …` -/
  | update (sets : List Assignment) (filter : Option Expr)
  deriving Inhabited

/-- An `ON CONFLICT` clause of an insert. -/
structure Upsert where
  /-- The conflict target, if any: indexed columns and an optional `WHERE`. -/
  target : Option (List IndexedColumn × Option Expr)
  /-- What to do. -/
  action : UpsertAction
  deriving Inhabited

/-- A result column of `RETURNING`. -/
abbrev Returning := List Item

/-- Where the rows of an insert come from. -/
inductive InsertSource where
  /-- A query (`VALUES` included). -/
  | query (q : Query)
  /-- `DEFAULT VALUES` -/
  | defaults
  deriving Inhabited

/-- An `INSERT`. -/
structure Insert where
  /-- The common table expressions of a `WITH` before it. -/
  ctes : List Cte := []
  /-- The schema written before the table, if any. -/
  schema : Option String := none
  /-- `OR conflict`, or `REPLACE`. -/
  conflict : Option Conflict := none
  /-- The table (with an alias for upserts). -/
  table : String
  aliasName : Option String := none
  /-- The columns named, if any. -/
  columns : Option (List String) := none
  /-- The rows. -/
  source : InsertSource
  /-- `ON CONFLICT` clauses, in order. -/
  upserts : List Upsert := []
  /-- `RETURNING` items. -/
  returning : Returning := []
  deriving Inhabited

/-- An `UPDATE`. -/
structure Update where
  /-- The common table expressions of a `WITH` before it. -/
  ctes : List Cte := []
  /-- The schema written before the table, if any. -/
  schema : Option String := none
  /-- `OR conflict`. -/
  conflict : Option Conflict := none
  table : String
  aliasName : Option String := none
  /-- The assignments. -/
  sets : List Assignment
  /-- `FROM` sources joined to the table. -/
  source : Option Source := none
  /-- The `WHERE` condition. -/
  filter : Option Expr := none
  /-- `RETURNING` items. -/
  returning : Returning := []
  deriving Inhabited

/-- A `DELETE`. -/
structure Delete where
  /-- The common table expressions of a `WITH` before it. -/
  ctes : List Cte := []
  /-- The schema written before the table, if any. -/
  schema : Option String := none
  table : String
  aliasName : Option String := none
  /-- The `WHERE` condition. -/
  filter : Option Expr := none
  /-- `RETURNING` items. -/
  returning : Returning := []
  deriving Inhabited

/-- A statement of a trigger's body. -/
inductive Action where
  | insert (i : Insert)
  | update (u : Update)
  | delete (d : Delete)
  /-- A query, run for its effects (a `RAISE`). -/
  | select (q : Query)
  deriving Inhabited

/-- What a foreign key does to the rows that refer to a parent key being deleted or
changed. -/
inductive ForeignAction where
  /-- Nothing: the reference dangles, which fails the statement if it still does at the
  statement's end (at the transaction's end for a deferred key). -/
  | noAction
  /-- Fail at once. -/
  | restrict
  /-- Set the referring columns to `NULL`. -/
  | setNull
  /-- Set the referring columns to their defaults. -/
  | setDefault
  /-- Delete the referring rows, or give them the new key. -/
  | cascade
  deriving DecidableEq, Repr, Inhabited

/-- A `REFERENCES` clause: the parent table, the parent key's columns (none written: the
parent's primary key), the actions on delete and on update, and whether the check waits
for the end of the transaction (`DEFERRABLE INITIALLY DEFERRED`). -/
structure References where
  /-- The parent table. -/
  parent : String
  /-- The parent key's columns as written. -/
  parentColumns : List String
  /-- `ON DELETE` -/
  onDelete : ForeignAction := .noAction
  /-- `ON UPDATE` -/
  onUpdate : ForeignAction := .noAction
  /-- Whether the check is deferred to the end of the transaction. -/
  deferred : Bool := false
  deriving Inhabited

/-- A constraint of a column definition. -/
inductive ColumnConstraint where
  /-- `PRIMARY KEY [ASC|DESC] [ON CONFLICT c] [AUTOINCREMENT]` -/
  | primaryKey (desc : Bool) (conflict : Option Conflict) (autoincrement : Bool)
  /-- `NOT NULL [ON CONFLICT c]` -/
  | notNull (conflict : Option Conflict)
  /-- `NULL` -/
  | nullable
  /-- `UNIQUE [ON CONFLICT c]` -/
  | unique (conflict : Option Conflict)
  /-- `CHECK (e)`, with its text. -/
  | check (e : Expr) (text : String)
  /-- `DEFAULT value`. -/
  | default (e : Expr) (text : String)
  /-- `COLLATE name` -/
  | collate (name : String)
  /-- `REFERENCES table (columns) …`: the column is a foreign key. -/
  | references (r : References)
  /-- `[GENERATED ALWAYS] AS (e) [kind]`, with the word after the expression as written
  (`STORED` and `VIRTUAL` are the kinds there are; a quoted word keeps its quotes). -/
  | generated (e : Expr) (kind : Option String)
  deriving Inhabited

/-- A column definition: name, declared type and constraints (each with its optional
`CONSTRAINT name`). -/
structure ColumnDef where
  name : String
  /-- The declared type, as written (words joined by blanks), `""` if none. -/
  type : String
  /-- The constraints in order. -/
  constraints : List (Option String × ColumnConstraint)
  deriving Inhabited

/-- A table constraint. -/
inductive TableConstraint where
  /-- `PRIMARY KEY (columns) [ON CONFLICT c]` -/
  | primaryKey (columns : List IndexedColumn) (conflict : Option Conflict) (autoincrement : Bool)
  /-- `UNIQUE (columns) [ON CONFLICT c]` -/
  | unique (columns : List IndexedColumn) (conflict : Option Conflict)
  /-- `CHECK (e)`, with its text. -/
  | check (e : Expr) (text : String)
  /-- `FOREIGN KEY (columns) REFERENCES …` -/
  | foreignKey (columns : List String) (r : References)
  deriving Inhabited

/-- `CREATE TABLE`. -/
structure CreateTable where
  /-- `TEMP` -/
  temp : Bool := false
  /-- `IF NOT EXISTS` -/
  ifNotExists : Bool := false
  /-- The schema named, if any. -/
  schema : Option String := none
  name : String
  columns : List ColumnDef
  /-- Table constraints, each with its optional name. -/
  constraints : List (Option String × TableConstraint) := []
  /-- `WITHOUT ROWID` -/
  withoutRowid : Bool := false
  /-- `STRICT` -/
  strict : Bool := false
  /-- The text the schema keeps: `CREATE TABLE name …` as written after the name. -/
  text : String
  deriving Inhabited

/-- `CREATE [UNIQUE] INDEX`. -/
structure CreateIndex where
  /-- `UNIQUE` -/
  unique : Bool
  /-- `IF NOT EXISTS` -/
  ifNotExists : Bool
  /-- The schema named, if any. -/
  schema : Option String := none
  /-- The index name. -/
  name : String
  table : String
  /-- The indexed columns. -/
  columns : List IndexedColumn
  /-- A `WHERE` making it partial. -/
  filter : Option Expr
  /-- The text the schema keeps. -/
  text : String
  deriving Inhabited

/-- `CREATE VIEW`. -/
structure CreateView where
  /-- `TEMP` -/
  temp : Bool
  /-- `IF NOT EXISTS` -/
  ifNotExists : Bool
  /-- The schema named, if any. -/
  schema : Option String := none
  name : String
  /-- Column names given, if any. -/
  columns : List String
  query : Query
  /-- The text the schema keeps. -/
  text : String
  deriving Inhabited

/-- An argument of a table module: its text, the name its first word spells, and whether
it starts with `+`, in which case the name is that of the word after the `+`. -/
structure ModuleArg where
  /-- The text of the argument. -/
  text : String
  /-- The name its first word spells. -/
  name : String
  /-- Whether it starts with `+`. -/
  aux : Bool
  deriving Inhabited

/-- `CREATE VIRTUAL TABLE`. -/
structure CreateVirtual where
  /-- `IF NOT EXISTS` -/
  ifNotExists : Bool
  /-- The schema named, if any. -/
  schema : Option String
  name : String
  /-- The module that keeps the table. -/
  moduleName : String
  /-- The module's arguments. -/
  args : List ModuleArg
  /-- The text the schema keeps. -/
  text : String
  deriving Inhabited

/-- When a trigger runs. -/
inductive TriggerTime where
  /-- `BEFORE` (the default). -/
  | before
  /-- `AFTER` -/
  | after
  /-- `INSTEAD OF` (views only). -/
  | insteadOf
  deriving DecidableEq, Repr, Inhabited

/-- What a trigger runs on. -/
inductive TriggerEvent where
  /-- `INSERT` -/
  | insert
  /-- `DELETE` -/
  | delete
  /-- `UPDATE [OF columns]` -/
  | update (columns : List String)
  deriving DecidableEq, Repr, Inhabited

/-- `CREATE TRIGGER`. -/
structure CreateTrigger where
  /-- `TEMP` -/
  temp : Bool
  /-- `IF NOT EXISTS` -/
  ifNotExists : Bool
  /-- The schema named, if any. -/
  schema : Option String := none
  name : String
  /-- When it runs. -/
  time : TriggerTime
  /-- On what. -/
  event : TriggerEvent
  /-- The table or view. -/
  table : String
  /-- `WHEN` condition. -/
  condition : Option Expr
  body : List Action
  /-- The text the schema keeps. -/
  text : String
  deriving Inhabited

/-- The kinds of schema object a `DROP` names. -/
inductive ObjectKind where
  | table
  | index
  | view
  | trigger
  deriving DecidableEq, Repr, Inhabited

/-- The lowercase name of a kind of object. -/
def ObjectKind.name : ObjectKind → String
  | .table => "table"
  | .index => "index"
  | .view => "view"
  | .trigger => "trigger"

/-- What `ALTER TABLE` does. -/
inductive Alteration where
  /-- `RENAME TO name` -/
  | rename (name : String)
  /-- `RENAME [COLUMN] old TO new` -/
  | renameColumn (old new : String)
  /-- `ADD [COLUMN] definition`, with the definition's text. -/
  | addColumn (c : ColumnDef) (text : String)
  /-- `DROP [COLUMN] name` -/
  | dropColumn (name : String)
  deriving Inhabited

/-- A statement. -/
inductive Statement where
  /-- A query. -/
  | select (q : Query)
  | insert (i : Insert)
  | update (u : Update)
  | delete (d : Delete)
  /-- `CREATE TABLE`. -/
  | createTable (c : CreateTable)
  /-- `CREATE TABLE … AS query`. -/
  | createTableAs (temp ifNotExists : Bool) (schema : Option String) (name : String) (q : Query)
  /-- `CREATE INDEX`. -/
  | createIndex (c : CreateIndex)
  /-- `CREATE VIEW`. -/
  | createView (c : CreateView)
  /-- `CREATE VIRTUAL TABLE`. -/
  | createVirtual (c : CreateVirtual)
  /-- `CREATE TRIGGER`. -/
  | createTrigger (c : CreateTrigger)
  /-- `DROP kind [IF EXISTS] name`. -/
  | drop (kind : ObjectKind) (ifExists : Bool) (schema : Option String) (name : String)
  /-- `ALTER TABLE name …`. -/
  | alter (table : String) (a : Alteration)
  /-- `BEGIN`. -/
  | begin
  /-- `COMMIT` or `END`. -/
  | commit
  /-- `ROLLBACK [TO savepoint]`. -/
  | rollback (savepoint : Option String)
  /-- `SAVEPOINT name`. -/
  | savepoint (name : String)
  /-- `RELEASE [SAVEPOINT] name`. -/
  | release (name : String)
  /-- `PRAGMA [schema.]name [= value]`. -/
  | pragma (schema : Option String) (name : String) (value : Option SqlValue)
  /-- `ATTACH [DATABASE] file AS name`. -/
  | attach (file name : Expr)
  /-- `DETACH [DATABASE] name`. -/
  | detach (name : Expr)
  /-- `VACUUM [schema] [INTO file]`: it changes no answer, but is refused inside a
  transaction. -/
  | vacuum (schema : Option String) (into : Option Expr)
  /-- `ANALYZE`: of every database, or of the database, table or index named, with the
  schema written before it. -/
  | analyze (target : Option (Option String × String))
  /-- `REINDEX`: of every index, or of those of the collation, table or index named. -/
  | reindex (target : Option (Option String × String))
  /-- `EXPLAIN statement`: checks it without running it. -/
  | explain (s : Statement)
  deriving Inhabited

end Relational

end CrateState
