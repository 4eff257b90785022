import CrateState.Relational.Schema
import CrateState.Relational.Function
import CrateState.Relational.FullText.Query

/-!
# What a query sees: scopes, rows in scope and name lookup

A `Binding` is one source of a `FROM` clause with its current row; a `Frame` is the
bindings of one query level (with its group's rows when it aggregates, and its result
aliases); an `Env` is the database, the frames from the innermost out, and the common
table expressions in scope.

`Env.lookup` follows the database's order, level by level from the innermost:

1. the columns of the level's sources (two sources with the column make it ambiguous; a
   column `USING` or `NATURAL` merged into an earlier source is found there only);
2. `rowid`, `oid` or `_rowid_`, when exactly one source there has row ids;
3. an `AS` alias of a result column of the level.

Only when no level knows the name does a double-quoted name become a string, and `TRUE`
or `FALSE` a truth value; otherwise it is unknown.

A comparison converts its sides by one affinity (`comparisonAffinity`): when both have
one, numeric if either is and none otherwise; when one has one, that one. Columns and
casts have an affinity; literals and computed values none. The collation is the first
`COLLATE` on the left, then on the right, then the left column's, then the right's.
-/

namespace CrateState

namespace Relational

/-- How much of a failed statement's work is undone. -/
inductive Undo where
  /-- The statement's own changes (`ABORT`). -/
  | statement
  /-- Nothing: the rows written before the failure stay (`FAIL`). -/
  | keep
  /-- The whole transaction (`ROLLBACK`). -/
  | transaction
  /-- The statement's own changes outside a transaction; inside one, nothing, for want of
  a journal to undo them by, though the rows kept count as no change. -/
  | unjournaled
  deriving DecidableEq, Repr

/-- Why evaluation stopped before its end. -/
inductive Stop where
  /-- An error, with how much of the work it undoes. -/
  | error (e : SqlError) (undo : Undo)
  /-- `RAISE(IGNORE)`: the row at hand is skipped. -/
  | ignore
  deriving Repr

/-- Evaluation that may stop. -/
abbrev Eval := Except Stop

/-- Stops with an error that undoes the statement. -/
def fail {α : Type} (e : SqlError) : Eval α := throw (.error e .statement)

def failWith {α : Type} (message : String) : Eval α := fail (.general message)

/-- What is known of a column of a result or a source: its name, its affinity (none for
a value with no affinity) and its collation; and, for a source's current row, whether
its value carries the JSON mark. -/
structure ColumnInfo where
  /-- The column name. -/
  name : String
  /-- The affinity, if the column has one. -/
  affinity : Option Affinity := none
  collation : Collation := .binary
  /-- Whether the current row's value is JSON text that JSON functions take as it is
  rather than as a string: an array or object that `json_each` or `json_tree` read out,
  passed on unchanged. -/
  json : Bool := false
  deriving Inhabited

/-- The columns of a table as seen by a query. -/
def Table.columnInfos (t : Table) : List ColumnInfo :=
  t.columns.map fun c => { name := c.name, affinity := some c.affinity, collation := c.collation }

/-- What a row of a full-text table carries for `MATCH` and the functions over a match:
the table, and the query the row matched, once one did. -/
structure FullTextCursor where
  table : Table
  /-- The query matched. -/
  query : Option FullText.Query := none
  deriving Inhabited

/-- One source of a query level with its current row. -/
structure Binding where
  /-- The name it answers to: its alias, or the table's name. -/
  name : String
  /-- The schema of a table source. -/
  schema : Option String := none
  columns : List ColumnInfo
  /-- The current row's values, one per column. -/
  values : List SqlValue
  /-- Whether the source has row ids. -/
  hasRowid : Bool := false
  /-- The current row's row id, `none` for a row that matched nothing. -/
  rowid : Option Int := none
  /-- Columns merged into an earlier source by `USING` or `NATURAL`. -/
  merged : List String := []
  /-- Whether only names qualified by the binding's name reach it. -/
  qualifiedOnly : Bool := false
  /-- Columns that `*` and `NATURAL` leave out but names reach. -/
  hidden : List String := []
  /-- For a row of a full-text table, what `MATCH` and the functions over a match read. -/
  fullText : Option FullTextCursor := none
  deriving Inhabited

/-- The hidden columns of a table's rows: for a full-text table, the one named after the
table, which `MATCH` reads, and `rank`. -/
def Table.hiddenNames (t : Table) : List String :=
  if t.fullText.isSome then [t.name, "rank"] else []

/-- The binding of a row of a table under a name, with the table's hidden columns
(`NULL`). -/
def Table.binding (t : Table) (name : String) (values : List SqlValue) (rowid : Option Int) :
    Binding :=
  let hidden := t.hiddenNames
  { name, schema := some (t.store.name),
    columns := t.columnInfos ++ hidden.map fun h => { name := h, affinity := some .blob },
    values := values ++ hidden.map fun _ => .null, hasRowid := !t.withoutRowid, rowid, hidden,
    fullText := t.fullText.map fun _ => { table := t } }

/-- The rows of a table whose text lives in another, as row id and values: that table's
rows in row-id order, the row id read from its key column and each column from the
column of the same name (`NULL` where there is none). -/
def externalRows (src : Table) (key : String) (columns : List Column) : List (Int × List SqlValue) :=
  let keyAt := src.columns.findIdx? (sameName ·.name key)
  let rows := src.rows.map fun r =>
    let id := match keyAt with
      | some k => if src.rowidColumn == some k then r.rowid else (r.values.getD k .null).toInt
      | none => r.rowid
    (id, columns.map fun c =>
      match src.columns.findIdx? (sameName ·.name c.name) with
      | some k => r.values.getD k .null
      | none => .null)
  rows.mergeSort fun a b => a.1 ≤ b.1

/-- The rows a table shows when read, as row id and values: its own, except that a
full-text table that keeps no text shows `NULL`s and one whose text lives in another
table shows that table's rows. -/
def Table.readRows (db : Database) (t : Table) : List (Int × List SqlValue) :=
  match t.fullText.map (·.content) with
  | some FullTextContent.dropped => t.rows.map fun r => (r.rowid, t.columns.map fun _ => .null)
  | some (FullTextContent.external src key) =>
    match db.findAt? t.store src with
    | some (.table s) => externalRows s key t.columns
    | _ => []
  | _ => t.rows.map fun r => (r.rowid, r.values)

/-- A binding with every value `NULL`: the row of a source that matched nothing. -/
def Binding.blank (b : Binding) : Binding :=
  { b with values := b.columns.map fun _ => .null, rowid := none,
           columns := b.columns.map fun c => { c with json := false } }

/-- A binding whose values carry no JSON mark: its row as read back from storage, which
keeps values but not their marks. -/
def Binding.unmarked (b : Binding) : Binding :=
  { b with columns := b.columns.map fun c => { c with json := false } }

/-- A binding with the JSON marks of its current row. -/
def Binding.withMarks (b : Binding) (marks : List Bool) : Binding :=
  let padded := marks ++ b.columns.map fun _ => false
  { b with columns := (b.columns.zip padded).map fun (c, m) => { c with json := m } }

/-- One query level. -/
structure Frame where
  /-- The sources, each with its current row. -/
  bindings : List Binding := []
  /-- The rows of the group, when the level aggregates. -/
  group : Option (List (List Binding)) := none
  /-- The aliases of the level's result columns. -/
  aliases : List (String × Expr) := []
  deriving Inhabited

/-- A result: column descriptions and rows. -/
structure Relation where
  columns : List ColumnInfo
  rows : List (List SqlValue)
  /-- For each row, which of its values carry the JSON mark; empty when none do. Only a
  result read straight from its computed values keeps them: sorting, set operations
  other than `UNION ALL`, and storage lose them. -/
  marked : List (List Bool) := []
  deriving Inhabited

/-- What a common table expression stands for. -/
inductive CteBody where
  /-- A query to run when the name is read. -/
  | query (q : Query)
  /-- Rows already computed: the rows a recursive step reads. -/
  | rows (r : Relation)

/-- A common table expression in scope. -/
structure CteEntry where
  name : String
  /-- The column names written after the name, if any. -/
  columns : List String
  /-- What it stands for. -/
  body : CteBody

/-- The expressions a table keeps in its schema. Each is computed from one row alone, so
it may not hold a subquery or a parameter. -/
inductive OwnPlace where
  /-- A `CHECK` constraint. -/
  | check
  /-- The expression of a generated column. -/
  | generated
  /-- An expression column of an index. -/
  | indexExpr
  /-- The `WHERE` of a partial index. -/
  | indexFilter
  deriving DecidableEq, Repr, Inhabited

/-- How messages name the expressions of a place. -/
def OwnPlace.phrase : OwnPlace → String
  | .check => "CHECK constraints"
  | .generated => "generated columns"
  | .indexExpr => "index expressions"
  | .indexFilter => "partial index WHERE clauses"

/-- Whether a place refuses functions whose value may change from call to call: all but
`CHECK`, whose value is only ever computed when a row is written. -/
def OwnPlace.fixed : OwnPlace → Bool
  | .check => false
  | _ => true

/-- Whether the row id may be named in a place: in a `CHECK` and the `WHERE` of a partial
index, not in an expression that is stored or indexed. -/
def OwnPlace.rowid : OwnPlace → Bool
  | .check | .indexFilter => true
  | _ => false

/-- What evaluation sees. -/
structure Env where
  /-- The database. -/
  db : Database
  /-- The query levels, the innermost first. -/
  frames : List Frame := []
  /-- The common table expressions in scope, the innermost first. -/
  ctes : List CteEntry := []
  /-- Whether a trigger's statements are being run, where `RAISE` may be used. -/
  inTrigger : Bool := false
  /-- The values bound to the parameters, the first first; unbound ones are `NULL`. -/
  params : List SqlValue := []
  /-- The schema a stored view or trigger was made in: its missing tables are named
  with it. -/
  home : Option String := none
  /-- The kind of schema expression being read, when one is. -/
  own : Option OwnPlace := none
  /-- Whether checking a statement looks up the collations its comparisons and keys use,
  which the database does only once every name in the statement is found. -/
  collations : Bool := false

/-- The environment a view's query is read in: the database alone, its tables named with
the view's schema. -/
def View.scope (v : View) (db : Database) : Env :=
  { db, home := v.store.home }

/-- Whether a name is one of the names of the row id. -/
def isRowidName (name : String) : Bool :=
  ["rowid", "oid", "_rowid_"].any (sameName · name)

/-- What a name stands for. -/
inductive Found where
  /-- A column of a source, with its value. -/
  | column (v : SqlValue) (info : ColumnInfo)
  /-- The alias of a result column: its expression, to be evaluated at the level this many
  levels out. -/
  | aliased (e : Expr) (depth : Nat)

/-- The name of a column reference as error messages write it. -/
def columnDisplay (schema table : Option String) (name : String) : String :=
  match schema, table with
  | some s, some t => s ++ "." ++ t ++ "." ++ name
  | _, some t => t ++ "." ++ name
  | _, none => name

/-- Whether a binding answers to a qualifier. -/
def Binding.answers (b : Binding) (schema : Option String) (table : String) : Bool :=
  sameName b.name table &&
    match schema with
    | none => true
    | some s => match b.schema with
      | some bs => sameName bs s
      | none => false

/-- The matches of a name in one binding: each column with its value. -/
def Binding.matches (b : Binding) (qualified : Bool) (name : String) :
    List (SqlValue × ColumnInfo) :=
  (b.columns.zip b.values).filterMap fun (c, v) =>
    if sameName c.name name && (qualified || !b.merged.any (sameName · name)) then some (v, c)
    else none

/-- Looks a name up in one level: `none` when the level does not know it. -/
def Frame.lookup (f : Frame) (depth : Nat) (schema table : Option String) (name : String) :
    Except SqlError (Option Found) :=
  let candidates : List Binding := match table with
    | some t => f.bindings.filter (fun b => b.answers schema t)
    | none => f.bindings.filter (fun b => !b.qualifiedOnly)
  let hits := candidates.flatMap (fun b => b.matches table.isSome name)
  match hits with
  | [(v, c)] => .ok (some (.column v c))
  | _ :: _ :: _ => .error (.general ("ambiguous column name: " ++ columnDisplay schema table name))
  | [] =>
    let withRowid := if isRowidName name then candidates.filter (fun b => b.hasRowid) else []
    match withRowid with
    | [b] =>
      .ok (some (.column (match b.rowid with
        | some r => .int r
        | none => .null) { name, affinity := some .integer }))
    | _ :: _ :: _ =>
      .error (.general ("ambiguous column name: " ++ columnDisplay schema table name))
    | [] =>
      if table.isNone then
        match f.aliases.find? (fun (a, _) => sameName a name) with
        | some (_, e) => .ok (some (.aliased e depth))
        | none => .ok none
      else .ok none

/-- Looks a name up level by level, the innermost first. -/
def lookupIn : List Frame → Nat → Option String → Option String → String →
    Except SqlError (Option Found)
  | [], _, _, _, _ => .ok none
  | f :: rest, depth, schema, table, name =>
    match f.lookup depth schema table name with
    | .ok none => lookupIn rest (depth + 1) schema table name
    | r => r

/-- Looks a name up in the levels of an environment. -/
def Env.lookup (env : Env) (schema table : Option String) (name : String) :
    Except SqlError (Option Found) :=
  lookupIn env.frames 0 schema table name

/-- The environment with one more level inside. -/
def Env.push (env : Env) (f : Frame) : Env := { env with frames := f :: env.frames }

/-- The environment in which an alias found `depth` levels out is evaluated: that level
without its aliases, and the levels outside it. -/
def Env.forAlias (env : Env) (depth : Nat) : Env :=
  match env.frames.drop depth with
  | f :: rest => { env with frames := { f with aliases := [] } :: rest }
  | [] => { env with frames := [] }

/-- The common table expression of a name, with the entries in scope after it. -/
def Env.cte? (env : Env) (name : String) : Option (CteEntry × List CteEntry) :=
  let rec go : List CteEntry → Option (CteEntry × List CteEntry)
    | [] => none
    | c :: rest => if sameName c.name name then some (c, rest) else go rest
  go env.ctes

/-! ## Comparisons -/

/-- The affinity a comparison applies, from the affinities of its two sides. -/
def comparisonAffinity : Option Affinity → Option Affinity → Option Affinity
  | some x, some y => if x.isNumeric || y.isNumeric then some .numeric else some .blob
  | some x, none => some x
  | none, y => y

def SqlValue.isText : SqlValue → Bool
  | .text _ => true
  | _ => false

/-- A number as text; other values unchanged. -/
def SqlValue.stringify : SqlValue → SqlValue
  | .int i => .text (toString i)
  | .real f => .text (realText f)
  | v => v

/-- A text that spells a number as that number; other values unchanged. -/
def SqlValue.numberIfText : SqlValue → SqlValue
  | .text s => (SqlValue.text s).asNumber false
  | v => v

/-- Converts both sides of a comparison by its affinity: numeric affinity reads texts
that spell numbers as numbers; text affinity writes numbers as text when a side is text. -/
def applyComparisonAffinity (aff : Option Affinity) (x y : SqlValue) : SqlValue × SqlValue :=
  match aff with
  | some .text => if x.isText || y.isText then (x.stringify, y.stringify) else (x, y)
  | some a => if a.isNumeric then (x.numberIfText, y.numberIfText) else (x, y)
  | none => (x, y)

/-- Compares two values by a comparison's affinity and collation: `none` when either is
`NULL`. -/
def compareValues (aff : Option Affinity) (coll : Collation) (x y : SqlValue) : Option Ordering :=
  if x.isNull || y.isNull then none
  else
    let (x', y') := applyComparisonAffinity aff x y
    some (SqlValue.compareWith coll x' y')

/-- The truth of a comparison operator given the order of its sides. -/
def BinaryOp.holds (op : BinaryOp) (o : Ordering) : Bool :=
  match op with
  | .eq | .is => o == .eq
  | .ne | .isNot => o != .eq
  | .lt => o == .lt
  | .le => o != .gt
  | .gt => o == .gt
  | .ge => o != .lt
  | _ => false

def BinaryOp.isComparison : BinaryOp → Bool
  | .eq | .ne | .lt | .le | .gt | .ge | .is | .isNot => true
  | _ => false

/-! ## Collations of expressions -/

/-- The depth to which expressions are walked by the helpers below. -/
def walkDepth : Nat := 100000

/-- The collation of a `COLLATE` name. -/
def collationNamed (name : String) : Except SqlError Collation :=
  match Collation.ofName? name with
  | some c => .ok c
  | none => .error (.noCollation name)

mutual

/-- Whether an expression holds a `COLLATE` outside of subqueries. -/
def Expr.hasCollate : Nat → Expr → Bool
  | 0, _ => false
  | n + 1, e =>
    match e with
    | .collate _ _ => true
    | .unary _ a | .cast a _ | .nullTest a _ => a.hasCollate n
    | .binary _ a b => a.hasCollate n || b.hasCollate n
    | .between a b c _ => a.hasCollate n || b.hasCollate n || c.hasCollate n
    | .inList a items _ => a.hasCollate n || Expr.anyCollate n items
    | .inQuery a _ _ => a.hasCollate n
    | .pattern _ a b c _ =>
      a.hasCollate n || b.hasCollate n || (match c with
        | some c => c.hasCollate n
        | none => false)
    | .case o arms d =>
      (match o with
        | some o => o.hasCollate n
        | none => false) ||
      Expr.anyCollate n (arms.flatMap fun (x, y) => [x, y]) ||
      (match d with
        | some d => d.hasCollate n
        | none => false)
    | .call _ _ args _ _ _ => Expr.anyCollate n args
    | .row items => Expr.anyCollate n items
    | _ => false

/-- Whether any of a list of expressions holds a `COLLATE`. -/
def Expr.anyCollate : Nat → List Expr → Bool
  | 0, _ => false
  | _, [] => false
  | n + 1, e :: rest => e.hasCollate n || Expr.anyCollate n rest

end

/-- The sub-expressions an explicit collation is looked for in, left first. -/
def Expr.collateChildren : Expr → List Expr
  | .unary _ a | .nullTest a _ | .inQuery a _ _ => [a]
  | .binary _ a b => [a, b]
  | .between a b c _ => [a, b, c]
  | .inList a items _ => a :: items
  | .pattern _ a b c _ => [b, a] ++ c.toList
  | .case o arms d => o.toList ++ arms.flatMap (fun (x, y) => [x, y]) ++ d.toList
  | .call _ _ args _ _ _ => args
  | .row items => items
  | _ => []

/-- The collation of an expression: an explicit `COLLATE` in it, or the collation of the
column it is (through casts and unary plus); `none` for neither. Column collations come
from `columnCollation`. -/
def Expr.collation (columnCollation : Expr → Except SqlError (Option Collation)) : Nat → Expr →
    Except SqlError (Option Collation)
  | 0, _ => .ok none
  | n + 1, e =>
    match e with
    | .collate _ name => (collationNamed name).map some
    | .column _ _ _ | .quoted _ => columnCollation e
    | .cast a _ | .unary .plus a => Expr.collation columnCollation n a
    | .row (a :: _) => Expr.collation columnCollation n a
    | e =>
      if e.hasCollate walkDepth then
        match e.collateChildren.find? (·.hasCollate walkDepth) with
        | some c => Expr.collation columnCollation n c
        | none => .ok none
      else .ok none

/-- The collation a comparison of `a` with `b` uses: an explicit one in `a`, else one in
`b`, else the collation of the column `a` is, else that of `b`; `none` for none of them.
Only an explicit collation is looked up by its name, so only one that the comparison
reaches can fail. -/
def Expr.comparisonCollation (columnCollation : Expr → Except SqlError (Option Collation))
    (a b : Expr) :
    Except SqlError (Option Collation) := do
  if a.hasCollate walkDepth then Expr.collation columnCollation walkDepth a
  else if b.hasCollate walkDepth then Expr.collation columnCollation walkDepth b
  else
    match ← Expr.collation columnCollation walkDepth a with
    | some c => pure (some c)
    | none => Expr.collation columnCollation walkDepth b

/-- The word the right side of `IS` or `IS NOT` is when it is a bare `TRUE` or `FALSE`
(under any `COLLATE`), with the truth it names. Unless a column of that name is in scope,
`x IS TRUE` asks whether `x` is true rather than whether it equals `1`. -/
def Expr.truthWord? : Nat → Expr → Option (String × Bool)
  | 0, _ => none
  | n + 1, e =>
    match e with
    | .collate a _ => Expr.truthWord? n a
    | .column none none name =>
      if sameName name "true" then some (name, true)
      else if sameName name "false" then some (name, false)
      else none
    | _ => none

/-- Whether `x IS TRUE`, `x IS FALSE` or their negations hold of a value: `x` is read as
a truth, a `NULL` being neither true nor false. -/
def truthTest (op : BinaryOp) (word : Bool) (v : SqlValue) : Bool :=
  let truth := v.truth.getD !word
  truth != (word != (op == .is))

/-! ## Ordering rows -/

/-- Compares two keys of ordering terms: each value with its collation, whether the
term is descending, and where `NULL`s go (`some true` first). -/
def compareKeys : List (SqlValue × Collation × Bool × Option Bool) →
    List (SqlValue × Collation × Bool × Option Bool) → Ordering
  | (x, coll, desc, nulls) :: xs, (y, _, _, _) :: ys =>
    let nullsFirst := nulls.getD (!desc)
    let o :=
      match x.isNull, y.isNull with
      | true, true => Ordering.eq
      | true, false => if nullsFirst then .lt else .gt
      | false, true => if nullsFirst then .gt else .lt
      | false, false =>
        let c := SqlValue.compareWith coll x y
        if desc then c.swap else c
    if o == .eq then compareKeys xs ys else o
  | _, _ => .eq

/-- Sorts a list stably by a comparison. -/
def sortStable {α : Type} (cmp : α → α → Ordering) (xs : List α) : List α :=
  xs.mergeSort fun a b => cmp a b != .gt

/-- The key a row of a table without row ids is kept in order of: the values of its
primary key, each with the collation and direction the key gives it. -/
def Table.primaryOrderKey (db : Database) (t : Table) (values : List SqlValue) :
    List (SqlValue × Collation × Bool × Option Bool) :=
  match (db.indexesOf t.name).find? (·.origin == .primaryKey) with
  | some ix => ix.columns.filterMap fun c =>
      match c.expr with
      | .column none none n | .quoted n =>
        (t.columns.findIdx? (sameName ·.name n)).map fun k =>
          let col := t.columns.getD k default
          let coll := (c.collation.bind Collation.ofName?).getD col.collation
          (values.getD k .null, coll, c.desc, none)
      | _ => none
  | none => []

/-- Rows of a table in the order a scan visits them: by row id, or, for a table without
row ids, by its primary key. -/
def Table.scanOrder (db : Database) (t : Table) (rows : List Row) : List Row :=
  if !t.withoutRowid then rows
  else
    let key (r : Row) := t.primaryOrderKey db r.values
    sortStable (fun a b => compareKeys (key a) (key b)) rows

/-- Compares two rows column by column under the columns' collations. -/
def compareRows (colls : List Collation) (a b : List SqlValue) : Ordering :=
  let rec go : List Collation → List SqlValue → List SqlValue → Ordering
    | c :: cs, x :: xs, y :: ys =>
      let o := SqlValue.compareWith c x y
      if o == .eq then go cs xs ys else o
    | _, _, _ => .eq
  go colls a b

/-- The distinct rows of a list, first occurrences kept. -/
def distinctRows (colls : List Collation) (rows : List (List SqlValue)) : List (List SqlValue) :=
  rows.foldl (fun acc r => if acc.any (compareRows colls r · == .eq) then acc else acc ++ [r]) []

/-- The distinct rows of a list sorted by all their columns. -/
def sortedDistinct (colls : List Collation) (rows : List (List SqlValue)) : List (List SqlValue) :=
  sortStable (compareRows colls) (distinctRows colls rows)

/-- Groups consecutive items with equal keys. -/
def groupRuns {α : Type} (same : α → α → Bool) : List α → List (List α)
  | [] => []
  | x :: xs =>
    match groupRuns same xs with
    | (y :: ys) :: gs => if same x y then (x :: y :: ys) :: gs else [x] :: (y :: ys) :: gs
    | gs => [x] :: gs

/-- The names of result columns made unique the way the database names the columns of a
subquery: a repeated name gets `:1`, `:2`, … added. -/
def uniqueNames (names : List String) : List String :=
  let step (acc : List String) (n : String) : List String :=
    if acc.any (sameName · n) then
      let rec pick : Nat → Nat → String
        | 0, k => n ++ ":" ++ toString k
        | fuel + 1, k =>
          let cand := n ++ ":" ++ toString k
          if acc.any (sameName · cand) then pick fuel (k + 1) else cand
      acc ++ [pick (acc.length + 1) 1]
    else acc ++ [n]
  names.foldl step []

end Relational

end CrateState
