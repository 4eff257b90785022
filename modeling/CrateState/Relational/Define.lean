import CrateState.Relational.Write
import CrateState.Relational.Rename
import CrateState.Relational.Read.Basic
import CrateState.Relational.FullText.Layout

/-!
# Defining the schema: `CREATE`, `DROP` and `ALTER`

Each statement checks what the database checks, in its order, and fails with its message;
one that passes changes the catalogue.

`CREATE TABLE` reads its columns and constraints in the order written:

* a column named twice fails (`duplicate column name`);
* a second primary key fails; one of a single column declared exactly `INTEGER` (not
  descending) names the row id, and only it may be `AUTOINCREMENT`; any other primary key,
  and every `UNIQUE`, makes an index `sqlite_autoindex_<table>_<n>` (not twice for the
  same columns);
* a default must be a constant.

Then the whole table is checked: `STRICT` types, a `WITHOUT ROWID` table's primary key,
and the names in `CHECK` constraints. The first `AUTOINCREMENT` table also makes
`sqlite_sequence`. A foreign key's parent need not exist yet.

`ALTER TABLE … ADD COLUMN` refuses a primary key or unique column outright; a `NOT NULL`
column without default, a non-constant default (anything but a literal, possibly signed,
cast or collated), a foreign key with a default and a stored generated column only when
the table has rows, which take the default. A new `CHECK`, or a `STRICT` table, has the
rows checked again.

`DROP TABLE` of a table that foreign keys name first deletes its rows as a delete does,
without triggers, so the keys' actions run and dangling references stop the drop.
-/

namespace CrateState

namespace Relational

/-- A failure of a schema statement. -/
abbrev Define := Except SqlError

/-- Whether an expression is constant: no column, no subquery, no parameter of a row. -/
def Expr.isConstant : Nat → Expr → Bool
  | 0, _ => false
  | n + 1, e =>
    match e with
    | .lit _ => true
    | .column none none name => sameName name "true" || sameName name "false"
    | .column _ _ _ | .quoted _ | .subquery _ | .hasRows _ | .inQuery _ _ _ | .raise _ _
    | .param _ | .window _ _ => false
    | .unary _ a | .collate a _ | .cast a _ | .nullTest a _ => a.isConstant n
    | .binary _ a b => a.isConstant n && b.isConstant n
    | .between a b c _ => a.isConstant n && b.isConstant n && c.isConstant n
    | .inList a items _ => a.isConstant n && items.attach.all fun ⟨x, _⟩ => x.isConstant n
    | .pattern _ a b c _ =>
      a.isConstant n && b.isConstant n && (match c with
        | some c => c.isConstant n
        | none => true)
    | .case o arms d =>
      (match o with
        | some o => o.isConstant n
        | none => true) &&
      arms.attach.all (fun ⟨(x, y), _⟩ => x.isConstant n && y.isConstant n) &&
      (match d with
        | some d => d.isConstant n
        | none => true)
    | .call _ _ args _ _ order =>
      args.attach.all (fun ⟨x, _⟩ => x.isConstant n) &&
        order.attach.all fun ⟨(x, _), _⟩ => x.isConstant n
    | .row items => items.attach.all fun ⟨x, _⟩ => x.isConstant n

/-- The value a default gives the rows already in a table when `ALTER TABLE … ADD COLUMN`
adds its column: a literal (`TRUE` and `FALSE` included), possibly signed, cast or given a
collation. Any other default has no such value (`none`): it is not constant there. -/
def Expr.plainValue? : Nat → Expr → Option SqlValue
  | 0, _ => none
  | n + 1, e =>
    match e with
    | .lit v => some v
    | .column none none name =>
      if sameName name "true" then some (.int 1)
      else if sameName name "false" then some (.int 0)
      else none
    | .unary .plus a | .collate a _ => a.plainValue? n
    | .unary .neg a => (a.plainValue? n).map SqlValue.negate
    | .cast a type => (a.plainValue? n).map fun v => v.cast (Affinity.ofDeclared type)
    | _ => none

/-- The environment a table's own expressions are read in: the table's row, every value
`NULL`, its row id reachable where the place allows it. -/
def ownScope (db : Database) (t : Table) (place : OwnPlace) : Env :=
  let row := t.binding t.name (t.columns.map fun _ => .null) none
  { db, frames := [{ bindings := [{ row with hasRowid := place.rowid && row.hasRowid }] }],
    own := some place }

/-- Reads an expression a table keeps after the errors met so far, answering the error met
last, as `walkExpr` does. -/
def readOwn (db : Database) (t : Table) (place : OwnPlace) (pending : Pending) (e : Expr) :
    Pending :=
  match walkExpr walkDepth (ownScope db t place) [] false pending e with
  | .ok p => p
  | .error (.error err _) => some err
  | .error .ignore => pending

/-- Checks an expression a table keeps. -/
def checkOwn (db : Database) (t : Table) (place : OwnPlace) (e : Expr) : Define Unit :=
  match readOwn db t place none e with
  | some err => throw err
  | none => pure ()

/-- The first error of a table's `CHECK` constraints, read one after another. -/
def checksError (db : Database) (t : Table) : Pending :=
  t.checks.foldl (fun pending ck =>
    match pending with
    | some _ => pending
    | none => readOwn db t .check none ck.expr) none

/-- The error of a table's own expressions, read as the end of `CREATE TABLE` reads them:
the `CHECK` constraints (up to the first that fails), then every generated column's
expression, each after the errors met before it; the error met last is the one given. -/
def ownError (db : Database) (t : Table) : Pending :=
  t.columns.foldl (fun pending col =>
    match col.generated with
    | some e => readOwn db t .generated pending e
    | none => pending) (checksError db t)

/-- The database a statement that makes an object writes to: the one its schema names,
the temporary one for `TEMP`, else the main one. -/
def schemaOf (db : Database) (schema : Option String) (temp : Bool) : Define Store :=
  match schema with
  | none => pure (if temp then .temp else .main)
  | some s =>
    match db.storeNamed? s with
    | some .main => pure (if temp then .temp else .main)
    | some (.attached n) =>
      if temp then throw (.general "temporary table name must be unqualified")
      else pure (.attached n)
    | some .temp => pure .temp
    | none => throw (.general ("unknown database " ++ s))

/-- Checks the name of a new object is not reserved. -/
def checkReserved (name : String) : Define Unit :=
  if reservedName name then throw (.general ("object name reserved for internal use: " ++ name))
  else pure ()

/-- A table under construction: the table, the indexes its constraints made, and whether
it has a primary key. -/
structure Draft where
  /-- The table so far. -/
  table : Table
  /-- The indexes made so far, in creation order. -/
  indexes : List Index := []
  /-- Whether a primary key was declared. -/
  hasKey : Bool := false
  /-- The names of the indexes whose constraint wrote an `ON CONFLICT` clause. -/
  explicit : List String := []
  /-- The `ON CONFLICT` clause of an `INTEGER PRIMARY KEY`, if it wrote one. -/
  keyConflict : Option Conflict := none

/-- Whether an indexed expression is a plain column, as a key of a constraint must be. -/
def Expr.isPlainColumn : Expr → Bool
  | .column none none _ | .quoted _ => true
  | .collate e _ => e.isPlainColumn
  | _ => false

/-- Adds an index made by a constraint, unless one with the same columns exists. Each
key column is read as an index expression, must be a plain column, and its collation
must exist. -/
def Draft.addIndex (d : Draft) (cols : List IndexedColumn) (origin : IndexOrigin)
    (conflict : Option Conflict) : Define Draft := do
  for c in cols do
    checkOwn {} d.table .indexExpr c.expr
    if !c.expr.isPlainColumn then
      throw (.general "expressions prohibited in PRIMARY KEY and UNIQUE constraints")
    match c.collation with
    | some cn =>
      match Collation.ofName? cn with
      | some _ => pure ()
      | none => throw (.noCollation cn)
    | none => pure ()
  -- two constraints make one index when their columns and collations are the same
  let key (cs : List IndexedColumn) : List (String × Option Collation) :=
    cs.map fun c =>
      let n := (targetNames [c]).headD ""
      (n.toLower, match c.collation with
        | some cn => Collation.ofName? cn
        | none => (d.table.columns.find? (sameName ·.name n)).map (·.collation))
  match d.indexes.find? (fun i => key i.columns == key cols) with
  | some same =>
    let given := d.explicit.contains same.name
    if given && conflict.isSome && conflict != some same.conflict then
      throw (.general "conflicting ON CONFLICT clauses specified")
    let merged : Index :=
      { same with
        conflict := if given then same.conflict else conflict.getD same.conflict,
        origin := if origin == .primaryKey then .primaryKey else same.origin }
    pure { d with
      indexes := d.indexes.map fun i => if i.name == same.name then merged else i,
      explicit := if conflict.isSome && !given then d.explicit ++ [same.name] else d.explicit }
  | none =>
    let n := d.indexes.length + 1
    let ix : Index :=
      { name := "sqlite_autoindex_" ++ d.table.name ++ "_" ++ toString n, table := d.table.name,
        columns := cols, unique := true, origin, conflict := conflict.getD .abort, sql := none,
        rootPage := 0, store := d.table.store }
    pure { d with
      indexes := d.indexes ++ [ix],
      explicit := if conflict.isSome then d.explicit ++ [ix.name] else d.explicit }

/-- Declares a primary key over columns (with whether the single column is descending). -/
def Draft.addPrimaryKey (d : Draft) (cols : List IndexedColumn) (conflict : Option Conflict)
    (autoincrement : Bool) : Define Draft := do
  if d.hasKey then
    throw (.general ("table \"" ++ d.table.name ++ "\" has more than one primary key"))
  let t := d.table
  let names := targetNames cols
  let t := { t with
    columns := t.columns.map fun c =>
      if names.any (sameName · c.name) then { c with primaryKey := true } else c }
  let d := { d with table := t, hasKey := true }
  let single := match cols, names with
    | [c], [nm] => (t.columnIndex nm).map fun k => (k, c.desc)
    | _, _ => none
  let integerKey := match single with
    | some (k, false) => (t.columns.getD k default).declared.toUpper == "INTEGER"
    | _ => false
  -- a generated column in the key fails, unless `AUTOINCREMENT` fails after it
  if t.columns.any (fun c => c.primaryKey && c.generated.isSome) then
    if autoincrement && !integerKey then
      throw (.general "AUTOINCREMENT is only allowed on an INTEGER PRIMARY KEY")
    else throw (.general "generated columns cannot be part of the PRIMARY KEY")
  match single with
  | some (k, false) =>
    if (t.columns.getD k default).declared.toUpper == "INTEGER" then
      pure { d with
        table :=
          { t with
            rowidColumn := some k,
            rowidConflict := conflict.getD .abort,
            autoincrement },
        keyConflict := conflict }
    else if autoincrement then
      throw (.general "AUTOINCREMENT is only allowed on an INTEGER PRIMARY KEY")
    else d.addIndex cols .primaryKey conflict
  | _ =>
    if autoincrement then throw (.general "AUTOINCREMENT is only allowed on an INTEGER PRIMARY KEY")
    else d.addIndex cols .primaryKey conflict

/-- Adds a column and its constraints. -/
def Draft.addColumn (d : Draft) (c : ColumnDef) : Define Draft := do
  if d.table.columns.any (sameName ·.name c.name) then
    throw (.general ("duplicate column name: " ++ c.name))
  let col : Column :=
    { name := c.name, declared := c.type,
      affinity := if c.type.isEmpty then .blob else Affinity.ofDeclared c.type }
  let d := { d with table := { d.table with columns := d.table.columns ++ [col] } }
  let k := d.table.columns.length - 1
  let update (d : Draft) (f : Column → Column) : Draft :=
    { d with table := { d.table with columns := d.table.columns.set k (f (d.table.columns.getD k default)) } }
  let colRef : IndexedColumn := { expr := .column none none c.name }
  c.constraints.foldlM (fun d (label, cc) => do
    match cc with
    | .primaryKey desc conflict auto =>
      d.addPrimaryKey [{ colRef with desc }] conflict auto
    | .notNull conflict => pure (update d fun col => { col with notNull := some (conflict.getD .abort) })
    | .nullable => pure d
    | .unique conflict => do
      let d ← d.addIndex [colRef] .unique conflict
      pure (update d fun col => { col with unique := true })
    | .check e text =>
      pure { d with table := { d.table with checks := d.table.checks ++ [⟨label, e, text, some c.name⟩] } }
    | .default e text =>
      if !(e.isConstant walkDepth) then
        throw (.general ("default value of column [" ++ c.name ++ "] is not constant"))
      else if (d.table.columns.getD k default).generated.isSome then
        throw (.general "cannot use DEFAULT on a generated column")
      else pure (update d fun col => { col with default := some e, defaultText := some text })
    | .collate name =>
      match Collation.ofName? name with
      | some coll => pure (update d fun col => { col with collation := coll })
      | none => throw (.noCollation name)
    | .references r =>
      if r.parentColumns.length > 1 then
        throw (.general ("foreign key on " ++ c.name ++
          " should reference only one column of table " ++ r.parent))
      else pure { d with table := { d.table with foreignKeys := d.table.foreignKeys ++ [⟨[c.name], r, true⟩] } }
    | .generated e kind => do
      let col := d.table.columns.getD k default
      let kindOk := match kind with
        | some w => w.toUpper == "STORED" || w.toUpper == "VIRTUAL"
        | none => true
      if col.default.isSome || !kindOk then
        throw (.general ("error in generated column \"" ++ c.name ++ "\""))
      if col.primaryKey then throw (.general "generated columns cannot be part of the PRIMARY KEY")
      let stored := (kind.map (·.toUpper == "STORED")).getD false
      pure (update d fun col => { col with generated := some e, stored })) d

/-- The types a `STRICT` table allows. -/
def strictTypes : List String := ["INT", "INTEGER", "REAL", "TEXT", "BLOB", "ANY"]

/-- What a `STRICT` table refuses in a column: a column with no type, or with a type that
is not one of `strictTypes`. -/
def strictColumnError (table : String) (col : Column) : Option String :=
  if col.declared.isEmpty then some ("missing datatype for " ++ table ++ "." ++ col.name)
  else if !strictTypes.contains col.declared.toUpper then
    some ("unknown datatype for " ++ table ++ "." ++ col.name ++ ": \"" ++ col.declared ++ "\"")
  else none

/-- Builds the table and the indexes of a `CREATE TABLE`. -/
def buildTable (c : CreateTable) (store : Store) : Define Draft := do
  let t : Table :=
    { name := c.name, columns := [], sql := c.text, rootPage := 0, store,
      withoutRowid := c.withoutRowid, strict := c.strict }
  let d ← c.columns.foldlM Draft.addColumn { table := t }
  let d ← c.constraints.foldlM (fun d (label, tc) => do
    match tc with
    | .primaryKey cols conflict auto => d.addPrimaryKey cols conflict auto
    | .unique cols conflict => d.addIndex cols .unique conflict
    | .check e text =>
      pure { d with table := { d.table with checks := d.table.checks ++ [⟨label, e, text, none⟩] } }
    | .foreignKey cols r =>
      if !r.parentColumns.isEmpty && r.parentColumns.length != cols.length then
        throw (.general ("number of columns in foreign key does not match the number of " ++
          "columns in the referenced table"))
      match cols.find? (fun n => !d.table.columns.any (sameName ·.name n)) with
      | some bad => throw (.general ("unknown column \"" ++ bad ++ "\" in foreign key definition"))
      | none =>
        let names := cols.map fun n => ((d.table.columns.find? (sameName ·.name n)).map (·.name)).getD n
        pure { d with table := { d.table with foreignKeys := d.table.foreignKeys ++ [⟨names, r, false⟩] } }) d
  let t := d.table
  if c.strict then
    for col in t.columns do
      match strictColumnError t.name col with
      | some m => throw (.general m)
      | none => pure ()
  let t := if c.strict then
      let strictColumn (ck : Column × Nat) : Column :=
        let (col, k) := ck
        let col := if col.declared.toUpper == "ANY" then { col with affinity := .blob } else col
        if col.primaryKey && t.rowidColumn != some k && col.notNull.isNone then
          { col with notNull := some .abort } else col
      { t with columns := (t.columns.zip (List.range t.columns.length)).map strictColumn }
    else t
  if c.withoutRowid then
    if t.autoincrement then throw (.general "AUTOINCREMENT not allowed on WITHOUT ROWID tables")
    if !d.hasKey then throw (.general ("PRIMARY KEY missing on table " ++ t.name))
  let t := if c.withoutRowid then
      let keyColumn (col : Column) : Column :=
        if col.primaryKey && col.notNull.isNone then { col with notNull := some .abort } else col
      { t with columns := t.columns.map keyColumn, rowidColumn := none }
    else t
  -- without row ids, an `INTEGER PRIMARY KEY` is an index made after the others
  let d ← match c.withoutRowid, d.table.rowidColumn with
    | true, some k =>
      Draft.addIndex { d with table := t }
        [{ expr := .column none none (t.columns.getD k default).name }] .primaryKey d.keyConflict
    | _, _ => pure { d with table := t }
  let err := ownError {} t
  if t.columns.any (·.generated.isSome) && t.columns.all (·.generated.isSome) then
    throw (.general "must have at least one non-generated column")
  match err with
  | some e => throw e
  | none => pure { d with table := t }

/-- Assigns pages to a new table and its indexes and adds them to the catalogue, with the
sequence table when it is the first with `AUTOINCREMENT`. -/
def Database.addTable (db : Database) (d : Draft) : Database :=
  let (page, db) := db.takePage
  let t := { d.table with rootPage := page }
  let db := db.addEntry (.table t)
  let db := d.indexes.foldl (fun db ix =>
    if t.withoutRowid && ix.origin == .primaryKey then
      db.addEntry (.index { ix with rootPage := page })
    else
      let (p, db) := db.takePage
      db.addEntry (.index { ix with rootPage := p })) db
  if t.autoincrement && !(db.entries.any fun e => e.store == t.store && sameName e.name "sqlite_sequence") then
    let (p, db) := db.takePage
    db.addEntry (.table
      { name := "sqlite_sequence", columns := [{ name := "name" }, { name := "seq" }],
        sql := sequenceSql, rootPage := p, store := t.store })
  else db

/-- Checks that no object of the schema has a name, the way `CREATE TABLE` and `CREATE
VIEW` check it: `none` to go on, `some ()` when `IF NOT EXISTS` makes the statement do
nothing. -/
def checkNewTableName (db : Database) (name : String) (store : Store) (ifNotExists : Bool) :
    Define (Option Unit) := do
  let same := db.findAt? store name
  match same with
  | some (.table _) =>
    if ifNotExists then pure (some ()) else throw (.general ("table " ++ name ++ " already exists"))
  | some (.view _) =>
    if ifNotExists then pure (some ()) else throw (.general ("view " ++ name ++ " already exists"))
  | some (.index _) => throw (.general ("there is already an index named " ++ name))
  | _ => pure none

/-- Runs `CREATE TABLE`. -/
def createTable (db : Database) (c : CreateTable) : Define Database := do
  let store ← schemaOf db c.schema c.temp
  checkReserved c.name
  match ← checkNewTableName db c.name store c.ifNotExists with
  | some () => pure db
  | none =>
    let d ← buildTable c store
    pure (db.addTable d)

/-- The text of the statement that makes a table from a query's columns. -/
def tableSqlOf (name : String) (cols : List (String × Affinity)) : String :=
  let quote (s : String) : String :=
    if s.toList.all (fun ch => ch.isAlphanum || ch = '_') && !s.isEmpty && !(s.toList.headD ' ').isDigit
      && !keywordList.contains s.toUpper then s
    else "\"" ++ s.replace "\"" "\"\"" ++ "\""
  let typeOf (a : Affinity) : String :=
    match a.typeName with
    | "" => ""
    | ty => " " ++ ty
  let body := cols.map fun (n, a) => quote n ++ typeOf a
  let total := (name :: cols.map (·.1)).foldl (fun n s => n + (quote s).length) 0
  if total < 50 then "CREATE TABLE " ++ quote name ++ "(" ++ ",".intercalate body ++ ")"
  else "CREATE TABLE " ++ quote name ++ "(\n  " ++ ",\n  ".intercalate body ++ "\n)"

/-- Runs `CREATE TABLE … AS query`. -/
def createTableAs (db : Database) (store : Store) (ifNotExists : Bool) (name : String)
    (r : Relation) : Define Database := do
  checkReserved name
  match ← checkNewTableName db name store ifNotExists with
  | some () => pure db
  | none =>
    let names := uniqueNames (r.columns.map (·.name))
    let cols : List Column := (r.columns.zip names).map fun (c, n) =>
      let aff := c.affinity.getD .blob
      { name := n, declared := aff.typeName, affinity := aff }
    let sql := tableSqlOf name (cols.map fun c => (c.name, c.affinity))
    let rows := (r.rows.zip (List.range r.rows.length)).map fun (vals, i) =>
      (⟨Int.ofNat i + 1, (cols.zip vals).map fun (c, v) => v.withAffinity c.affinity⟩ : Row)
    let t : Table := { name, columns := cols, sql, rootPage := 0, store, rows }
    pure (db.addTable { table := t })

/-- Runs `CREATE INDEX`. -/
def createIndex (db : Database) (c : CreateIndex) : Eval Database := do
  let lift {α : Type} (x : Define α) : Eval α := liftError x
  if let some s := c.schema then
    if (db.storeNamed? s).isNone then failWith ("unknown database " ++ s)
  match db.findIn? c.schema c.table with
  | some (.table t) =>
    if reservedName t.name then failWith ("table " ++ t.name ++ " may not be indexed")
    else
      lift (checkReserved c.name)
      if t.isVirtual then failWith "virtual tables may not be indexed"
      match db.findAt? t.store c.name with
      | some (.table _) | some (.view _) => failWith ("there is already a table named " ++ c.name)
      | some (.index _) =>
        if c.ifNotExists then pure db else failWith ("index " ++ c.name ++ " already exists")
      | _ =>
        -- the `WHERE` is read first; its error stops the reading at the first key column
        -- unless that column's own error comes after it
        let pending := match c.filter with
          | some f => readOwn db t .indexFilter none f
          | none => none
        for col in c.columns.take (if pending.isSome then 1 else c.columns.length) do
          match readOwn db t .indexExpr pending col.expr with
          | some e => fail e
          | none => pure ()
          match col.collation with
          | some cn => let _ ← lift (collationNamed cn)
          | none => pure ()
        match pending with
        | some e => fail e
        | none => pure ()
        -- building the index tests the rows against its `WHERE`, by the collations it names
        match c.filter with
        | some f =>
          let scope : Env :=
            { db, collations := true,
              frames := [{ bindings := [t.binding t.name (t.columns.map fun _ => .null) none] }] }
          checkExpr walkDepth scope [] false f
        | none => pure ()
        let ix : Index :=
          { name := c.name, table := t.name, columns := c.columns, unique := c.unique,
            filter := c.filter, origin := .created, sql := some c.text, rootPage := 0,
            store := t.store }
        -- a unique index cannot be made over rows that already clash
        if c.unique then
          let env (r : Row) : Env := { db, frames := [{ bindings := [t.binding t.name r.values (some r.rowid)] }] }
          let keyed ← t.rows.filterMapM fun r => do
            let keep ← match c.filter with
              | some f => do pure (← eval walkDepth (env r) f).holds
              | none => pure true
            if !keep then pure none
            else
              let k ← c.columns.mapM fun col => eval walkDepth (env r) col.expr
              pure (if k.any (·.isNull) then none else some (k, r))
          let colls := c.columns.map fun col => keyCollation (env (t.rows.headD default)) col
          let clash := keyed.zip (List.range keyed.length) |>.any fun ((k, _), i) =>
            (keyed.drop (i + 1)).any fun (k', _) => compareRows colls k k' == .eq
          if clash then fail ⟨2067, uniqueMessage t ix⟩
          else
            let (p, db) := db.takePage
            pure (db.addEntry (.index { ix with rootPage := p }))
        else
          let (p, db) := db.takePage
          pure (db.addEntry (.index { ix with rootPage := p }))
  | some (.view _) => failWith "views may not be indexed"
  | _ =>
    if isMasterName c.table then failWith ("table " ++ c.table ++ " may not be indexed")
    else failWith ("no such table: " ++ c.schema.getD "main" ++ "." ++ c.table)

/-- The text of a `CREATE TABLE` statement with the table's name replaced by another, quoted. -/
def renameCreated (sql newName : String) : String :=
  let head := "CREATE TABLE "
  if sql.startsWith head then
    head ++ quoteIdent newName ++ String.ofList ((sql.toList.drop head.length).dropWhile (· != '('))
  else sql

/-- Runs `CREATE VIRTUAL TABLE`. The module must be one the database has: `rtree`, or
`rtree_i32` for integer bounds, or `fts5` for full text. The table takes no page; the
tables that keep its tree or index are made after it, and writing the tree's empty root
or the index's empty header is a change of one row. -/
def createVirtual (db : Database) (c : CreateVirtual) : Define Database := do
  let store ← schemaOf db c.schema false
  checkReserved c.name
  match ← checkNewTableName db c.name store c.ifNotExists with
  | some () => pure db
  | none =>
    let m := c.moduleName.toLower
    if m == "rtree" || m == "rtree_i32" then
      let (columns, shape) ← rtreeLayout (m == "rtree_i32") c.args
      let t : Table :=
        { name := c.name, columns, sql := c.text, rootPage := 0, store, rtree := some shape }
      let db := (rtreeShadows t shape).foldl (fun db s =>
        let (p, db) := db.takePage
        db.addEntry (.table { s with rootPage := p })) (db.addEntry (.table t))
      pure { db with changes := 1, totalChanges := db.totalChanges + 1, lastRowid := 1 }
    else if m == "fts5" then
      let (columns, shape) ← FullText.fullTextLayout c.name c.args
      let t : Table :=
        { name := c.name, columns, sql := c.text, rootPage := 0, store, fullText := some shape }
      let db := (FullText.fullTextShadows t shape).foldl (fun db s =>
        let (p, db) := db.takePage
        db.addEntry (.table { s with rootPage := p })) (db.addEntry (.table t))
      pure { db with changes := 1, totalChanges := db.totalChanges + 3, lastRowid := 10 }
    else throw (.general ("no such module: " ++ c.moduleName))

/-- Runs `CREATE VIEW`. -/
def createView (db : Database) (c : CreateView) : Define Database := do
  let store ← schemaOf db c.schema c.temp
  checkReserved c.name
  match ← checkNewTableName db c.name store c.ifNotExists with
  | some () => pure db
  | none =>
    pure (db.addEntry (.view
      { name := c.name, columns := c.columns, query := c.query,
        sql := c.text, store }))

/-- Runs `CREATE TRIGGER`. -/
def createTrigger (db : Database) (c : CreateTrigger) : Define Database := do
  let store ← schemaOf db c.schema c.temp
  let found := if store.isTemp then db.find? c.table else db.findAt? store c.table
  let owner := match found with
    | some (.table t) => some (t.name, false, t.isVirtual)
    | some (.view v) => some (v.name, true, false)
    | _ => none
  let home := if store.isTemp then "main" else store.name
  match owner with
  | none => throw (.noTable (home ++ "." ++ c.table))
  | some (tname, isView, isVirtual) =>
    if isVirtual then throw (.general "cannot create triggers on virtual tables")
    checkReserved c.name
    if db.entries.any (fun e => e.kind == .trigger && e.store == store && sameName e.name c.name) then
      if c.ifNotExists then return db
      else throw (.general ("trigger " ++ c.name ++ " already exists"))
    if reservedName tname then throw (.general "cannot create trigger on system table")
    if isView && !(c.time == .insteadOf) then
      throw (.general ("cannot create " ++ (if c.time == .before then "BEFORE" else "AFTER") ++
        " trigger on view: " ++ home ++ "." ++ c.table))
    if !isView && c.time == .insteadOf then
      throw (.general ("cannot create INSTEAD OF trigger on table: " ++ home ++ "." ++ c.table))
    pure (db.addEntry (.trigger
      { name := c.name, table := tname, time := c.time, event := c.event,
        condition := c.condition, body := c.body, sql := c.text, store }))

/-- Deletes the rows of a table about to be dropped that foreign keys may name: no
trigger fires, but the keys are checked and their actions run, and references left
dangling by keys that are not deferred stop the drop. The deleted rows count as the
statement's changes. -/
def clearReferenced (db : Database) (t : Table) : Define Database :=
  let ctx : Context := { quiet := true }
  let d : Delete := { schema := some t.schemaName, table := t.name }
  match ((runDelete walkDepth ctx d).run).run { db with pendingReferences := 0 } with
  | (.ok n, db') =>
    if db'.pendingReferences > 0 then throw danglingError
    else pure { db' with changes := n, totalChanges := db'.totalChanges + n }
  | (.error (.error e _), _) => throw e
  | (.error .ignore, db') => pure db'

/-- Runs `DROP TABLE|VIEW|INDEX|TRIGGER`. -/
def dropObject (db : Database) (kind : ObjectKind) (ifExists : Bool) (schema : Option String)
    (name : String) : Define Database := do
  let found := db.findIn? schema name
  let missing : Define Database :=
    if ifExists then pure db
    else throw (.general ("no such " ++ kind.name ++ ": " ++ tableDisplay schema name))
  match kind with
  | .table | .view =>
    match found with
    | some (.table t) =>
      if kind == .view then throw (.general ("use DROP TABLE to delete table " ++ t.name))
      else if reservedName t.name then throw (.general ("table " ++ t.name ++ " may not be dropped"))
      else do
        let named := !(db.referencesTo t).isEmpty ||
          (db.deferredReferences != 0 && t.foreignKeys.any (·.target.deferred))
        let db ← if db.foreignKeys && named then clearReferenced db t else pure db
        let shadow (e : Entry) : Bool :=
          t.shadowSuffixes.any fun sfx => sameName e.owner (t.name ++ sfx)
        let db := { db with entries := db.entries.filter fun e =>
          !((sameName e.owner t.name || shadow e) && e.store == t.store) }
        match db.table? "sqlite_sequence" with
        | some s =>
          if t.autoincrement then
            pure (db.putTable { s with rows := s.rows.filter (!isSequenceRow t.name ·) })
          else pure db
        | none => pure db
    | some (.view v) =>
      if kind == .table then throw (.general ("use DROP VIEW to delete view " ++ v.name))
      else
        pure { db with entries := db.entries.filter fun e =>
          !(sameName e.owner v.name && e.store == v.store) }
    | _ =>
      if isMasterName name then throw (.general ("table " ++ name ++ " may not be dropped"))
      else missing
  | .index =>
    match found with
    | some (.index i) =>
      if i.origin != .created then
        throw (.general "index associated with UNIQUE or PRIMARY KEY constraint cannot be dropped")
      else pure { db with entries := db.entries.filter fun e => !(e.kind == .index && sameName e.name i.name) }
    | _ => missing
  | .trigger =>
    match found with
    | some (.trigger tr) =>
      pure { db with entries := db.entries.filter fun e => !(e.kind == .trigger && sameName e.name tr.name) }
    | _ => missing

/-- A table's text with a column definition added before the bracket that closes its
columns. -/
def addColumnText (sql text : String) : String :=
  let cs := sql.toList
  match cs.reverse.dropWhile (· ≠ ')') with
  | ')' :: beforeRev =>
    String.ofList beforeRev.reverse ++ ", " ++ text ++ String.ofList (cs.drop beforeRev.length)
  | _ => sql

/-- The error of an object of the schema that no longer reads, after a change (`when`
empty: before it). -/
def schemaError (kind name when : String) (e : SqlError) : SqlError :=
  .general ("error in " ++ kind ++ " " ++ name ++ (if when.isEmpty then "" else " " ++ when) ++
    ": " ++ e.message)

/-- The error of an object read again after a column of a table was dropped. -/
def afterDrop (kind name : String) (e : SqlError) : SqlError :=
  schemaError kind name "after drop column" e

/-- Checks the statements of a trigger's program, without the triggers they fire. -/
def checkTriggerProgram (db : Database) (tr : Trigger) : Eval Unit := do
  let env : Env := { db }
  let target ← findWriteTarget walkDepth env none tr.table none fun _ => true
  let inner := triggerScope env tr target.row
  checkExprs walkDepth inner [] false tr.condition.toList
  let everyTrigger := db.entries.filterMap fun
    | .trigger t => some t.name
    | _ => none
  for a in tr.body do
    checkAction walkDepth inner everyTrigger a

/-- Checks that every view and trigger of a database reads, in the order they were made;
`when` says after what change, for the message. -/
def checkSchemaReads (db : Database) (when : String) : Define Unit := do
  for e in db.entries do
    match e with
    | .view v =>
      match checkQuery walkDepth (v.scope db) [v.name] v.query with
      | .error (.error err _) => throw (schemaError "view" v.name when err)
      | _ => pure ()
    | .trigger tr =>
      match checkTriggerProgram db tr with
      | .error (.error err _) => throw (schemaError "trigger" tr.name when err)
      | _ => pure ()
    | _ => pure ()

/-- Reads every object again after a column of `t` was dropped (`db` is the database
without it), the way the schema is read: first the table, its key constraints, its
foreign keys, then its `CHECK` constraints and generated columns; then its indexes; then
every view and trigger, in the order they were made. The first that no longer reads
stops the statement. -/
def checkAfterDrop (db : Database) (t : Table) : Define Unit := do
  for ix in db.indexesOf t.name do
    if ix.origin != .created then
      for c in ix.columns do
        match readOwn db t .indexExpr none c.expr with
        | some e => throw (afterDrop "table" t.name e)
        | none => pure ()
  for fk in t.foreignKeys do
    match fk.columns.find? (fun n => (t.columnIndex n).isNone) with
    | some bad =>
      throw (afterDrop "table" t.name
        (.general ("unknown column \"" ++ bad ++ "\" in foreign key definition")))
    | none => pure ()
  match ownError db t with
  | some e => throw (afterDrop "table" t.name e)
  | none => pure ()
  for ix in db.indexesOf t.name do
    if ix.origin == .created then
      let pending := ix.filter.bind (readOwn db t .indexFilter none)
      let pending := ix.columns.foldl (fun p c =>
        match p with
        | some _ => p
        | none => readOwn db t .indexExpr none c.expr) pending
      match pending with
      | some e => throw (afterDrop "index" ix.name e)
      | none => pure ()
  checkSchemaReads db "after drop column"

/-- Runs `ALTER TABLE`. -/
def alterTable (db : Database) (table : String) (a : Alteration) : Define Database := do
  match db.find? table with
  | some (.table t) =>
    if reservedName t.name then throw (.general ("table " ++ t.name ++ " may not be altered"))
    if t.isVirtual then
      match a with
      | .addColumn _ _ => throw (.general "virtual tables may not be altered")
      | .renameColumn _ _ =>
        throw (.general ("cannot rename columns of virtual table \"" ++ t.name ++ "\""))
      | .dropColumn _ =>
        throw (.general ("cannot drop column from virtual table \"" ++ t.name ++ "\""))
      | .rename _ => pure ()
    match a with
    | .rename newName =>
      if (db.find? newName).isSome then
        throw (.general ("there is already another table or index with this name: " ++ newName))
      checkReserved newName
      -- every view and trigger is reread under the new name: one that does not read stops it
      checkSchemaReads db ""
      let r : Renaming :=
        { table := t.name, store := t.store, newTable := newName, column := none,
          known := db.knownColumns }
      let db := { db with entries := db.entries.map r.entry }
      let sql := match t.sql.splitOn t.name with
        | head :: rest => head ++ "\"" ++ newName ++ "\"" ++ t.name.intercalate rest
        | [] => t.sql
      let renameEntry (e : Entry) : Entry :=
        match e with
        | .table u =>
          if sameName u.name t.name then .table { u with name := newName, sql }
          else
            match t.shadowSuffixes.find? fun sfx =>
                u.store == t.store && sameName u.name (t.name ++ sfx) with
            | some sfx => .table { u with name := newName ++ sfx, sql := renameCreated u.sql (newName ++ sfx) }
            | none => e
        | .index i =>
          if sameName i.table t.name then
            let iname := if i.origin != .created then
                "sqlite_autoindex_" ++ newName ++ (i.name.drop (17 + t.name.length)).toString
              else i.name
            .index { i with table := newName, name := iname }
          else e
        | .trigger tr => if sameName tr.table t.name then .trigger { tr with table := newName } else e
        | e => e
      let db := { db with entries := db.entries.map renameEntry }
      match db.table? "sqlite_sequence" with
      | some s =>
        let rows := s.rows.map fun r =>
          if isSequenceRow t.name r then { r with values := [.text newName] ++ r.values.drop 1 } else r
        pure (db.putTable { s with rows })
      | none => pure db
    | .renameColumn old new =>
      match t.columnIndex old with
      | none => throw (.general ("no such column: \"" ++ old ++ "\""))
      | some k =>
        checkSchemaReads db ""
        let col := t.columns.getD k default
        if (t.columns.eraseIdx k).any (sameName ·.name new) then
          throw (.general ("error in table " ++ t.name ++ " after rename: duplicate column name: " ++ new))
        let r : Renaming :=
          { table := t.name, store := t.store, newTable := t.name, column := some (col.name, new),
            known := db.knownColumns }
        let db := { db with entries := db.entries.map r.entry }
        checkSchemaReads db "after rename"
        pure db
    | .addColumn c text =>
      if t.columns.any (sameName ·.name c.name) then
        throw (.general ("duplicate column name: " ++ c.name))
      let d ← ({ table := { t with columns := [], checks := [], foreignKeys := [] } } : Draft).addColumn c
      let col := d.table.columns.getD 0 default
      let col := if t.strict && col.declared.toUpper == "ANY" then { col with affinity := .blob } else col
      if c.constraints.any (fun (_, cc) => match cc with
          | .primaryKey _ _ _ => true
          | _ => false) then throw (.general "Cannot add a PRIMARY KEY column")
      if c.constraints.any (fun (_, cc) => match cc with
          | .unique _ => true
          | _ => false) then throw (.general "Cannot add a UNIQUE column")
      -- the remaining refusals only stop a table that has rows
      let refuse (message : String) : Define Unit :=
        if t.rows.isEmpty then pure () else throw (.general message)
      let dflt := col.default.filter fun e => match e with
        | .lit .null => false
        | _ => true
      match col.generated with
      | none =>
        if db.foreignKeys && dflt.isSome && !d.table.foreignKeys.isEmpty then
          refuse "Cannot add a REFERENCES column with non-NULL default value"
        if col.notNull.isSome && dflt.isNone then
          refuse "Cannot add a NOT NULL column with default value NULL"
        match dflt with
        | some e => if (e.plainValue? walkDepth).isNone then
            refuse "Cannot add a column with non-constant default"
        | none => pure ()
      | some _ =>
        if c.constraints.any (fun (_, cc) => match cc with
            | .generated _ kind => (kind.map (·.toUpper == "STORED")).getD false
            | _ => false) then
          refuse "cannot add a STORED column"
      let raw := (dflt.bind (·.plainValue? walkDepth)).getD .null
      let stored := (({ t with columns := [col] } : Table).applyAffinity [raw]).headD .null
      let t' : Table :=
        { t with
          columns := t.columns ++ [col],
          checks := t.checks ++ d.table.checks,
          foreignKeys := t.foreignKeys ++ d.table.foreignKeys,
          sql := addColumnText t.sql text,
          rows := t.rows.map fun r => { r with values := r.values ++ [stored] } }
      -- the table is read again with its new column
      if t.strict then
        match strictColumnError t.name col with
        | some m => throw (.general ("error in table " ++ t.name ++ " after add column: " ++ m))
        | none => pure ()
      match ownError db t' with
      | some e => throw (.general ("error in table " ++ t.name ++ " after add column: " ++ e.message))
      | none => pure ()
      -- a generated column has its value computed in every row
      let t' ← if col.generated.isSome then do
          let rows ← t'.rows.mapM fun r =>
            match t'.withGenerated db r.values (some r.rowid) with
            | .ok values => pure { r with values }
            | .error (.error e _) => throw e
            | .error .ignore => pure r
          pure { t' with rows }
        else pure t'
      -- a new `CHECK`, a generated `NOT NULL` column or a `STRICT` table has every row
      -- checked again: each column's `NOT NULL` and type, then the `CHECK` constraints
      if !d.table.checks.isEmpty || t.strict || (col.notNull.isSome && col.generated.isSome) then
        for r in t'.rows do
          for (cl, k) in t'.columns.zip (List.range t'.columns.length) do
            if t'.rowidColumn != some k then
              let v := r.values.getD k .null
              if cl.notNull.isSome && v.isNull then throw (.general "NOT NULL constraint failed")
              if (strictCheck { t' with columns := [cl] } [v]).isSome then
                throw (.general "type mismatch on DEFAULT")
          let env : Env := { db, frames := [{ bindings := [t'.binding t'.name r.values (some r.rowid)] }] }
          for ck in (if db.setting "ignore_check_constraints" then [] else t'.checks) do
            match eval walkDepth env ck.expr with
            | .ok v => if v.truth == some false then throw (.general "CHECK constraint failed")
            | .error (.error e _) => throw e
            | .error .ignore => pure ()
      pure (db.putTable t')
    | .dropColumn name =>
      match t.columnIndex name with
      | none => throw (.general ("no such column: \"" ++ name ++ "\""))
      | some k =>
        let col := t.columns.getD k default
        if col.primaryKey then throw (.general ("cannot drop PRIMARY KEY column: \"" ++ col.name ++ "\""))
        if col.unique then throw (.general ("cannot drop UNIQUE column: \"" ++ col.name ++ "\""))
        if t.columns.length ≤ 1 then
          throw (.general ("cannot drop column \"" ++ col.name ++ "\": no other columns exist"))
        -- the column's definition goes, with the constraints written in it
        let ownPart (c : Option String) : Bool := (c.map (sameName · col.name)).getD false
        let t' : Table :=
          { t with
            columns := t.columns.eraseIdx k,
            checks := t.checks.filter (!ownPart ·.column),
            foreignKeys := t.foreignKeys.filter fun fk => !(fk.inColumn && ownPart fk.columns.head?),
            rowidColumn := t.rowidColumn.map fun r => if r > k then r - 1 else r,
            rows := t.rows.map fun r => { r with values := r.values.eraseIdx k } }
        let db' := db.putTable t'
        checkAfterDrop db' t'
        pure db'
  | some (.view v) =>
    match a with
    | .addColumn _ _ => throw (.general "Cannot add a column to a view")
    | .renameColumn _ _ => throw (.general ("cannot rename columns of view \"" ++ v.name ++ "\""))
    | .dropColumn _ => throw (.general ("cannot drop column from view \"" ++ v.name ++ "\""))
    | .rename _ => throw (.general ("view " ++ v.name ++ " may not be altered"))
  | _ => throw (.noTable table)

end Relational

end CrateState
