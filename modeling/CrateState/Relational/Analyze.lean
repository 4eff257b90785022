import CrateState.Relational.Write
import CrateState.Relational.Statistics

/-!
# `ANALYZE` and `REINDEX`

`ANALYZE` reads the indexes of ordinary tables and writes what it learns to
`sqlite_stat1(tbl,idx,stat)` and `sqlite_stat4(tbl,idx,neq,nlt,ndlt,sample)`, made when
missing in the database of the tables read (`Statistics` says what the rows hold).

* With no name it reads every table of the main and attached databases, with a database's
  name that database's; their rows replace all rows of both tables.
* With an index's name it reads that index, replacing its rows; with a table's (or
  view's), that table's indexes, replacing the table's rows. An unknown name is
  `no such table`.
* A table is read index by index, newest first, each giving one `sqlite_stat1` row when it
  holds entries (a partial index even when empty), then its samples. A table with rows and
  no index covering them all gives one row of its own, with its number of rows. Tables are
  read in the order of the table of names; virtual tables, views and the database's own
  are skipped.
* A table without row ids lists its primary key under the table's name.
* A nonzero `analysis_limit` keeps no samples.

`REINDEX` changes nothing kept here; it checks that its name is a collation, table or
index.
-/

namespace CrateState

namespace Relational

/-- The statistics tables with their columns, in the order they are made. -/
def statTables : List (String × List String) :=
  [("sqlite_stat1", ["tbl", "idx", "stat"]),
   ("sqlite_stat4", ["tbl", "idx", "neq", "nlt", "ndlt", "sample"])]

/-- Which rows of the statistics tables an analysis replaces. -/
inductive StatScope where
  /-- All of them. -/
  | all
  /-- Those of a table. -/
  | table (name : String)
  /-- Those of an index. -/
  | index (name : String)

/-- One analysis: the database its statistics go to, the rows they replace, and the tables
it reads, each with the one index to read, or all. -/
structure Analysis where
  store : Store
  scope : StatScope
  tables : List (Table × Option Index)

/-- The tables `ANALYZE` of a whole database reads, in the order its table of names keeps
them. -/
def Database.analyzedTables (db : Database) (s : Store) : List Table :=
  let own := db.entries.filter (·.store == s)
  let named := own.filterMap fun
    | .table t => some t.name
    | .view v => some v.name
    | _ => none
  let master := if s.isTemp then "sqlite_temp_master" else "sqlite_master"
  (hashOrder (master :: named)).filterMap fun n =>
    match own.find? (fun e => e.name == n) with
    | some (.table t) => if t.isVirtual || reservedName t.name then none else some t
    | _ => none

/-- What `ANALYZE` of a name reads, once its database is known (`schema` as written). -/
def Database.analysisOf (db : Database) (schema : Option String) (name : String) :
    Except SqlError Analysis :=
  let index := match schema with
    | some s => (db.storeNamed? s).bind fun st =>
        match db.findAt? st name with
        | some (.index ix) => some ix
        | _ => none
    | none => db.searchOrder.findSome? fun st =>
        match db.findAt? st name with
        | some (.index ix) => some ix
        | _ => none
  match index with
  | some ix =>
    match db.findAt? ix.store ix.table with
    | some (.table t) => .ok ⟨ix.store, .index ix.name, [(t, some ix)]⟩
    | _ => .ok ⟨ix.store, .index ix.name, []⟩
  | none =>
    match db.findIn? schema name with
    | some (.table t) => .ok ⟨t.store, .table t.name, [(t, none)]⟩
    | some (.view v) => .ok ⟨v.store, .table v.name, []⟩
    | _ =>
      if isMasterName name then
        .ok ⟨(schema.bind db.storeNamed?).getD .main, .table name, []⟩
      else .error (.noTable (match schema with
        | some s => s ++ "." ++ name
        | none => name))

/-- What `ANALYZE` reads, by what it names. -/
def Database.analyses (db : Database) : Option (Option String × String) →
    Except SqlError (List Analysis)
  | none =>
    .ok ((Store.main :: db.attached.map .attached).map fun s => ⟨s, .all, (db.analyzedTables s).map (·, none)⟩)
  | some (none, name) =>
    match db.storeNamed? name with
    | some s => .ok [⟨s, .all, (db.analyzedTables s).map (·, none)⟩]
    | none => (db.analysisOf none name).map ([·])
  | some (some schema, name) =>
    if (db.storeNamed? schema).isNone then .error (.general ("unknown database " ++ schema))
    else (db.analysisOf (some schema) name).map ([·])

/-- The entries of an index: for each row of the table within the index's `WHERE`, the
key values and then the row id (for a table without row ids, the primary key's values
the key does not hold), in the index's order; with the collation each column compares by
and whether the index is unique over columns that cannot be `NULL`. -/
def indexEntries (db : Database) (t : Table) (ix : Index) :
    Eval (List (List SqlValue) × List Collation × Bool) := do
  let env (r : Row) : Env := { db, frames := [{ bindings := [t.binding t.name r.values (some r.rowid)] }] }
  let probe := env (t.rows.headD default)
  let keyColls := ix.columns.map (keyCollation probe)
  let primary := t.withoutRowid && ix.origin == .primaryKey
  let keyNames := ix.columns.filterMap fun c => indexedName c.expr
  let primaryColumns : List Nat :=
    if !t.withoutRowid || primary then []
    else
      match (db.indexesOfTable t).find? (·.origin == .primaryKey) with
      | some pk => (pk.columns.filterMap fun c =>
          (indexedName c.expr).filter (fun n => !keyNames.any (sameName · n))).filterMap
            (columnPosition t)
      | none => []
  let suffixColls : List Collation :=
    if !t.withoutRowid then [.binary]
    else primaryColumns.map fun k => (t.columns.getD k default).collation
  let rows ← t.rows.filterMapM fun r => do
    let keep ← match ix.filter with
      | some f => do pure (← eval walkDepth (env r) f).holds
      | none => pure true
    if !keep then pure none
    else
      let key ← ix.columns.mapM fun c => eval walkDepth (env r) c.expr
      let suffix : List SqlValue :=
        if !t.withoutRowid then [.int r.rowid] else primaryColumns.map (r.values.getD · .null)
      pure (some (key ++ suffix))
  let colls := keyColls ++ suffixColls
  let descs := ix.columns.map (·.desc) ++ suffixColls.map fun _ => false
  let sortKey (vs : List SqlValue) : List (SqlValue × Collation × Bool × Option Bool) :=
    (vs.zip (colls.zip descs)).map fun (v, c, d) => (v, c, d, none)
  let sorted := sortStable (fun a b => compareKeys (sortKey a) (sortKey b)) rows
  let notNull := primary || (ix.unique && ix.columns.all fun c =>
    match (indexedName c.expr).bind (columnPosition t) with
    | some k => (t.columns.getD k default).notNull.isSome
    | none => false)
  pure (sorted, colls, notNull)

/-- The first of the first `test` columns at which an entry differs from the one before
it, `NULL`s counting as equal; `test` when they all agree. -/
def firstChange (colls : List Collation) (test : Nat) (before entry : List SqlValue) : Nat :=
  let same (c : Collation) (x y : SqlValue) : Bool :=
    compareKeys [(x, c, false, none)] [(y, c, false, none)] == .eq
  (((List.range test).find? fun i =>
    !same (colls.getD i .binary) (before.getD i .null) (entry.getD i .null))).getD test

/-- The rows of `sqlite_stat1` and of `sqlite_stat4` that reading a table gives. -/
def analyzeTable (db : Database) (t : Table) (only : Option Index) (samples : Bool) :
    Eval (List (List SqlValue) × List (List SqlValue)) := do
  let indexes := (db.indexesOfTable t).filter fun ix =>
    (only.map (sameName ·.name ix.name)).getD true
  let mut first : List (List SqlValue) := []
  let mut fourth : List (List SqlValue) := []
  for ix in indexes do
    let (entries, colls, notNull) ← indexEntries db t ix
    let width := ix.columns.length
    let cols := (entries.headD (colls.map fun _ => .null)).length
    let test := if notNull then width - 1 else cols - 1
    let changes := match entries with
      | [] => []
      | _ :: rest => 0 :: (List.zipWith (firstChange colls test) entries rest)
    let shown := if t.withoutRowid && ix.origin == .primaryKey then t.name else ix.name
    if !entries.isEmpty || ix.filter.isSome then
      first := first ++ [[.text t.name, .text shown, .text (statText width changes)]]
    if samples && !entries.isEmpty then
      fourth := fourth ++ (indexSamples cols changes).map fun s =>
        [.text t.name, .text shown, .text (countsText s.eq), .text (countsText s.lt),
         .text (countsText s.dlt), .blob (.ofList (recordBytes (entries.getD s.position [])))]
  let whole := only.isNone && !(db.indexesOfTable t).any (·.filter.isNone)
  if whole && !t.rows.isEmpty then
    first := first ++ [[.text t.name, .null, .text (toString t.rows.length)]]
  pure (first, fourth)

/-- The statistics tables of a database, made when missing. -/
def Database.withStatTables (db : Database) (s : Store) : Database :=
  statTables.foldl (fun db (name, cols) =>
    match db.findAt? s name with
    | some _ => db
    | none =>
      let (p, db) := db.takePage
      db.addEntry (.table
        { name, columns := cols.map fun c => { name := c },
          sql := "CREATE TABLE " ++ name ++ "(" ++ ",".intercalate cols ++ ")",
          rootPage := p, store := s })) db

/-- A statistics table with the rows of a scope taken out (their name in the column at
`at`) and new rows added after the last row id. -/
def Table.restated (t : Table) (scope : StatScope) (added : List (List SqlValue)) : Table :=
  let names (k : Nat) (n : String) (r : Row) : Bool :=
    match r.values.getD k .null with
    | .text s => s == n
    | _ => false
  let kept := match scope with
    | .all => []
    | .table n => t.rows.filter (!names 0 n ·)
    | .index n => t.rows.filter (!names 1 n ·)
  let next := kept.foldl (fun m r => max m r.rowid) 0 + 1
  { t with rows := kept ++ added.zipIdx.map fun (vs, k) => ⟨next + k, vs⟩ }

def Database.runAnalysis (db : Database) (a : Analysis) : Eval Database := do
  let samples := match settingValue db "analysis_limit" with
    | .int 0 => true
    | _ => false
  let db := db.withStatTables a.store
  let mut first : List (List SqlValue) := []
  let mut fourth : List (List SqlValue) := []
  for (t, only) in a.tables do
    let (f, s) ← analyzeTable db t only samples
    first := first ++ f
    fourth := fourth ++ s
  let put (db : Database) (name : String) (added : List (List SqlValue)) : Database :=
    match db.findAt? a.store name with
    | some (.table t) => db.putTable (t.restated a.scope added)
    | _ => db
  pure (put (put db "sqlite_stat1" first) "sqlite_stat4" fourth)

/-- Runs `ANALYZE` of what it names. -/
def Database.analyze (db : Database) (target : Option (Option String × String)) :
    Except SqlError Database :=
  match db.analyses target with
  | .error e => .error e
  | .ok analyses =>
    if db.refusesWrites then .error .readOnly
    else
      match analyses.foldlM Database.runAnalysis db with
      | .ok db' => .ok db'
      | .error (.error e _) => .error e
      | .error .ignore => .ok db

/-- Checks what `REINDEX` names: a collation (when no schema is written), a table or an
index. -/
def Database.reindex (db : Database) : Option (Option String × String) → Except SqlError Unit
  | none => .ok ()
  | some (schema, name) =>
    let unknown : Except SqlError Unit := .error (.general "unable to identify the object to be reindexed")
    match schema with
    | some s =>
      if (db.storeNamed? s).isNone then .error (.general ("unknown database " ++ s))
      else if found db schema name || isMasterName name then .ok ()
      else unknown
    | none =>
      if (collationNamed name).toOption.isSome || found db none name || isMasterName name then .ok ()
      else unknown
where
  /-- Whether a table, view or index of the name is there. -/
  found (db : Database) (schema : Option String) (name : String) : Bool :=
    match db.findIn? schema name with
    | some (.table _) | some (.view _) | some (.index _) => true
    | _ => false

end Relational

end CrateState
