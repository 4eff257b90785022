import CrateState.Relational.Syntax
import CrateState.Relational.Error
import CrateState.Relational.FullText.Tokenize
import CrateState.Relational.BoxTree

/-!
# The catalogue of a database

A database holds named tables, indexes, views and triggers in creation order, each with
the text that created it. A table keeps its rows in ascending row-id order; indexes keep no
rows, since whatever is asked of an index (is this key taken?) the table's rows answer.

Names match without regard to ASCII case, and a name in the temporary schema hides it in
the main one, which hides it in attached databases.

`sqlite_master` (or `sqlite_schema`) is not stored: `Database.masterRows` derives one row
per object of the main schema in creation order, the index of a `UNIQUE` or `PRIMARY KEY`
right after its table. `sqlite_sequence` is an ordinary table, made with the first
`AUTOINCREMENT` table.

A transaction is the catalogue as it began, plus its savepoints, each with the catalogue as
it stood then; rolling back puts the saved catalogue back.
-/

namespace CrateState

namespace Relational

/-- Whether two names are the same without regard to ASCII case. -/
def sameName (a b : String) : Bool := a.toLower == b.toLower

/-- Where a schema object lives: the main database, the temporary one, or one attached
to the connection. -/
inductive Store where
  /-- The main database. -/
  | main
  /-- The temporary database. -/
  | temp
  /-- A database attached under a name, spelled as the attaching statement spelled it. -/
  | attached (name : String)
  deriving BEq, Inhabited, Repr

/-- The name queries give a store. -/
def Store.name : Store → String
  | .main => "main"
  | .temp => "temp"
  | .attached n => n

/-- The schema the stored views and triggers of a store name their tables with: their
own, except in the temporary database, whose objects may name tables of any. -/
def Store.home : Store → Option String
  | .temp => none
  | st => some st.name

/-- Whether a store is the temporary database. -/
def Store.isTemp : Store → Bool
  | .temp => true
  | _ => false

/-- Whether a name is reserved for the database's own objects. -/
def reservedName (name : String) : Bool := name.toLower.startsWith "sqlite_"

/-- A column of a table. -/
structure Column where
  /-- The column name. -/
  name : String
  /-- The declared type, empty when none was written. -/
  declared : String := ""
  /-- The storage class the column prefers, from its declared type. -/
  affinity : Affinity := .blob
  /-- `NOT NULL`, with what to do when it fails. -/
  notNull : Option Conflict := none
  /-- The default value. -/
  default : Option Expr := none
  /-- The default value as written. -/
  defaultText : Option String := none
  /-- How its texts compare. -/
  collation : Collation := .binary
  /-- Whether it is part of the primary key. -/
  primaryKey : Bool := false
  /-- The expression of a generated column. -/
  generated : Option Expr := none
  /-- Whether a generated column is stored rather than computed when read. -/
  stored : Bool := false
  /-- Whether its own definition says `UNIQUE` (a table's `UNIQUE (…)` does not count). -/
  unique : Bool := false
  deriving Inhabited

/-- A `CHECK` constraint: its name, its condition and the condition's text. -/
structure Check where
  /-- The constraint name, if one was given. -/
  name : Option String
  /-- The condition. -/
  expr : Expr
  /-- The text of the condition. -/
  text : String
  /-- The column whose definition holds it, if one does. -/
  column : Option String := none

/-- Why an index exists. -/
inductive IndexOrigin where
  /-- Made by `CREATE INDEX`. -/
  | created
  /-- Made for a `UNIQUE` constraint. -/
  | unique
  /-- Made for a `PRIMARY KEY` that is not the row id. -/
  | primaryKey
  deriving DecidableEq, Repr

/-- An index. -/
structure Index where
  /-- The index name. -/
  name : String
  /-- The table it indexes. -/
  table : String
  /-- The indexed columns or expressions. -/
  columns : List IndexedColumn
  /-- Whether two rows may not share a key. -/
  unique : Bool
  /-- The condition of a partial index. -/
  filter : Option Expr := none
  /-- Why it exists. -/
  origin : IndexOrigin
  /-- What to do when uniqueness fails. -/
  conflict : Conflict := .abort
  /-- The statement that made it; none for the index of a constraint. -/
  sql : Option String
  /-- Its page number. -/
  rootPage : Nat
  /-- The database it lives in. -/
  store : Store := .main

/-- A stored row: its row id and one value per column. -/
structure Row where
  /-- The row id. -/
  rowid : Int
  /-- The values, one per column. -/
  values : List SqlValue
  deriving Inhabited

/-- A foreign key of a table: its columns (the table's own names for them) and the parent
key they refer to. -/
structure ForeignKey where
  /-- The referring columns. -/
  columns : List String
  /-- The parent table, its key and the actions. -/
  target : References
  /-- Whether a column's own definition declared it (`REFERENCES` after the column). -/
  inColumn : Bool := false
  deriving Inhabited

/-- The shape of an R*Tree table: after its 64-bit id come `bounds` columns of bounds,
in pairs of a least and a greatest value, kept as 32-bit floats or, when `integral`, as
32-bit integers; then `aux` columns kept as given. -/
structure RtreeShape where
  /-- Whether the bounds are 32-bit integers. -/
  integral : Bool
  /-- The number of bound columns: twice the number of dimensions. -/
  bounds : Nat
  /-- The number of auxiliary columns. -/
  aux : Nat
  /-- The tree of the boxes. -/
  tree : BoxTree := {}
  deriving Inhabited, BEq, Repr

/-- Where a full-text table's text lives. -/
inductive FullTextContent where
  /-- In the table itself. -/
  | kept
  /-- Nowhere: the table keeps only its index and reads its columns as `NULL`. -/
  | dropped
  /-- In another table, whose row ids (the values of the column `key`) are the index's. -/
  | external (table key : String)
  deriving Inhabited, BEq, Repr

/-- How much the index of a full-text table keeps of where each token stands (its
`detail` option). -/
inductive FullTextDetail where
  /-- The column and the position. -/
  | full
  /-- Only the column, so a query cannot ask for tokens side by side. -/
  | column
  /-- Neither, so a query cannot ask for a column either. -/
  | rowsOnly
  deriving Inhabited, BEq, Repr

/-- The shape of a full-text table: how its text is read into tokens, which columns the
index keeps, where the text lives, and the weights its ranking gives the columns. -/
structure FullTextShape where
  tokenizer : FullText.Tokenizer
  /-- For each column, whether the index keeps it. -/
  indexed : List Bool
  /-- Where the text lives. -/
  content : FullTextContent := .kept
  /-- Whether rows of a table without its text may be deleted. -/
  deletable : Bool := false
  /-- Whether the index records the size of each row. -/
  sized : Bool := true
  /-- The column weights of the ranking, 1 past those given. -/
  weights : List Float := []
  /-- What the index keeps of where each token stands. -/
  detail : FullTextDetail := .full
  /-- The settings written to the table, each under its key as written. -/
  settings : List (String × SqlValue) := []
  deriving Inhabited

/-- A table with its rows. -/
structure Table where
  /-- The table name. -/
  name : String
  /-- The columns in declaration order. -/
  columns : List Column
  /-- The column declared `INTEGER PRIMARY KEY`, which names the row id, if any. -/
  rowidColumn : Option Nat := none
  /-- What to do when the row id is taken. -/
  rowidConflict : Conflict := .abort
  /-- Whether row ids are never reused (`AUTOINCREMENT`). -/
  autoincrement : Bool := false
  /-- Whether the table is `WITHOUT ROWID`. -/
  withoutRowid : Bool := false
  /-- Whether the table is `STRICT`. -/
  strict : Bool := false
  /-- The `CHECK` constraints, in declaration order. -/
  checks : List Check := []
  /-- The foreign keys, in declaration order. -/
  foreignKeys : List ForeignKey := []
  /-- The statement that made it, as the schema table shows it. -/
  sql : String
  /-- Its page number. -/
  rootPage : Nat
  /-- The database it lives in. -/
  store : Store := .main
  /-- The shape of an R*Tree table, when the table is one. -/
  rtree : Option RtreeShape := none
  /-- The shape of a full-text table, when the table is one; its rows hold the text the
  index was given. -/
  fullText : Option FullTextShape := none
  /-- The rows, ascending by row id; an R*Tree table keeps them in the order its tree
  visits them, which is the order they were last written in. -/
  rows : List Row := []
  deriving Inhabited

/-- Whether a table is virtual: kept by a module (R*Tree or full text) rather than in
pages of its own. -/
def Table.isVirtual (t : Table) : Bool := t.rtree.isSome || t.fullText.isSome

/-- A view. -/
structure View where
  /-- The view name. -/
  name : String
  /-- The column names written after the name, if any. -/
  columns : List String
  /-- The query it stands for. -/
  query : Query
  /-- The statement that made it. -/
  sql : String
  /-- The database it lives in. -/
  store : Store := .main

/-- A trigger. -/
structure Trigger where
  /-- The trigger name. -/
  name : String
  /-- The table or view it watches. -/
  table : String
  /-- When it runs. -/
  time : TriggerTime
  /-- What it watches for. -/
  event : TriggerEvent
  /-- The `WHEN` condition. -/
  condition : Option Expr
  /-- The statements it runs. -/
  body : List Action
  /-- The statement that made it. -/
  sql : String
  /-- The database it lives in. -/
  store : Store := .main

/-- An object of the catalogue. -/
inductive Entry where
  | table (t : Table)
  | index (i : Index)
  | view (v : View)
  | trigger (t : Trigger)

namespace Entry

/-- The name of an object. -/
def name : Entry → String
  | .table t => t.name
  | .index i => i.name
  | .view v => v.name
  | .trigger t => t.name

def kind : Entry → ObjectKind
  | .table _ => .table
  | .index _ => .index
  | .view _ => .view
  | .trigger _ => .trigger

def store : Entry → Store
  | .table t => t.store
  | .index i => i.store
  | .view v => v.store
  | .trigger t => t.store

/-- The table an object belongs to (a table or view belongs to itself). -/
def owner : Entry → String
  | .table t => t.name
  | .index i => i.table
  | .view v => v.name
  | .trigger t => t.table

/-- The row an object has in the schema table: type, name, table, page and text. -/
def masterRow : Entry → List SqlValue
  | .table t => [.text "table", .text t.name, .text t.name, .int t.rootPage, .text t.sql]
  | .index i =>
    [.text "index", .text i.name, .text i.table, .int i.rootPage,
     match i.sql with
     | some s => .text s
     | none => .null]
  | .view v => [.text "view", .text v.name, .text v.name, .int 0, .text v.sql]
  | .trigger t => [.text "trigger", .text t.name, .text t.table, .int 0, .text t.sql]

end Entry

/-- The catalogue as it stood at some moment, to be put back by a rollback. -/
structure Snapshot where
  /-- The objects. -/
  entries : List Entry
  /-- The next free page. -/
  nextPage : Nat
  /-- The dangling references of deferred foreign keys then. -/
  deferredReferences : Int := 0
  /-- The schema version of the main database then. -/
  schemaVersion : Nat := 0

/-- An open transaction. -/
structure OpenTransaction where
  /-- The catalogue when it began. -/
  start : Snapshot
  /-- The savepoints open in it, the innermost first, each with the catalogue when it was
  opened. -/
  savepoints : List (String × Snapshot) := []
  /-- Whether it was begun by a savepoint, so that releasing that savepoint commits it. -/
  bySavepoint : Bool := false

/-- A database and the state of the connection to it. -/
structure Database where
  /-- The objects, in creation order. -/
  entries : List Entry := []
  /-- The next free page. -/
  nextPage : Nat := 2
  /-- The row id of the last row inserted into a table with row ids. -/
  lastRowid : Int := 0
  /-- The current moment, in milliseconds since 1970-01-01 00:00:00 UTC: what `now` reads
  in a date function. -/
  clock : Int := 0
  /-- The number of rows changed by the last finished insert, update or delete. -/
  changes : Nat := 0
  /-- The number of rows changed since the connection opened. -/
  totalChanges : Nat := 0
  /-- The open transaction, if any. -/
  transaction : Option OpenTransaction := none
  /-- Whether every write is refused. -/
  readOnly : Bool := false
  /-- Whether foreign keys are enforced (`PRAGMA foreign_keys`; on when the connection
  opens). -/
  foreignKeys : Bool := true
  /-- The references the running statement left dangling and has not mended, for the
  foreign keys checked at the statement's end. -/
  pendingReferences : Int := 0
  /-- The rows the running statement has changed so far (not counting its triggers'),
  which it reports when `FAIL` stops it with them kept. -/
  written : Nat := 0
  /-- The references left dangling in the open transaction, for the deferred foreign
  keys checked when it commits. -/
  deferredReferences : Int := 0
  /-- The number the application keeps in the database header (`PRAGMA user_version`). -/
  userVersion : Int := 0
  /-- The number that names the application in the database header
  (`PRAGMA application_id`). -/
  applicationId : Int := 0
  /-- The names of the databases attached to the connection, in the order attached. -/
  attached : List String := []
  /-- The settings of the connection a `PRAGMA` changed, by pragma name, each with the
  value it now reads as. -/
  settings : List (String × SqlValue) := []
  /-- The schema version of the main database: one more for every statement that
  changed its schema. -/
  schemaVersion : Nat := 0
  /-- How the main database journals its writes (`PRAGMA journal_mode`), which every
  connection to the file sees. -/
  journalMode : String := "delete"
  /-- The pragmas the connection has read as tables, as first written: each became a
  module of virtual tables when first read. -/
  pragmaModules : List String := []

/-- What one connection keeps to itself, apart from the main database it shares with the
other connections to the same file: the objects of its temporary and attached databases,
its counts of changed rows and last row id, its open transaction and its settings. -/
structure Link where
  /-- The objects of the temporary database and of the attached ones. -/
  own : List Entry := []
  /-- The row id of the last row it inserted. -/
  lastRowid : Int := 0
  /-- The rows changed by its last finished insert, update or delete. -/
  changes : Nat := 0
  /-- The rows it changed since it opened. -/
  totalChanges : Nat := 0
  /-- Its open transaction, if any. -/
  transaction : Option OpenTransaction := none
  /-- Whether it enforces foreign keys (on when it opens). -/
  foreignKeys : Bool := true
  /-- The references left dangling in its open transaction. -/
  deferredReferences : Int := 0
  /-- The databases attached to it. -/
  attached : List String := []
  /-- Its settings changed by `PRAGMA`. -/
  settings : List (String × SqlValue) := []
  /-- The pragmas it has read as tables. -/
  pragmaModules : List String := []

/-- The columns of the schema table. -/
def masterColumns : List Column :=
  [{ name := "type", declared := "text", affinity := .text },
   { name := "name", declared := "text", affinity := .text },
   { name := "tbl_name", declared := "text", affinity := .text },
   { name := "rootpage", declared := "int", affinity := .integer },
   { name := "sql", declared := "text", affinity := .text }]

/-- Whether a name is one of the names of the schema table. -/
def isMasterName (name : String) : Bool :=
  ["sqlite_master", "sqlite_schema", "sqlite_temp_master", "sqlite_temp_schema"].any
    (sameName · name)

/-- The text of the statement that makes the sequence table. -/
def sequenceSql : String := "CREATE TABLE sqlite_sequence(name,seq)"

/-- The pairs of items of two lists sorted by id that share an id. -/
def joinById {α β : Type} (ka : α → Int) (kb : β → Int) : List α → List β → List (α × β)
  | [], _ => []
  | _, [] => []
  | a :: as, b :: bs =>
    if ka a < kb b then joinById ka kb as (b :: bs)
    else if ka a == kb b then (a, b) :: joinById ka kb as bs
    else joinById ka kb (a :: as) bs
termination_by as bs => as.length + bs.length

/-- The rows sorted by row id, each with its position among the places (ids with
positions, sorted by id); a row with no place comes after all of them. -/
def placeRows (last : Nat) : List (Int × Nat) → List Row → List (Nat × Row)
  | _, [] => []
  | [], r :: rs => (last, r) :: placeRows last [] rs
  | (i, k) :: ps, r :: rs =>
    if i < r.rowid then placeRows last ps (r :: rs)
    else if i == r.rowid then (k, r) :: placeRows last ps rs
    else (last, r) :: placeRows last ((i, k) :: ps) rs
termination_by ps rs => ps.length + rs.length

/-- An R*Tree table with its rows in the order its tree keeps them. -/
def Table.inTreeOrder (t : Table) : Table :=
  match t.rtree with
  | none => t
  | some s =>
    let ids := s.tree.leafPairs.map (·.1)
    let places := ids.zipIdx.mergeSort fun a b => a.1 ≤ b.1
    let rows := t.rows.mergeSort fun a b => a.rowid ≤ b.rowid
    let placed := (placeRows ids.length places rows).mergeSort fun a b => a.1 ≤ b.1
    { t with rows := placed.map (·.2) }

namespace Database

/-- What the connection keeps to itself. -/
def link (db : Database) : Link :=
  { own := db.entries.filter (·.store != .main), lastRowid := db.lastRowid,
    changes := db.changes, totalChanges := db.totalChanges, transaction := db.transaction,
    foreignKeys := db.foreignKeys, deferredReferences := db.deferredReferences,
    attached := db.attached, settings := db.settings, pragmaModules := db.pragmaModules }

/-- The database as another connection sees it: the same main database, with what that
connection keeps to itself. -/
def withLink (db : Database) (l : Link) : Database :=
  { db with entries := db.entries.filter (·.store == .main) ++ l.own, lastRowid := l.lastRowid,
            changes := l.changes, totalChanges := l.totalChanges, transaction := l.transaction,
            foreignKeys := l.foreignKeys, deferredReferences := l.deferredReferences,
            attached := l.attached, settings := l.settings, pragmaModules := l.pragmaModules }

def snapshot (db : Database) : Snapshot :=
  ⟨db.entries, db.nextPage, db.deferredReferences, db.schemaVersion⟩

def restore (db : Database) (s : Snapshot) : Database :=
  { db with entries := s.entries, nextPage := s.nextPage,
            deferredReferences := s.deferredReferences, schemaVersion := s.schemaVersion }

/-- The stores a name no schema qualifies is looked for in: the temporary one, the main
one, then the attached ones in the order they were attached. -/
def searchOrder (db : Database) : List Store :=
  [.temp, .main] ++ db.attached.map .attached

/-- The store a schema name names, if any. -/
def storeNamed? (db : Database) (s : String) : Option Store :=
  if sameName s "main" then some .main
  else if sameName s "temp" then some .temp
  else (db.attached.find? (sameName · s)).map .attached

/-- The object of a name in one store. -/
def findAt? (db : Database) (st : Store) (name : String) : Option Entry :=
  db.entries.find? fun e => e.store == st && sameName e.name name

/-- The object of a name, looked for in the stores in their search order. -/
def find? (db : Database) (name : String) : Option Entry :=
  db.searchOrder.findSome? fun st => db.findAt? st name

/-- The object of a name in the store a schema name names, or in the first store that
has one when none is named; `none` also for an unknown schema. -/
def findIn? (db : Database) (schema : Option String) (name : String) : Option Entry :=
  match schema with
  | none => db.find? name
  | some s => (db.storeNamed? s).bind fun st => db.findAt? st name

def table? (db : Database) (name : String) : Option Table :=
  match db.find? name with
  | some (.table t) => some t
  | _ => none

/-- Whether an object has a row in the schema table: all but the primary key index of a
table without row ids, which is the table itself. -/
def listed (db : Database) : Entry → Bool
  | .index i =>
    i.origin != .primaryKey || !db.entries.any fun
      | .table t => t.store == i.store && sameName t.name i.table && t.withoutRowid
      | _ => false
  | _ => true

/-- The schema table as a table, its rows derived from the catalogue. -/
def masterTable (db : Database) (st : Store) : Table :=
  let rows := (db.entries.filter (fun e => e.store == st && db.listed e)).map Entry.masterRow
  { name := if st.isTemp then "sqlite_temp_master" else "sqlite_master",
    columns := masterColumns,
    sql := "CREATE TABLE sqlite_master(type text,name text,tbl_name text,rootpage int,sql text)",
    rootPage := 1,
    rows := (List.range rows.length).zip rows |>.map fun (i, vs) => ⟨i + 1, vs⟩ }

/-- The schema table a name reading one names: the temporary database's for
`sqlite_temp_master`, else that of the database the schema names. -/
def masterNamed (db : Database) (schema : Option String) (name : String) : Table :=
  db.masterTable (if name.toLower.startsWith "sqlite_temp" then .temp
    else (schema.bind db.storeNamed?).getD .main)

def masterRows (db : Database) : List (List SqlValue) :=
  (db.masterTable .main).rows.map (·.values)

/-- The indexes of a table, the newest first. -/
def indexesOf (db : Database) (table : String) : List Index :=
  (db.entries.filterMap fun
    | .index i => if sameName i.table table then some i else none
    | _ => none).reverse

/-- The triggers on a table or view, the newest first. -/
def triggersOf (db : Database) (table : String) : List Trigger :=
  (db.entries.filterMap fun
    | .trigger t => if sameName t.table table then some t else none
    | _ => none).reverse

/-- Replaces the rows of the table of a name in a schema. -/
def setRows (db : Database) (st : Store) (name : String) (rows : List Row) : Database :=
  { db with
    entries := db.entries.map fun
      | .table u => if u.store == st && sameName u.name name then .table { u with rows } else .table u
      | e => e }

/-- The tables that hold an R*Tree table's tree brought up to date with it: the bytes of
each node, the leaf of each row with the row's auxiliary values, and the node above each
node. -/
def putTreeTables (db : Database) (t : Table) (s : RtreeShape) : Database :=
  let tree := s.tree
  let nodes := (tree.nodes.map (·.1)).mergeSort (· ≤ ·)
  let nodeRows := nodes.map fun (n : Nat) =>
    (⟨n, [.int n, .blob (.ofList (tree.nodeData s.bounds n))]⟩ : Row)
  let leaves := tree.leafPairs.mergeSort fun a b => a.1 ≤ b.1
  let rows := t.rows.mergeSort fun a b => a.rowid ≤ b.rowid
  let rowidRows := (joinById (·.1) (·.rowid) leaves rows).map fun ((id, leaf), r) =>
    (⟨id, [.int id, .int leaf] ++ r.values.drop (1 + s.bounds)⟩ : Row)
  let parentRows := (tree.parentPairs.mergeSort fun a b => a.1 ≤ b.1).map fun ((n, p) : Nat × Nat) =>
    (⟨n, [.int n, .int p]⟩ : Row)
  ((db.setRows t.store (t.name ++ "_node") nodeRows).setRows t.store (t.name ++ "_rowid")
    rowidRows).setRows t.store (t.name ++ "_parent") parentRows

/-- Replaces the table of the same name (and schema); an R*Tree table's rows take the
order of its tree, and the tables holding the tree follow it. -/
def putTable (db : Database) (t : Table) : Database :=
  let t := t.inTreeOrder
  let db := { db with
    entries := db.entries.map fun
      | .table u => if u.store == t.store && sameName u.name t.name then .table t else .table u
      | e => e }
  match t.rtree with
  | some s => db.putTreeTables t s
  | none => db

def addEntry (db : Database) (e : Entry) : Database :=
  { db with entries := db.entries ++ [e] }

def takePage (db : Database) : Nat × Database :=
  (db.nextPage, { db with nextPage := db.nextPage + 1 })

def inTransaction (db : Database) : Bool := db.transaction.isSome

end Database

end Relational

end CrateState
