import CrateState.Relational.Scope
import CrateState.Relational.Catalog
import CrateState.Relational.Depth
import CrateState.Relational.Rtree
import CrateState.Relational.FullText.Layout

/-!
# Pragmas read as tables

A pragma that answers with rows reads as the table `pragma_` and its name:
`SELECT name FROM pragma_table_info('t')`. The pragma's argument and schema are hidden
columns, `arg` and `schema`, filled by the call's arguments in that order; more arguments
are refused.

* `table_info(t)`: position, name, declared type, `NOT NULL`, the default as written and
  the place in the primary key (1 for the row id's column); generated columns are left
  out and positions close up. `table_xinfo` keeps them and adds whether a column is hidden
  (2 computed when read, 3 stored).
* `index_list(t)`, newest first: name, unique, origin (`c` `CREATE INDEX`, `u` `UNIQUE`,
  `pk` primary key), partial. `index_info(i)` lists the key columns (`-2` and no name for
  an expression); `index_xinfo` adds order, collation and the row id after them.
* `foreign_key_list(t)`: each column of each foreign key, the last declared first, with
  the parent column (none when the key names the parent's primary key), the actions and
  `NONE`.
* A pragma holding one setting answers one row with it, its column named after the pragma:
  the header's numbers, `foreign_keys`, and the fixed settings here (an in-memory database
  of 4096-byte pages, in UTF-8).
-/

namespace CrateState

namespace Relational

/-- The pragmas that answer one setting, with the column their value is under and
whether they take a schema. -/
def settingPragmas : List (String × String × Bool) :=
  [("analysis_limit", "analysis_limit", false), ("application_id", "application_id", false),
   ("auto_vacuum", "auto_vacuum", true), ("automatic_index", "automatic_index", false),
   ("busy_timeout", "timeout", false), ("cache_size", "cache_size", true),
   ("cache_spill", "cache_spill", true), ("cell_size_check", "cell_size_check", false),
   ("checkpoint_fullfsync", "checkpoint_fullfsync", false),
   ("count_changes", "count_changes", false), ("data_version", "data_version", false),
   ("default_cache_size", "cache_size", true), ("defer_foreign_keys", "defer_foreign_keys", false),
   ("empty_result_callbacks", "empty_result_callbacks", false), ("encoding", "encoding", false),
   ("foreign_keys", "foreign_keys", false), ("freelist_count", "freelist_count", false),
   ("full_column_names", "full_column_names", false), ("fullfsync", "fullfsync", false),
   ("hard_heap_limit", "hard_heap_limit", false),
   ("ignore_check_constraints", "ignore_check_constraints", false),
   ("journal_mode", "journal_mode", true), ("journal_size_limit", "journal_size_limit", true),
   ("legacy_alter_table", "legacy_alter_table", false), ("locking_mode", "locking_mode", true),
   ("max_page_count", "max_page_count", true), ("page_count", "page_count", true),
   ("page_size", "page_size", true), ("query_only", "query_only", false),
   ("read_uncommitted", "read_uncommitted", false),
   ("recursive_triggers", "recursive_triggers", false),
   ("reverse_unordered_selects", "reverse_unordered_selects", false),
   ("schema_version", "schema_version", false), ("secure_delete", "secure_delete", false),
   ("short_column_names", "short_column_names", false),
   ("soft_heap_limit", "soft_heap_limit", false), ("synchronous", "synchronous", true),
   ("temp_store", "temp_store", false), ("threads", "threads", false),
   ("trusted_schema", "trusted_schema", false), ("user_version", "user_version", false),
   ("writable_schema", "writable_schema", false)]

/-- The value a setting has on a connection that never changed it. -/
def defaultSetting (db : Database) : String → SqlValue
  | "application_id" => .int db.applicationId
  | "user_version" => .int db.userVersion
  | "schema_version" => .int db.schemaVersion
  | "foreign_keys" => .int (if db.foreignKeys then 1 else 0)
  | "page_count" => .int (db.nextPage - 1)
  | "busy_timeout" => .int 5000
  | "cache_size" | "default_cache_size" => .int (-2000)
  | "cache_spill" => .int 483
  | "data_version" => .int 1
  | "encoding" => .text "UTF-8"
  | "journal_mode" => .text db.journalMode
  | "journal_size_limit" => .int (-1)
  | "locking_mode" => .text "normal"
  | "max_page_count" => .int 4294967294
  | "page_size" => .int 4096
  | "synchronous" => .int 2
  | "automatic_index" | "short_column_names" | "trusted_schema" => .int 1
  | _ => .int 0

/-- The truth of a `PRAGMA` flag's value: a number whose leading digits are not a
multiple of 256, or `on`, `yes` or `true` in any case; anything else is off. -/
def pragmaFlag (v : SqlValue) : Bool :=
  let text := v.textD
  match text.toList with
  | c :: _ =>
    if c.isDigit then
      (String.ofList (text.toList.takeWhile Char.isDigit)).toNat! % 256 != 0
    else ["on", "yes", "true"].any (sameName · text)
  | [] => false

/-- The 32-bit integer a `PRAGMA` value sets a header number to: an optional sign and
decimal digits (what follows them is ignored), or `0x` and at most eight hexadecimal
digits below 2^31; 0 for anything else, or a number out of the 32-bit range. -/
def pragmaInt32 (v : SqlValue) : Int :=
  let cs := v.textD.toList
  let (neg, body) := match cs with
    | '-' :: r => (true, r)
    | '+' :: r => (false, r)
    | r => (false, r)
  match cs with
  | '0' :: x :: h :: _ =>
    if (x == 'x' || x == 'X') && h.isHexDigit then
      let ds := (cs.drop 2).dropWhile (· == '0')
      let hex := (ds.take 8).takeWhile Char.isHexDigit
      let u := hex.foldl (fun acc c => acc * 16 + (if c.isDigit then c.toNat - 48
        else (c.toLower.toNat - 87))) 0
      let next := ds.drop hex.length
      if u < Nat.pow 2 31 && !(next.head?.any Char.isHexDigit) then u else 0
    else decimal neg body
  | _ => decimal neg body
where
  /-- The decimal part: at most ten significant digits. -/
  decimal (neg : Bool) (body : List Char) : Int :=
    match body with
    | c :: _ =>
      if !c.isDigit then 0
      else
        let ds := (body.dropWhile (· == '0')).takeWhile Char.isDigit
        let v : Nat := ds.foldl (fun acc c => acc * 10 + (c.toNat - 48)) 0
        if ds.length > 10 || (v : Int) - (if neg then 1 else 0) > 2147483647 then 0
        else if neg then -(v : Int) else v
    | [] => 0

/-- An integer pragma value read as a 64-bit number, with whether the whole text was one:
`0x` and hexadecimal digits, or blanks, a sign, decimal digits and blanks. A number out of
range is held at the nearest bound, and text that is no number reads as the digits it
starts with. -/
def pragmaInt64 (text : String) : Int × Bool :=
  let cs := text.toList
  match cs with
  | '0' :: x :: h :: rest =>
    if (x == 'x' || x == 'X') && h.isHexDigit then
      let ds := (h :: rest).takeWhile Char.isHexDigit
      let u : Nat := ds.foldl (fun acc c => (acc * 16 + hexDigitValue c) % 18446744073709551616) 0
      let v : Int := if u ≥ 9223372036854775808 then (u : Int) - 18446744073709551616 else u
      (v, (ds.dropWhile (· == '0')).length ≤ 16 && ds.length == (h :: rest).length)
    else decimal cs
  | _ => decimal cs
where
  /-- The value of a hexadecimal digit. -/
  hexDigitValue (c : Char) : Nat :=
    if c.isDigit then c.toNat - 48 else c.toLower.toNat - 87
  /-- Whether a character is a blank as the database reads numbers. -/
  blank (c : Char) : Bool := c == ' ' || c == '\t' || c == '\n' || c == '\r' || c.toNat == 11 || c.toNat == 12
  /-- The decimal reading. -/
  decimal (cs : List Char) : Int × Bool :=
    let cs := cs.dropWhile blank
    let (neg, body) := match cs with
      | '-' :: r => (true, r)
      | '+' :: r => (false, r)
      | r => (false, r)
    let ds := body.takeWhile Char.isDigit
    let mag : Nat := ds.foldl (fun acc c => acc * 10 + (c.toNat - 48)) 0
    let bound : Nat := if neg then 9223372036854775808 else 9223372036854775807
    let v : Int := if neg then -((min mag bound : Nat) : Int) else (min mag bound : Nat)
    (v, !ds.isEmpty && (body.drop ds.length).all blank && mag ≤ bound)

/-- The pragmas that switch one flag of the connection on or off. -/
def flagPragmas : List String :=
  ["automatic_index", "cell_size_check", "checkpoint_fullfsync", "count_changes",
   "defer_foreign_keys", "empty_result_callbacks", "full_column_names", "fullfsync",
   "ignore_check_constraints", "legacy_alter_table", "query_only", "read_uncommitted",
   "recursive_triggers", "reverse_unordered_selects", "short_column_names", "trusted_schema",
   "writable_schema"]

/-- The level a `synchronous` value names: a number (its low byte), `off`, `no` or `false`
0, `on`, `yes` or `true` 1, `full` 2, `extra` 3, and 1 for anything else. -/
def safetyLevel (v : SqlValue) : Nat :=
  let text := v.textD
  if text.toList.head?.any Char.isDigit then (pragmaInt32 v).toNat % 256
  else if ["off", "no", "false"].any (sameName · text) then 0
  else if sameName text "full" then 2
  else if sameName text "extra" then 3
  else 1

/-- Where `temp_store` keeps temporary objects: a leading digit 0 to 2 as it is, `file` 1,
`memory` 2, and 0 (the default) for anything else. -/
def tempStoreLevel (v : SqlValue) : Nat :=
  let text := v.textD
  match text.toList.head? with
  | some c =>
    if '0' ≤ c && c ≤ '2' then c.toNat - 48
    else if sameName text "file" then 1
    else if sameName text "memory" then 2
    else 0
  | none => 0

/-- The value of a pragma that holds one setting: what the connection set it to, else
its default. -/
def settingValue (db : Database) (name : String) : SqlValue :=
  match db.settings.lookup name with
  | some v => v
  | none => defaultSetting db name

/-- Whether a flag setting of the connection is on. -/
def Database.setting (db : Database) (name : String) : Bool :=
  match settingValue db name with
  | .int 0 => false
  | _ => true

/-- The connection with a setting changed. -/
def Database.withSetting (db : Database) (name : String) (v : SqlValue) : Database :=
  { db with settings := (name, v) :: db.settings.filter (·.1 != name) }

/-- Whether the connection refuses to write: its database was opened read-only, or
`query_only` is on. -/
def Database.refusesWrites (db : Database) : Bool := db.readOnly || db.setting "query_only"

/-- Runs `PRAGMA name = value` (`main` when no schema or the main one is named): the
settings it changes, as the pragma reads them back.

* A flag takes `pragmaFlag`'s truth of the value; `foreign_keys` changes only outside a
  transaction; switching `defer_foreign_keys` off forgets dangling references.
* `synchronous`, outside a transaction, stores one more than the level modulo 8 (0 as 1)
  and reads back one less.
* `temp_store` cannot change inside a transaction once the temporary database holds
  something; changing it empties that database.
* Numbers: `journal_size_limit` at least -1, `busy_timeout` at least 0, `cache_size` as
  written, `analysis_limit` and `threads` (at most 8) only from a whole non-negative number,
  and the header's `user_version`, `application_id`, `schema_version`.
* `secure_delete` is 2 for `fast`, else a flag; `locking_mode` `exclusive` or `normal`.
* Any other pragma, and a read-only one, changes nothing. -/
def Database.setPragma (db : Database) (main : Bool) (name : String) (v : SqlValue) :
    Except SqlError Database :=
  let key := name.toLower
  let text := v.textD
  let number := pragmaInt64 text
  let flag : SqlValue := .int (if pragmaFlag v then 1 else 0)
  let header := key == "user_version" || key == "application_id" || key == "schema_version"
  if header && db.refusesWrites then .error .readOnly
  else if key == "foreign_keys" then
    .ok (if db.inTransaction then db else { db with foreignKeys := pragmaFlag v })
  else if key == "defer_foreign_keys" then
    let db := db.withSetting key flag
    .ok (if pragmaFlag v then db else { db with deferredReferences := 0 })
  else if flagPragmas.contains key then .ok (db.withSetting key flag)
  else
    match key with
    | "user_version" => .ok (if main then { db with userVersion := pragmaInt32 v } else db)
    | "application_id" => .ok (if main then { db with applicationId := pragmaInt32 v } else db)
    | "schema_version" =>
      .ok (if main then { db with schemaVersion := (pragmaInt32 v).toNat } else db)
    | "synchronous" =>
      if db.inTransaction then .error (.general "Safety level may not be changed inside a transaction")
      else if !main then .ok db
      else
        let stored := (safetyLevel v + 1) % 8
        .ok (db.withSetting key (.int ((if stored == 0 then 1 else stored) - 1 : Nat)))
    | "temp_store" =>
      let level := tempStoreLevel v
      let same := match settingValue db key with
        | .int i => i == level
        | _ => false
      if same then .ok db
      else if db.entries.any (·.store.isTemp) then
        if db.inTransaction then
          .error (.general "temporary storage cannot be changed from within a transaction")
        else
          .ok ({ db with entries := db.entries.filter (!·.store.isTemp) }.withSetting key (.int level))
      else .ok (db.withSetting key (.int level))
    | "journal_size_limit" => .ok (db.withSetting key (.int (max number.1 (-1))))
    | "busy_timeout" => .ok (db.withSetting key (.int (max (pragmaInt32 v) 0)))
    | "cache_size" => .ok (db.withSetting key (.int (pragmaInt32 v)))
    | "analysis_limit" =>
      .ok (if number.2 && number.1 ≥ 0 then db.withSetting key (.int (number.1 % 2147483648)) else db)
    | "threads" =>
      .ok (if number.2 && number.1 ≥ 0 then db.withSetting key (.int (min (number.1 % 2147483648) 8)) else db)
    | "secure_delete" =>
      .ok (db.withSetting key (.int (if sameName text "fast" then 2 else if pragmaFlag v then 1 else 0)))
    | "locking_mode" =>
      if sameName text "exclusive" then .ok (db.withSetting key (.text "exclusive"))
      else if sameName text "normal" then .ok (db.withSetting key (.text "normal"))
      else .ok db
    | "journal_mode" =>
      if sameName text "wal" then .ok { db with journalMode := "wal" } else .ok db
    | _ => .ok db

/-- The columns of a pragma read as a table and its hidden columns; `none` for a name that
is no such pragma. -/
def pragmaColumns (name : String) : Option (List String × List String) :=
  let both := ["arg", "schema"]
  match name with
  | "table_info" => some (["cid", "name", "type", "notnull", "dflt_value", "pk"], both)
  | "table_xinfo" => some (["cid", "name", "type", "notnull", "dflt_value", "pk", "hidden"], both)
  | "index_list" => some (["seq", "name", "unique", "origin", "partial"], both)
  | "index_info" => some (["seqno", "cid", "name"], both)
  | "index_xinfo" => some (["seqno", "cid", "name", "desc", "coll", "key"], both)
  | "foreign_key_list" =>
    some (["id", "seq", "table", "from", "to", "on_update", "on_delete", "match"], both)
  | "foreign_key_check" => some (["table", "rowid", "parent", "fkid"], both)
  | "integrity_check" => some (["integrity_check"], both)
  | "quick_check" => some (["quick_check"], both)
  | "optimize" => some (["optimize"], ["arg"])
  | "table_list" => some (["schema", "name", "type", "ncol", "wr", "strict"], ["arg"])
  | "database_list" => some (["seq", "name", "file"], [])
  | "collation_list" => some (["seq", "name"], [])
  | "compile_options" => some (["compile_options"], [])
  | "pragma_list" => some (["name"], [])
  | "function_list" => some (["name", "builtin", "type", "enc", "narg", "flags"], [])
  | "module_list" => some (["name"], [])
  | other =>
    (settingPragmas.find? (·.1 == other)).map fun (_, column, schema) =>
      ([column], if schema then ["schema"] else [])

/-- The name of the column an indexed term is, if it is one. -/
def indexedName : Expr → Option String
  | .column _ _ n | .quoted n => some n
  | .collate e _ => indexedName e
  | _ => none

/-- The position of a column of a table by name. -/
def columnPosition (t : Table) (name : String) : Option Nat :=
  t.columns.findIdx? (sameName ·.name name)

/-- The indexes of a table, the newest first. -/
def Database.indexesOfTable (db : Database) (t : Table) : List Index :=
  (db.indexesOf t.name).filter (·.store == t.store)

/-- The rows of `table_info` (or, `extended`, `table_xinfo`) of a table. -/
def tableInfoRows (db : Database) (t : Table) (extended : Bool) : List (List SqlValue) :=
  let key := (db.indexesOfTable t).find? (·.origin == .primaryKey)
  let keyPlace (c : Column) : Nat :=
    if !c.primaryKey then 0
    else
      match key with
      | none => 1
      | some ix =>
        ((ix.columns.findIdx? fun ic => ((indexedName ic.expr).map (sameName · c.name)).getD false).map
          (· + 1)).getD 0
  let (rows, _) := t.columns.foldl (fun (acc : List (List SqlValue) × Nat) c =>
    let (rows, cid) := acc
    if c.generated.isSome && !extended then (rows, cid)
    else
      let hidden : Nat := if c.generated.isNone then 0 else if c.stored then 3 else 2
      let dflt : SqlValue := if c.generated.isSome then .null else (c.defaultText.map .text).getD .null
      let row : List SqlValue :=
        [.int cid, .text c.name, .text c.declared, .int (if c.notNull.isSome then 1 else 0), dflt,
         .int (keyPlace c)] ++ (if extended then [.int hidden] else [])
      (rows ++ [row], cid + 1)) ([], 0)
  rows

/-- The letters `index_list` gives the reason an index exists. -/
def IndexOrigin.letters : IndexOrigin → String
  | .created => "c"
  | .unique => "u"
  | .primaryKey => "pk"

/-- The name a collation is listed under. -/
def Collation.listedName : Collation → String
  | .binary => "BINARY"
  | .nocase => "NOCASE"
  | .rtrim => "RTRIM"

/-- The rows of `index_info` (or, `extended`, `index_xinfo`) of an index of a table. -/
def indexInfoRows (t : Table) (ix : Index) (extended : Bool) : List (List SqlValue) :=
  let keyRows := ix.columns.zipIdx.map fun (ic, k) =>
    let name := indexedName ic.expr
    let pos := name.bind (columnPosition t)
    let cid : Int := match pos with
      | some p => p
      | none => -2
    let shown : SqlValue := match pos with
      | some p => .text (t.columns.getD p default).name
      | none => .null
    let coll := match ic.collation with
      | some c => c
      | none => (pos.map fun p => (t.columns.getD p default).collation.listedName).getD "BINARY"
    [.int k, .int cid, shown] ++
      (if extended then [.int (if ic.desc then 1 else 0), .text coll, .int 1] else [])
  if extended && !t.withoutRowid then
    keyRows ++ [[.int ix.columns.length, .int (-1), .null, .int 0, .text "BINARY", .int 0]]
  else keyRows

/-- The name `foreign_key_list` gives an action. -/
def ForeignAction.listedName : ForeignAction → String
  | .noAction => "NO ACTION"
  | .restrict => "RESTRICT"
  | .setNull => "SET NULL"
  | .setDefault => "SET DEFAULT"
  | .cascade => "CASCADE"

/-- The rows of `foreign_key_list` of a table. -/
def foreignKeyRows (t : Table) : List (List SqlValue) :=
  t.foreignKeys.reverse.zipIdx.flatMap fun (fk, id) =>
    fk.columns.zipIdx.map fun (col, seq) =>
      [.int id, .int seq, .text fk.target.parent, .text col,
       (fk.target.parentColumns[seq]?.map SqlValue.text).getD .null,
       .text fk.target.onUpdate.listedName, .text fk.target.onDelete.listedName, .text "NONE"]

/-- The rows of `database_list`: the main database, the temporary one once it holds
something, and the attached ones, each with its number and no file. -/
def databaseRows (db : Database) : List (List SqlValue) :=
  [[.int 0, .text "main", .text ""]] ++
    (if db.entries.any (·.store.isTemp) then [[.int 1, .text "temp", .text ""]] else []) ++
    db.attached.zipIdx.map fun (n, k) => [.int (k + 2), .text n, .text ""]

/-- The suffixes of the names of the tables that keep a virtual table's contents, which
follow it when it is dropped or renamed. -/
def Table.shadowSuffixes (t : Table) : List String :=
  if t.rtree.isSome then rtreeShadowSuffixes
  else if t.fullText.isSome then FullText.fullTextShadowSuffixes
  else []

/-- The number of columns a view has: those its name list gives, else the result columns
of its query's first simple query. -/
def View.width (v : View) : Nat :=
  if v.columns.isEmpty then
    match v.query with
    | .mk _ _ body _ _ _ =>
      match body.coreList with
      | Core.select _ items _ _ _ _ :: _ => items.length
      | Core.values (row :: _) :: _ => row.length
      | _ => 0
  else v.columns.length

/-- The rows of `table_list`: for each database, its tables and views in the order its
table of names keeps them, the schema table added first and the others as the schema
lists them; with an argument, only the one of that name. A table keeping a virtual table's
contents is a `shadow` table, and a full-text table has two hidden columns more. -/
def tableListRows (db : Database) (arg : Option String) : List (List SqlValue) :=
  let stores : List Store := [.main, .temp] ++ db.attached.map .attached
  stores.flatMap fun s =>
    let own := db.entries.filter (·.store == s)
    let virtuals := own.filterMap fun
      | .table t => if t.isVirtual then some t else none
      | _ => none
    let shadow (name : String) : Bool :=
      virtuals.any fun v => v.shadowSuffixes.any fun sfx => sameName name (v.name ++ sfx)
    let described : List (String × List SqlValue) := own.filterMap fun
      | .table t =>
        let kind := if t.isVirtual then "virtual" else if shadow t.name then "shadow" else "table"
        let width := t.columns.length + (if t.fullText.isSome then 2 else 0)
        some (t.name, [.text t.name, .text kind, .int width,
          .int (if t.withoutRowid then 1 else 0), .int (if t.strict then 1 else 0)])
      | .view v => some (v.name, [.text v.name, .text "view", .int v.width, .int 0, .int 0])
      | _ => none
    let (master, shown) :=
      if s == .temp then ("sqlite_temp_master", "sqlite_temp_schema") else ("sqlite_master", "sqlite_schema")
    let masterRow : List SqlValue := [.text shown, .text "table", .int 5, .int 0, .int 0]
    (hashOrder (master :: described.map (·.1))).filterMap fun n =>
      if (arg.map (sameName n ·)).getD true then
        let row := if n == master then some masterRow else described.lookup n
        row.map (.text s.name :: ·)
      else none

/-- The rows of `function_list`. -/
def functionRows : List (List SqlValue) :=
  functionCatalog.map fun f =>
    [.text f.name, .int (if f.builtin then 1 else 0), .text (String.singleton f.kind),
     .text "utf8", .int f.arguments, .int f.flags]

/-- The rows a pragma read as a table answers for the values of its hidden columns. -/
def pragmaRows (db : Database) (name : String) (args : List SqlValue) :
    Except SqlError (List (List SqlValue)) :=
  match pragmaColumns name with
  | none => .ok []
  | some (_, hidden) =>
    if args.length > hidden.length then
      .error (.general ("too many arguments on pragma_" ++ name ++ "() - max " ++
        toString hidden.length))
    else
      let arg : Option String := (args.head?.filter (!·.isNull)).map (·.asText.textD)
      let schema : Option String := (args[1]?.filter (!·.isNull)).map (·.asText.textD)
      let table : Option Table := match arg.bind (db.findIn? schema) with
        | some (.table t) => some t
        | _ => none
      match name with
      | "table_info" => .ok ((table.map (tableInfoRows db · false)).getD [])
      | "table_xinfo" => .ok ((table.map (tableInfoRows db · true)).getD [])
      | "index_list" =>
        .ok ((table.map fun t => (db.indexesOfTable t).zipIdx.map fun (ix, k) =>
          [.int k, .text ix.name, .int (if ix.unique then 1 else 0), .text ix.origin.letters,
           .int (if ix.filter.isSome then 1 else 0)]).getD [])
      | "index_info" | "index_xinfo" =>
        match arg.bind (db.findIn? schema) with
        | some (.index ix) =>
          match db.findAt? ix.store ix.table with
          | some (.table t) => .ok (indexInfoRows t ix (name == "index_xinfo"))
          | _ => .ok []
        | _ => .ok []
      | "foreign_key_list" => .ok ((table.map foreignKeyRows).getD [])
      | "database_list" => .ok (databaseRows db)
      | "collation_list" => .ok [[.int 0, .text "RTRIM"], [.int 1, .text "NOCASE"], [.int 2, .text "BINARY"]]
      | "compile_options" => .ok (buildOptions.map fun o => [.text o])
      | "integrity_check" | "quick_check" => .ok [[.text "ok"]]
      | "foreign_key_check" | "optimize" => .ok []
      | "pragma_list" => .ok (pragmaNames.map fun n => [.text n])
      | "table_list" => .ok (tableListRows db arg)
      | "function_list" => .ok functionRows
      | "module_list" => .ok ((moduleOrder db.pragmaModules).map fun n => [.text n])
      | other => .ok [[settingValue db other]]

end Relational

end CrateState
