import CrateState.Relational.Value

/-!
# What the database has built in

The lists a connection answers about itself: its functions (`pragma_function_list`),
pragmas (`pragma_pragma_list`) and virtual table modules (`pragma_module_list`).

Modules, and functions an extension adds, live in a hash table of names, listed in the
order of its one list of entries, which follows from the order names were added:
`NameTable` keeps the list and the bucket count and adds names as the table does.

* A name's bucket is its hash modulo the buckets; the hash folds each byte (upper case as
  lower) into the total and multiplies by 2654435761, modulo 2^32.
* A new name goes right before its bucket's first entry, or at the list's front when the
  bucket is empty, and always at the front before any bucket exists.
* At ten names or more and more than twice its buckets, the table takes twice as many
  buckets as names, at most 64, and adds its entries again in list order.
-/

namespace CrateState

namespace Relational

/-- A function the database knows: its name, whether it is built in rather than added
by an extension, its kind (`s` scalar, `a` aggregate, `w` window), the number of
arguments it takes (`-1` for any number) and its flags as listed. -/
structure FunctionEntry where
  name : String
  builtin : Bool
  kind : Char
  arguments : Int
  flags : Nat

/-- The functions of `pragma_function_list`, in the order it lists them: the built-in
ones in the order of their own table, then those the full-text and spatial extensions
add, in the order of the connection's table of functions. -/
def functionCatalog : List FunctionEntry :=
  [
    ⟨"group_concat", true, 'w', 1, 2097152⟩, ⟨"group_concat", true, 'w', 2, 2097152⟩,
    ⟨"json_type", true, 's', 1, 2099200⟩, ⟨"json_type", true, 's', 2, 2099200⟩,
    ⟨"jsonb_set", true, 's', (-1), 3147776⟩, ⟨"julianday", true, 's', (-1), 2099200⟩,
    ⟨"ntile", true, 'w', 1, 2097152⟩, ⟨"nullif", true, 's', 2, 2099200⟩,
    ⟨"sqlite_compileoption_get", true, 's', 1, 2097152⟩,
    ⟨"json_valid", true, 's', 1, 2099200⟩, ⟨"json_valid", true, 's', 2, 2099200⟩,
    ⟨"json_quote", true, 's', 1, 3147776⟩, ⟨"json_patch", true, 's', 2, 2099200⟩,
    ⟨"->", true, 's', 2, 2099200⟩, ⟨"json_array", true, 's', (-1), 3147776⟩,
    ⟨"current_timestamp", true, 's', 0, 2097152⟩,
    ⟨"sqlite_compileoption_used", true, 's', 1, 2097152⟩,
    ⟨"json_remove", true, 's', (-1), 2099200⟩, ⟨"json_pretty", true, 's', 1, 2099200⟩,
    ⟨"json_pretty", true, 's', 2, 2099200⟩, ⟨"jsonb_patch", true, 's', 2, 2099200⟩,
    ⟨"json_object", true, 's', (-1), 3147776⟩, ⟨"json_insert", true, 's', (-1), 3147776⟩,
    ⟨"->>", true, 's', 2, 2099200⟩, ⟨"jsonb_array", true, 's', (-1), 3147776⟩,
    ⟨"sum", true, 'w', 1, 2097152⟩, ⟨"quote", true, 's', 1, 2099200⟩,
    ⟨"printf", true, 's', (-1), 2099200⟩, ⟨"likelihood", true, 's', 2, 2099200⟩,
    ⟨"json_replace", true, 's', (-1), 3147776⟩, ⟨"jsonb_remove", true, 's', (-1), 2099200⟩,
    ⟨"jsonb_object", true, 's', (-1), 3147776⟩, ⟨"jsonb_insert", true, 's', (-1), 3147776⟩,
    ⟨"json_extract", true, 's', (-1), 2099200⟩, ⟨"last_value", true, 'w', 1, 2097152⟩,
    ⟨"rank", true, 'w', 0, 2097152⟩, ⟨"sign", true, 's', 1, 2099200⟩,
    ⟨"round", true, 's', 1, 2099200⟩, ⟨"round", true, 's', 2, 2099200⟩,
    ⟨"rtrim", true, 's', 1, 2099200⟩, ⟨"rtrim", true, 's', 2, 2099200⟩,
    ⟨"jsonb_replace", true, 's', (-1), 3147776⟩,
    ⟨"jsonb_extract", true, 's', (-1), 2099200⟩, ⟨"nth_value", true, 'w', 2, 2097152⟩,
    ⟨"random", true, 's', 0, 2097152⟩, ⟨"trim", true, 's', 1, 2099200⟩,
    ⟨"trim", true, 's', 2, 2099200⟩, ⟨"time", true, 's', (-1), 2099200⟩,
    ⟨"total", true, 'w', 1, 2097152⟩, ⟨"substr", true, 's', 2, 2099200⟩,
    ⟨"substr", true, 's', 3, 2099200⟩, ⟨"replace", true, 's', 3, 2099200⟩,
    ⟨"unhex", true, 's', 1, 2099200⟩, ⟨"unhex", true, 's', 2, 2099200⟩,
    ⟨"upper", true, 's', 1, 2099200⟩, ⟨"subtype", true, 's', 1, 2099200⟩,
    ⟨"typeof", true, 's', 1, 2099200⟩, ⟨"load_extension", true, 's', 1, 524288⟩,
    ⟨"load_extension", true, 's', 2, 524288⟩, ⟨"soundex", true, 's', 1, 2099200⟩,
    ⟨"json_group_array", true, 'w', 1, 3147776⟩, ⟨"avg", true, 'w', 1, 2097152⟩,
    ⟨"abs", true, 's', 1, 2099200⟩, ⟨"octet_length", true, 's', 1, 2099200⟩,
    ⟨"json_group_object", true, 'w', 2, 3147776⟩,
    ⟨"jsonb_group_array", true, 'w', 1, 3147776⟩,
    ⟨"json_array_length", true, 's', 1, 2099200⟩,
    ⟨"json_array_length", true, 's', 2, 2099200⟩, ⟨"strftime", true, 's', (-1), 2099200⟩,
    ⟨"substring", true, 's', 2, 2099200⟩, ⟨"substring", true, 's', 3, 2099200⟩,
    ⟨"randomblob", true, 's', 1, 2097152⟩, ⟨"unicode", true, 's', 1, 2099200⟩,
    ⟨"jsonb_group_object", true, 'w', 2, 3147776⟩, ⟨"timediff", true, 's', 2, 2099200⟩,
    ⟨"percent_rank", true, 'w', 0, 2097152⟩, ⟨"row_number", true, 'w', 0, 2097152⟩,
    ⟨"string_agg", true, 'w', 2, 2097152⟩, ⟨"last_insert_rowid", true, 's', 0, 2097152⟩,
    ⟨"sqlite_log", true, 's', 2, 2099200⟩, ⟨"unlikely", true, 's', 1, 2099200⟩,
    ⟨"json_error_position", true, 's', 1, 2099200⟩, ⟨"char", true, 's', (-1), 2099200⟩,
    ⟨"unixepoch", true, 's', (-1), 2099200⟩, ⟨"count", true, 'w', 0, 2097152⟩,
    ⟨"count", true, 'w', 1, 2097152⟩, ⟨"date", true, 's', (-1), 2099200⟩,
    ⟨"concat", true, 's', (-1), 2099200⟩, ⟨"total_changes", true, 's', 0, 2097152⟩,
    ⟨"changes", true, 's', 0, 2097152⟩, ⟨"sqlite_version", true, 's', 0, 2097152⟩,
    ⟨"coalesce", true, 's', (-1), 2099200⟩, ⟨"glob", true, 's', 2, 2099200⟩,
    ⟨"zeroblob", true, 's', 1, 2099200⟩, ⟨"hex", true, 's', 1, 2099200⟩,
    ⟨"iif", true, 's', 3, 2099200⟩, ⟨"sqlite_source_id", true, 's', 0, 2097152⟩,
    ⟨"concat_ws", true, 's', (-1), 2099200⟩, ⟨"format", true, 's', (-1), 2099200⟩,
    ⟨"datetime", true, 's', (-1), 2099200⟩, ⟨"cume_dist", true, 'w', 0, 2097152⟩,
    ⟨"instr", true, 's', 2, 2099200⟩, ⟨"json", true, 's', 1, 2099200⟩,
    ⟨"dense_rank", true, 'w', 0, 2097152⟩, ⟨"ifnull", true, 's', 2, 2099200⟩,
    ⟨"jsonb", true, 's', 1, 2099200⟩, ⟨"current_date", true, 's', 0, 2097152⟩,
    ⟨"current_time", true, 's', 0, 2097152⟩, ⟨"lag", true, 'w', 1, 2097152⟩,
    ⟨"lag", true, 'w', 3, 2097152⟩, ⟨"lag", true, 'w', 2, 2097152⟩,
    ⟨"like", true, 's', 2, 2099200⟩, ⟨"like", true, 's', 3, 2099200⟩,
    ⟨"max", true, 's', (-1), 2099200⟩, ⟨"max", true, 'w', 1, 2097152⟩,
    ⟨"min", true, 's', (-1), 2099200⟩, ⟨"min", true, 'w', 1, 2097152⟩,
    ⟨"lead", true, 'w', 1, 2097152⟩, ⟨"lead", true, 'w', 3, 2097152⟩,
    ⟨"lead", true, 'w', 2, 2097152⟩, ⟨"lower", true, 's', 1, 2099200⟩,
    ⟨"ltrim", true, 's', 1, 2099200⟩, ⟨"ltrim", true, 's', 2, 2099200⟩,
    ⟨"first_value", true, 'w', 1, 2097152⟩, ⟨"length", true, 's', 1, 2099200⟩,
    ⟨"likely", true, 's', 1, 2099200⟩, ⟨"json_set", true, 's', (-1), 3147776⟩,
    ⟨"rtreedepth", false, 's', 1, 0⟩, ⟨"match", false, 's', 2, 0⟩,
    ⟨"snippet", false, 's', (-1), 0⟩, ⟨"fts5_source_id", false, 's', 0, 2099200⟩,
    ⟨"offsets", false, 's', 1, 0⟩, ⟨"matchinfo", false, 's', 2, 0⟩,
    ⟨"matchinfo", false, 's', 1, 0⟩, ⟨"optimize", false, 's', 1, 0⟩,
    ⟨"rtreecheck", false, 's', (-1), 0⟩, ⟨"rtreenode", false, 's', 2, 0⟩,
    ⟨"highlight", false, 's', (-1), 0⟩, ⟨"bm25", false, 's', (-1), 0⟩,
    ⟨"fts3_tokenizer", false, 's', 2, 524288⟩, ⟨"fts3_tokenizer", false, 's', 1, 524288⟩,
    ⟨"fts5", false, 's', 1, 0⟩
  ]

/-- The pragmas `pragma_pragma_list` lists, in order. -/
def pragmaNames : List String :=
  ["analysis_limit", "application_id", "auto_vacuum", "automatic_index", "busy_timeout",
   "cache_size", "cache_spill", "case_sensitive_like", "cell_size_check",
   "checkpoint_fullfsync", "collation_list", "compile_options", "count_changes",
   "data_version", "database_list", "default_cache_size", "defer_foreign_keys",
   "empty_result_callbacks", "encoding", "foreign_key_check", "foreign_key_list",
   "foreign_keys", "freelist_count", "full_column_names", "fullfsync", "function_list",
   "hard_heap_limit", "ignore_check_constraints", "incremental_vacuum", "index_info",
   "index_list", "index_xinfo", "integrity_check", "journal_mode", "journal_size_limit",
   "legacy_alter_table", "locking_mode", "max_page_count", "mmap_size", "module_list",
   "optimize", "page_count", "page_size", "pragma_list", "query_only", "quick_check",
   "read_uncommitted", "recursive_triggers", "reverse_unordered_selects", "schema_version",
   "secure_delete", "short_column_names", "shrink_memory", "soft_heap_limit",
   "synchronous", "table_info", "table_list", "table_xinfo", "temp_store",
   "temp_store_directory", "threads", "trusted_schema", "user_version",
   "wal_autocheckpoint", "wal_checkpoint", "writable_schema"]

/-- The hash of a name in a table of names. -/
def nameHash (s : String) : Nat :=
  s.toUTF8.foldl (fun h b => (h + foldByte b) * 2654435761 % 4294967296) 0

/-- A table of names reduced to what decides the order it lists them in: the names in
that order, and its number of buckets (`0` while it has none). -/
structure NameTable where
  order : List String := []
  buckets : Nat := 0

namespace NameTable

/-- The bucket of a name. -/
def bucketOf (t : NameTable) (s : String) : Nat := nameHash s % t.buckets

/-- Puts a name in the list: right before the first entry of its bucket, else at the
front. -/
def place (t : NameTable) (s : String) : NameTable :=
  if t.buckets = 0 then { t with order := s :: t.order }
  else
    match t.order.findIdx? (fun x => t.bucketOf x == t.bucketOf s) with
    | some i => { t with order := t.order.take i ++ s :: t.order.drop i }
    | none => { t with order := s :: t.order }

/-- The table with its entries spread over `size` buckets, added again in list order. -/
def spread (t : NameTable) (size : Nat) : NameTable :=
  t.order.foldl place { order := [], buckets := size }

/-- Adds a name the table does not hold yet, first growing the table when the new count
calls for it. -/
def add (t : NameTable) (s : String) : NameTable :=
  if t.order.contains s then t
  else
    let count := t.order.length + 1
    let size := min (2 * count) 64
    let grown := if 10 ≤ count && 2 * t.buckets < count && size != t.buckets then t.spread size else t
    grown.place s

end NameTable

/-- The order a table of names lists names added in the given order. -/
def hashOrder (names : List String) : List String :=
  (names.foldl NameTable.add {}).order

/-- The modules of virtual tables every connection registers when it opens, in the order
it registers them. -/
def openingModules : List String :=
  ["fts4aux", "fts3", "fts4", "fts3tokenize", "fts5", "fts5vocab", "rtree", "rtree_i32",
   "dbstat", "json_each", "json_tree"]

/-- The modules `pragma_module_list` lists on a connection that has since read pragmas
as tables, their names (`pragma_` and the pragma's) given as first written, in the order
first read: each such pragma is a module of its own, registered when first read. -/
def moduleOrder (pragmasRead : List String) : List String :=
  hashOrder (openingModules ++ pragmasRead)

end Relational

end CrateState
