import CrateState.Sync.Event
import CrateState.Relational.Client
import CrateState.Config

/-!
# Event ledgers

A ledger is the durable, append-only record of the events a server published; its
entries' increasing ids serve as a replay cursor.

`MemoryLedger` keeps its events in a list. It can be told to refuse appends (`disk full`)
and, separately, to report itself unhealthy; closing it changes nothing.

`SqlLedger` keeps one table, `<schema>_events`:

| column | type |
|---|---|
| `id` | row id, never reused |
| `event_type`, `origin_server`, `player_id`, `crate_id` | text, not null |
| `reward_id` | text, may be `NULL` |
| `created_at` | integer, not null |

with an index on (`player_id`, `id`). The schema name must be an identifier (ASCII letters,
digits, `_`), which makes it safe to splice into statements. The ledger owns its pool
(closing it closes the pool) or borrows a SQL store's (`PoolSlot`). The table is created
by the first use that succeeds in creating it, and never again (one dropped later stays
dropped).

Reading skips rows whose event type is no known kind (matched exactly) or whose player id
does not parse; any other unreadable value fails the read. Client errors become ledger
errors with the client's text, except a bad address, a configuration error.
-/

namespace CrateState

open Relational

/-- One stored event with its ledger position. -/
structure LedgerEntry where
  /-- The position, increasing with every append. -/
  id : Int
  event : SyncEvent
  deriving DecidableEq

/-- The JSON form `{"id", "event"}`, the event in its wire form. -/
def LedgerEntry.toJson (e : LedgerEntry) : Json :=
  .obj [("id", Json.int e.id), ("event", e.event.toJson)]

/-- The sync error for a client error. -/
def ledgerError : DriverError → SyncError
  | .configuration m => .invalidConfig m
  | e => .ledger e.render

/-- The limit of a read as the database takes it: saturated to the largest 64-bit
signed integer. -/
def sqlLimit (limit : Nat) : Int :=
  if limit < Nat.pow 2 63 then Int.ofNat limit else Int.ofNat (Nat.pow 2 63) - 1

theorem sqlLimit_of_lt (limit : Nat) (h : limit < Nat.pow 2 63) : sqlLimit limit = limit := by
  simp [sqlLimit, h]

/-- A ledger kept in memory. -/
structure MemoryLedger where
  /-- Every appended event, in order. -/
  events : List SyncEvent := []
  /-- Whether appends are refused. -/
  failing : Bool := false
  /-- What the health probe answers. -/
  healthy : Bool := true
  deriving DecidableEq

namespace MemoryLedger

/-- The name the ledger reports. -/
def name : String := "memory"

/-- Appends an event, unless appends are refused. -/
def append (l : MemoryLedger) (e : SyncEvent) : Except SyncError MemoryLedger :=
  if l.failing then .error (.ledger "disk full") else .ok { l with events := l.events ++ [e] }

/-- Every entry, the n-th event at id n. -/
def entries (l : MemoryLedger) : List LedgerEntry :=
  (List.range l.events.length).zip l.events |>.map fun (i, e) => ⟨i + 1, e⟩

theorem append_of_accepting (l : MemoryLedger) (e : SyncEvent) (h : l.failing = false) :
    l.append e = .ok { l with events := l.events ++ [e] } := by
  simp [append, h]

theorem append_of_failing (l : MemoryLedger) (e : SyncEvent) (h : l.failing = true) :
    l.append e = .error (.ledger "disk full") := by
  simp [append, h]

theorem length_entries (l : MemoryLedger) : l.entries.length = l.events.length := by
  simp [entries]

/-- The newest entries of a player, newest first. -/
def recent (l : MemoryLedger) (player : PlayerId) (limit : Nat) : List LedgerEntry :=
  ((l.entries.filter (·.event.player == player)).reverse.take limit)

/-- The entries after an id, oldest first. -/
def since (l : MemoryLedger) (after : Int) (limit : Nat) : List LedgerEntry :=
  ((l.entries.filter (·.id > after)).take limit)

end MemoryLedger

/-- Where the connections of a SQL ledger come from. -/
inductive PoolSlot where
  /-- A pool the ledger opened and closes. -/
  | owned (pool : Pool)
  /-- The pool of the SQL store at a position of the fleet. -/
  | borrowed (store : Nat)

/-- A ledger over a SQL table. -/
structure SqlLedger where
  /-- The table, `<schema>_events`. -/
  table : String
  /-- Whether the database is a file or in-memory one rather than a server. -/
  sqlite : Bool
  /-- Where its connections come from. -/
  slot : PoolSlot
  /-- Whether the table was made. -/
  ready : Bool := false
  /-- Whether the ledger was closed. -/
  closed : Bool := false

/-- The error of a schema name that is not an identifier. -/
def schemaError (schema : String) : SyncError :=
  .invalidConfig ("invalid ledger schema " ++ Quoted.debug schema)

namespace SqlLedger

def name : String := "sql"

/-- The statements that make the table and its index, each only if missing. -/
def schema (table : String) : List Command :=
  [⟨"CREATE TABLE IF NOT EXISTS " ++ table ++ " (
                        id INTEGER PRIMARY KEY AUTOINCREMENT,
                        event_type TEXT NOT NULL,
                        origin_server TEXT NOT NULL,
                        player_id TEXT NOT NULL,
                        crate_id TEXT NOT NULL,
                        reward_id TEXT,
                        created_at INTEGER NOT NULL
                    )", []⟩,
   ⟨"CREATE INDEX IF NOT EXISTS idx_" ++ table ++ "_player ON " ++ table ++ " (player_id, id)", []⟩]

/-- The statement appending an event. -/
def appendRow (table : String) (e : SyncEvent) : Command :=
  ⟨"INSERT INTO " ++ table ++ " (event_type, origin_server, player_id, crate_id, reward_id, created_at)
             VALUES (?, ?, ?, ?, ?, ?)",
   [.text e.kind.name, .text e.origin, .text e.player.render, .text e.crate,
    (e.reward.map SqlValue.text).getD .null, .int e.time]⟩

/-- The newest rows of a player, newest first. -/
def recentRows (table : String) (player : PlayerId) (limit : Nat) : Command :=
  ⟨"SELECT id, event_type, origin_server, player_id, crate_id, reward_id, created_at
             FROM " ++ table ++ " WHERE player_id = ? ORDER BY id DESC LIMIT ?",
   [.text player.render, .int (sqlLimit limit)]⟩

/-- The rows after an id, oldest first. -/
def sinceRows (table : String) (after : Int) (limit : Nat) : Command :=
  ⟨"SELECT id, event_type, origin_server, player_id, crate_id, reward_id, created_at
             FROM " ++ table ++ " WHERE id > ? ORDER BY id ASC LIMIT ?",
   [.int after, .int (sqlLimit limit)]⟩

/-- Reads one row back: `none` for a row that is skipped. -/
def decodeRow (o : Relation) (row : List SqlValue) : Except DriverError (Option LedgerEntry) := do
  let id ← readInt o row "id"
  let kindName ← readText o row "event_type"
  let player ← readText o row "player_id"
  match EventKind.parse kindName, PlayerId.parse player with
  | some kind, .ok player =>
    let origin ← readText o row "origin_server"
    let crate ← readText o row "crate_id"
    let reward ← readOptText o row "reward_id"
    let time ← readInt o row "created_at"
    pure (some ⟨id, { kind, origin, player, crate, reward, time }⟩)
  | _, _ => pure none

/-- Reads rows back, skipping those that are not events. -/
def decode (o : Relation) : Except DriverError (List LedgerEntry) := do
  let entries ← o.rows.mapM (decodeRow o)
  pure entries.reduceOption

/-- A ledger over a pool whose table is made on first use. -/
def unready (slot : PoolSlot) (sqlite : Bool) (schema : String) : Except SyncError SqlLedger :=
  if isIdentifier schema then .ok { table := schema ++ "_events", sqlite, slot }
  else .error (schemaError schema)

/-- Makes the table if it is not made yet. -/
def prepare (l : SqlLedger) (pool : Pool) : Except SyncError Unit × SqlLedger × Pool :=
  if l.ready then (.ok (), l, pool)
  else
    let rec run : List Command → Pool → Except DriverError Unit × Pool
      | [], pool => (.ok (), pool)
      | st :: rest, pool =>
        match pool.use (Session.exec st) with
        | (.ok _, pool) => run rest pool
        | (.error e, pool) => (.error e, pool)
    match run (schema l.table) pool with
    | (.ok (), pool) => (.ok (), { l with ready := true }, pool)
    | (.error e, pool) => (.error (ledgerError e), l, pool)

/-- Runs work on the ledger's table: refused once closed, and preceded by making the
table. -/
def session {α : Type} (l : SqlLedger) (pool : Pool) (work : Session α) :
    Except SyncError α × SqlLedger × Pool :=
  if l.closed then (.error .closed, l, pool)
  else
    match l.prepare pool with
    | (.error e, l, pool) => (.error e, l, pool)
    | (.ok (), l, pool) =>
      let (r, pool) := pool.use work
      (r.mapError ledgerError, l, pool)

def append (l : SqlLedger) (e : SyncEvent) (pool : Pool) : Except SyncError Unit × SqlLedger × Pool :=
  l.session pool do
    let _ ← Session.exec (appendRow l.table e)

def read (l : SqlLedger) (st : Command) (pool : Pool) :
    Except SyncError (List LedgerEntry) × SqlLedger × Pool :=
  l.session pool do
    let o ← Session.query st
    match decode o with
    | .ok entries => pure entries
    | .error e => throw e

/-- Whether the ledger is open and a trivial query on its pool succeeds; the query
checks a connection out like any other. -/
def healthy (l : SqlLedger) (pool : Pool) : Bool × Pool :=
  if l.closed then (false, pool)
  else
    let (r, pool) := pool.use (Session.plain "SELECT 1")
    (r.isOk, pool)

/-- Closes the ledger, and its pool if it owns it. -/
def close (l : SqlLedger) (pool : Pool) : SqlLedger × Pool :=
  if l.closed then (l, pool)
  else
    match l.slot with
    | .owned _ => ({ l with closed := true }, { pool with closed := true })
    | .borrowed _ => ({ l with closed := true }, pool)

/-- Opens a ledger with a pool of its own and makes its table. -/
def connect (url schema : String) (poolSize : Nat) : Except SyncError SqlLedger := do
  if !isIdentifier schema then throw (schemaError schema)
  (checkDriver url).mapError ledgerError
  let pool := Pool.ofAddress url (max poolSize 1)
  match pool.blocked with
  | some e => throw (ledgerError e)
  | none =>
    let pool := pool.start
    let l ← unready (.owned pool) (url.startsWith "sqlite:") schema
    let (r, l, pool) := l.prepare pool
    r
    pure { l with slot := .owned pool }

end SqlLedger

/-- A ledger. -/
inductive Ledger where
  /-- Kept in memory. -/
  | memory (l : MemoryLedger)
  /-- Kept in a SQL table. -/
  | sql (l : SqlLedger)

/-- The name a ledger reports. -/
def Ledger.name : Ledger → String
  | .memory _ => MemoryLedger.name
  | .sql _ => SqlLedger.name

end CrateState
