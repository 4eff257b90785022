import CrateState.Storage.Call
import CrateState.Storage.Tables
import CrateState.Relational.Client
import CrateState.Config

/-!
# The SQL store

`SqlStore` keeps crate state in the six tables of `Tables`, through a `Pool`. Every call
checks a connection out first; a closed or exhausted pool answers `unavailable` without
touching the data.

* balances are stored as 64-bit sums, read clamped to `[0, 2^32 − 1]`;
* taking a key decrements only a positive balance, then deletes one at zero or less, in one
  transaction; a balance at zero or below is left alone and the answer is `false`;
* a lock is a row; the key refuses a second holder, answered `false`;
* history writes swallow every error but `unavailable`;
* marking delivered flips the oldest waiting row and appends a delivery, in one transaction;
* a snapshot reads four tables in one transaction, then decodes: a stored player id that
  does not parse fails it;
* clear and import are single transactions, leaving nothing behind on failure.

A wait that runs out and a closed pool are `unavailable`, a bad address `invalidConfig`,
any other client error `backend` with the client's text.
-/

namespace CrateState

open Relational

/-- The store error for a client error. -/
def storeError : DriverError → StoreError
  | .poolTimedOut => .unavailable "timed out waiting for a pooled connection"
  | .poolClosed => .unavailable "connection pool is closed"
  | .configuration m => .invalidConfig m
  | e => .backend e.render

/-- A balance as read: clamped to the key range. -/
def clampKeys (i : Int) : Nat := if i < 0 then 0 else min i.toNat maxKeys

/-- A stored player id, or the error of a corrupt one. -/
def storedPlayer (raw : String) : Except StoreError PlayerId :=
  match PlayerId.parse raw with
  | .ok p => .ok p
  | .error e => .error (.backend ("corrupt player id " ++ Quoted.debug raw ++ ": " ++ e.message))

/-- A store over a SQL database. -/
structure SqlStore where
  /-- The connections and the database behind them. -/
  pool : Pool
  /-- Whether the address is a file or in-memory database (not a server). -/
  sqlite : Bool

namespace SqlStore

/-- The store's name. -/
def name : String := "sql"

/-- The store with its database's clock set to `now` (milliseconds since 1970), which
the date functions read as the current moment. -/
def withClock (s : SqlStore) (now : Int) : SqlStore :=
  { s with pool := { s.pool with db := { s.pool.db with clock := now } } }

/-- Uses the pool for some work, mapping client errors to store errors. -/
def use {α : Type} (s : SqlStore) (work : Session α) : Except StoreError α × SqlStore :=
  let (r, pool) := s.pool.use work
  (r.mapError storeError, { s with pool })

/-- Lifts a decoded value into a session. -/
def decoded {α : Type} : Except DriverError α → Session α
  | .ok a => pure a
  | .error e => throw e

/-- The rows of the four snapshot queries. -/
structure Dump where
  /-- `crate_cooldowns` rows. -/
  cooldowns : Relation
  /-- Positive `crate_keys` rows. -/
  keys : Relation
  /-- `crate_open_history` rows. -/
  opens : Relation
  /-- `crate_reward_history` rows. -/
  deliveries : Relation

/-- Decodes one history row. -/
def historyRow (o : Relation) (kind : HistoryKind) (timeColumn : String) (row : List SqlValue) :
    Except StoreError HistoryEntry := do
  let raw ← (readText o row "player_id").mapError storeError
  let player ← storedPlayer raw
  let crate ← (readText o row "crate_id").mapError storeError
  let reward ← (readOptText o row "reward_id").mapError storeError
  let time ← (readInt o row timeColumn).mapError storeError
  pure { player, crate, reward, kind, time }

def cooldownRow (o : Relation) (row : List SqlValue) : Except StoreError Cooldown := do
  let raw ← (readText o row "player_id").mapError storeError
  let player ← storedPlayer raw
  let crate ← (readText o row "crate_id").mapError storeError
  let lastUsed ← (readInt o row "last_used").mapError storeError
  pure { player, crate, lastUsed }

/-- Decodes one balance row, clamping the amount. -/
def balanceRow (o : Relation) (row : List SqlValue) : Except StoreError KeyBalance := do
  let raw ← (readText o row "player_id").mapError storeError
  let amount ← (readInt o row "amount").mapError storeError
  let player ← storedPlayer raw
  let crate ← (readText o row "crate_id").mapError storeError
  pure { player, crate, amount := clampKeys amount }

/-- Decodes the snapshot rows, table by table and row by row. -/
def Dump.decode (d : Dump) : Except StoreError Snapshot := do
  let cooldowns ← d.cooldowns.rows.mapM (cooldownRow d.cooldowns)
  let keyBalances ← d.keys.rows.mapM (balanceRow d.keys)
  let opens ← d.opens.rows.mapM (historyRow d.opens .open "opened_at")
  let deliveries ← d.deliveries.rows.mapM (historyRow d.deliveries .delivery "delivered_at")
  pure { cooldowns, keyBalances, history := opens ++ deliveries }

/-- Writes a snapshot in one transaction, counting what was written. -/
def importAll (s : Snapshot) : Session ImportOutcome := Session.atomically do
  for r in s.cooldowns do
    let _ ← Session.exec (Tables.setCooldown r.player.render r.crate r.lastUsed)
  let positive := s.keyBalances.filter (·.amount > 0)
  for b in positive do
    let _ ← Session.exec (Tables.addKeys b.player.render b.crate b.amount)
  for h in s.history do
    let st := match h.kind with
      | .open => Tables.logOpen h.player.render h.crate h.reward h.time
      | .delivery => Tables.logDelivery h.player.render h.crate (h.reward.getD "") h.time
    let _ ← Session.exec st
  pure { cooldowns := s.cooldowns.length, keyBalances := positive.length,
         history := s.history.length }

/-- Keeps only `unavailable` failures of a history write. -/
def absorb : Except StoreError Unit → Except StoreError Unit
  | .error (.unavailable m) => .error (.unavailable m)
  | _ => .ok ()

/-- Answers one call. `now` stamps locks, queued rewards and deliveries. -/
def step (s : SqlStore) (now : Int) : (c : Call) → Reply c × SqlStore
  | .getCooldown p c => s.use do
    let o ← Session.query (Tables.getCooldown p.render c)
    match o.rows.head? with
    | none => pure none
    | some row => some <$> decoded (readInt o row "last_used")
  | .setCooldown p c t => s.use do
    let _ ← Session.exec (Tables.setCooldown p.render c t)
  | .keyCount p c => s.use do
    let o ← Session.query (Tables.keyCount p.render c)
    match o.rows.head? with
    | none => pure (0 : Nat)
    | some row => clampKeys <$> decoded (readInt o row "amount")
  | .addKeys p c n =>
    if n = 0 then (.error (.invalidInput "key amount must be positive"), s)
    else s.use do
      let _ ← Session.exec (Tables.addKeys p.render c n)
  | .consumeKey p c => s.use <| Session.transaction do
    let taken ← Session.exec (Tables.takeKey p.render c)
    if taken = 0 then pure (.rollback false)
    else
      let _ ← Session.exec (Tables.dropEmpty p.render c)
      pure (.commit true)
  | .acquireLock p c => s.use do
    try
      let _ ← Session.exec (Tables.takeLock p.render c now)
      pure true
    catch e =>
      match e with
      | .database err => if err.code = 1555 || err.code = 2067 then pure false else throw e
      | _ => throw e
  | .releaseLock p c => s.use do
    let _ ← Session.exec (Tables.giveLock p.render c)
  | .logOpen p c r t =>
    let (res, s') := s.use do
      let _ ← Session.exec (Tables.logOpen p.render c r t)
    (absorb res, s')
  | .recordDelivery p c r t =>
    let (res, s') := s.use do
      let _ ← Session.exec (Tables.logDelivery p.render c r t)
    (absorb res, s')
  | .queueReward p c r => s.use do
    let _ ← Session.exec (Tables.queue p.render c r now)
  | .pendingRewards p => s.use do
    let o ← Session.query (Tables.waiting p.render)
    o.rows.mapM fun row => do
      let status ← decoded (readText o row "status")
      let crate ← decoded (readText o row "crate_id")
      let reward ← decoded (readText o row "reward_id")
      let createdAt ← decoded (readInt o row "created_at")
      pure ({ crate, reward, status := RewardStatus.parse status, createdAt } : PendingReward)
  | .markDelivered p c r => s.use <| Session.transaction do
    let o ← Session.query (Tables.firstWaiting p.render c r)
    match o.rows.head? with
    | none => pure (.rollback false)
    | some row =>
      let id ← decoded (readInt o row "id")
      let flipped ← Session.exec (Tables.markRow id)
      if flipped = 0 then pure (.rollback false)
      else
        let _ ← Session.exec (Tables.logDelivery p.render c r now)
        pure (.commit true)
  | .snapshot =>
    let (res, s') := s.use <| Session.atomically do
      let cooldowns ← Session.query Tables.allCooldowns
      let keys ← Session.query Tables.positiveKeys
      let opens ← Session.query Tables.allOpens
      let deliveries ← Session.query Tables.allDeliveries
      pure ({ cooldowns, keys, opens, deliveries } : Dump)
    (res.bind Dump.decode, s')
  | .clear => s.use <| Session.atomically do
    for t in Tables.all do
      let _ ← Session.exec (Tables.clearTable t)
  | .import snap => s.use (importAll snap)

/-- Whether a trivial query succeeds now; the query checks a connection out like any
other call. -/
def healthy (s : SqlStore) : Bool × SqlStore :=
  let (r, s') := s.use (Session.plain "SELECT 1")
  (r.isOk, s')

/-- Runs raw statement text at a moment, answering the rows it changed or the client's
error. -/
def execText (s : SqlStore) (now : Int) (text : String) : Except DriverError Nat × SqlStore :=
  let (r, pool) := (s.withClock now).pool.use (runScript text)
  (r, { s with pool })

/-- Checks a connection out and keeps it, answering how many are held. -/
def hold (s : SqlStore) : Except StoreError Nat × SqlStore :=
  match s.pool.hold with
  | .ok pool => (.ok pool.held, { s with pool })
  | .error e => (.error (storeError e), s)

/-- Gives every kept connection back. -/
def release (s : SqlStore) : SqlStore := { s with pool := s.pool.release }

/-- Closes the pool; every later use is `unavailable`. -/
def close (s : SqlStore) : SqlStore := { s with pool := { s.pool with closed := true } }

/-- The pool settings of a storage configuration: the address, checked. -/
def address (cfg : StorageConfig) : Except StoreError String := do
  cfg.validate
  match cfg.sqlUrl with
  | some url => pure url
  | none => throw (.invalidConfig "sql_url is required for the relational backend")

/-- A store whose pool connects on first use: nothing is opened and no schema is made. -/
def connectLazy (cfg : StorageConfig) : Except StoreError SqlStore := do
  let url ← address cfg
  pure { pool := Pool.ofAddress url cfg.poolSize, sqlite := url.startsWith "sqlite:" }

/-- Runs setup statements one call each, stopping at the first failure. -/
def setUp (s : SqlStore) : List Command → Except StoreError SqlStore
  | [] => .ok s
  | st :: rest =>
    match s.use (Session.exec st) with
    | (.ok _, s') => setUp s' rest
    | (.error e, _) => .error e

/-- Opens a store: checks the settings, opens a first connection, then switches the
journal to write-ahead logging and creates any missing table, one call a statement. -/
def connect (cfg : StorageConfig) : Except StoreError SqlStore := do
  let s ← connectLazy cfg
  match s.pool.blocked with
  | some e => throw (storeError e)
  | none =>
    let s := { s with pool := s.pool.start }
    setUp s (if s.sqlite then Tables.pragmas ++ Tables.schema else Tables.schema)

end SqlStore

end CrateState
