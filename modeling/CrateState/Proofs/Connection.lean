import Mathlib
import CrateState.Storage.Sql

/-!
# The SQL store over any database

`SqlStore.step` runs its work as a `Session` over the client's own model of the database.
To reason about the store whatever the database, the same work is written over any state
`σ` that a `run` executes statements on (`Conn σ`), and the store is that work at the
client's database (`step_eq_stepVia`): same statements, same order, same decoding, same
error mapping.

`SqlModel` is a store over such a database: the database, and why no connection can be had,
if none can. A closed or exhausted pool stays so, and a pool that gives a connection gives
one again (`Pool.use_blocked`, `Pool.blocked_use`): that is all of the pool a caller sees.
-/

namespace CrateState

open Relational

/-- Work on a connection to a database whose state is `σ`. -/
abbrev Conn (σ : Type) := ExceptT DriverError (StateM σ)

namespace Conn

variable {σ : Type} (run : Command → Conn σ (Relation × Nat))

/-- Runs a statement for its rows. -/
def query (c : Command) : Conn σ Relation := do
  let (r, _) ← run c
  pure r

/-- Runs a statement for the number of rows it changed. -/
def exec (c : Command) : Conn σ Nat := do
  let (_, n) ← run c
  pure n

/-- Runs a statement that takes no parameters. -/
def plain (sql : String) : Conn σ Nat := exec run ⟨sql, []⟩

/-- Gives up an open transaction, as `Session.abandon`. -/
def abandon {α : Type} (e : DriverError) : Conn σ α := do
  let _ ← tryCatch (plain run "ROLLBACK") fun _ => pure 0
  throw e

/-- Runs work between `BEGIN` and `COMMIT` or `ROLLBACK`, as `Session.transaction`. -/
def transaction {α : Type} (body : Conn σ (Session.Ending α)) : Conn σ α := do
  let _ ← plain run "BEGIN"
  let ending ← tryCatch body (abandon run)
  match ending with
  | .commit a =>
    let _ ← tryCatch (plain run "COMMIT") (abandon run)
    pure a
  | .rollback a =>
    let _ ← tryCatch (plain run "ROLLBACK") (abandon run)
    pure a

/-- Runs work as one transaction that commits when the work succeeds. -/
def atomically {α : Type} (body : Conn σ α) : Conn σ α :=
  transaction run (Session.Ending.commit <$> body)

/-- Lifts a decoded value into the work. -/
def decoded {α : Type} : Except DriverError α → Conn σ α
  | .ok a => pure a
  | .error e => throw e

/-- Writes a snapshot in one transaction, as `SqlStore.importAll`. -/
def importAll (s : Snapshot) : Conn σ ImportOutcome := atomically run do
  for r in s.cooldowns do
    let _ ← exec run (Tables.setCooldown r.player.render r.crate r.lastUsed)
  let positive := s.keyBalances.filter (·.amount > 0)
  for b in positive do
    let _ ← exec run (Tables.addKeys b.player.render b.crate b.amount)
  for h in s.history do
    let st := match h.kind with
      | .open => Tables.logOpen h.player.render h.crate h.reward h.time
      | .delivery => Tables.logDelivery h.player.render h.crate (h.reward.getD "") h.time
    let _ ← exec run st
  pure { cooldowns := s.cooldowns.length, keyBalances := positive.length,
         history := s.history.length }

/-- The snapshot queries, in one transaction. -/
def dump : Conn σ SqlStore.Dump := atomically run do
  let cooldowns ← query run Tables.allCooldowns
  let keys ← query run Tables.positiveKeys
  let opens ← query run Tables.allOpens
  let deliveries ← query run Tables.allDeliveries
  pure { cooldowns, keys, opens, deliveries }

end Conn

namespace SqlStore

variable {σ τ : Type}

/-- The SQL store's answer to a call, with its work run by `use` on connections that
`run` executes statements on; `stay` is the store left as it was. -/
def stepVia (use : {α : Type} → Conn σ α → Except StoreError α × τ) (stay : τ)
    (run : Command → Conn σ (Relation × Nat)) (now : Int) : (c : Call) → Reply c × τ
  | .getCooldown p c => use do
    let o ← Conn.query run (Tables.getCooldown p.render c)
    match o.rows.head? with
    | none => pure none
    | some row => some <$> Conn.decoded (σ := σ) (readInt o row "last_used")
  | .setCooldown p c t => use do
    let _ ← Conn.exec run (Tables.setCooldown p.render c t)
  | .keyCount p c => use do
    let o ← Conn.query run (Tables.keyCount p.render c)
    match o.rows.head? with
    | none => pure (0 : Nat)
    | some row => clampKeys <$> Conn.decoded (σ := σ) (readInt o row "amount")
  | .addKeys p c n =>
    if n = 0 then (.error (.invalidInput "key amount must be positive"), stay)
    else use do
      let _ ← Conn.exec run (Tables.addKeys p.render c n)
  | .consumeKey p c => use <| Conn.transaction run do
    let taken ← Conn.exec run (Tables.takeKey p.render c)
    if taken = 0 then pure (.rollback false)
    else
      let _ ← Conn.exec run (Tables.dropEmpty p.render c)
      pure (.commit true)
  | .acquireLock p c => use do
    try
      let _ ← Conn.exec run (Tables.takeLock p.render c now)
      pure true
    catch e =>
      match e with
      | .database err => if err.code = 1555 || err.code = 2067 then pure false else throw e
      | _ => throw e
  | .releaseLock p c => use do
    let _ ← Conn.exec run (Tables.giveLock p.render c)
  | .logOpen p c r t =>
    let (res, s') := use do
      let _ ← Conn.exec run (Tables.logOpen p.render c r t)
    (absorb res, s')
  | .recordDelivery p c r t =>
    let (res, s') := use do
      let _ ← Conn.exec run (Tables.logDelivery p.render c r t)
    (absorb res, s')
  | .queueReward p c r => use do
    let _ ← Conn.exec run (Tables.queue p.render c r now)
  | .pendingRewards p => use do
    let o ← Conn.query run (Tables.waiting p.render)
    o.rows.mapM fun row => do
      let status ← Conn.decoded (σ := σ) (readText o row "status")
      let crate ← Conn.decoded (σ := σ) (readText o row "crate_id")
      let reward ← Conn.decoded (σ := σ) (readText o row "reward_id")
      let createdAt ← Conn.decoded (σ := σ) (readInt o row "created_at")
      pure ({ crate, reward, status := RewardStatus.parse status, createdAt } : PendingReward)
  | .markDelivered p c r => use <| Conn.transaction run do
    let o ← Conn.query run (Tables.firstWaiting p.render c r)
    match o.rows.head? with
    | none => pure (.rollback false)
    | some row =>
      let id ← Conn.decoded (σ := σ) (readInt o row "id")
      let flipped ← Conn.exec run (Tables.markRow id)
      if flipped = 0 then pure (.rollback false)
      else
        let _ ← Conn.exec run (Tables.logDelivery p.render c r now)
        pure (.commit true)
  | .snapshot =>
    let (res, s') := use (Conn.dump run)
    (res.bind Dump.decode, s')
  | .clear => use <| Conn.atomically run do
    for t in Tables.all do
      let _ ← Conn.exec run (Tables.clearTable t)
  | .import snap => use (Conn.importAll run snap)

/-- **The SQL store is its work over the client's database.** -/
theorem step_eq_stepVia (s : SqlStore) (now : Int) (c : Call) :
    s.step now c = stepVia (fun work => s.use work) s Session.run now c := by
  cases c <;> rfl

end SqlStore

/-! ### What a caller sees of the pool -/

namespace Relational.Pool

variable {α : Type}

theorem use_blocked {p : Pool} {e : DriverError} (h : p.blocked = some e) (work : Session α) :
    p.use work = (.error e, p) := by
  simp [Pool.use, h]

/-- A pool gives a connection exactly when it is open, has one to give, and its address
answers. -/
theorem blocked_eq_none {p : Pool} :
    p.blocked = none ↔ p.closed = false ∧ p.checkout.isSome = true ∧ p.reach = .opens := by
  unfold blocked
  cases p.closed <;> cases hc : p.checkout <;> cases hr : p.reach <;> simp

/-- A checkout changes which connections rest, never whether the pool is closed or how its
address answers. -/
theorem checkout_keeps {p q : Pool} {l : Link} (h : p.checkout = some (l, q)) :
    q.closed = p.closed ∧ q.reach = p.reach := by
  unfold checkout at h
  split at h
  · cases h
    exact ⟨rfl, rfl⟩
  · split at h
    · cases h
      exact ⟨rfl, rfl⟩
    · split at h
      · cases h
        exact ⟨rfl, rfl⟩
      · cases h

theorem checkout_returning (p : Pool) {l : Link} {rest : List Link}
    (h : p.returning = l :: rest) : p.checkout.isSome = true := by
  unfold checkout
  split
  · rfl
  · split
    · rfl
    · rw [h]
      rfl

theorem blocked_use {p : Pool} (h : p.blocked = none) (work : Session α) :
    (p.use work).2.blocked = none := by
  obtain ⟨closed, some, reach⟩ := blocked_eq_none.mp h
  obtain ⟨⟨l, q⟩, hq⟩ := Option.isSome_iff_exists.mp some
  obtain ⟨keepsClosed, keepsReach⟩ := checkout_keeps hq
  simp only [Pool.use, h, hq]
  generalize (ExceptT.run work).run (q.db.withLink l) = res
  refine blocked_eq_none.mpr ⟨keepsClosed.trans closed, ?_, keepsReach.trans reach⟩
  cases hr : q.returning ++ [res.2.link] with
  | nil => simp at hr
  | cons x rest => exact checkout_returning _ hr

end Relational.Pool

/-- A SQL store over a database whose state is `σ`. -/
structure SqlModel (σ : Type) where
  /-- Why a connection cannot be had, if it cannot: the pool is closed or exhausted, or its
  address refuses connections. -/
  blocked : Option DriverError
  /-- The database. -/
  db : σ

namespace SqlModel

variable {σ : Type}

/-- Uses the store for some work, as `SqlStore.use`: a blocked store answers its error,
any other runs the work on its database. -/
def use (s : SqlModel σ) {α : Type} (work : Conn σ α) : Except StoreError α × SqlModel σ :=
  match s.blocked with
  | some e => (.error (storeError e), s)
  | none =>
    let (r, db) := (ExceptT.run work).run s.db
    (r.mapError storeError, { s with db })

/-- Answers a call as the SQL store does, `run` executing the statements on the database. -/
def step (run : Command → Conn σ (Relation × Nat)) (s : SqlModel σ) (now : Int) (c : Call) :
    Reply c × SqlModel σ :=
  SqlStore.stepVia s.use s run now c

end SqlModel

end CrateState
