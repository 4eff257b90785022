import CrateState.Proofs.Connection
import CrateState.Proofs.Readback
import CrateState.Storage.Local

/-!
# The SQL store over a database that keeps its documented behaviour

The store's statements are few and fixed (`Tables`), and what a database does with each is
documented: an upsert inserts or overwrites its key's row, a `DELETE` removes the rows its
`WHERE` selects, an `AUTOINCREMENT` key exceeds every key the table ever had, a `SELECT`
without `ORDER BY` promises no order, `ROLLBACK` restores the tables `BEGIN` found, and
values come back as bound.

The database is a state `σ` with a `run` executing a statement and a `view` reading the six
tables (`Stored`) and the tables the open transaction found (`DbView`). Each statement's
documented behaviour is a `Triple` over the view: from any state shown as `V`, the
statement ends with an answer and a view a stated predicate accepts. `Documented run view`
collects one triple per statement, with the documentation's conditions (integers within 64
bits, an id left to give). What is proved over such a database holds for every database
keeping these rules, whatever else its state holds; `MemoryDatabase` gives one.
-/

namespace CrateState

open Relational

/-- A value of a 64-bit signed integer column. -/
def InI64 (v : Int) : Prop := -2 ^ 63 ≤ v ∧ v < 2 ^ 63

instance (v : Int) : Decidable (InI64 v) := inferInstanceAs (Decidable (_ ∧ _))

/-- A slot as the tables key it: the player's text and the crate. -/
abbrev SlotKey := String × String

/-- A row of `crate_pending_rewards`. -/
structure PendingRow where
  /-- The row id. -/
  id : Int
  /-- The player's text. -/
  player : String
  crate : String
  reward : String
  /-- `PENDING` or `DELIVERED`. -/
  status : String
  /-- When it was queued. -/
  createdAt : Int
  deriving DecidableEq

/-- What the six tables hold: the tables keyed by slot as lists of keys and values, one
entry a key, in the order the keys were first written; the history and the waiting rewards
in the order of their ids; and the largest id given to a waiting reward. -/
structure Stored where
  /-- `crate_cooldowns`. -/
  cooldowns : List (SlotKey × Int) := []
  /-- `crate_keys`. -/
  keys : List (SlotKey × Int) := []
  /-- `crate_locks`, with when each was taken. -/
  locks : List (SlotKey × Int) := []
  /-- `crate_open_history`: player, crate, reward, time. -/
  opens : List (String × String × Option String × Int) := []
  /-- `crate_reward_history`: player, crate, reward, time. -/
  deliveries : List (String × String × String × Int) := []
  /-- `crate_pending_rewards`. -/
  pending : List PendingRow := []
  /-- The largest id ever given to a waiting reward. -/
  lastPending : Int := 0
  deriving DecidableEq

/-- The database as the store's statements see it. -/
structure DbView where
  /-- The tables. -/
  stored : Stored
  /-- The tables as the open transaction found them; none outside a transaction. -/
  saved : Option Stored := none
  deriving DecidableEq

namespace Stored

/-- The upsert of a cooldown. -/
def setCooldown (st : Stored) (p c : String) (t : Int) : Stored :=
  { st with cooldowns := Assoc.set st.cooldowns (p, c) t }

/-- The upsert adding to a balance: a missing balance starts at the amount. -/
def addKeys (st : Stored) (p c : String) (n : Int) : Stored :=
  { st with keys := Assoc.set st.keys (p, c) ((Assoc.get? st.keys (p, c)).getD 0 + n) }

/-- The decrement of a positive balance, with the number of rows it changed. -/
def takeKey (st : Stored) (p c : String) : Stored × Nat :=
  match Assoc.get? st.keys (p, c) with
  | some a => if 0 < a then ({ st with keys := Assoc.set st.keys (p, c) (a - 1) }, 1) else (st, 0)
  | none => (st, 0)

/-- The delete of a balance at zero or below, with the number of rows it removed. -/
def dropEmpty (st : Stored) (p c : String) : Stored × Nat :=
  match Assoc.get? st.keys (p, c) with
  | some a => if a ≤ 0 then ({ st with keys := Assoc.erase st.keys (p, c) }, 1) else (st, 0)
  | none => (st, 0)

/-- The insert of a lock nobody holds. -/
def takeLock (st : Stored) (p c : String) (t : Int) : Stored :=
  { st with locks := st.locks ++ [((p, c), t)] }

/-- The delete of a lock. -/
def giveLock (st : Stored) (p c : String) : Stored :=
  { st with locks := Assoc.erase st.locks (p, c) }

/-- An open appended to the history. -/
def logOpen (st : Stored) (p c : String) (r : Option String) (t : Int) : Stored :=
  { st with opens := st.opens ++ [(p, c, r, t)] }

/-- A delivery appended to the history. -/
def logDelivery (st : Stored) (p c r : String) (t : Int) : Stored :=
  { st with deliveries := st.deliveries ++ [(p, c, r, t)] }

/-- A reward queued under the next id. -/
def queue (st : Stored) (p c r : String) (t : Int) : Stored :=
  { st with pending := st.pending ++ [⟨st.lastPending + 1, p, c, r, "PENDING", t⟩],
            lastPending := st.lastPending + 1 }

def waitingWith (id : Int) (row : PendingRow) : Bool := row.id == id && row.status == "PENDING"

/-- The waiting row of an id marked delivered, with the number of rows changed. -/
def markRow (st : Stored) (id : Int) : Stored × Nat :=
  ({ st with pending := st.pending.map fun row =>
      if waitingWith id row then { row with status := "DELIVERED" } else row },
    (st.pending.filter (waitingWith id)).length)

/-- A table emptied; the ids already given stay given. -/
def clearTable (st : Stored) : String → Stored
  | "crate_cooldowns" => { st with cooldowns := [] }
  | "crate_keys" => { st with keys := [] }
  | "crate_locks" => { st with locks := [] }
  | "crate_open_history" => { st with opens := [] }
  | "crate_reward_history" => { st with deliveries := [] }
  | "crate_pending_rewards" => { st with pending := [] }
  | _ => st

/-- Whether a waiting row is the player's and waits. -/
def waitingFor (p : String) (row : PendingRow) : Bool := row.player == p && row.status == "PENDING"

/-- Whether a waiting row matches a player, crate and reward and waits. -/
def matching (p c r : String) (row : PendingRow) : Bool :=
  row.player == p && row.crate == c && row.reward == r && row.status == "PENDING"

end Stored

/-- A text as the database hands it back. -/
def heldText (s : String) : SqlValue := .text (Bytes.held s)

/-! ### Triples over the view -/

namespace Conn

variable {σ α β : Type} (view : σ → DbView)

/-- From every database the view shows as `pre`, the work ends with an answer and a view
that `post` accepts. -/
def Triple (pre : DbView) (work : Conn σ α) (post : Except DriverError α → DbView → Prop) :
    Prop :=
  ∀ db, view db = pre → post ((ExceptT.run work).run db).1 (view ((ExceptT.run work).run db).2)

variable {view}

theorem Triple.mono {pre : DbView} {work : Conn σ α} {P Q : Except DriverError α → DbView → Prop}
    (h : Triple view pre work P) (weaker : ∀ r V, P r V → Q r V) : Triple view pre work Q :=
  fun db hdb => weaker _ _ (h db hdb)

theorem triple_pure {pre : DbView} {a : α} {post : Except DriverError α → DbView → Prop}
    (h : post (.ok a) pre) : Triple view pre (pure a) post := by
  intro db hdb
  rw [← hdb] at h
  exact h

theorem triple_throw {pre : DbView} {e : DriverError} {post : Except DriverError α → DbView → Prop}
    (h : post (.error e) pre) : Triple view pre (throw e) post := by
  intro db hdb
  rw [← hdb] at h
  exact h

theorem triple_bind {pre : DbView} {x : Conn σ α} {f : α → Conn σ β}
    {mid : Except DriverError α → DbView → Prop} {post : Except DriverError β → DbView → Prop}
    (hx : Triple view pre x mid) (ok : ∀ a V, mid (.ok a) V → Triple view V (f a) post)
    (error : ∀ e V, mid (.error e) V → post (.error e) V) : Triple view pre (x >>= f) post := by
  intro db hdb
  have first := hx db hdb
  simp only [ExceptT.run_bind, StateT.run_bind]
  rcases h : (ExceptT.run x).run db with ⟨_ | a, db'⟩
  · rw [h] at first
    exact error _ _ first
  · rw [h] at first
    exact ok a _ first db' rfl

/-- Work that answers `a` and leaves `W` goes on with `f a`: its failure branch is empty. -/
theorem triple_bind_of_ok {pre W : DbView} {x : Conn σ α} {a : α} {f : α → Conn σ β}
    {post : Except DriverError β → DbView → Prop}
    (hx : Triple view pre x fun r V => r = .ok a ∧ V = W) (next : Triple view W (f a) post) :
    Triple view pre (x >>= f) post := by
  refine triple_bind hx ?_ ?_
  · rintro _ V ⟨hr, rfl⟩
    cases hr
    exact next
  · rintro e V ⟨he, -⟩
    cases he

/-- The same for work that succeeds with an answer of no interest. -/
theorem triple_bind_of_succeeds {pre W : DbView} {x : Conn σ α} {f : α → Conn σ β}
    {post : Except DriverError β → DbView → Prop}
    (hx : Triple view pre x fun r V => (∃ a, r = .ok a) ∧ V = W)
    (next : ∀ a, Triple view W (f a) post) : Triple view pre (x >>= f) post := by
  refine triple_bind hx ?_ ?_
  · rintro a V ⟨-, rfl⟩
    exact next a
  · rintro e V ⟨⟨a, ha⟩, -⟩
    cases ha

theorem triple_map {pre : DbView} {x : Conn σ α} {f : α → β}
    {post : Except DriverError β → DbView → Prop}
    (hx : Triple view pre x fun r V => post (r.map f) V) : Triple view pre (f <$> x) post := by
  intro db hdb
  have first := hx db hdb
  simp only [ExceptT.run_map, StateT.run_map]
  rcases h : (ExceptT.run x).run db with ⟨_ | a, db'⟩ <;> rw [h] at first <;> exact first

theorem triple_tryCatch {pre : DbView} {x : Conn σ α} {handler : DriverError → Conn σ α}
    {mid : Except DriverError α → DbView → Prop} {post : Except DriverError α → DbView → Prop}
    (hx : Triple view pre x mid) (ok : ∀ a V, mid (.ok a) V → post (.ok a) V)
    (error : ∀ e V, mid (.error e) V → Triple view V (handler e) post) :
    Triple view pre (tryCatch x handler) post := by
  intro db hdb
  have first : mid (StateT.run x db).1 (view (StateT.run x db).2) := hx db hdb
  simp only [tryCatch, tryCatchThe, MonadExceptOf.tryCatch, ExceptT.tryCatch, ExceptT.run_mk,
    StateT.run_bind]
  rcases h : StateT.run x db with ⟨e | a, db'⟩
  · rw [h] at first
    exact error e _ first db' rfl
  · rw [h] at first
    exact ok a _ first

end Conn

/-! ### The documented behaviour of each statement -/

section Rules

variable {σ : Type} (run : Command → Conn σ (Relation × Nat)) (view : σ → DbView)

/-- A statement that leaves the tables as `st'` and answers that it changed `n` rows. -/
def Writes (c : Command) (V : DbView) (st' : Stored) (n : Nat) : Prop :=
  Conn.Triple view V (run c) fun r V' => (∃ rel, r = .ok (rel, n)) ∧ V' = { V with stored := st' }

/-- A query: it changes nothing and answers rows, under the column names given, that
`rows` accepts. -/
def Reads (c : Command) (V : DbView) (names : List String) (rows : List (List SqlValue) → Prop) :
    Prop :=
  Conn.Triple view V (run c) fun r V' =>
    V' = V ∧ ∃ rel n, r = .ok (rel, n) ∧ rel.columns.map ColumnInfo.name = names ∧ rows rel.rows

/-- What the database documents of the store's statements. -/
structure Documented : Prop where
  /-- The cooldown upsert. -/
  setCooldown : ∀ V p c t, InI64 t →
    Writes run view (Tables.setCooldown p c t) V (V.stored.setCooldown p c t) 1
  /-- The cooldown of a slot: at most one row, by the key. -/
  getCooldown : ∀ V p c, Reads run view (Tables.getCooldown p c) V ["last_used"]
    (· = ((Assoc.get? V.stored.cooldowns (p, c)).map fun t => [SqlValue.int t]).toList)
  /-- The balance upsert, while the sum fits 64 bits. -/
  addKeys : ∀ V p c (n : Nat), InI64 n → InI64 ((Assoc.get? V.stored.keys (p, c)).getD 0 + n) →
    Writes run view (Tables.addKeys p c n) V (V.stored.addKeys p c n) 1
  /-- The balance of a slot. -/
  keyCount : ∀ V p c, Reads run view (Tables.keyCount p c) V ["amount"]
    (· = ((Assoc.get? V.stored.keys (p, c)).map fun a => [SqlValue.int a]).toList)
  /-- The decrement of a positive balance. -/
  takeKey : ∀ V p c,
    Writes run view (Tables.takeKey p c) V (V.stored.takeKey p c).1 (V.stored.takeKey p c).2
  /-- The delete of a balance at zero or below. -/
  dropEmpty : ∀ V p c,
    Writes run view (Tables.dropEmpty p c) V (V.stored.dropEmpty p c).1 (V.stored.dropEmpty p c).2
  /-- The insert of a lock nobody holds. -/
  takeLock : ∀ V p c t, InI64 t → Assoc.get? V.stored.locks (p, c) = none →
    Writes run view (Tables.takeLock p c t) V (V.stored.takeLock p c t) 1
  /-- The insert of a lock somebody holds fails on the key, and changes nothing. -/
  lockTaken : ∀ V p c t, (Assoc.get? V.stored.locks (p, c)).isSome →
    Conn.Triple view V (run (Tables.takeLock p c t)) fun r V' =>
      V' = V ∧ ∃ e : SqlError, r = .error (.database e) ∧ (e.code = 1555 ∨ e.code = 2067)
  /-- The delete of a lock. -/
  giveLock : ∀ V p c, ∃ n, Writes run view (Tables.giveLock p c) V (V.stored.giveLock p c) n
  /-- An open appended. -/
  logOpen : ∀ V p c r t, InI64 t →
    Writes run view (Tables.logOpen p c r t) V (V.stored.logOpen p c r t) 1
  /-- A delivery appended. -/
  logDelivery : ∀ V p c r t, InI64 t →
    Writes run view (Tables.logDelivery p c r t) V (V.stored.logDelivery p c r t) 1
  /-- A reward queued under an id larger than any given before, while ids are left. -/
  queue : ∀ V p c r t, InI64 t → InI64 (V.stored.lastPending + 1) →
    Writes run view (Tables.queue p c r t) V (V.stored.queue p c r t) 1
  /-- A player's waiting rewards, by id. -/
  waiting : ∀ V p, Reads run view (Tables.waiting p) V ["crate_id", "reward_id", "status", "created_at"]
    (· = (V.stored.pending.filter (Stored.waitingFor p)).map fun row =>
      [heldText row.crate, heldText row.reward, heldText row.status, .int row.createdAt])
  /-- The id of the first waiting reward that matches. -/
  firstWaiting : ∀ V p c r, Reads run view (Tables.firstWaiting p c r) V ["id"]
    (· = ((V.stored.pending.find? (Stored.matching p c r)).map fun row => [SqlValue.int row.id]).toList)
  /-- A waiting reward marked delivered. -/
  markRow : ∀ V id,
    Writes run view (Tables.markRow id) V (V.stored.markRow id).1 (V.stored.markRow id).2
  /-- Every cooldown, in no promised order. -/
  allCooldowns : ∀ V, Reads run view Tables.allCooldowns V ["player_id", "crate_id", "last_used"]
    (List.Perm · (V.stored.cooldowns.map fun (k, t) => [heldText k.1, heldText k.2, .int t]))
  /-- Every positive balance, in no promised order. -/
  positiveKeys : ∀ V, Reads run view Tables.positiveKeys V ["player_id", "crate_id", "amount"]
    (List.Perm · ((V.stored.keys.filter (0 < ·.2)).map fun (k, a) =>
      [heldText k.1, heldText k.2, .int a]))
  /-- Every open, by id. -/
  allOpens : ∀ V, Reads run view Tables.allOpens V ["player_id", "crate_id", "reward_id", "opened_at"]
    (· = V.stored.opens.map fun (p, c, r, t) => [heldText p, heldText c, (r.map heldText).getD .null, .int t])
  /-- Every delivery, by id. -/
  allDeliveries : ∀ V, Reads run view Tables.allDeliveries V
    ["player_id", "crate_id", "reward_id", "delivered_at"]
    (· = V.stored.deliveries.map fun (p, c, r, t) => [heldText p, heldText c, heldText r, .int t])
  /-- A table emptied. -/
  clearTable : ∀ V t, t ∈ Tables.all →
    ∃ n, Writes run view (Tables.clearTable t) V (V.stored.clearTable t) n
  /-- A transaction begun outside any. -/
  begin : ∀ st, Conn.Triple view ⟨st, none⟩ (run ⟨"BEGIN", []⟩) fun r V' =>
    (∃ x, r = .ok x) ∧ V' = ⟨st, some st⟩
  /-- The open transaction committed. -/
  commit : ∀ st st₀, Conn.Triple view ⟨st, some st₀⟩ (run ⟨"COMMIT", []⟩) fun r V' =>
    (∃ x, r = .ok x) ∧ V' = ⟨st, none⟩
  /-- The open transaction rolled back: the tables as it found them. -/
  rollback : ∀ st st₀, Conn.Triple view ⟨st, some st₀⟩ (run ⟨"ROLLBACK", []⟩) fun r V' =>
    (∃ x, r = .ok x) ∧ V' = ⟨st₀, none⟩

end Rules

end CrateState
