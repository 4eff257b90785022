import CrateState.Proofs.SqlCalls

/-!
# A database that keeps the documented rules

`MemoryDatabase` runs the store's statements on tables held in memory, each as its
documentation says: an upsert inserts or overwrites the row of its key, a delete removes
the rows its condition selects, an autoincrement key takes the next id, a query lists the
rows it selects, and `ROLLBACK` restores the tables `BEGIN` found. Its state is the view
itself, and `documented` shows that it keeps every rule of `Documented`: so the rules can
all be met at once, and the statements about stores over a documented database have
instances to run on.

A statement that is not one of the store's, or whose values are not of the kinds the
store binds, fails.
-/

namespace CrateState

open Relational

namespace MemoryDatabase

/-- A result with the named columns and the rows given. -/
def result (names : List String) (rows : List (List SqlValue)) : Relation :=
  { columns := names.map fun name => { name }, rows }

/-- The failure of a statement the database does not run. -/
def unsupported (c : Command) : DriverError :=
  .database (.general ("unsupported statement: " ++ c.sql))

/-- The key's refusal of a second holder of a lock. -/
def lockRefused : DriverError :=
  .database ⟨1555, "UNIQUE constraint failed: crate_locks.player_id, crate_locks.crate_id"⟩

def rowCount (st : Stored) : String → Nat
  | "crate_cooldowns" => st.cooldowns.length
  | "crate_keys" => st.keys.length
  | "crate_locks" => st.locks.length
  | "crate_open_history" => st.opens.length
  | "crate_reward_history" => st.deliveries.length
  | "crate_pending_rewards" => st.pending.length
  | _ => 0

/-- The answer of a write that left the tables as `st'` and changed `n` rows. -/
def wrote (V : DbView) (st' : Stored) (n : Nat) : Except DriverError (Relation × Nat) × DbView :=
  (.ok (result [] [], n), { V with stored := st' })

/-- The answer of a query that read these rows under these column names. -/
def read (V : DbView) (names : List String) (rows : List (List SqlValue)) :
    Except DriverError (Relation × Nat) × DbView :=
  (.ok (result names rows, 0), V)

/-- The answer to a statement the database does not run: an error, and no change. -/
def refused (c : Command) (V : DbView) : Except DriverError (Relation × Nat) × DbView :=
  (.error (unsupported c), V)

/-- The statements on the tables keyed by slot; `none` for any other. -/
def execSlot (c : Command) (V : DbView) : Option (Except DriverError (Relation × Nat) × DbView) :=
  let st := V.stored
  if c.sql = (Tables.setCooldown "" "" 0).sql then
    match c.params with
    | [.text p, .text k, .int t] => some <| wrote V (st.setCooldown p k t) 1
    | _ => some (refused c V)
  else if c.sql = (Tables.getCooldown "" "").sql then
    match c.params with
    | [.text p, .text k] =>
      some <| read V ["last_used"] ((Assoc.get? st.cooldowns (p, k)).map fun t => [SqlValue.int t]).toList
    | _ => some (refused c V)
  else if c.sql = (Tables.addKeys "" "" 0).sql then
    match c.params with
    | [.text p, .text k, .int n] => some <| wrote V (st.addKeys p k n) 1
    | _ => some (refused c V)
  else if c.sql = (Tables.keyCount "" "").sql then
    match c.params with
    | [.text p, .text k] =>
      some <| read V ["amount"] ((Assoc.get? st.keys (p, k)).map fun a => [SqlValue.int a]).toList
    | _ => some (refused c V)
  else if c.sql = (Tables.takeKey "" "").sql then
    match c.params with
    | [.text p, .text k] => some <| wrote V (st.takeKey p k).1 (st.takeKey p k).2
    | _ => some (refused c V)
  else if c.sql = (Tables.dropEmpty "" "").sql then
    match c.params with
    | [.text p, .text k] => some <| wrote V (st.dropEmpty p k).1 (st.dropEmpty p k).2
    | _ => some (refused c V)
  else if c.sql = (Tables.takeLock "" "" 0).sql then
    match c.params with
    | [.text p, .text k, .int t] =>
      if (Assoc.get? st.locks (p, k)).isSome then some (.error lockRefused, V)
      else some <| wrote V (st.takeLock p k t) 1
    | _ => some (refused c V)
  else if c.sql = (Tables.giveLock "" "").sql then
    match c.params with
    | [.text p, .text k] => some <| wrote V (st.giveLock p k) (st.locks.filter (·.1 = (p, k))).length
    | _ => some (refused c V)
  else none

/-- The statements on history and waiting rewards; `none` for any other. -/
def execHistory (c : Command) (V : DbView) :
    Option (Except DriverError (Relation × Nat) × DbView) :=
  let st := V.stored
  if c.sql = (Tables.logOpen "" "" none 0).sql then
    match c.params with
    | [.text p, .text k, .null, .int t] => some <| wrote V (st.logOpen p k none t) 1
    | [.text p, .text k, .text r, .int t] => some <| wrote V (st.logOpen p k (some r) t) 1
    | _ => some (refused c V)
  else if c.sql = (Tables.logDelivery "" "" "" 0).sql then
    match c.params with
    | [.text p, .text k, .text r, .int t] => some <| wrote V (st.logDelivery p k r t) 1
    | _ => some (refused c V)
  else if c.sql = (Tables.queue "" "" "" 0).sql then
    match c.params with
    | [.text p, .text k, .text r, _, .int t] => some <| wrote V (st.queue p k r t) 1
    | _ => some (refused c V)
  else if c.sql = (Tables.waiting "").sql then
    match c.params with
    | [.text p, _] =>
      some <| read V ["crate_id", "reward_id", "status", "created_at"]
        ((st.pending.filter (Stored.waitingFor p)).map fun row =>
          [heldText row.crate, heldText row.reward, heldText row.status, .int row.createdAt])
    | _ => some (refused c V)
  else if c.sql = (Tables.firstWaiting "" "" "").sql then
    match c.params with
    | [.text p, .text k, .text r, _] =>
      some <| read V ["id"] ((st.pending.find? (Stored.matching p k r)).map fun row =>
        [SqlValue.int row.id]).toList
    | _ => some (refused c V)
  else if c.sql = (Tables.markRow 0).sql then
    match c.params with
    | [_, .int id, _] => some <| wrote V (st.markRow id).1 (st.markRow id).2
    | _ => some (refused c V)
  else none

/-- The snapshot's queries; `none` for any other statement. -/
def execDump (c : Command) (V : DbView) : Option (Except DriverError (Relation × Nat) × DbView) :=
  let st := V.stored
  if c.sql = Tables.allCooldowns.sql then
    some <| read V ["player_id", "crate_id", "last_used"]
      (st.cooldowns.map fun (k, t) => [heldText k.1, heldText k.2, .int t])
  else if c.sql = Tables.positiveKeys.sql then
    some <| read V ["player_id", "crate_id", "amount"]
      ((st.keys.filter (0 < ·.2)).map fun (k, a) => [heldText k.1, heldText k.2, .int a])
  else if c.sql = Tables.allOpens.sql then
    some <| read V ["player_id", "crate_id", "reward_id", "opened_at"]
      (st.opens.map fun (p, k, r, t) => [heldText p, heldText k, (r.map heldText).getD .null, .int t])
  else if c.sql = Tables.allDeliveries.sql then
    some <| read V ["player_id", "crate_id", "reward_id", "delivered_at"]
      (st.deliveries.map fun (p, k, r, t) => [heldText p, heldText k, heldText r, .int t])
  else none

/-- The transaction statements and the clear of a table; `none` for any other statement. -/
def execControl (c : Command) (V : DbView) :
    Option (Except DriverError (Relation × Nat) × DbView) :=
  let st := V.stored
  if c.sql = "BEGIN" then
    match V.saved with
    | none => some (.ok (result [] [], 0), ⟨st, some st⟩)
    | some _ => none
  else if c.sql = "COMMIT" then
    (V.saved.map fun _ => (.ok (result [] [], 0), ⟨st, none⟩))
  else if c.sql = "ROLLBACK" then
    (V.saved.map fun st₀ => (.ok (result [] [], 0), ⟨st₀, none⟩))
  else
    (Tables.all.find? fun t => c.sql = (Tables.clearTable t).sql).map fun t =>
      wrote V (st.clearTable t) (rowCount st t)

/-- Runs a statement on the tables; a statement the database does not run fails and
changes nothing. -/
def exec (c : Command) (V : DbView) : Except DriverError (Relation × Nat) × DbView :=
  ((execSlot c V <|> execHistory c V) <|> (execDump c V <|> execControl c V)).getD
    (refused c V)

/-- Runs a statement on the database. -/
def run (c : Command) : Conn DbView (Relation × Nat) := ExceptT.mk fun V => exec c V

/-- A triple over the database is what its statement does to the view. -/
theorem triple_run {c : Command} {V : DbView}
    {post : Except DriverError (Relation × Nat) → DbView → Prop}
    (h : post (exec c V).1 (exec c V).2) : Conn.Triple id V (run c) post := by
  intro db hdb
  subst hdb
  simp only [run, ExceptT.run_mk, StateT.run, id]
  exact h

/-- **The memory database keeps the documented rules**, every one of them. -/
theorem documented : Documented run id := by
  constructor
  -- the cases that need a value, a split or a case of their own first; then every statement
  -- is read off `exec` by unfolding its text
  case' giveLock =>
    refine fun V p c => ⟨(V.stored.locks.filter (·.1 = (p, c))).length, triple_run ?_⟩
  case' clearTable =>
    intro V t ht
    refine ⟨rowCount V.stored t, triple_run ?_⟩
    simp only [Tables.all, List.mem_cons, List.not_mem_nil, or_false] at ht
    rcases ht with rfl | rfl | rfl | rfl | rfl | rfl
  case' logOpen =>
    intro V p c r t _
    refine triple_run ?_
    cases r
  all_goals
    try intros
    try refine triple_run ?_
    simp [exec, execSlot, execHistory, execDump, execControl, Tables.setCooldown,
      Tables.getCooldown, Tables.addKeys, Tables.keyCount, Tables.takeKey, Tables.dropEmpty,
      Tables.takeLock, Tables.giveLock, Tables.logOpen, Tables.logDelivery, Tables.queue,
      Tables.waiting, Tables.firstWaiting, Tables.markRow, Tables.allCooldowns,
      Tables.positiveKeys, Tables.allOpens, Tables.allDeliveries, Tables.all, Tables.clearTable,
      wrote, read, result, lockRefused, *]

-- the text is compared with every statement's before the transaction control sees it
set_option maxRecDepth 8000 in
/-- A `ROLLBACK` outside a transaction is refused and changes nothing. -/
theorem triple_rollback_outside (st : Stored) :
    Conn.Triple id ⟨st, none⟩ (run ⟨"ROLLBACK", []⟩) fun _ V => V = ⟨st, none⟩ :=
  triple_run (by simp +decide [exec, execSlot, execHistory, execDump, execControl, refused])

end MemoryDatabase

end CrateState
