import CrateState.Proofs.SqlCalls
import CrateState.Sync.Ledger

/-!
# The SQL ledger over any database

`SqlLedger` runs its statements through a `Pool` on the client's own model of the database.
To reason about the ledger whatever the database is, this module writes the same work over
any database `σ` that `run` executes statements on, with connections that `use` gives
(`prepareVia`, `sessionVia`, `appendVia`, `readVia`), and shows that the ledger is that work
at the client's pool and database (`append_eq_appendVia`, `read_eq_readVia`).
-/

namespace CrateState

open Relational

namespace SqlLedger

section Via

variable {σ τ : Type} (use : {α : Type} → τ → Conn σ α → Except DriverError α × τ)
  (run : Command → Conn σ (Relation × Nat))

/-- Runs statements one after another, each on a connection of its own, up to the first
that fails, as `prepare` makes the table. -/
def makeVia : List Command → τ → Except DriverError Unit × τ
  | [], pool => (.ok (), pool)
  | st :: rest, pool =>
    match use pool (Conn.exec run st) with
    | (.ok _, pool) => makeVia rest pool
    | (.error e, pool) => (.error e, pool)

/-- Makes the table if it is not made yet, as `prepare`. -/
def prepareVia (l : SqlLedger) (pool : τ) : Except SyncError Unit × SqlLedger × τ :=
  if l.ready then (.ok (), l, pool)
  else
    match makeVia use run (schema l.table) pool with
    | (.ok (), pool) => (.ok (), { l with ready := true }, pool)
    | (.error e, pool) => (.error (ledgerError e), l, pool)

/-- Runs work on the ledger's table, as `session`. -/
def sessionVia {α : Type} (l : SqlLedger) (pool : τ) (work : Conn σ α) :
    Except SyncError α × SqlLedger × τ :=
  if l.closed then (.error .closed, l, pool)
  else
    match l.prepareVia use run pool with
    | (.error e, l, pool) => (.error e, l, pool)
    | (.ok (), l, pool) =>
      let (r, pool) := use pool work
      (r.mapError ledgerError, l, pool)

/-- Appends an event, as `append`. -/
def appendVia (l : SqlLedger) (e : SyncEvent) (pool : τ) : Except SyncError Unit × SqlLedger × τ :=
  l.sessionVia use run pool do
    let _ ← Conn.exec run (appendRow l.table e)

/-- Reads rows and decodes them, as `read`. -/
def readVia (l : SqlLedger) (st : Command) (pool : τ) :
    Except SyncError (List LedgerEntry) × SqlLedger × τ :=
  l.sessionVia use run pool do
    let o ← Conn.query run st
    match decode o with
    | .ok entries => pure entries
    | .error e => throw e

end Via

theorem prepare_run_eq (cmds : List Command) (pool : Pool) :
    prepare.run cmds pool = makeVia @Pool.use Session.run cmds pool := by
  induction cmds generalizing pool with
  | nil => rfl
  | cons st rest ih =>
    rw [prepare.run, makeVia]
    -- both sides run the statement on the same connection, and go on alike
    split
    · next r pool' h =>
      rw [show pool.use (Conn.exec Session.run st) = (.ok r, pool') from h]
      exact ih pool'
    · next e pool' h =>
      rw [show pool.use (Conn.exec Session.run st) = (.error e, pool') from h]

theorem prepare_eq_prepareVia (l : SqlLedger) (pool : Pool) :
    l.prepare pool = l.prepareVia @Pool.use Session.run pool := by
  unfold prepare prepareVia
  split
  · rfl
  · rw [prepare_run_eq]
    split <;> rename_i h <;> rw [h]

theorem session_eq_sessionVia {α : Type} (l : SqlLedger) (pool : Pool) (work : Session α) :
    l.session pool work = l.sessionVia @Pool.use Session.run pool work := by
  unfold session sessionVia
  split
  · rfl
  · rw [prepare_eq_prepareVia]
    split <;> rename_i h <;> rw [h]

/-- **The ledger's append is its work over the client's pool and database.** -/
theorem append_eq_appendVia (l : SqlLedger) (e : SyncEvent) (pool : Pool) :
    l.append e pool = l.appendVia @Pool.use Session.run e pool := by
  rw [append, session_eq_sessionVia]
  rfl

/-- **The ledger's reads are their work over the client's pool and database.** -/
theorem read_eq_readVia (l : SqlLedger) (st : Command) (pool : Pool) :
    l.read st pool = l.readVia @Pool.use Session.run st pool := by
  rw [read, session_eq_sessionVia]
  rfl

end SqlLedger

/-! ### A pool as a store model sees it -/

namespace SqlModel

variable {σ : Type}

/-- Uses the pool of a store model for some work, as `Pool.use`: a blocked pool answers its
error and does nothing; any other runs the work on the database. -/
def perform {α : Type} (s : SqlModel σ) (work : Conn σ α) : Except DriverError α × SqlModel σ :=
  match s.blocked with
  | some e => (.error e, s)
  | none =>
    let (r, db) := (ExceptT.run work).run s.db
    (r, { s with db })

theorem perform_of_open {s : SqlModel σ} (hb : s.blocked = none) {α : Type} (work : Conn σ α) :
    s.perform work =
      (((ExceptT.run work).run s.db).1, { s with db := ((ExceptT.run work).run s.db).2 }) := by
  unfold perform
  rw [hb]
  rfl

end SqlModel

/-! ### The ledger's table -/

/-- A row of the ledger's table: its id and its six other columns. -/
structure LedgerRow where
  /-- The row id. -/
  id : Int
  /-- `event_type`. -/
  kind : String
  /-- `origin_server`. -/
  origin : String
  /-- `player_id`. -/
  player : String
  /-- `crate_id`. -/
  crate : String
  /-- `reward_id`, `NULL` as none. -/
  reward : Option String
  /-- `created_at`. -/
  time : Int
  deriving DecidableEq

namespace LedgerRow

/-- The row an event is written as, under an id. -/
def ofEvent (id : Int) (e : SyncEvent) : LedgerRow :=
  ⟨id, e.kind.name, e.origin, e.player.render, e.crate, e.reward, e.time⟩

/-- The values of a row as the ledger's queries select them, the texts as the database
hands them back. -/
def values (r : LedgerRow) : List SqlValue :=
  [.int r.id, heldText r.kind, heldText r.origin, heldText r.player, heldText r.crate,
    (r.reward.map heldText).getD .null, .int r.time]

/-- The entry a row reads back as; `none` for a row the ledger skips: its event type is no
known kind, or its player id does not parse. -/
def decoded? (r : LedgerRow) : Option LedgerEntry :=
  match EventKind.parse r.kind, PlayerId.parse r.player with
  | some kind, .ok player => some ⟨r.id, ⟨kind, r.origin, player, r.crate, r.reward, r.time⟩⟩
  | _, _ => none

@[simp] theorem decoded?_ofEvent (id : Int) (e : SyncEvent) : (ofEvent id e).decoded? = some ⟨id, e⟩ := by
  simp [ofEvent, decoded?, EventKind.parse_name, PlayerId.parse_render]

end LedgerRow

/-- The names of the columns the ledger's queries select, in order. -/
def ledgerColumns : List String :=
  ["id", "event_type", "origin_server", "player_id", "crate_id", "reward_id", "created_at"]

/-- The ledger's table: its rows in the order of their ids, and the largest id it gave. -/
structure LedgerTable where
  /-- The rows, by id. -/
  rows : List LedgerRow
  /-- The largest id given so far. -/
  lastId : Int
  ascending : rows.Pairwise (·.id < ·.id)
  given : ∀ r ∈ rows, r.id ≤ lastId
  nonneg : 0 ≤ lastId

namespace LedgerTable

/-- A table with no rows that never gave an id. -/
def empty : LedgerTable := ⟨[], 0, .nil, (fun _ h => nomatch h), Int.le_refl 0⟩

/-- A row inserted under the next id. -/
def insert (T : LedgerTable) (kind origin player crate : String) (reward : Option String)
    (time : Int) : LedgerTable where
  rows := T.rows ++ [⟨T.lastId + 1, kind, origin, player, crate, reward, time⟩]
  lastId := T.lastId + 1
  ascending := by
    refine List.pairwise_append.mpr ⟨T.ascending, List.pairwise_singleton _ _, ?_⟩
    intro a ha b hb
    rw [List.mem_singleton.mp hb]
    have := T.given a ha
    show a.id < T.lastId + 1
    omega
  given := by
    intro r hr
    rcases List.mem_append.mp hr with hr | hr
    · have := T.given r hr
      omega
    · obtain rfl := List.mem_singleton.mp hr
      exact Int.le_refl _
  nonneg := by
    have := T.nonneg
    omega

/-- An event appended under the next id. -/
def append (T : LedgerTable) (e : SyncEvent) : LedgerTable :=
  T.insert e.kind.name e.origin e.player.render e.crate e.reward e.time

@[simp] theorem rows_append (T : LedgerTable) (e : SyncEvent) :
    (T.append e).rows = T.rows ++ [.ofEvent (T.lastId + 1) e] := rfl

@[simp] theorem lastId_append (T : LedgerTable) (e : SyncEvent) :
    (T.append e).lastId = T.lastId + 1 := rfl

end LedgerTable

/-! ### Reading rows back -/

/-- **A selected row reads back as its entry**, or is skipped when it is none: reading never
fails on a row the ledger's queries select. -/
theorem decodeRow_values {o : Relation} (hn : o.columns.map ColumnInfo.name = ledgerColumns)
    (r : LedgerRow) : SqlLedger.decodeRow o r.values = .ok r.decoded? := by
  have get := Relation.get_of_names hn r.values
  simp only [SqlLedger.decodeRow, readInt_int (get "id"), readText_held (get "event_type"),
    readText_held (get "player_id"), bind, Except.bind, LedgerRow.decoded?]
  -- a row of a known kind and a player id that parses reads its other four columns
  cases EventKind.parse r.kind with
  | none => rfl
  | some kind =>
    cases PlayerId.parse r.player with
    | error e => rfl
    | ok player =>
      have reward : readOptText o r.values "reward_id" = .ok r.reward := by
        cases hr : r.reward with
        | none => exact readOptText_null (by rw [get]; simp [LedgerRow.values, hr, ledgerColumns])
        | some x => exact readOptText_held (by rw [get]; simp [LedgerRow.values, hr, ledgerColumns, heldText])
      simp only [readText_held (get "origin_server"), readText_held (get "crate_id"), reward,
        readInt_int (get "created_at")]
      rfl

/-- **Selected rows read back as their entries, in order**, the skipped ones left out. -/
theorem decode_rows {o : Relation} (hn : o.columns.map ColumnInfo.name = ledgerColumns)
    {rows : List LedgerRow} (ho : o.rows = rows.map LedgerRow.values) :
    SqlLedger.decode o = .ok (rows.filterMap LedgerRow.decoded?) := by
  unfold SqlLedger.decode
  rw [ho, mapM_map_of_pure fun r _ => decodeRow_values hn r]
  show Except.ok (List.reduceOption _) = _
  rw [List.reduceOption, List.filterMap_map]
  rfl

section Rules

variable {σ : Type} (run : Command → Conn σ (Relation × Nat)) (view : σ → Option LedgerTable)

/-- A query that, on every database the view shows as `T`, changes nothing and answers
`rows` under the ledger's column names. -/
def LedgerReads (c : Command) (T : LedgerTable) (rows : List LedgerRow) : Prop :=
  ∀ db, view db = some T → ∃ rel n, (ExceptT.run (run c)).run db = (.ok (rel, n), db) ∧
    rel.columns.map ColumnInfo.name = ledgerColumns ∧ rel.rows = rows.map LedgerRow.values

/-- What the database documents of the ledger's statements on its table `table`. -/
structure LedgerDocumented (table : String) : Prop where
  /-- `CREATE TABLE IF NOT EXISTS`: the table made, empty, when missing, and kept when made. -/
  makeTable : ∀ db, ∃ r db',
    (ExceptT.run (run ((SqlLedger.schema table).get ⟨0, by simp [SqlLedger.schema]⟩))).run db = (.ok r, db') ∧
      view db' = some ((view db).getD .empty)
  /-- `CREATE INDEX IF NOT EXISTS` keeps a made table. -/
  makeIndex : ∀ db T, view db = some T → ∃ r db',
    (ExceptT.run (run ((SqlLedger.schema table).get ⟨1, by simp [SqlLedger.schema]⟩))).run db = (.ok r, db') ∧
      view db' = some T
  /-- The insert of an event: a row under the next id, while ids are left. -/
  append : ∀ db T e, view db = some T → InI64 e.time → InI64 (T.lastId + 1) → ∃ r db',
    (ExceptT.run (run (SqlLedger.appendRow table e))).run db = (.ok r, db') ∧
      view db' = some (T.append e)
  /-- The rows after an id, in the order of their ids, at most as many as the bound limit. -/
  since : ∀ T after limit, LedgerReads run view (SqlLedger.sinceRows table after limit) T
    ((T.rows.filter (after < ·.id)).take (sqlLimit limit).toNat)
  /-- The rows of a player, newest first, at most as many as the bound limit. -/
  recent : ∀ T p limit, LedgerReads run view (SqlLedger.recentRows table p limit) T
    ((T.rows.filter (·.player = p.render)).reverse.take (sqlLimit limit).toNat)

end Rules

/-! ### The ledger's work on a documented database -/

section Work

variable {σ : Type} {run : Command → Conn σ (Relation × Nat)} {view : σ → Option LedgerTable}

theorem Conn.run_bind_of_ok {α β : Type} {x : Conn σ α} {f : α → Conn σ β} {db db' : σ} {a : α}
    (h : (ExceptT.run x).run db = (.ok a, db')) :
    (ExceptT.run (x >>= f)).run db = (ExceptT.run (f a)).run db' := by
  simp only [ExceptT.run_bind, StateT.run_bind]
  rw [h]
  rfl

theorem Conn.exec_of_ok {c : Command} {db db' : σ} {r : Relation × Nat}
    (h : (ExceptT.run (run c)).run db = (.ok r, db')) :
    (ExceptT.run (Conn.exec run c)).run db = (.ok r.2, db') := by
  rw [Conn.exec, Conn.run_bind_of_ok h]
  rfl

theorem Conn.query_of_ok {c : Command} {db db' : σ} {r : Relation × Nat}
    (h : (ExceptT.run (run c)).run db = (.ok r, db')) :
    (ExceptT.run (Conn.query run c)).run db = (.ok r.1, db') := by
  rw [Conn.query, Conn.run_bind_of_ok h]
  rfl

theorem SqlModel.perform_of_ok {s : SqlModel σ} (hb : s.blocked = none) {α : Type} {work : Conn σ α}
    {a : α} {db : σ} (h : (ExceptT.run work).run s.db = (.ok a, db)) :
    s.perform work = (.ok a, { s with db }) := by
  rw [SqlModel.perform_of_open hb, h]

namespace SqlLedger

variable {l : SqlLedger} {s : SqlModel σ} {T : LedgerTable}

/-- The table a ledger's work finds on a database whose table is `T?`: that one once the
ledger made it, and otherwise the one making it leaves, empty when it was missing. -/
def tableFor (l : SqlLedger) (T? : Option LedgerTable) : Option LedgerTable :=
  if l.ready then T? else some (T?.getD .empty)

@[simp] theorem tableFor_ready (l : SqlLedger) (T? : Option LedgerTable) :
    ({ l with ready := true } : SqlLedger).tableFor T? = T? := rfl

/-- **Making the table** on an open pool succeeds and leaves the table the ledger's work
finds. -/
theorem prepareVia_perform (hd : LedgerDocumented run view l.table) (hb : s.blocked = none)
    (hT : l.tableFor (view s.db) = some T) :
    ∃ db, view db = some T ∧
      l.prepareVia (@SqlModel.perform σ) run s = (.ok (), { l with ready := true }, { s with db }) := by
  unfold prepareVia
  by_cases ready : l.ready
  · -- a made table is not made again
    rw [tableFor, if_pos ready] at hT
    rw [if_pos ready]
    refine ⟨s.db, hT, ?_⟩
    cases l
    simp only at ready
    rw [ready]
  · rw [tableFor, if_neg ready] at hT
    rw [if_neg ready]
    obtain ⟨r₀, db₀, made, hT₀⟩ := hd.makeTable s.db
    obtain ⟨r₁, db₁, indexed, hT₁⟩ := hd.makeIndex db₀ T (hT₀.trans hT)
    have steps : schema l.table = [(schema l.table).get ⟨0, by simp [schema]⟩,
        (schema l.table).get ⟨1, by simp [schema]⟩] := rfl
    have both : makeVia (@SqlModel.perform σ) run (schema l.table) s = (.ok (), { s with db := db₁ }) := by
      rw [steps, makeVia, SqlModel.perform_of_ok hb (Conn.exec_of_ok made)]
      dsimp only
      have open₀ : ({ s with db := db₀ } : SqlModel σ).blocked = none := hb
      rw [makeVia, SqlModel.perform_of_ok open₀ (Conn.exec_of_ok indexed)]
      rfl
    exact ⟨db₁, hT₁, by rw [both]⟩

/-- **Work on the table** of an open ledger over an open pool runs on the table the ledger
finds, and leaves the ledger with its table made. -/
theorem sessionVia_perform (hd : LedgerDocumented run view l.table) (hl : l.closed = false)
    (hb : s.blocked = none) (hT : l.tableFor (view s.db) = some T) {α : Type} (work : Conn σ α) :
    ∃ db, view db = some T ∧ l.sessionVia (@SqlModel.perform σ) run s work =
      ((((ExceptT.run work).run db).1.mapError ledgerError), { l with ready := true },
        { s with db := ((ExceptT.run work).run db).2 }) := by
  obtain ⟨db, hdb, prepared⟩ := prepareVia_perform hd hb hT
  refine ⟨db, hdb, ?_⟩
  unfold sessionVia
  rw [if_neg (by simp [hl]), prepared]
  dsimp only
  have still : ({ s with db } : SqlModel σ).blocked = none := hb
  rw [SqlModel.perform_of_open still]

/-- **An append** on an open ledger over an open pool answers `ok` and adds the event's row
under the next id, while its time and that id fit. -/
theorem appendVia_perform (hd : LedgerDocumented run view l.table) (hl : l.closed = false)
    (hb : s.blocked = none) (hT : l.tableFor (view s.db) = some T) {e : SyncEvent}
    (time : InI64 e.time) (room : InI64 (T.lastId + 1)) :
    ∃ db, view db = some (T.append e) ∧
      l.appendVia (@SqlModel.perform σ) run e s = (.ok (), { l with ready := true }, { s with db }) := by
  obtain ⟨db, hdb, worked⟩ := sessionVia_perform hd hl hb hT
    (do let _ ← Conn.exec run (appendRow l.table e) : Conn σ Unit)
  obtain ⟨r, db', inserted, hT'⟩ := hd.append db T e hdb time room
  refine ⟨db', hT', ?_⟩
  rw [appendVia, worked, Conn.run_bind_of_ok (Conn.exec_of_ok inserted)]
  rfl

/-- **A read** on an open ledger over an open pool answers the entries of the rows its
query selects, skipping the rows that are not events, and leaves the table as it was. -/
theorem readVia_perform (hd : LedgerDocumented run view l.table) (hl : l.closed = false)
    (hb : s.blocked = none) (hT : l.tableFor (view s.db) = some T) {c : Command}
    {rows : List LedgerRow} (selects : LedgerReads run view c T rows) :
    ∃ db, view db = some T ∧ l.readVia (@SqlModel.perform σ) run c s =
      (.ok (rows.filterMap LedgerRow.decoded?), { l with ready := true }, { s with db }) := by
  obtain ⟨db, hdb, worked⟩ := sessionVia_perform hd hl hb hT
    (do
      let o ← Conn.query run c
      match decode o with
      | .ok entries => pure entries
      | .error e => throw e : Conn σ (List LedgerEntry))
  obtain ⟨rel, n, answered, hn, hrows⟩ := selects db hdb
  refine ⟨db, hdb, ?_⟩
  rw [readVia, worked, Conn.run_bind_of_ok (Conn.query_of_ok answered)]
  dsimp only
  rw [decode_rows hn hrows]
  rfl

end SqlLedger

end Work

/-! ### A database that keeps the ledger's rules -/

namespace LedgerMemory

/-- The ledger's table in this database. -/
def table : String := "crate_sync_events"

/-- A result with the ledger's column names and these rows. -/
def selected (rows : List LedgerRow) : Relation :=
  { columns := ledgerColumns.map fun name => { name }, rows := rows.map LedgerRow.values }

/-- The failure of a statement on a table not made yet, or of one the database does not run. -/
def refused (c : Command) : DriverError := .database (.general ("unsupported statement: " ++ c.sql))

/-- The ledger's `CREATE TABLE` on this database's table. -/
def makeTable : Command := (SqlLedger.schema table).get ⟨0, by simp [SqlLedger.schema]⟩

/-- The ledger's `CREATE INDEX` on this database's table. -/
def makeIndex : Command := (SqlLedger.schema table).get ⟨1, by simp [SqlLedger.schema]⟩

/-- An insert of a row under the next id, with its reward as bound, if that is a text or
`NULL`. -/
def insertRow (T : LedgerTable) (k o p cr : String) (r : SqlValue) (t : Int) :
    Option LedgerTable :=
  match r with
  | .null => some (T.insert k o p cr none t)
  | .text s => some (T.insert k o p cr (some s) t)
  | _ => none

/-- Runs a statement that binds no values: the `CREATE TABLE` makes the table if it is
missing, the `CREATE INDEX` needs it made. -/
def execSchema (c : Command) (T? : Option LedgerTable) :
    Except DriverError (Relation × Nat) × Option LedgerTable :=
  if c.sql = makeTable.sql then (.ok (selected [], 0), some (T?.getD .empty))
  else if c.sql = makeIndex.sql ∧ T?.isSome then (.ok (selected [], 0), T?)
  else (.error (refused c), T?)

/-- Runs the insert of an event on a made table. -/
def execInsert (c : Command) (T : LedgerTable) (k o p cr : String) (r : SqlValue) (t : Int) :
    Except DriverError (Relation × Nat) × Option LedgerTable :=
  if c.sql = (SqlLedger.appendRow table ⟨.crateOpened, "", PlayerId.nil, "", none, 0⟩).sql then
    match insertRow T k o p cr r t with
    | some T' => (.ok (selected [], 1), some T')
    | none => (.error (refused c), some T)
  else (.error (refused c), some T)

/-- Runs the query of the rows after an id on a made table. -/
def execSince (c : Command) (T : LedgerTable) (after limit : Int) :
    Except DriverError (Relation × Nat) × Option LedgerTable :=
  if c.sql = (SqlLedger.sinceRows table 0 0).sql then
    (.ok (selected ((T.rows.filter (after < ·.id)).take limit.toNat), 0), some T)
  else (.error (refused c), some T)

/-- Runs the query of a player's rows on a made table. -/
def execRecent (c : Command) (T : LedgerTable) (p : String) (limit : Int) :
    Except DriverError (Relation × Nat) × Option LedgerTable :=
  if c.sql = (SqlLedger.recentRows table PlayerId.nil 0).sql then
    (.ok (selected ((T.rows.filter (·.player = p)).reverse.take limit.toNat), 0), some T)
  else (.error (refused c), some T)

/-- Runs a statement, told apart first by the values it binds and then by its text; every
statement but the schema's needs the table made. -/
def exec (c : Command) (T? : Option LedgerTable) :
    Except DriverError (Relation × Nat) × Option LedgerTable :=
  match c.params, T? with
  | [], T? => execSchema c T?
  | [.text k, .text o, .text p, .text cr, r, .int t], some T => execInsert c T k o p cr r t
  | [.int after, .int limit], some T => execSince c T after limit
  | [.text p, .int limit], some T => execRecent c T p limit
  | _, T? => (.error (refused c), T?)

/-- Runs a statement on the database. -/
def run (c : Command) : Conn (Option LedgerTable) (Relation × Nat) := ExceptT.mk fun T? => exec c T?

theorem run_run (c : Command) (T? : Option LedgerTable) : (ExceptT.run (run c)).run T? = exec c T? :=
  rfl

/-- **The memory ledger database keeps the ledger's rules.** -/
theorem documented : LedgerDocumented run id table := by
  constructor
  · intro T?
    have made : execSchema makeTable T? = (.ok (selected [], 0), some (T?.getD .empty)) := by
      rw [execSchema, if_pos rfl]
    exact ⟨_, _, (run_run _ _).trans made, rfl⟩
  · intro T? T hT
    subst hT
    have other : makeIndex.sql ≠ makeTable.sql := by
      simp [makeIndex, makeTable, table, SqlLedger.schema]
    have kept : execSchema makeIndex (some T) = (.ok (selected [], 0), some T) := by
      rw [execSchema, if_neg other, if_pos ⟨rfl, rfl⟩]
    exact ⟨_, _, (run_run _ _).trans kept, rfl⟩
  · intro T? T e hT _ _
    subst hT
    have appended : execInsert (SqlLedger.appendRow table e) T e.kind.name e.origin e.player.render
        e.crate ((e.reward.map SqlValue.text).getD .null) e.time =
        (.ok (selected [], 1), some (T.append e)) := by
      rw [execInsert, if_pos (show (SqlLedger.appendRow table e).sql =
        (SqlLedger.appendRow table ⟨.crateOpened, "", PlayerId.nil, "", none, 0⟩).sql from rfl)]
      cases e with
      | mk k o p c r t => cases r <;> rfl
    exact ⟨_, _, (run_run _ _).trans appended, rfl⟩
  · intro T after limit T? hT
    subst hT
    have read : execSince (SqlLedger.sinceRows table after limit) T after (sqlLimit limit) =
        (.ok (selected ((T.rows.filter (after < ·.id)).take (sqlLimit limit).toNat), 0), some T) := by
      rw [execSince, if_pos (show (SqlLedger.sinceRows table after limit).sql =
        (SqlLedger.sinceRows table 0 0).sql from rfl)]
    exact ⟨_, 0, (run_run _ _).trans read, rfl, rfl⟩
  · intro T p limit T? hT
    subst hT
    have read : execRecent (SqlLedger.recentRows table p limit) T p.render (sqlLimit limit) =
        (.ok (selected ((T.rows.filter (·.player = p.render)).reverse.take (sqlLimit limit).toNat),
          0), some T) := by
      rw [execRecent, if_pos (show (SqlLedger.recentRows table p limit).sql =
        (SqlLedger.recentRows table PlayerId.nil 0).sql from rfl)]
    exact ⟨_, 0, (run_run _ _).trans read, rfl, rfl⟩

end LedgerMemory

end CrateState
