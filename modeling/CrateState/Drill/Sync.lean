import CrateState.Drill.Events
import CrateState.Drill.Storage
import CrateState.Sync.Site
import CrateState.Config.Read

/-!
# Sync drills

A sync drill builds one site with a bus, a ledger and a coordinator per named server, then
runs steps against them.

* The ledger is the memory ledger unless `ledger` asks for SQL: with a pool of its own
  (`connect`, the default), or on the pool of a SQL store opened first on the same address
  (`from_pool`, or `deferred` to make its table on first use); without an address, on a
  fresh database. A ledger that cannot be built fails the drill with its error.
* Each server's settings are read from JSON (failing as `deserialize`) and checked by the
  coordinator (failing with the sync error).
* Bus and ledger steps act on them whatever server they name; other steps act on the named
  server's coordinator.

The answer is `{"servers": {name: result}, "results": [...]}`.
-/

namespace CrateState

namespace Drill

open Relational

/-- The address of a fresh ledger database. -/
def freshLedgerAddress : String := "sqlite:///tmp/crate-state-ledger.sqlite?mode=rwc"

/-- A failure to build a drill's ledger. -/
inductive LedgerBuildError where
  /-- The spec could not be read. -/
  | request (message : String)
  /-- The store the ledger borrows from could not be opened. -/
  | store (e : StoreError)
  /-- The ledger refused to open. -/
  | sync (e : SyncError)

/-- The answer of a failed ledger build. -/
def LedgerBuildError.toJson : LedgerBuildError → Json
  | .request m => badRequest m
  | .store e => storeErrorJson e
  | .sync e => syncErrorJson e

/-- Builds the site's ledger from its spec. -/
def buildLedger (spec : Option Json) : Except LedgerBuildError Site :=
  match spec with
  | none => .ok {}
  | some j => do
    let kind ← (text j "kind").mapError .request
    match kind with
    | "memory" => pure {}
    | "sql" =>
      let (schema, mode, url) ← (do
          pure ((← optText j "schema").getD "crate_sync", (← optText j "mode").getD "connect",
            (← optText j "url").getD freshLedgerAddress) : Read _).mapError .request
      match mode with
      | "connect" =>
        match SqlLedger.connect url schema 2 with
        | .ok l => pure { hub := { ledger := .sql l } }
        | .error e => throw (.sync e)
      | "from_pool" | "deferred" =>
        match SqlStore.connect { sqlUrl := some url, poolSize := 2 } with
        | .error e => throw (.store e)
        | .ok store =>
          let (i, fleet) := ({} : Fleet).add (.sql store)
          let (r, site) := (Site.borrowLedger i schema (mode == "deferred")).run { fleet }
          match r with
          | .ok () => pure site
          | .error e => throw (.sync e)
      | m => throw (.request ("unknown ledger mode " ++ "\"" ++ m ++ "\""))
    | k => throw (.request ("unknown ledger kind " ++ "\"" ++ k ++ "\""))

/-- Adds the coordinator of each server: the answer for each, and the positions of those
built. -/
def addServers : List (String × Json) → StateM Site (List (String × Json) × List (String × Nat))
  | [] => pure ([], [])
  | (name, cfg) :: rest => do
    let (answer, built) ← match SyncConfig.codec.value cfg with
      | .error e => pure (errorJson "deserialize" e.render, none)
      | .ok config =>
        match Coordinator.create config with
        | .error e => pure (syncErrorJson e, none)
        | .ok c => do
          let i ← Site.addCoordinator c
          pure (okJson .null, some i)
    let (answers, positions) ← addServers rest
    pure ((name, answer) :: answers, (built.map fun i => [(name, i)]).getD [] ++ positions)

def eventField (now : Int) (step : Json) : Read SyncEvent :=
  need step "event" >>= eventOf now

/-- A read limit: a count, or `"max"` for no limit. -/
def limitOf (step : Json) : Read Nat :=
  match step.field? "limit" with
  | some (.str "max") => .ok (Nat.pow 2 64 - 1)
  | _ => u64 step "limit"

def entriesJson (r : Except SyncError (List LedgerEntry)) : Json :=
  match r with
  | .ok es => okJson (.arr (es.map LedgerEntry.toJson))
  | .error e => syncErrorJson e

/-- The answer of a sync operation that answers nothing. -/
def doneJson (r : Except SyncError Unit) : Json :=
  match r with
  | .ok () => okJson .null
  | .error e => syncErrorJson e

/-- A step on the coordinator at a position. -/
def serverStep (now : Int) (i : Nat) (call : String) (step : Json) : StateM Site Json := do
  match call with
  | "start" => doneJson <$> Site.start i
  | "publish" =>
    match eventField now step with
    | .ok e => (okJson ·.toJson) <$> Site.publish i e
    | .error m => pure (badRequest m)
  | "handle_inbound" =>
    match eventField now step with
    | .ok e => (fun b => okJson (.bool b)) <$> Site.handleInbound i e
    | .error m => pure (badRequest m)
  | "status" => (fun s => Json.opt (okJson ·.toJson) s) <$> Site.status i
  | "status_lines" =>
    (fun s => Json.opt (fun (s : SyncStatus) => okJson (.arr (s.lines.map .str))) s) <$> Site.status i
  | "mark_degraded" =>
    match optText step "reason" with
    | .ok _ => do
      Site.modifyCoordinator i Coordinator.markDegraded
      pure (okJson .null)
    | .error m => pure (badRequest m)
  | "close" => do
    Site.close i
    pure (okJson .null)
  | "tick" => (fun b => okJson (.bool b)) <$> Site.tick i
  | _ =>
    match ← Site.coordinator? i with
    | none => pure (badRequest "unknown server")
    | some c =>
      match call with
      | "is_degraded" => pure (okJson (.bool c.degraded))
      | "is_enabled" => pure (okJson (.bool c.config.enabled))
      | "server_id" => pure (okJson (.str c.config.serverId))
      | "cache_len" => pure (okJson (Json.nat c.cache.size))
      | "observation" =>
        match slotOf step with
        | .ok (p, crate) => pure (okJson (Json.opt Observation.toJson (c.cache.get? p crate)))
        | .error m => pure (badRequest m)
      | _ => pure (badRequest ("unknown sync call " ++ "\"" ++ call ++ "\""))

/-- What a step on the bus or the ledger does; `none` when the call is not one of
theirs. -/
def hubAction (now : Int) (call : String) (step : Json) (s : Site) : Option (StateM Site Json) :=
  match call, s.hub.ledger with
  | "bus_close", _ => some do Site.busClose; pure (okJson .null)
  | "bus_healthy", _ => some do pure (okJson (.bool s.hub.bus.healthy))
  | "bus_name", _ => some do pure (okJson (.str Bus.name))
  | "subscriber_count", _ => some do pure (okJson (Json.nat s.hub.bus.subscriberCount))
  | "bus_publish", _ => some do
    match eventField now step with
    | .ok e => doneJson <$> Site.busPublish e
    | .error m => pure (badRequest m)
  | "ledger_name", l => some do pure (okJson (.str l.name))
  | "ledger_append", _ => some do
    match eventField now step with
    | .ok e => doneJson <$> Site.ledgerAppend e
    | .error m => pure (badRequest m)
  | "ledger_healthy", _ => some do (fun b => okJson (.bool b)) <$> Site.ledgerHealthy
  | "ledger_close", _ => some do Site.ledgerClose; pure (okJson .null)
  | "ledger_recent", _ => some do
    match (do pure (← player step "player", ← limitOf step) : Read _) with
    | .ok (p, limit) => entriesJson <$> Site.ledgerRecent p limit
    | .error m => pure (badRequest m)
  | "ledger_since", _ => some do
    match (do pure (← i64 step "after", ← limitOf step) : Read _) with
    | .ok (after, limit) => entriesJson <$> Site.ledgerSince after limit
    | .error m => pure (badRequest m)
  | "ledger_table", .sql l => some do pure (okJson (.str l.table))
  | "ledger_table", _ => some do pure (badRequest "not a sql ledger")
  | "ledger_events", .memory m => some do pure (okJson (.arr (m.events.map SyncEvent.toJson)))
  | "ledger_set", .memory m => some do
    match (do pure (← optFlag step "failing", ← optFlag step "healthy") : Read _) with
    | .ok (failing, healthy) =>
      set { s with hub.ledger := .memory { m with
        failing := failing.getD m.failing, healthy := healthy.getD m.healthy } }
      pure (okJson .null)
    | .error m => pure (badRequest m)
  | "ledger_events", _ | "ledger_set", _ => some do pure (badRequest "not a memory ledger")
  | "exec_sql", .sql { slot := .borrowed i, .. } => some do
    match kindStep now s.fleet i "exec_sql" step with
    | some (j, fleet) => set { s with fleet }; pure j
    | none => pure (badRequest "no sql pool")
  | "exec_sql", _ => some do pure (badRequest "no sql pool")
  | _, _ => none

/-- A step on the bus or the ledger; `none` when the call is not one of theirs. -/
def hubStep (now : Int) (call : String) (step : Json) : StateM Site (Option Json) := do
  match hubAction now call step (← get) with
  | some act => some <$> act
  | none => pure none

/-- Runs one step: a step on the bus or the ledger whatever server it names, otherwise a
step on the coordinator of the server it names. -/
def syncStep (now : Int) (servers : List (String × Nat)) (step : Json) : StateM Site Json :=
  match text step "call" with
  | .error m => pure (badRequest m)
  | .ok call => do
    match ← hubStep now call step with
    | some j => pure j
    | none =>
      match text step "server" with
      | .error m => pure (badRequest m)
      | .ok name =>
        match servers.find? (·.1 == name) with
        | some (_, i) => serverStep now i call step
        | none => pure (badRequest ("unknown server " ++ "\"" ++ name ++ "\""))

def syncDrill (now : Int) (req : Json) : Json :=
  let request : Read (List (String × Json) × List Json) := do
    pure (← optMembers req "servers", ← items req "steps")
  match request with
  | .error m => badRequest m
  | .ok (servers, steps) =>
    match buildLedger (req.field? "ledger") with
    | .error e => e.toJson
    | .ok site =>
      let run : StateM Site (List (String × Json) × List Json) := do
        let (answers, positions) ← addServers servers
        let results ← steps.mapM (syncStep now positions)
        pure (answers, results)
      let ((answers, results), _) := run.run site
      .obj [("servers", .obj answers), ("results", .arr results)]

end Drill

end CrateState
