import CrateState.Drill.Sync
import CrateState.Context
import CrateState.Drill.Settings

/-!
# Context drills

A context drill opens a context from settings and runs steps against it; the context is
closed at the end. A SQL address `sqlite:TEMP` stands for a fresh database file. A
context that fails to open is answered with its error.

Sync steps (`publish`, `handle_inbound`, `sync_degraded`, `ledger_recent`,
`ledger_since`) need sync to be enabled; `observation` without sync observes nothing.
Every other step is a step on the context's store, which the drill reaches only through
the common store interface: steps for one kind of store are refused, and `migrate` knows
the store by the name `main`.
-/

namespace CrateState

namespace Drill

/-- The address that stands for a fresh database file. -/
def freshContextAddress : String := "sqlite:///tmp/crate-state-core.sqlite?mode=rwc"

/-- The error object of a failed opening. -/
def coreErrorJson : CoreError → Json
  | .config e => configErrorJson e
  | .storage e => storeErrorJson e
  | .sync e => syncErrorJson e

def syncCalls : List String :=
  ["publish", "handle_inbound", "sync_degraded", "ledger_recent", "ledger_since", "observation"]

/-- The steps that read or steer one kind of store, with the refusal each gets on the
context's store, which is seen only through the common store interface. -/
def kindRefusal (call : String) : Option String :=
  if ["held_locks", "discarded_history"].contains call then some "not a local backend"
  else if call == "calls" then some "not a failing backend"
  else if ["is_healthy", "is_sqlite", "exec_sql", "hold_connection"].contains call then
    some "not a sql backend"
  else none

/-- A step that needs sync, on the context's coordinator. -/
def contextSyncStep (now : Int) (i : Nat) (call : String) (step : Json) : StateM Site Json :=
  match call with
  | "sync_degraded" => serverStep now i "is_degraded" step
  | "ledger_recent" | "ledger_since" => (·.getD .null) <$> hubStep now call step
  | _ => serverStep now i call step

def contextStep (now : Int) (ctx : Context) (step : Json) : StateM Site Json := do
  match text step "call" with
  | .error m => pure (badRequest m)
  | .ok "status_lines" => (fun ls => okJson (.arr (ls.map .str))) <$> ctx.statusLines
  | .ok "has_fallback" => pure (okJson (.bool ctx.fallback))
  | .ok "has_coordinator" => pure (okJson (.bool ctx.coordinator.isSome))
  | .ok "observation" =>
    match ctx.coordinator with
    | some i => contextSyncStep now i "observation" step
    | none => pure (okJson .null)
  | .ok "release_connections" => do
    modify fun s => { s with fleet := s.fleet.releaseAll }
    pure (okJson .null)
  | .ok "migrate" => do
    let ends : Read Unit := do
      let src ← text step "source"
      let tgt ← text step "target"
      if src != "main" then throw "unknown source backend"
      if tgt != "main" then throw "unknown target backend"
    match ends with
    | .error m => pure (badRequest m)
    | .ok () =>
      let s ← get
      let (report, fleet) :=
        (migrate (access ctx.storage now) (access ctx.storage now)).run s.fleet
      set { s with fleet }
      pure (okJson report.toJson)
  | .ok call =>
    if syncCalls.contains call then
      match ctx.coordinator with
      | some i => contextSyncStep now i call step
      | none => pure (badRequest "sync is not enabled")
    else
      match kindRefusal call with
      | some m => pure (badRequest m)
      | none =>
        let s ← get
        match storeStep now s.fleet ctx.storage call step with
        | some (j, fleet) => set { s with fleet }; pure j
        | none => pure (badRequest ("unknown storage call " ++ "\"" ++ call ++ "\""))

def contextDrill (now : Int) (req : Json) : Json :=
  let request : Read (Json × List Json) := do
    pure (← need req "config", ← items req "steps")
  match request with
  | .error m => badRequest m
  | .ok (config, steps) =>
    match CoreConfig.codec.value config with
    | .error e => errorJson "deserialize" e.render
    | .ok cfg =>
      let cfg := if cfg.storage.sqlUrl == some "sqlite:TEMP" then
          { cfg with storage.sqlUrl := some freshContextAddress }
        else cfg
      match Context.start cfg with
      | .error e => coreErrorJson e
      | .ok (ctx, site) =>
        let run : StateM Site (List Json) := do
          let results ← steps.mapM (contextStep now ctx)
          ctx.close
          pure results
        .obj [("results", .arr (run.run site).1)]

end Drill

end CrateState
