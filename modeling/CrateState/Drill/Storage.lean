import CrateState.Drill.Request
import CrateState.Storage.Fleet
import CrateState.Migration
import CrateState.Record.Codec

/-!
# Storage drills

A storage drill builds named stores and runs steps against them.

* Stores are built in the order of their names; a store that wraps others builds them
  first, and every name is built once. A store that fails to build fails the whole drill
  with its error.
* A SQL store without an address gets a fresh database of its own.
* A step names its store with `on` (default `main`); `migrate` names two, and
  `release_connections` none.

Every data call of a store (`Call`) is a step with the same name; the remaining steps
read or steer one kind of store and are refused for the others.
-/

namespace CrateState

namespace Drill

/-- The stores of a drill, by name. -/
structure Bench where
  /-- The stores. -/
  fleet : Fleet := {}
  /-- Names and positions of the stores built so far. -/
  names : List (String × Nat) := []
  /-- SQL databases made so far, to give each a fresh address. -/
  databases : Nat := 0

/-- The position of a named store. -/
def Bench.find (b : Bench) (name : String) : Read Nat :=
  match b.names.find? (·.1 == name) with
  | some (_, i) => .ok i
  | none => .error ("unknown backend " ++ "\"" ++ name ++ "\"")

/-- The error a failing wrapper injects, from its spec: a refused connection when the
spec names none. -/
def injected (spec : Json) : Read StoreError := do
  match spec.field? "error" with
  | none => pure (.unavailable "injected: connection refused")
  | some e => do
    let kind ← text e "kind"
    let message := (← optText e "message").getD "injected"
    match kind with
    | "Unavailable" => pure (.unavailable message)
    | "Backend" => pure (.backend message)
    | "InvalidInput" => pure (.invalidInput message)
    | "InvalidConfig" => pure (.invalidConfig message)
    | k => throw ("unknown error kind " ++ "\"" ++ k ++ "\"")

/-- The call numbers a failing wrapper fails on. -/
def failCalls (spec : Json) : Read (List Nat) := do
  (← optItems spec "fail_on").mapM fun
    | .num (.nat n) => if n < Nat.pow 2 64 then pure n else throw "fail_on entries must be u64"
    | _ => throw "fail_on entries must be u64"

/-- A failure while building: a request that cannot be read, or a store error. -/
inductive BuildError where
  /-- The spec could not be read. -/
  | request (message : String)
  /-- The library refused to build the store. -/
  | store (e : StoreError)

/-- The answer of a failed build. -/
def BuildError.toJson : BuildError → Json
  | .request m => badRequest m
  | .store e => storeErrorJson e

/-- Reads a spec field, turning a bad request into a build error. -/
def readSpec {α : Type} (r : Read α) : Except BuildError α := r.mapError .request

/-- The settings of a SQL store spec; `fresh` is the address to use when none is given. -/
def sqlSettings (spec : Json) (fresh : String) : Read StorageConfig := do
  let poolSize := (← optU32 spec "pool_size").getD 2
  let timeout := (← optU64 spec "checkout_timeout_ms").getD 1000
  let idle := (← optU64 spec "idle_timeout_secs").getD 300
  let url := (← optText spec "url").getD fresh
  pure { sqlUrl := some url, poolSize, checkoutTimeoutMs := timeout, idleTimeoutSecs := idle }

/-- Builds the store of a name and every store it wraps; `fuel` bounds the nesting. -/
def buildStore (specs : List (String × Json)) : Nat → Bench → String → Except BuildError (Nat × Bench)
  | 0, _, name => .error (.request ("backend " ++ "\"" ++ name ++ "\" nests too deep"))
  | fuel + 1, b, name =>
    match b.names.find? (·.1 == name) with
    | some (_, i) => .ok (i, b)
    | none =>
      match specs.find? (·.1 == name) with
      | none => .error (.request ("unknown backend " ++ "\"" ++ name ++ "\""))
      | some (_, spec) => do
        let kind ← readSpec (text spec "kind")
        let (store, b) ← match kind with
          | "local" => pure (Store.memory {}, b)
          | "sql" => do
            let n := b.databases + 1
            let fresh := "sqlite:///tmp/crate-state-db" ++ toString n ++ ".sqlite?mode=rwc"
            let cfg ← readSpec (sqlSettings spec fresh)
            let lazy := (← readSpec (optFlag spec "lazy")).getD false
            let opened := if lazy then SqlStore.connectLazy cfg else SqlStore.connect cfg
            match opened with
            | .ok s => pure (Store.sql s, { b with databases := n })
            | .error e => throw (.store e)
          | "failing" => do
            let innerName ← readSpec (text spec "inner")
            let (inner, b) ← buildStore specs fuel b innerName
            let failOn ← readSpec (failCalls spec)
            let failFrom := (← readSpec (optU64 spec "fail_from")).getD 0
            let error ← readSpec (injected spec)
            let label ← readSpec (optText spec "name")
            let history ← readSpec (optFlag spec "history")
            let f : Faults := { failOn, failFrom, error, label, history }
            pure (Store.faults inner f, b)
          | "fallback" => do
            let p ← readSpec (text spec "primary")
            let (pi, b) ← buildStore specs fuel b p
            let q ← readSpec (text spec "secondary")
            let (qi, b) ← buildStore specs fuel b q
            let degraded ← readSpec (optText spec "degraded")
            pure (Store.breaker pi qi { tripped := degraded.isSome }, b)
          | k => throw (.request ("unknown backend kind " ++ "\"" ++ k ++ "\""))
        let (i, fleet) := b.fleet.add store
        pure (i, { b with fleet, names := b.names ++ [(name, i)] })

/-- Builds every store, in the order of their names. -/
def buildAll (specs : List (String × Json)) : Except BuildError Bench :=
  let sorted := specs.mergeSort fun a b => a.1 ≤ b.1
  sorted.foldlM (fun b (name, _) => do
    let (_, b) ← buildStore specs (2 * specs.length + 2) b name
    pure b) {}

/-- The records of one list of an import request, each read by `codec`; a record that
cannot be read is reported after `label`. -/
def recordsOf {α : Type} (j : Json) (name label : String) (codec : Json.Codec α) :
    Read (List α) := do
  (← optItems j name).mapM fun r =>
    (codec.value r).mapError fun e => label ++ ": " ++ e.message

/-- The snapshot of an import request. -/
def snapshotOf (j : Json) : Read Snapshot := do
  let cooldowns ← recordsOf j "cooldowns" "bad cooldown" Cooldown.codec
  let keyBalances ← recordsOf j "key_balances" "bad key balance" KeyBalance.codec
  let history ← recordsOf j "history" "bad history entry" HistoryEntry.codec
  pure { cooldowns, keyBalances, history }

/-- The data call a step names, if it names one. -/
def dataCall (step : Json) : String → Option (Read Call)
  | "get_cooldown" => some do pure (.getCooldown (← player step "player") (← text step "crate"))
  | "set_cooldown" => some do
    pure (.setCooldown (← player step "player") (← text step "crate") (← i64 step "at"))
  | "get_key_count" => some do pure (.keyCount (← player step "player") (← text step "crate"))
  | "add_key" => some do
    pure (.addKeys (← player step "player") (← text step "crate") (← u32 step "amount"))
  | "consume_key" => some do pure (.consumeKey (← player step "player") (← text step "crate"))
  | "acquire_lock" => some do pure (.acquireLock (← player step "player") (← text step "crate"))
  | "release_lock" => some do pure (.releaseLock (← player step "player") (← text step "crate"))
  | "log_open" => some do
    pure (.logOpen (← player step "player") (← text step "crate") (← optText step "reward")
      (← i64 step "at"))
  | "record_delivery" => some do
    pure (.recordDelivery (← player step "player") (← text step "crate") (← text step "reward")
      (← i64 step "at"))
  | "queue_pending_reward" => some do
    pure (.queueReward (← player step "player") (← text step "crate") (← text step "reward"))
  | "pending_rewards" => some do pure (.pendingRewards (← player step "player"))
  | "mark_reward_delivered" => some do
    pure (.markDelivered (← player step "player") (← text step "crate") (← text step "reward"))
  | "snapshot" => some (pure .snapshot)
  | "clear" => some (pure .clear)
  | "import" => some do
    pure (.import (← snapshotOf (← need step "snapshot")))
  | _ => none

/-- Runs a data call on the store at a position. -/
def runCall (fleet : Fleet) (i : Nat) (now : Int) (c : Call) : Json × Fleet :=
  let (r, fleet) := fleet.call i now c
  (resultJson (c.answerJson) r, fleet)

/-- The access a copy has to the store at a position of a fleet. -/
def access (i : Nat) (now : Int) : StoreAccess (StateM Fleet) where
  call c := modifyGet fun fl => fl.call i now c
  name := do pure ((← get).name i)

/-- A step that reads or steers one kind of store, run on the store at a position. -/
def kindStep (now : Int) (fleet : Fleet) (i : Nat) (call : String) (step : Json) :
    Option (Json × Fleet) :=
  let refuse (m : String) : Option (Json × Fleet) := some (badRequest m, fleet)
  match call, fleet.get? i with
  | "is_degraded", some (.breaker _ _ br) => some (okJson (.bool br.tripped), fleet)
  | "active_tier", some (.breaker _ _ br) => some (okJson (.str br.tier.name), fleet)
  | "is_degraded", _ | "active_tier", _ => refuse "not a fallback backend"
  | "held_locks", some (.memory s) => some (okJson (Json.nat s.heldLocks), fleet)
  | "discarded_history", some (.memory s) => some (okJson (Json.nat s.discarded), fleet)
  | "held_locks", _ | "discarded_history", _ => refuse "not a local backend"
  | "calls", some (.faults _ f) => some (okJson (Json.nat f.calls), fleet)
  | "calls", _ => refuse "not a failing backend"
  | "is_healthy", some (.sql s) =>
    let (ok, s') := s.healthy
    some (okJson (.bool ok), fleet.put i (.sql s'))
  | "is_sqlite", some (.sql s) => some (okJson (.bool s.sqlite), fleet)
  | "exec_sql", some (.sql s) =>
    match text step "sql" with
    | .error m => refuse m
    | .ok sql =>
      let (r, s') := s.execText now sql
      let j := match r with
        | .ok n => okJson (Json.nat n)
        | .error e => errorJson "sqlx" e.render
      some (j, fleet.put i (.sql s'))
  | "hold_connection", some (.sql s) =>
    let (r, s') := s.hold
    some (resultJson Json.nat r, fleet.put i (.sql s'))
  | "is_healthy", _ | "is_sqlite", _ | "exec_sql", _ | "hold_connection", _ =>
    refuse "not a sql backend"
  | _, _ => none

/-- A step on one store: its name, whether it keeps history, closing it, a data call, or
a step for its kind; `none` when the step is none of these. -/
def storeStep (now : Int) (fleet : Fleet) (i : Nat) (call : String) (step : Json) :
    Option (Json × Fleet) :=
  match call with
  | "name" => some (okJson (.str (fleet.name i)), fleet)
  | "supports_history" => some (okJson (.bool (fleet.keepsHistory i)), fleet)
  | "close" => some (okJson .null, fleet.close i)
  | _ =>
    match dataCall step call with
    | some (.ok c) => some (runCall fleet i now c)
    | some (.error m) => some (badRequest m, fleet)
    | none => kindStep now fleet i call step

def storageStep (now : Int) (b : Bench) (step : Json) : Json × Bench :=
  match text step "call" with
  | .error m => (badRequest m, b)
  | .ok "migrate" =>
    let ends : Read (Nat × Nat) := do
      let src ← text step "source"
      let tgt ← text step "target"
      let src ← (b.find src).mapError fun _ => "unknown source backend"
      let tgt ← (b.find tgt).mapError fun _ => "unknown target backend"
      pure (src, tgt)
    match ends with
    | .error m => (badRequest m, b)
    | .ok (src, tgt) =>
      let (report, fleet) := (migrate (access src now) (access tgt now)).run b.fleet
      (okJson report.toJson, { b with fleet })
  | .ok "release_connections" => (okJson .null, { b with fleet := b.fleet.releaseAll })
  | .ok call =>
    match optText step "on" >>= fun on => b.find (on.getD "main") with
    | .error m => (badRequest m, b)
    | .ok i =>
      match storeStep now b.fleet i call step with
      | some (j, fleet) => (j, { b with fleet })
      | none => (badRequest ("unknown storage call " ++ "\"" ++ call ++ "\""), b)

/-- Runs a storage drill: `{"backends", "steps"}`. -/
def storageDrill (now : Int) (req : Json) : Json :=
  let request : Read (List (String × Json) × List Json) := do
    let specs ← match req.field? "backends" with
      | some (.obj ms) => pure ms
      | _ => throw "backends must be an object"
    pure (specs, ← items req "steps")
  match request with
  | .error m => badRequest m
  | .ok (specs, steps) =>
    match buildAll specs with
    | .error e => e.toJson
    | .ok b =>
      let (results, _) := steps.foldl (fun (acc, b) step =>
        let (j, b) := storageStep now b step
        (acc ++ [j], b)) (([] : List Json), b)
      .obj [("results", .arr results)]

end Drill

end CrateState
