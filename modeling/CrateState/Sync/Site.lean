import CrateState.Sync.Bus
import CrateState.Sync.Ledger
import CrateState.Sync.Coordinator
import CrateState.Storage.Fleet

/-!
# Sites

A site is what one process runs: its stores (a `Fleet`) and its sync hub, one bus and one
ledger shared by its servers' coordinators. A SQL ledger may borrow a site store's pool, so
ledger work goes through the site, which finds the pool wherever it is kept. Every step is a
transition of the site:

* a publish not skipped goes to the bus, which hands it at once to every subscribed
  coordinator, and to the ledger; the coordinator counts what failed;
* `start` installs the handler and subscribes; a refused subscription leaves the coordinator
  not started (the handler stays installed);
* `close` closes the coordinator, the bus and the ledger, once;
* `tick` probes bus and ledger, as the health monitor does each interval.
-/

namespace CrateState

open Relational

/-- The shared sync parts of a process. -/
structure Hub where
  bus : Bus := {}
  ledger : Ledger := .memory {}
  /-- The coordinators, by position. -/
  coordinators : List Coordinator := []

/-- The stores and the sync hub of a process. -/
structure Site where
  /-- The stores. -/
  fleet : Fleet := {}
  /-- The sync hub. -/
  hub : Hub := {}

namespace Site

/-- Adds a coordinator: its position. -/
def addCoordinator (c : Coordinator) : StateM Site Nat := modifyGet fun s =>
  (s.hub.coordinators.length, { s with hub.coordinators := s.hub.coordinators ++ [c] })

def coordinator? (i : Nat) : StateM Site (Option Coordinator) := do
  pure (← get).hub.coordinators[i]?

/-- Changes the coordinator at a position. -/
def modifyCoordinator (i : Nat) (f : Coordinator → Coordinator) : StateM Site Unit :=
  modify fun s => { s with hub.coordinators := s.hub.coordinators.modify i f }

def setBus (b : Bus) : StateM Site Unit := modify fun s => { s with hub.bus := b }

/-! ## The ledger -/

/-- Runs an operation of the SQL ledger on its pool, wherever the pool is kept;
`missing` when the borrowed store is gone. -/
def onSql {α : Type} (l : SqlLedger) (op : SqlLedger → Pool → α × SqlLedger × Pool) (missing : α) :
    StateM Site α := fun s =>
  match l.slot with
  | .owned p =>
    let (a, l', p') := op l p
    (a, { s with hub.ledger := .sql { l' with slot := .owned p' } })
  | .borrowed i =>
    match s.fleet.get? i with
    | some (.sql store) =>
      let (a, l', p') := op l store.pool
      (a, { s with fleet := s.fleet.put i (.sql { store with pool := p' }), hub.ledger := .sql l' })
    | _ => (missing, s)

/-- The error of a ledger whose borrowed pool is gone. -/
def noPool : SyncError := .ledger "connection pool is gone"

/-- Makes the ledger's table if it is not made yet. -/
def ledgerPrepare : StateM Site (Except SyncError Unit) := do
  match (← get).hub.ledger with
  | .memory _ => pure (.ok ())
  | .sql l => onSql l (fun l p => l.prepare p) (.error noPool)

/-- Puts a SQL ledger on the pool of the SQL store at a position; unless `deferred`, its
table is made at once. -/
def borrowLedger (store : Nat) (schema : String) (deferred : Bool) :
    StateM Site (Except SyncError Unit) := do
  let sqlite := match (← get).fleet.get? store with
    | some (.sql s) => s.sqlite
    | _ => false
  match SqlLedger.unready (.borrowed store) sqlite schema with
  | .error e => pure (.error e)
  | .ok l =>
    modify fun s => { s with hub.ledger := .sql l }
    if deferred then pure (.ok ()) else ledgerPrepare

def ledgerAppend (e : SyncEvent) : StateM Site (Except SyncError Unit) := do
  match (← get).hub.ledger with
  | .memory m =>
    match m.append e with
    | .ok m' => modify fun s => { s with hub.ledger := .memory m' }; pure (.ok ())
    | .error err => pure (.error err)
  | .sql l => onSql l (fun l p => l.append e p) (.error noPool)

/-- The newest entries of a player in the ledger, newest first. -/
def ledgerRecent (player : PlayerId) (limit : Nat) :
    StateM Site (Except SyncError (List LedgerEntry)) := do
  match (← get).hub.ledger with
  | .memory m => pure (.ok (m.recent player limit))
  | .sql l => onSql l (fun l p => l.read (SqlLedger.recentRows l.table player limit) p) (.error noPool)

/-- The ledger entries after an id, oldest first. -/
def ledgerSince (after : Int) (limit : Nat) : StateM Site (Except SyncError (List LedgerEntry)) := do
  match (← get).hub.ledger with
  | .memory m => pure (.ok (m.since after limit))
  | .sql l => onSql l (fun l p => l.read (SqlLedger.sinceRows l.table after limit) p) (.error noPool)

def ledgerHealthy : StateM Site Bool := do
  match (← get).hub.ledger with
  | .memory m => pure m.healthy
  | .sql l => onSql l (fun l p => let (ok, p) := l.healthy p; (ok, l, p)) false

def ledgerClose : StateM Site Unit := do
  match (← get).hub.ledger with
  | .memory _ => pure ()
  | .sql l => onSql l (fun l p => let (l, p) := l.close p; ((), l, p)) ()

/-! ## The bus -/

/-- Hands an event to coordinators, in order. -/
def deliver (e : SyncEvent) : List Nat → StateM Site Unit
  | [] => pure ()
  | i :: rest => do
    modifyCoordinator i fun c => (c.handleInbound e).2
    deliver e rest

/-- Publishes an event on the bus, handing it to every subscriber. -/
def busPublish (e : SyncEvent) : StateM Site (Except SyncError Unit) := do
  match (← get).hub.bus.publish with
  | .error err => pure (.error err)
  | .ok subscribers => deliver e subscribers; pure (.ok ())

def busClose : StateM Site Unit := modify fun s => { s with hub.bus := s.hub.bus.close }

/-! ## Coordinator steps -/

/-- Publishes an event from the coordinator at a position. -/
def publish (i : Nat) (e : SyncEvent) : StateM Site PublishOutcome := do
  match ← coordinator? i with
  | none => pure .skipped
  | some c =>
    if c.skips then pure .skipped
    else
      let bus ← busPublish e
      let ledger ← ledgerAppend e
      let busOk := bus matches .ok _
      let ledgerOk := ledger matches .ok _
      modifyCoordinator i (·.recordPublish busOk ledgerOk)
      pure (.delivered busOk ledgerOk)

/-- Starts the coordinator at a position listening to the bus. -/
def start (i : Nat) : StateM Site (Except SyncError Unit) := do
  match ← coordinator? i with
  | none => pure (.ok ())
  | some c =>
    if !c.config.enabled then pure (.ok ())
    else if c.closed then pure (.error .closed)
    else if c.started then pure (.error .alreadyStarted)
    else
      modifyCoordinator i fun c => { c with started := true, listening := true }
      match (← get).hub.bus.subscribe i with
      | .ok b => setBus b; pure (.ok ())
      | .error err =>
        modifyCoordinator i fun c => { c with started := false }
        pure (.error err)

/-- Hands an inbound event to the coordinator at a position: whether it was applied. -/
def handleInbound (i : Nat) (e : SyncEvent) : StateM Site Bool := do
  match ← coordinator? i with
  | none => pure false
  | some c =>
    let (applied, c) := c.handleInbound e
    modifyCoordinator i fun _ => c
    pure applied

/-- The diagnostics of the coordinator at a position. -/
def status (i : Nat) : StateM Site (Option SyncStatus) := do
  let busHealthy := (← get).hub.bus.healthy
  let ledgerHealthy ← ledgerHealthy
  let s ← get
  pure <| (← coordinator? i).map fun c =>
    { enabled := c.config.enabled, consistency := c.config.consistency.name
      serverId := c.config.serverId, bus := Bus.name, busHealthy
      ledger := s.hub.ledger.name, ledgerHealthy, degraded := c.degraded
      counters := c.counters }

/-- One health probe for the coordinator at a position: whether both the bus and the
ledger were healthy. -/
def tick (i : Nat) : StateM Site Bool := do
  let busHealthy := (← get).hub.bus.healthy
  let ledgerHealthy ← ledgerHealthy
  modifyCoordinator i (·.recordProbe busHealthy ledgerHealthy)
  pure (busHealthy && ledgerHealthy)

/-- Closes the coordinator at a position, with the bus and the ledger; closing again does
nothing. -/
def close (i : Nat) : StateM Site Unit := do
  match ← coordinator? i with
  | some c =>
    if c.closed then pure ()
    else
      modifyCoordinator i fun c => { c with closed := true, listening := false }
      busClose
      ledgerClose
  | none => pure ()

end Site

end CrateState
