import CrateState.Sync.Cache
import CrateState.Config

/-!
# Sync coordinators

A coordinator is one server's end of sync: it publishes what the server did to the bus and
the ledger, and hands what other servers did to the server's observation cache.

Nothing a coordinator does fails the caller. A publish is skipped when sync is disabled,
degraded or closed; otherwise it goes to both bus and ledger, each refusal only counted.
Degradation is one-way: once marked, a coordinator stays degraded.

An event originating at the server itself is an echo of its own publish and is dropped (and
counted); any other is handed to the handler once `start` installed one: logged in
`handled` and applied to the cache. Closing removes the handler. This module holds the coordinator's own state and the transitions
touching nothing else; those touching the bus and ledger are in `Site`.
-/

namespace CrateState

/-- What happened to one outbound event. -/
inductive PublishOutcome where
  /-- Sync disabled, degraded or closed: nothing was attempted. -/
  | skipped
  /-- Sent to the bus and the ledger, each of which accepted it or not. -/
  | delivered (busOk ledgerOk : Bool)
  deriving DecidableEq, Repr

/-- Whether both the bus and the ledger accepted the event. -/
def PublishOutcome.complete : PublishOutcome → Bool
  | .delivered true true => true
  | _ => false

/-- The JSON form: `"skipped"` or `{"bus_ok", "ledger_ok", "complete"}`. -/
def PublishOutcome.toJson : PublishOutcome → Json
  | .skipped => .str "skipped"
  | o@(.delivered b l) => .obj [("bus_ok", .bool b), ("ledger_ok", .bool l), ("complete", .bool o.complete)]

/-- What a coordinator has counted. -/
structure Counters where
  /-- Publishes attempted. -/
  published : Nat := 0
  /-- Publishes the bus refused. -/
  publishFailures : Nat := 0
  /-- Publishes the ledger refused. -/
  ledgerFailures : Nat := 0
  /-- Unhealthy components seen by health probes. -/
  healthFailures : Nat := 0
  /-- Inbound echoes of the server's own events. -/
  echoesSuppressed : Nat := 0
  /-- Inbound events applied. -/
  inboundApplied : Nat := 0
  deriving DecidableEq, Repr

/-- One server's coordinator. -/
structure Coordinator where
  /-- Its settings. -/
  config : SyncConfig
  /-- Whether outbound sync was switched off for good. -/
  degraded : Bool := false
  closed : Bool := false
  /-- Whether it started listening. -/
  started : Bool := false
  /-- Whether inbound events are handed to the cache. -/
  listening : Bool := false
  counters : Counters := {}
  /-- What it learned from other servers. -/
  cache : ObservationCache := {}
  /-- The events handed to the handler, in the order it was called with them. -/
  handled : List SyncEvent := []

namespace Coordinator

/-- A coordinator for checked settings. -/
def create (config : SyncConfig) : Except SyncError Coordinator := do
  config.validate
  pure { config }

def skips (c : Coordinator) : Bool := !c.config.enabled || c.degraded || c.closed

/-- Switches outbound sync off for good. -/
def markDegraded (c : Coordinator) : Coordinator := { c with degraded := true }

/-- Handles an inbound event: whether it was applied. -/
def handleInbound (c : Coordinator) (e : SyncEvent) : Bool × Coordinator :=
  if e.origin == c.config.serverId then
    (false, { c with counters.echoesSuppressed := c.counters.echoesSuppressed + 1 })
  else if !c.listening then (false, c)
  else
    let (_, cache) := c.cache.apply e
    (true, { c with
      cache := cache
      handled := c.handled ++ [e]
      counters.inboundApplied := c.counters.inboundApplied + 1 })

/-- Counts a publish that was attempted. -/
def recordPublish (c : Coordinator) (busOk ledgerOk : Bool) : Coordinator :=
  let n := c.counters
  { c with counters := { n with
      published := n.published + 1
      publishFailures := n.publishFailures + (if busOk then 0 else 1)
      ledgerFailures := n.ledgerFailures + (if ledgerOk then 0 else 1) } }

/-- Counts a health probe: one failure per unhealthy component, and degradation when
any was unhealthy. -/
def recordProbe (c : Coordinator) (busHealthy ledgerHealthy : Bool) : Coordinator :=
  let failures := (if busHealthy then 0 else 1) + (if ledgerHealthy then 0 else 1)
  let c := { c with counters.healthFailures := c.counters.healthFailures + failures }
  if busHealthy && ledgerHealthy then c else c.markDegraded

theorem handleInbound_echo (c : Coordinator) (e : SyncEvent) (h : e.origin = c.config.serverId) :
    (c.handleInbound e).1 = false := by
  simp [handleInbound, h]

theorem degraded_markDegraded (c : Coordinator) : c.markDegraded.degraded = true := rfl

theorem degraded_recordProbe (c : Coordinator) (busHealthy ledgerHealthy : Bool) :
    (c.recordProbe busHealthy ledgerHealthy).degraded =
      (c.degraded || !(busHealthy && ledgerHealthy)) := by
  cases busHealthy <;> cases ledgerHealthy <;> simp [recordProbe, markDegraded]

theorem degraded_recordPublish (c : Coordinator) (busOk ledgerOk : Bool) :
    (c.recordPublish busOk ledgerOk).degraded = c.degraded := rfl

theorem degraded_handleInbound (c : Coordinator) (e : SyncEvent) :
    (c.handleInbound e).2.degraded = c.degraded := by
  unfold handleInbound
  split
  · rfl
  · split <;> rfl

end Coordinator

/-- A coordinator's diagnostics. -/
structure SyncStatus where
  /-- Whether sync is enabled. -/
  enabled : Bool
  /-- The consistency mode's name. -/
  consistency : String
  serverId : String
  /-- The bus's name. -/
  bus : String
  busHealthy : Bool
  /-- The ledger's name. -/
  ledger : String
  ledgerHealthy : Bool
  /-- Whether outbound sync is off. -/
  degraded : Bool
  counters : Counters

namespace SyncStatus

/-- `healthy` or `unhealthy`. -/
def healthLabel (healthy : Bool) : String := if healthy then "healthy" else "unhealthy"

/-- The status as lines for an operator, one fact each. -/
def lines (s : SyncStatus) : List String :=
  let n := s.counters
  ["Sync enabled: " ++ toString s.enabled,
   "Consistency: " ++ s.consistency,
   "Server id: " ++ s.serverId,
   "Transport: " ++ s.bus ++ " (" ++ healthLabel s.busHealthy ++ ")",
   "Ledger: " ++ s.ledger ++ " (" ++ healthLabel s.ledgerHealthy ++ ")",
   "Degraded: " ++ toString s.degraded,
   "Failures: publish=" ++ toString n.publishFailures ++ ", ledger=" ++ toString n.ledgerFailures ++
     ", health=" ++ toString n.healthFailures,
   "Events: published=" ++ toString n.published ++ ", applied=" ++ toString n.inboundApplied ++
     ", echoes suppressed=" ++ toString n.echoesSuppressed]

def toJson (s : SyncStatus) : Json :=
  let n := s.counters
  .obj [("enabled", .bool s.enabled), ("consistency", .str s.consistency),
    ("server_id", .str s.serverId), ("bus", .str s.bus), ("bus_healthy", .bool s.busHealthy),
    ("ledger", .str s.ledger), ("ledger_healthy", .bool s.ledgerHealthy),
    ("degraded", .bool s.degraded), ("published", Json.nat n.published),
    ("publish_failures", Json.nat n.publishFailures),
    ("ledger_failures", Json.nat n.ledgerFailures),
    ("health_failures", Json.nat n.healthFailures),
    ("echoes_suppressed", Json.nat n.echoesSuppressed),
    ("inbound_applied", Json.nat n.inboundApplied)]

end SyncStatus

end CrateState
