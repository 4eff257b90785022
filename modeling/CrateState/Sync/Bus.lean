import CrateState.Sync.Error

/-!
# The in-process event bus

A best-effort broadcast among the servers of one process. The bus knows the servers
subscribed to it, in the order they subscribed: a publish reaches every one of them (the
publisher too, when it subscribed) and no server that subscribes later.

Closing the bus drops every subscription and makes publishes and new subscriptions fail
with `closed`; closing it again changes nothing. A closed bus is unhealthy.

Each subscriber is drained before the next publish, so no subscriber ever falls behind
and the bus needs no buffer in the model. Handing an event to a subscriber happens where
the servers are kept (`Site`): the bus only says who listens.
-/

namespace CrateState

/-- The bus: who listens, and whether it was closed. -/
structure Bus where
  /-- The subscribed servers, by position, in the order they subscribed. -/
  subscribers : List Nat := []
  /-- Whether the bus was closed. -/
  closed : Bool := false
  deriving DecidableEq, Repr

namespace Bus

/-- The name the bus reports. -/
def name : String := "in-process"

def healthy (b : Bus) : Bool := !b.closed

/-- The number of live subscriptions. -/
def subscriberCount (b : Bus) : Nat := b.subscribers.length

def subscribe (b : Bus) (server : Nat) : Except SyncError Bus :=
  if b.closed then .error .closed else .ok { b with subscribers := b.subscribers ++ [server] }

/-- Publishes: the servers the event is handed to. -/
def publish (b : Bus) : Except SyncError (List Nat) :=
  if b.closed then .error .closed else .ok b.subscribers

/-- Closes the bus and drops its subscriptions. -/
def close (_ : Bus) : Bus := { subscribers := [], closed := true }

theorem close_closes (b : Bus) : b.close.publish = .error .closed := rfl

theorem healthy_close (b : Bus) : b.close.healthy = false := rfl

theorem subscriberCount_close (b : Bus) : b.close.subscriberCount = 0 := rfl

theorem subscribe_of_open (b : Bus) (server : Nat) (h : b.closed = false) :
    b.subscribe server = .ok { b with subscribers := b.subscribers ++ [server] } := by
  simp [subscribe, h]

theorem publish_of_open (b : Bus) (h : b.closed = false) : b.publish = .ok b.subscribers := by
  simp [publish, h]

end Bus

end CrateState
