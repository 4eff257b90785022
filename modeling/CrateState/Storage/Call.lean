import CrateState.Record
import CrateState.Storage.Error

/-!
# Store calls

Every data operation of a store as a value: `Call`. Each call has the type of its answer
(`Call.Answer`), so a store is a function from a call to `Except StoreError c.Answer`
and a new state. Treating calls as data lets the wrappers (breaker, fault injector)
route, count and replay any call in one place.
-/

namespace CrateState

/-- A data operation of a store. -/
inductive Call where
  /-- The last open of a slot. -/
  | getCooldown (player : PlayerId) (crate : String)
  /-- Overwrite the last open of a slot. -/
  | setCooldown (player : PlayerId) (crate : String) (time : Int)
  /-- The key balance of a slot. -/
  | keyCount (player : PlayerId) (crate : String)
  /-- Add keys to a slot; the amount must be positive. -/
  | addKeys (player : PlayerId) (crate : String) (amount : Nat)
  /-- Take one key, if there is one. -/
  | consumeKey (player : PlayerId) (crate : String)
  /-- Take the lock of a slot, if nobody holds it. -/
  | acquireLock (player : PlayerId) (crate : String)
  /-- Give the lock of a slot back. -/
  | releaseLock (player : PlayerId) (crate : String)
  /-- Record an open in history. -/
  | logOpen (player : PlayerId) (crate : String) (reward : Option String) (time : Int)
  /-- Record a delivery in history. -/
  | recordDelivery (player : PlayerId) (crate : String) (reward : String) (time : Int)
  /-- Queue a reward for later delivery. -/
  | queueReward (player : PlayerId) (crate : String) (reward : String)
  /-- The rewards still waiting for a player, oldest first. -/
  | pendingRewards (player : PlayerId)
  /-- Mark the oldest matching waiting reward delivered. -/
  | markDelivered (player : PlayerId) (crate : String) (reward : String)
  /-- Export everything. -/
  | snapshot
  /-- Remove everything, locks and waiting rewards included. -/
  | clear
  /-- Load a snapshot. -/
  | «import» (s : Snapshot)

namespace Call

/-- The type of a call's answer. -/
def Answer : Call → Type
  | .getCooldown .. => Option Int
  | .setCooldown .. => Unit
  | .keyCount .. => Nat
  | .addKeys .. => Unit
  | .consumeKey .. => Bool
  | .acquireLock .. => Bool
  | .releaseLock .. => Unit
  | .logOpen .. => Unit
  | .recordDelivery .. => Unit
  | .queueReward .. => Unit
  | .pendingRewards .. => List PendingReward
  | .markDelivered .. => Bool
  | .snapshot => Snapshot
  | .clear => Unit
  | .import _ => ImportOutcome

/-- Whether the call only writes history, whose loss never fails the caller of a
breaker. -/
def isBookkeeping : Call → Bool
  | .logOpen .. | .recordDelivery .. => true
  | _ => false

def answerJson : (c : Call) → c.Answer → Json
  | .getCooldown .., a => Json.opt Json.int a
  | .setCooldown .., _ => .null
  | .keyCount .., a => Json.nat a
  | .addKeys .., _ => .null
  | .consumeKey .., a => .bool a
  | .acquireLock .., a => .bool a
  | .releaseLock .., _ => .null
  | .logOpen .., _ => .null
  | .recordDelivery .., _ => .null
  | .queueReward .., _ => .null
  | .pendingRewards .., a => .arr (a.map PendingReward.toJson)
  | .markDelivered .., a => .bool a
  | .snapshot, a => a.toJson
  | .clear, _ => .null
  | .import _, a => a.toJson

end Call

/-- The answer of a store to a call. -/
abbrev Reply (c : Call) := Except StoreError c.Answer

end CrateState
