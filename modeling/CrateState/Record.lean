import CrateState.Player
import CrateState.Json.Value

/-!
# Crate state records

The values that stores hold and exchange. A slot is a (player, crate) pair. Timestamps are
epoch milliseconds in the signed 64-bit range; key amounts are in the unsigned 32-bit
range.

* a `Cooldown` is the last time a player opened a crate, one per slot;
* a `KeyBalance` is how many keys a player holds for a crate (zero balances are not kept);
* a `HistoryEntry` is an append-only row of opens and deliveries;
* a `PendingReward` is a reward waiting to be handed out;
* a `Snapshot` is a point-in-time export of a store, with its `Counts`.

Each record has its JSON form here (`toJson`), with the member names the program writes.
-/

namespace CrateState

/-- The largest key amount, 2^32 − 1. -/
def maxKeys : Nat := 4294967295

/-- The last time a player opened a crate. -/
structure Cooldown where
  player : PlayerId
  crate : String
  /-- Epoch milliseconds of the last open. -/
  lastUsed : Int
  deriving DecidableEq

/-- How many keys a player holds for a crate. -/
structure KeyBalance where
  player : PlayerId
  crate : String
  /-- The number of keys. -/
  amount : Nat
  deriving DecidableEq

/-- What a history row records. -/
inductive HistoryKind where
  /-- A crate was opened. -/
  | «open»
  /-- A reward was handed to the player. -/
  | delivery
  deriving DecidableEq, Repr

/-- The lowercase name of a history kind. -/
def HistoryKind.name : HistoryKind → String
  | .open => "open"
  | .delivery => "delivery"

/-- One row of open or delivery history. -/
structure HistoryEntry where
  player : PlayerId
  crate : String
  /-- The reward, if one is recorded. -/
  reward : Option String
  /-- Open or delivery. -/
  kind : HistoryKind
  /-- Epoch milliseconds. -/
  time : Int
  deriving DecidableEq

/-- Whether a queued reward is still waiting. -/
inductive RewardStatus where
  /-- Still to be delivered. -/
  | pending
  /-- Handed out. -/
  | delivered
  deriving DecidableEq, Repr

/-- The stored name of a status. -/
def RewardStatus.name : RewardStatus → String
  | .pending => "PENDING"
  | .delivered => "DELIVERED"

/-- Reads a stored status: `DELIVERED` in any ASCII case is delivered, anything else is
pending, so that a reward is never lost to an unreadable status. -/
def RewardStatus.parse (s : String) : RewardStatus :=
  if s.toList.map Char.toUpper = "DELIVERED".toList then .delivered else .pending

/-- A reward waiting for delivery. -/
structure PendingReward where
  /-- The crate it came from. -/
  crate : String
  reward : String
  status : RewardStatus
  /-- Epoch milliseconds when it was queued. -/
  createdAt : Int
  deriving DecidableEq

/-- Row counts of a snapshot. -/
structure Counts where
  /-- Cooldown records. -/
  cooldowns : Nat := 0
  keyBalances : Nat := 0
  /-- History rows. -/
  history : Nat := 0
  deriving DecidableEq, Repr

/-- `cooldowns=N, keys=N, history=N`. -/
def Counts.render (c : Counts) : String :=
  let a := c.cooldowns
  let b := c.keyBalances
  let h := c.history
  s!"cooldowns={a}, keys={b}, history={h}"

/-- A point-in-time export of a store. -/
structure Snapshot where
  /-- Cooldown records. -/
  cooldowns : List Cooldown := []
  keyBalances : List KeyBalance := []
  /-- History rows, in the store's own order. -/
  history : List HistoryEntry := []
  deriving DecidableEq

/-- The row counts of a snapshot. -/
def Snapshot.counts (s : Snapshot) : Counts :=
  ⟨s.cooldowns.length, s.keyBalances.length, s.history.length⟩

/-- Whether a snapshot holds no rows. -/
def Snapshot.isEmpty (s : Snapshot) : Bool :=
  s.cooldowns.isEmpty && s.keyBalances.isEmpty && s.history.isEmpty

/-- Rows written by an import. -/
structure ImportOutcome where
  /-- Cooldown records written. -/
  cooldowns : Nat := 0
  /-- Key balances written. -/
  keyBalances : Nat := 0
  /-- History rows written. -/
  history : Nat := 0
  /-- History rows dropped by a store that keeps none. -/
  droppedHistory : Nat := 0
  deriving DecidableEq, Repr

/-! ## Order of listed records -/

/-- Byte order of two texts (which is code point order). -/
def textOrder (a b : String) : Ordering := compare a b

/-- Records listed by player bytes, then crate bytes, then value. -/
def slotOrder (p q : PlayerId) (c d : String) (rest : Ordering) : Ordering :=
  match PlayerId.order p q with
  | .eq => match textOrder c d with
    | .eq => rest
    | o => o
  | o => o

/-- Cooldowns sorted by player, crate and time. -/
def sortCooldowns (xs : List Cooldown) : List Cooldown :=
  xs.mergeSort fun a b => slotOrder a.player b.player a.crate b.crate (compare a.lastUsed b.lastUsed) != .gt

/-- Balances sorted by player, crate and amount. -/
def sortBalances (xs : List KeyBalance) : List KeyBalance :=
  xs.mergeSort fun a b => slotOrder a.player b.player a.crate b.crate (compare a.amount b.amount) != .gt

/-! ## JSON forms -/

/-- `{"player", "crate_id", "last_used"}`. -/
def Cooldown.toJson (c : Cooldown) : Json :=
  .obj [("player", .str c.player.render), ("crate_id", .str c.crate), ("last_used", .int c.lastUsed)]

/-- `{"player", "crate_id", "amount"}`. -/
def KeyBalance.toJson (b : KeyBalance) : Json :=
  .obj [("player", .str b.player.render), ("crate_id", .str b.crate), ("amount", .nat b.amount)]

/-- `{"player", "crate_id", "reward_id"?, "kind", "at"}`; the reward is left out when
there is none. -/
def HistoryEntry.toJson (h : HistoryEntry) : Json :=
  .obj ([("player", .str h.player.render), ("crate_id", .str h.crate)] ++
    (match h.reward with
     | some r => [("reward_id", .str r)]
     | none => []) ++
    [("kind", .str h.kind.name), ("at", .int h.time)])

/-- `{"crate_id", "reward_id", "status", "created_at"}`. -/
def PendingReward.toJson (p : PendingReward) : Json :=
  .obj [("crate_id", .str p.crate), ("reward_id", .str p.reward),
    ("status", .str p.status.name), ("created_at", .int p.createdAt)]

/-- `{"cooldowns", "key_balances", "history"}`. -/
def Counts.toJson (c : Counts) : Json :=
  .obj [("cooldowns", .nat c.cooldowns), ("key_balances", .nat c.keyBalances),
    ("history", .nat c.history)]

/-- The snapshot with cooldowns and balances sorted (a store may list them in any order),
history in the store's order, its counts, their text, and whether it is empty. -/
def Snapshot.toJson (s : Snapshot) : Json :=
  .obj [("cooldowns", .arr ((sortCooldowns s.cooldowns).map Cooldown.toJson)),
    ("key_balances", .arr ((sortBalances s.keyBalances).map KeyBalance.toJson)),
    ("history", .arr (s.history.map HistoryEntry.toJson)),
    ("counts", s.counts.toJson),
    ("counts_text", .str s.counts.render),
    ("is_empty", .bool s.isEmpty)]

/-- `{"cooldowns", "key_balances", "history", "dropped_history"}`. -/
def ImportOutcome.toJson (o : ImportOutcome) : Json :=
  .obj [("cooldowns", .nat o.cooldowns), ("key_balances", .nat o.keyBalances),
    ("history", .nat o.history), ("dropped_history", .nat o.droppedHistory)]

end CrateState
