import CrateState.Sync.Event

/-!
# The observation cache

What a server has learned from other servers' events, per (player, crate) slot: the last
cooldown, the last reward with its time, the last key use, and the server that last
changed the entry.

Each of the three times is a last-write-wins register: an event changes it only when it
is strictly newer than what is held, so replaying an event, or receiving an older one
late, changes nothing. An open sets the cooldown and, when it carries a reward, the last
reward; a reward grant without a reward changes nothing. Every event creates the slot's
entry, even one that changes nothing in it.
-/

namespace CrateState

/-- What is known of one slot. -/
structure Observation where
  /-- The last cooldown time. -/
  cooldown : Option Int := none
  /-- The last reward and its time. -/
  lastReward : Option (String × Int) := none
  /-- The last time a key was used. -/
  lastKeyConsumed : Option Int := none
  /-- The server whose event last changed the entry. -/
  origin : String := ""
  deriving DecidableEq

/-- The JSON form: `{"cooldown", "last_reward": [reward, at] | null, "last_key_consumed",
"origin_server"}`. -/
def Observation.toJson (o : Observation) : Json :=
  .obj [("cooldown", Json.opt Json.int o.cooldown),
    ("last_reward", Json.opt (fun (r, t) => .arr [.str r, Json.int t]) o.lastReward),
    ("last_key_consumed", Json.opt Json.int o.lastKeyConsumed),
    ("origin_server", .str o.origin)]

/-- A register after a write at `time`: the new value when the write is strictly newer. -/
def newer (slot : Option Int) (time : Int) : Option (Option Int) :=
  match slot with
  | some current => if current ≥ time then none else some (some time)
  | none => some (some time)

/-- The slot a reward write lands in, if strictly newer. -/
def newerReward (slot : Option (String × Int)) (reward : String) (time : Int) :
    Option (Option (String × Int)) :=
  match slot with
  | some (_, current) => if current ≥ time then none else some (some (reward, time))
  | none => some (some (reward, time))

/-- Applies an event to a slot's entry: the new entry and whether it changed. -/
def Observation.apply (o : Observation) (e : SyncEvent) : Observation × Bool :=
  let t := e.time
  let (o', changed) : Observation × Bool := match e.kind with
    | .cooldownSet =>
      match newer o.cooldown t with
      | some c => ({ o with cooldown := c }, true)
      | none => (o, false)
    | .keyConsumed =>
      match newer o.lastKeyConsumed t with
      | some k => ({ o with lastKeyConsumed := k }, true)
      | none => (o, false)
    | .rewardGranted =>
      match e.reward with
      | some r =>
        match newerReward o.lastReward r t with
        | some w => ({ o with lastReward := w }, true)
        | none => (o, false)
      | none => (o, false)
    | .crateOpened =>
      let (o, opened) := match newer o.cooldown t with
        | some c => ({ o with cooldown := c }, true)
        | none => (o, false)
      match e.reward with
      | some r =>
        match newerReward o.lastReward r t with
        | some w => ({ o with lastReward := w }, true)
        | none => (o, opened)
      | none => (o, opened)
  if changed then ({ o' with origin := e.origin }, true) else (o', false)

/-- The cache: an entry per slot, in the order slots were first seen. -/
structure ObservationCache where
  entries : List ((PlayerId × String) × Observation) := []

namespace ObservationCache

/-- The entry of a slot. -/
def get? (c : ObservationCache) (player : PlayerId) (crate : String) : Option Observation :=
  (c.entries.find? (·.1 == (player, crate))).map (·.2)

def cooldown? (c : ObservationCache) (player : PlayerId) (crate : String) : Option Int :=
  (c.get? player crate).bind (·.cooldown)

/-- The number of slots with an entry. -/
def size (c : ObservationCache) : Nat := c.entries.length

/-- Applies an event: whether it changed anything, and the new cache. -/
def apply (c : ObservationCache) (e : SyncEvent) : Bool × ObservationCache :=
  let key := (e.player, e.crate)
  let (o', changed) := ((c.get? e.player e.crate).getD {}).apply e
  let entries := if c.entries.any (·.1 == key) then
      c.entries.map fun (k, o) => if k == key then (k, o') else (k, o)
    else c.entries ++ [(key, o')]
  (changed, { entries })

end ObservationCache

end CrateState
