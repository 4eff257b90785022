import CrateState.Storage.Replay

/-!
# The in-memory store

`LocalStore` keeps cooldowns, key balances, locks and waiting rewards in memory and keeps
no history: an open or a delivery only raises the `discarded` counter (a delivery marked
on a waiting reward counts too).

* a cooldown write overwrites;
* adding keys needs a positive amount and stops at 2^32 − 1;
* taking a key from a balance of one removes the balance; from none it answers `false`;
* a lock is taken only if nobody holds it; giving back a lock nobody holds is no error;
* a queued reward is appended to the player's list; marking one delivered flips the
  oldest waiting match;
* clearing empties everything but the `discarded` counter.

No call fails except adding zero keys.
-/

namespace CrateState

/-- A (player, crate) pair. -/
structure Slot where
  player : PlayerId
  crate : String
  deriving DecidableEq

/-- The state of an in-memory store. -/
structure LocalStore where
  /-- Last open per slot, at most one entry per slot. -/
  cooldowns : List (Slot × Int) := []
  /-- Positive balances per slot, at most one entry per slot. -/
  keys : List (Slot × Nat) := []
  /-- Slots whose lock is held. -/
  locks : List Slot := []
  /-- Queued rewards per player, oldest first. -/
  pending : List (PlayerId × List PendingReward) := []
  /-- History rows discarded so far. -/
  discarded : Nat := 0

namespace Assoc

variable {κ α : Type} [DecidableEq κ]

/-- The value stored under a key. -/
def get? (xs : List (κ × α)) (k : κ) : Option α := (xs.find? (·.1 = k)).map (·.2)

/-- Stores a value under a key, replacing the old one in place or appending. -/
def set (xs : List (κ × α)) (k : κ) (v : α) : List (κ × α) :=
  if xs.any (·.1 = k) then xs.map fun (k', v') => if k' = k then (k, v) else (k', v')
  else xs ++ [(k, v)]

def erase (xs : List (κ × α)) (k : κ) : List (κ × α) := xs.filter (·.1 ≠ k)

end Assoc

/-- Flips the first waiting reward of the crate and reward given, if any. -/
def markFirst (crate reward : String) : List PendingReward → Option (List PendingReward)
  | [] => none
  | r :: rs =>
    if r.status = .pending ∧ r.crate = crate ∧ r.reward = reward then
      some ({ r with status := .delivered } :: rs)
    else (markFirst crate reward rs).map (r :: ·)

namespace LocalStore

/-- A store name for messages and status. -/
def name : String := "local"

def heldLocks (s : LocalStore) : Nat := s.locks.length

/-- Answers one call other than an import. `now` stamps queued rewards. -/
def step (s : LocalStore) (now : Int) : (c : Call) → Reply c × LocalStore
  | .getCooldown p c => (.ok (Assoc.get? s.cooldowns ⟨p, c⟩), s)
  | .setCooldown p c t => (.ok (), { s with cooldowns := Assoc.set s.cooldowns ⟨p, c⟩ t })
  | .keyCount p c => (.ok ((Assoc.get? s.keys ⟨p, c⟩).getD 0), s)
  | .addKeys p c n =>
    if n = 0 then (.error (.invalidInput "key amount must be positive"), s)
    else
      let old := (Assoc.get? s.keys ⟨p, c⟩).getD 0
      (.ok (), { s with keys := Assoc.set s.keys ⟨p, c⟩ (min (old + n) maxKeys) })
  | .consumeKey p c =>
    match Assoc.get? s.keys ⟨p, c⟩ with
    | none => (.ok false, s)
    | some n =>
      if n ≤ 1 then (.ok (n == 1), { s with keys := Assoc.erase s.keys ⟨p, c⟩ })
      else (.ok true, { s with keys := Assoc.set s.keys ⟨p, c⟩ (n - 1) })
  | .acquireLock p c =>
    if s.locks.contains ⟨p, c⟩ then (.ok false, s)
    else (.ok true, { s with locks := s.locks ++ [⟨p, c⟩] })
  | .releaseLock p c => (.ok (), { s with locks := s.locks.filter (· ≠ ⟨p, c⟩) })
  | .logOpen .. => (.ok (), { s with discarded := s.discarded + 1 })
  | .recordDelivery .. => (.ok (), { s with discarded := s.discarded + 1 })
  | .queueReward p c r =>
    let old := (Assoc.get? s.pending p).getD []
    (.ok (), { s with pending := Assoc.set s.pending p (old ++ [⟨c, r, .pending, now⟩]) })
  | .pendingRewards p =>
    (.ok (((Assoc.get? s.pending p).getD []).filter (·.status = .pending)), s)
  | .markDelivered p c r =>
    match Assoc.get? s.pending p with
    | none => (.ok false, s)
    | some rs =>
      match markFirst c r rs with
      | none => (.ok false, s)
      | some rs' =>
        (.ok true, { s with pending := Assoc.set s.pending p rs', discarded := s.discarded + 1 })
  | .snapshot =>
    (.ok { cooldowns := s.cooldowns.map fun (k, t) => ⟨k.player, k.crate, t⟩
           keyBalances := s.keys.map fun (k, n) => ⟨k.player, k.crate, n⟩ }, s)
  | .clear => (.ok (), { s with cooldowns := [], keys := [], locks := [], pending := [] })
  | .import _ => (.error (.backend "import is replayed through single calls"), s)

/-- Answers one call; an import is replayed through the store's own calls. -/
def handle (s : LocalStore) (now : Int) : (c : Call) → Reply c × LocalStore
  | .import snap =>
    let run : StateM LocalStore (Except StoreError ImportOutcome) :=
      replay (fun c => modifyGet fun st => st.step now c) (pure false) snap
    run.run s
  | c => s.step now c

end LocalStore

end CrateState
