import CrateState.Storage.Call

/-!
# Import by replay

A store without a bulk import loads a snapshot through its own calls: every cooldown set,
every positive balance added (zero ones skipped), and history replayed as opens and
deliveries (a delivery without reward as the empty one) when the store keeps history, else
counted as dropped. Whether it keeps history is asked after the balances are written, since
a store that switched tiers answers for the tier it ended on. The first failing call ends
the import with its error; what was written stays written.

`replay` is written for any monad, so one rule serves every store, and a wrapper counting
or failing calls sees each replayed call.
-/

namespace CrateState

namespace Replay

variable {m : Type → Type} [Monad m]

/-- Sets every cooldown, counting them. -/
def cooldowns (call : (c : Call) → m (Reply c)) :
    List Cooldown → Nat → m (Except StoreError Nat)
  | [], n => pure (.ok n)
  | r :: rs, n => do
    match ← call (.setCooldown r.player r.crate r.lastUsed) with
    | .error e => pure (.error e)
    | .ok _ => cooldowns call rs (n + 1)

/-- Adds every positive balance, counting them. -/
def balances (call : (c : Call) → m (Reply c)) :
    List KeyBalance → Nat → m (Except StoreError Nat)
  | [], n => pure (.ok n)
  | b :: bs, n =>
    if b.amount = 0 then balances call bs n
    else do
      match ← call (.addKeys b.player b.crate b.amount) with
      | .error e => pure (.error e)
      | .ok _ => balances call bs (n + 1)

/-- Replays history rows as opens and deliveries, counting them. -/
def history (call : (c : Call) → m (Reply c)) :
    List HistoryEntry → Nat → m (Except StoreError Nat)
  | [], n => pure (.ok n)
  | h :: hs, n => do
    let r ← match h.kind with
      | .open => do
        let r ← call (.logOpen h.player h.crate h.reward h.time)
        pure (r.map fun _ => ())
      | .delivery => do
        let r ← call (.recordDelivery h.player h.crate (h.reward.getD "") h.time)
        pure (r.map fun _ => ())
    match r with
    | .error e => pure (.error e)
    | .ok _ => history call hs (n + 1)

end Replay

/-- Loads a snapshot through `call`, as described above. -/
def replay {m : Type → Type} [Monad m] (call : (c : Call) → m (Reply c)) (keepsHistory : m Bool)
    (s : Snapshot) : m (Except StoreError ImportOutcome) := do
  match ← Replay.cooldowns call s.cooldowns 0 with
  | .error e => pure (.error e)
  | .ok nc =>
    match ← Replay.balances call s.keyBalances 0 with
    | .error e => pure (.error e)
    | .ok nk =>
      if !(← keepsHistory) then
        pure (.ok { cooldowns := nc, keyBalances := nk, droppedHistory := s.history.length })
      else
        match ← Replay.history call s.history 0 with
        | .error e => pure (.error e)
        | .ok nh => pure (.ok { cooldowns := nc, keyBalances := nk, history := nh })

end CrateState
