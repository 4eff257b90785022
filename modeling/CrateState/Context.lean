import CrateState.Sync.Site

/-!
# The core context

What a server opens at startup from its settings: one store to serve from and, with sync
enabled, a coordinator with its bus and ledger.

1. The settings are checked as a whole.
2. Without a SQL address the store is the in-memory one.
3. With one and `fallback_to_local`, one connection attempt decides: a SQL store that opens
   is served behind a breaker with an in-memory secondary; a merely unavailable one is kept
   unconnected behind a breaker that starts tripped; any other error fails the opening.
4. With one and no fallback, the SQL store must open.
5. Sync requires the SQL store; the ledger borrows its pool, its table made at once when
   the store opened, else on first use, the coordinator then starting degraded. The
   coordinator starts listening, and the health monitor probes once at once.

Closing closes the coordinator first (with its bus and ledger), then the store.
-/

namespace CrateState

/-- Why a context failed to open. -/
inductive CoreError where
  /-- The settings were refused. -/
  | config (e : ConfigError)
  /-- The store failed to open. -/
  | storage (e : StoreError)
  /-- Sync failed to start. -/
  | sync (e : SyncError)

/-- An open context: where its parts are in its site. -/
structure Context where
  /-- The store served from. -/
  storage : Nat
  /-- Whether that store is a breaker over a SQL and an in-memory store. -/
  fallback : Bool
  /-- The coordinator, when sync is enabled. -/
  coordinator : Option Nat

namespace Context

/-- The store part of an opening: the store served from, whether it is a breaker, the
SQL store if any, and whether that SQL store opened. -/
structure Stores where
  /-- The store served from. -/
  storage : Nat
  /-- Whether it is a breaker. -/
  fallback : Bool
  /-- The SQL store, if any. -/
  sql : Option Nat
  /-- Whether the SQL store opened. -/
  reachable : Bool

/-- Opens the stores of a context. -/
def openStores (cfg : StorageConfig) : Except CoreError (Stores × Fleet) :=
  let fl : Fleet := {}
  match cfg.sqlUrl with
  | none =>
    let (i, fl) := fl.add (.memory {})
    .ok (⟨i, false, none, true⟩, fl)
  | some _ =>
    if cfg.fallbackToLocal then
      let attempt : Except CoreError (SqlStore × Bool) :=
        match SqlStore.connect cfg with
        | .ok s => .ok (s, true)
        | .error (.unavailable _) =>
          match SqlStore.connectLazy cfg with
          | .ok s => .ok (s, false)
          | .error e => .error (.storage e)
        | .error e => .error (.storage e)
      attempt.map fun (s, reachable) =>
        let (p, fl) := fl.add (.sql s)
        let (q, fl) := fl.add (.memory {})
        let (b, fl) := fl.add (.breaker p q { tripped := !reachable })
        (⟨b, true, some p, reachable⟩, fl)
    else
      match SqlStore.connect cfg with
      | .ok s =>
        let (p, fl) := fl.add (.sql s)
        .ok (⟨p, false, some p, true⟩, fl)
      | .error e => .error (.storage e)

/-- Starts sync over the SQL store at a position: the coordinator's position. -/
def startSync (cfg : SyncConfig) (sql : Nat) (reachable : Bool) :
    ExceptT SyncError (StateM Site) Nat := do
  ExceptT.mk (Site.borrowLedger sql cfg.ledgerSchema (!reachable))
  let c ← liftExcept (Coordinator.create cfg)
  let i ← Site.addCoordinator (if reachable then c else c.markDegraded)
  ExceptT.mk (Site.start i)
  let _ ← Site.tick i
  pure i
where
  liftExcept {α : Type} (r : Except SyncError α) : ExceptT SyncError (StateM Site) α :=
    ExceptT.mk (pure r)

def start (cfg : CoreConfig) : Except CoreError (Context × Site) := do
  match cfg.validate with
  | .error e => throw (.config e)
  | .ok () => pure ()
  let (st, fleet) ← openStores cfg.storage
  let site : Site := { fleet }
  if !cfg.sync.enabled then
    pure (⟨st.storage, st.fallback, none⟩, site)
  else
    match st.sql with
    | none => throw (.sync (.invalidConfig "sync ledger requires storage.sql_url"))
    | some p =>
      match (startSync cfg.sync p st.reachable).run.run site with
      | (.ok i, site) => pure (⟨st.storage, st.fallback, some i⟩, site)
      | (.error e, _) => throw (.sync e)

/-- The status lines: the store, its tier when it is a breaker, then sync. -/
def statusLines (ctx : Context) : StateM Site (List String) := do
  let fleet := (← get).fleet
  let tier := match fleet.get? ctx.storage with
    | some (.breaker _ _ b) => if ctx.fallback then ["Storage tier: " ++ b.tier.name] else []
    | _ => []
  let sync ← match ctx.coordinator with
    | some i => do
      match ← Site.status i with
      | some s => pure s.lines
      | none => pure []
    | none => pure ["Sync enabled: false"]
  pure (("Storage: " ++ fleet.name ctx.storage) :: tier ++ sync)

/-- Closes the context: the coordinator, then the store. -/
def close (ctx : Context) : StateM Site Unit := do
  match ctx.coordinator with
  | some i => Site.close i
  | none => pure ()
  modify fun s => { s with fleet := s.fleet.close ctx.storage }

end Context

end CrateState
