import CrateState.Storage.Error
import CrateState.Sync.Error
import CrateState.Text.Quoted

/-!
# Settings

The settings of storage (`StorageConfig`) and of sync (`SyncConfig`), with their
defaults and the checks `validate` makes before anything is opened. `CoreConfig` holds
both and adds the one check that spans them: sync needs a SQL store for its ledger.

The checks run in a fixed order and report the first failure:

* storage: pool size, checkout timeout, then the address scheme (`sqlite:` or `mysql:`,
  matched with case);
* sync: the ledger schema name first, even when sync is off (the name reaches SQL), then,
  only when sync is on, the server id (blank after trimming is missing), the channel and
  the bus capacity.
-/

namespace CrateState

/-- Storage settings. -/
structure StorageConfig where
  /-- The database address; none means the in-memory store. -/
  sqlUrl : Option String := none
  /-- The most pooled connections. -/
  poolSize : Nat := 10
  /-- How long a checkout may wait, in milliseconds. -/
  checkoutTimeoutMs : Nat := 5000
  /-- How long an idle connection is kept, in seconds. -/
  idleTimeoutSecs : Nat := 300
  /-- Whether to fall back to the in-memory store when the database is unreachable. -/
  fallbackToLocal : Bool := true
  deriving DecidableEq, Repr

/-- How strongly servers agree. -/
inductive Consistency where
  /-- Servers converge eventually. -/
  | eventual
  /-- Servers agree before answering. -/
  | strong
  deriving DecidableEq, Repr

/-- The lowercase name of a consistency mode. -/
def Consistency.name : Consistency → String
  | .eventual => "eventual"
  | .strong => "strong"

/-- Sync settings. -/
structure SyncConfig where
  /-- Whether sync runs. -/
  enabled : Bool := false
  /-- This server's id, which marks the events it publishes. -/
  serverId : String := ""
  /-- The channel events travel on. -/
  channel : String := "crate-sync"
  /-- The prefix of the ledger table. -/
  ledgerSchema : String := "crate_sync"
  /-- The consistency mode. -/
  consistency : Consistency := .eventual
  /-- The address of an external bus, if any. -/
  redisUrl : Option String := none
  /-- Seconds between health checks. -/
  healthIntervalSecs : Nat := 10
  /-- How many events the bus buffers. -/
  busCapacity : Nat := 1024
  deriving DecidableEq, Repr

/-- Both settings. -/
structure CoreConfig where
  /-- Storage settings. -/
  storage : StorageConfig := {}
  /-- Sync settings. -/
  sync : SyncConfig := {}
  deriving DecidableEq, Repr

/-- The text before the first `:` of an address. -/
def schemeOf (url : String) : String := (url.splitOn ":").headD ""

namespace StorageConfig

def validate (c : StorageConfig) : Except StoreError Unit :=
  if c.poolSize = 0 then .error (.invalidConfig "pool_size must be positive")
  else if c.checkoutTimeoutMs = 0 then .error (.invalidConfig "checkout_timeout_ms must be positive")
  else match c.sqlUrl with
    | some url =>
      if url.startsWith "sqlite:" || url.startsWith "mysql:" then .ok ()
      else .error (.invalidConfig
        ("unsupported sql_url scheme (expected sqlite: or mysql:): " ++ schemeOf url))
    | none => .ok ()

end StorageConfig

/-- Whether a character is white space in the Unicode sense. -/
def isUnicodeSpace (c : Char) : Bool :=
  let n := c.toNat
  (9 ≤ n && n ≤ 13) || n = 32 || n = 0x85 || n = 0xA0 || n = 0x1680 ||
    (0x2000 ≤ n && n ≤ 0x200A) || n = 0x2028 || n = 0x2029 || n = 0x202F || n = 0x205F ||
    n = 0x3000

/-- Whether a name is non-empty and only ASCII letters, digits and `_`. -/
def isIdentifier (s : String) : Bool :=
  !s.isEmpty && s.all fun c => (c.isAlphanum && c.toNat < 128) || c = '_'

namespace SyncConfig

/-- The health interval actually used: at least one second. -/
def healthInterval (c : SyncConfig) : Nat := max 1 c.healthIntervalSecs

def validate (c : SyncConfig) : Except SyncError Unit :=
  if !isIdentifier c.ledgerSchema then
    .error (.invalidConfig ("ledger_schema must match [A-Za-z0-9_]+: " ++ Quoted.debug c.ledgerSchema))
  else if !c.enabled then .ok ()
  else if c.serverId.all isUnicodeSpace then
    .error (.invalidConfig "server_id is required when sync is enabled")
  else if c.channel.isEmpty then .error (.invalidConfig "channel must not be empty")
  else if c.busCapacity = 0 then .error (.invalidConfig "bus_capacity must be positive")
  else .ok ()

end SyncConfig

/-- A settings error: from the storage or the sync checks. -/
inductive ConfigError where
  /-- A storage check failed. -/
  | storage (e : StoreError)
  /-- A sync check failed. -/
  | sync (e : SyncError)
  deriving DecidableEq, Repr

/-- Checks both settings, storage first, then whether sync has a SQL store. -/
def CoreConfig.validate (c : CoreConfig) : Except ConfigError Unit :=
  match c.storage.validate with
  | .error e => .error (.storage e)
  | .ok () =>
    match c.sync.validate with
    | .error e => .error (.sync e)
    | .ok () =>
      if c.sync.enabled && c.storage.sqlUrl.isNone then
        .error (.sync (.invalidConfig "sync ledger requires storage.sql_url"))
      else .ok ()

end CrateState
