import CrateState.Config
import CrateState.Json.Decode

/-!
# Reading settings

Settings are read from JSON text or from a JSON value by the typed readers of
`Json.Decode`. Every field may be left out and takes its default; a whole section may be
left out too. An address may be `null` for none. Unknown fields are skipped, a repeated
field is refused (in text), and a number outside its type's range is refused with the
type's name (`u32`, `u64`, `usize`).

The JSON forms written back list every field, with the durations the settings stand for
and the health interval actually used.
-/

namespace CrateState

open Json

def StorageConfig.codec : Codec StorageConfig :=
  Codec.record "StorageConfig"
    [Field.of "sql_url" false (Codec.option Codec.string) fun v c => { c with sqlUrl := v },
     Field.of "pool_size" false (Codec.unsigned "u32" (Nat.pow 2 32 - 1)) fun v c => { c with poolSize := v },
     Field.of "checkout_timeout_ms" false (Codec.unsigned "u64" (Nat.pow 2 64 - 1))
       fun v c => { c with checkoutTimeoutMs := v },
     Field.of "idle_timeout_secs" false (Codec.unsigned "u64" (Nat.pow 2 64 - 1))
       fun v c => { c with idleTimeoutSecs := v },
     Field.of "fallback_to_local" false Codec.bool fun v c => { c with fallbackToLocal := v }]
    {}

def SyncConfig.codec : Codec SyncConfig :=
  Codec.record "SyncConfig"
    [Field.of "enabled" false Codec.bool fun v c => { c with enabled := v },
     Field.of "server_id" false Codec.string fun v c => { c with serverId := v },
     Field.of "channel" false Codec.string fun v c => { c with channel := v },
     Field.of "ledger_schema" false Codec.string fun v c => { c with ledgerSchema := v },
     Field.of "consistency" false
       (Codec.choice "ConsistencyMode" [("eventual", .eventual), ("strong", .strong)])
       fun v c => { c with consistency := v },
     Field.of "redis_url" false (Codec.option Codec.string) fun v c => { c with redisUrl := v },
     Field.of "health_interval_secs" false (Codec.unsigned "u64" (Nat.pow 2 64 - 1))
       fun v c => { c with healthIntervalSecs := v },
     Field.of "bus_capacity" false (Codec.unsigned "usize" (Nat.pow 2 64 - 1))
       fun v c => { c with busCapacity := v }]
    {}

def CoreConfig.codec : Codec CoreConfig :=
  Codec.record "CoreConfig"
    [Field.of "storage" false StorageConfig.codec fun v c => { c with storage := v },
     Field.of "sync" false SyncConfig.codec fun v c => { c with sync := v }]
    {}

/-- The JSON form of storage settings. -/
def StorageConfig.toJson (c : StorageConfig) : Json :=
  .obj [("sql_url", Json.opt Json.str c.sqlUrl), ("pool_size", Json.nat c.poolSize),
    ("checkout_timeout_ms", Json.nat c.checkoutTimeoutMs),
    ("idle_timeout_secs", Json.nat c.idleTimeoutSecs),
    ("fallback_to_local", .bool c.fallbackToLocal),
    ("checkout_timeout_ms_duration", Json.nat c.checkoutTimeoutMs),
    ("idle_timeout_secs_duration", Json.nat c.idleTimeoutSecs)]

def SyncConfig.toJson (c : SyncConfig) : Json :=
  .obj [("enabled", .bool c.enabled), ("server_id", .str c.serverId),
    ("channel", .str c.channel), ("ledger_schema", .str c.ledgerSchema),
    ("consistency", .str c.consistency.name), ("redis_url", Json.opt Json.str c.redisUrl),
    ("health_interval_secs", Json.nat c.healthIntervalSecs),
    ("health_interval_effective_secs", Json.nat c.healthInterval),
    ("bus_capacity", Json.nat c.busCapacity)]

end CrateState
