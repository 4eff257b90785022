import CrateState.Relational.Client

/-!
# The store's tables and statements

The six tables a SQL store keeps, and every statement it runs on them, as texts with the
values bound to their parameters.

| table | columns | key |
|---|---|---|
| `crate_cooldowns` | `player_id`, `crate_id`, `last_used` | (player, crate) |
| `crate_keys` | `player_id`, `crate_id`, `amount` | (player, crate) |
| `crate_locks` | `player_id`, `crate_id`, `acquired_at` | (player, crate) |
| `crate_open_history` | `id`, `player_id`, `crate_id`, `reward_id`?, `opened_at` | `id` |
| `crate_reward_history` | `id`, `player_id`, `crate_id`, `reward_id`, `delivered_at` | `id` |
| `crate_pending_rewards` | `id`, `player_id`, `crate_id`, `reward_id`, `status`, `created_at` | `id` |

Player ids are hyphenated lowercase text, times and amounts integers. The `id` columns name
the row id and are never reused; only an open's `reward_id` may be `NULL`. Statements are
kept as text because the database reads them against the schema it holds when they run: a
table replaced by a view or given a trigger changes what they do.
-/

namespace CrateState

namespace Tables

open Relational

/-- The statements that create the schema, each only if missing. -/
def schema : List Command :=
  ["CREATE TABLE IF NOT EXISTS crate_cooldowns (
                    player_id TEXT NOT NULL,
                    crate_id TEXT NOT NULL,
                    last_used INTEGER NOT NULL,
                    PRIMARY KEY (player_id, crate_id)
                )",
   "CREATE TABLE IF NOT EXISTS crate_keys (
                    player_id TEXT NOT NULL,
                    crate_id TEXT NOT NULL,
                    amount INTEGER NOT NULL,
                    PRIMARY KEY (player_id, crate_id)
                )",
   "CREATE TABLE IF NOT EXISTS crate_locks (
                    player_id TEXT NOT NULL,
                    crate_id TEXT NOT NULL,
                    acquired_at INTEGER NOT NULL,
                    PRIMARY KEY (player_id, crate_id)
                )",
   "CREATE TABLE IF NOT EXISTS crate_open_history (
                    id INTEGER PRIMARY KEY AUTOINCREMENT,
                    player_id TEXT NOT NULL,
                    crate_id TEXT NOT NULL,
                    reward_id TEXT,
                    opened_at INTEGER NOT NULL
                )",
   "CREATE TABLE IF NOT EXISTS crate_reward_history (
                    id INTEGER PRIMARY KEY AUTOINCREMENT,
                    player_id TEXT NOT NULL,
                    crate_id TEXT NOT NULL,
                    reward_id TEXT NOT NULL,
                    delivered_at INTEGER NOT NULL
                )",
   "CREATE TABLE IF NOT EXISTS crate_pending_rewards (
                    id INTEGER PRIMARY KEY AUTOINCREMENT,
                    player_id TEXT NOT NULL,
                    crate_id TEXT NOT NULL,
                    reward_id TEXT NOT NULL,
                    status TEXT NOT NULL,
                    created_at INTEGER NOT NULL
                )"].map fun sql => ⟨sql, []⟩

/-- The settings a store gives a new connection. -/
def pragmas : List Command :=
  [⟨"PRAGMA journal_mode = WAL", []⟩, ⟨"PRAGMA synchronous = NORMAL", []⟩]

/-- The names of all tables, in the order a clear empties them. -/
def all : List String :=
  ["crate_cooldowns", "crate_keys", "crate_locks", "crate_open_history",
   "crate_reward_history", "crate_pending_rewards"]

def setCooldown (player crate : String) (time : Int) : Command :=
  ⟨"INSERT INTO crate_cooldowns (player_id, crate_id, last_used) VALUES (?, ?, ?)
             ON CONFLICT(player_id, crate_id) DO UPDATE SET last_used = excluded.last_used",
   [.text player, .text crate, .int time]⟩

def getCooldown (player crate : String) : Command :=
  ⟨"SELECT last_used FROM crate_cooldowns WHERE player_id = ? AND crate_id = ?",
   [.text player, .text crate]⟩

/-- Adds to a balance, creating it if missing. -/
def addKeys (player crate : String) (amount : Int) : Command :=
  ⟨"INSERT INTO crate_keys (player_id, crate_id, amount) VALUES (?, ?, ?)
             ON CONFLICT(player_id, crate_id) DO UPDATE SET amount = crate_keys.amount + excluded.amount",
   [.text player, .text crate, .int amount]⟩

def keyCount (player crate : String) : Command :=
  ⟨"SELECT amount FROM crate_keys WHERE player_id = ? AND crate_id = ?",
   [.text player, .text crate]⟩

/-- Takes one key from a positive balance. -/
def takeKey (player crate : String) : Command :=
  ⟨"UPDATE crate_keys SET amount = amount - 1 WHERE player_id = ? AND crate_id = ? AND amount > 0",
   [.text player, .text crate]⟩

/-- Removes a balance that reached zero or less. -/
def dropEmpty (player crate : String) : Command :=
  ⟨"DELETE FROM crate_keys WHERE player_id = ? AND crate_id = ? AND amount <= 0",
   [.text player, .text crate]⟩

/-- Takes a lock; the key refuses a second holder. -/
def takeLock (player crate : String) (time : Int) : Command :=
  ⟨"INSERT INTO crate_locks (player_id, crate_id, acquired_at) VALUES (?, ?, ?)",
   [.text player, .text crate, .int time]⟩

def giveLock (player crate : String) : Command :=
  ⟨"DELETE FROM crate_locks WHERE player_id = ? AND crate_id = ?", [.text player, .text crate]⟩

def logOpen (player crate : String) (reward : Option String) (time : Int) : Command :=
  ⟨"INSERT INTO crate_open_history (player_id, crate_id, reward_id, opened_at) VALUES (?, ?, ?, ?)",
   [.text player, .text crate, (reward.map SqlValue.text).getD .null, .int time]⟩

def logDelivery (player crate reward : String) (time : Int) : Command :=
  ⟨"INSERT INTO crate_reward_history (player_id, crate_id, reward_id, delivered_at) VALUES (?, ?, ?, ?)",
   [.text player, .text crate, .text reward, .int time]⟩

def queue (player crate reward : String) (time : Int) : Command :=
  ⟨"INSERT INTO crate_pending_rewards (player_id, crate_id, reward_id, status, created_at) VALUES (?, ?, ?, ?, ?)",
   [.text player, .text crate, .text reward, .text "PENDING", .int time]⟩

/-- The waiting rewards of a player, oldest first. -/
def waiting (player : String) : Command :=
  ⟨"SELECT crate_id, reward_id, status, created_at FROM crate_pending_rewards
                 WHERE player_id = ? AND status = ? ORDER BY id",
   [.text player, .text "PENDING"]⟩

/-- The oldest waiting reward matching a crate and reward. -/
def firstWaiting (player crate reward : String) : Command :=
  ⟨"SELECT id FROM crate_pending_rewards
                 WHERE player_id = ? AND crate_id = ? AND reward_id = ? AND status = ?
                 ORDER BY id LIMIT 1",
   [.text player, .text crate, .text reward, .text "PENDING"]⟩

/-- Marks a waiting reward delivered, if it is still waiting. -/
def markRow (id : Int) : Command :=
  ⟨"UPDATE crate_pending_rewards SET status = ? WHERE id = ? AND status = ?",
   [.text "DELIVERED", .int id, .text "PENDING"]⟩

def allCooldowns : Command :=
  ⟨"SELECT player_id, crate_id, last_used FROM crate_cooldowns", []⟩

def positiveKeys : Command :=
  ⟨"SELECT player_id, crate_id, amount FROM crate_keys WHERE amount > 0", []⟩

/-- Every open, in order. -/
def allOpens : Command :=
  ⟨"SELECT player_id, crate_id, reward_id, opened_at FROM crate_open_history ORDER BY id", []⟩

/-- Every delivery, in order. -/
def allDeliveries : Command :=
  ⟨"SELECT player_id, crate_id, reward_id, delivered_at FROM crate_reward_history ORDER BY id", []⟩

def clearTable (table : String) : Command := ⟨"DELETE FROM " ++ table, []⟩

end Tables

end CrateState
