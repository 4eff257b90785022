import CrateState.Record
import CrateState.Json.Decode

/-!
# Reading records from JSON

The typed readers of the records a snapshot holds, as an import reads them: a record is
an object with the member names of its JSON form, or an array of its fields in order.

* a player is a string in any form `PlayerId.parse` accepts; a string it refuses is
  reported as `UUID parsing failed: …` with the parser's reason;
* a key amount is in the unsigned 32-bit range and a time in the signed 64-bit range;
* a history kind is `"open"` or `"delivery"` (or an object whose one member is that name
  with the value `null`); a missing reward is no reward.
-/

namespace CrateState

open Json

def PlayerId.codec : Codec PlayerId :=
  Codec.checkedString "a formatted UUID string" fun s =>
    match PlayerId.parse s with
    | .ok p => .ok p
    | .error e => .error { message := "UUID parsing failed: " ++ e.message }

/-- Reads a cooldown: `player`, `crate_id`, `last_used`. -/
def Cooldown.codec : Codec Cooldown :=
  Codec.record "CooldownRecord"
    [Field.of "player" true PlayerId.codec fun v c => { c with player := v },
     Field.of "crate_id" true Codec.string fun v c => { c with crate := v },
     Field.of "last_used" true Codec.int64 fun v c => { c with lastUsed := v }]
    { player := .nil, crate := "", lastUsed := 0 }

/-- Reads a key balance: `player`, `crate_id`, `amount`. -/
def KeyBalance.codec : Codec KeyBalance :=
  Codec.record "KeyBalance"
    [Field.of "player" true PlayerId.codec fun v c => { c with player := v },
     Field.of "crate_id" true Codec.string fun v c => { c with crate := v },
     Field.of "amount" true (Codec.unsigned "u32" maxKeys) fun v c => { c with amount := v }]
    { player := .nil, crate := "", amount := 0 }

/-- Reads a history kind by its lowercase name. -/
def HistoryKind.codec : Codec HistoryKind :=
  Codec.choice "HistoryKind" [("open", .open), ("delivery", .delivery)]

/-- Reads a history row: `player`, `crate_id`, `reward_id` (optional), `kind`, `at`. -/
def HistoryEntry.codec : Codec HistoryEntry :=
  Codec.record "HistoryEntry"
    [Field.of "player" true PlayerId.codec fun v c => { c with player := v },
     Field.of "crate_id" true Codec.string fun v c => { c with crate := v },
     Field.of "reward_id" false (Codec.option Codec.string) fun v c => { c with reward := v },
     Field.of "kind" true HistoryKind.codec fun v c => { c with kind := v },
     Field.of "at" true Codec.int64 fun v c => { c with time := v }]
    { player := .nil, crate := "", reward := none, kind := .open, time := 0 }

end CrateState
