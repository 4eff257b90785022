import CrateState.Json.Decode
import CrateState.Json.Writer
import CrateState.Player
import CrateState.Sync.Error

/-!
# Sync events

A `SyncEvent` tells other servers that something happened to a (player, crate) slot on the
server `origin`, at `time` (epoch milliseconds).

On the wire an event is a JSON object with, in order, `kind`, `originServer`, `player`
(hyphenated lowercase), `crateId`, `rewardId` (left out when none) and `timestamp`. Reading
accepts what a derived reader does: the object in any member order (unknown members skipped,
a repeated one refused), the array of the six values in order (the reward may be left off),
the player in any form the identifier reader takes, and the kind as a name or a one-member
object. A refusal is a `serialization` error with the reader's message and position.
-/

namespace CrateState

/-- What happened. -/
inductive EventKind where
  | crateOpened
  /-- A reward was handed out. -/
  | rewardGranted
  /-- A key was used. -/
  | keyConsumed
  | cooldownSet
  deriving DecidableEq, Repr

namespace EventKind

/-- The wire name of a kind. -/
def name : EventKind → String
  | .crateOpened => "CRATE_OPENED"
  | .rewardGranted => "REWARD_GRANTED"
  | .keyConsumed => "KEY_CONSUMED"
  | .cooldownSet => "COOLDOWN_SET"

/-- Every kind, in declaration order. -/
def all : List EventKind := [.crateOpened, .rewardGranted, .keyConsumed, .cooldownSet]

/-- The kind of a wire name, matched exactly. -/
def parse (s : String) : Option EventKind := all.find? (·.name == s)

theorem parse_name (k : EventKind) : parse k.name = some k := by
  cases k <;> rfl

end EventKind

/-- A sync event. -/
structure SyncEvent where
  /-- What happened. -/
  kind : EventKind
  /-- The server it happened on. -/
  origin : String
  player : PlayerId
  crate : String
  /-- The reward involved, if any. -/
  reward : Option String := none
  /-- When, in epoch milliseconds. -/
  time : Int
  deriving DecidableEq

namespace SyncEvent

/-- The wire object. -/
def toJson (e : SyncEvent) : Json :=
  .obj ([("kind", .str e.kind.name), ("originServer", .str e.origin),
    ("player", .str e.player.render), ("crateId", .str e.crate)] ++
    (match e.reward with
     | some r => [("rewardId", .str r)]
     | none => []) ++
    [("timestamp", Json.int e.time)])

def wire (e : SyncEvent) : String := Json.render e.toJson

open Json in
/-- Reads a player identifier written as a string. -/
def playerCodec : Codec PlayerId :=
  Codec.checkedString "a formatted UUID string" fun s =>
    match PlayerId.parse s with
    | .ok p => .ok p
    | .error e => .error { message := "UUID parsing failed: " ++ e.message }

open Json in
/-- Reads an event in either wire form. -/
def codec : Codec SyncEvent :=
  Codec.record "SyncEvent"
    [Field.of "kind" true (Codec.choice "SyncEventKind" (EventKind.all.map fun k => (k.name, k)))
       fun k e => { e with kind := k },
     Field.of "originServer" true Codec.string fun o e => { e with origin := o },
     Field.of "player" true playerCodec fun p e => { e with player := p },
     Field.of "crateId" true Codec.string fun c e => { e with crate := c },
     Field.of "rewardId" false (Codec.option Codec.string) fun r e => { e with reward := r },
     Field.of "timestamp" true Codec.int64 fun t e => { e with time := t }]
    { kind := .crateOpened, origin := "", player := PlayerId.nil, crate := "", time := 0 }

def ofWire (s : String) : Except SyncError SyncEvent :=
  (codec.readText s).mapError fun e => .serialization e.render

end SyncEvent

end CrateState
