import CrateState.Drill.Request
import CrateState.Sync.Cache
import CrateState.Record

/-!
# Event and cache drills

An event in a drill request is `{"kind", "origin", "player", "crate", "reward"?, "at"?}`;
without `at` it happens now. Its fields are read in the order kind, reward, origin, player,
crate, time, and the first that cannot be read is reported.

* The event drill exercises the wire form (`to_json`, `from_json`), the kind names
  (`parse_kind`) and the reading of stored reward statuses (`reward_status`).
* The cache drill applies events to one observation cache and reads it back.
-/

namespace CrateState

namespace Drill

def eventOf (now : Int) (j : Json) : Read SyncEvent := do
  let kindName ← text j "kind"
  let kind ← match EventKind.parse kindName with
    | some k => pure k
    | none => throw ("unknown event kind " ++ Quoted.debug kindName)
  let reward ← optText j "reward"
  let origin ← text j "origin"
  let player ← player j "player"
  let crate ← text j "crate"
  let time := (← optI64 j "at").getD now
  pure { kind, origin, player, crate, reward, time }

/-- The answer of `from_json`: the event, its kind name and its kind as displayed. -/
def decodedEventJson (e : SyncEvent) : Json :=
  .obj [("event", e.toJson), ("kind_str", .str e.kind.name), ("kind_display", .str e.kind.name)]

def eventDrill (now : Int) (req : Json) : Json :=
  match text req "action" with
  | .error m => badRequest m
  | .ok "to_json" =>
    match need req "event" >>= eventOf now with
    | .ok e =>
      let w := e.wire
      let same := match SyncEvent.ofWire w with
        | .ok back => decide (back = e)
        | .error _ => false
      .obj [("json", .str w), ("roundtrip_equal", .bool same)]
    | .error m => badRequest m
  | .ok "from_json" =>
    match text req "payload" with
    | .error m => badRequest m
    | .ok payload =>
      match SyncEvent.ofWire payload with
      | .ok e => decodedEventJson e
      | .error err => syncErrorJson err
  | .ok "parse_kind" =>
    match text req "s" with
    | .error m => badRequest m
    | .ok s => .obj [("kind", Json.opt (fun (k : EventKind) => .str k.name) (EventKind.parse s))]
  | .ok "reward_status" =>
    match text req "s" with
    | .error m => badRequest m
    | .ok s =>
      let st := RewardStatus.parse s
      .obj [("status", .str st.name), ("display", .str st.name)]
  | .ok a => badRequest ("unknown event action " ++ "\"" ++ a ++ "\"")

/-- A (player, crate) pair of a request. -/
def slotOf (j : Json) : Read (PlayerId × String) := do
  pure (← player j "player", ← text j "crate")

def cacheStep (now : Int) (cache : ObservationCache) (step : Json) : Json × ObservationCache :=
  match step.field? "apply", step.field? "get", step.field? "cooldown", step.field? "len" with
  | some ev, _, _, _ =>
    match eventOf now ev with
    | .ok e =>
      let (changed, cache) := cache.apply e
      (okJson (.bool changed), cache)
    | .error m => (badRequest m, cache)
  | none, some q, _, _ =>
    match slotOf q with
    | .ok (p, c) => (okJson (Json.opt Observation.toJson (cache.get? p c)), cache)
    | .error m => (badRequest m, cache)
  | none, none, some q, _ =>
    match slotOf q with
    | .ok (p, c) => (okJson (Json.opt Json.int (cache.cooldown? p c)), cache)
    | .error m => (badRequest m, cache)
  | none, none, none, some _ =>
    (okJson (.obj [("len", Json.nat cache.size), ("is_empty", .bool (cache.size == 0))]), cache)
  | _, _, _, _ => (badRequest "unknown cache step", cache)

def cacheDrill (now : Int) (req : Json) : Json :=
  match items req "steps" with
  | .error m => badRequest m
  | .ok steps =>
    let (results, _) := steps.foldl (fun (acc, c) step =>
      let (j, c) := cacheStep now c step
      (acc ++ [j], c)) (([] : List Json), ({} : ObservationCache))
    .obj [("results", .arr results)]

end Drill

end CrateState
