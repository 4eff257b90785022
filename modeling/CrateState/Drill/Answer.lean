import CrateState.Drill.Storage
import CrateState.Drill.Events
import CrateState.Drill.Settings
import CrateState.Drill.Retries
import CrateState.Drill.Sync
import CrateState.Drill.Context
import CrateState.Json.Reader

/-!
# Answering drill requests

`respond` answers one request line: it reads the JSON object, picks the drill its `op`
names and runs it with `now` as the current time. A line that is not JSON, or names no
known drill, is a bad request; a value that is not an object names none.
-/

namespace CrateState

namespace Drill

def answer (now : Int) (req : Json) : Json :=
  match req.field? "op" with
  | some (.str "storage") => storageDrill now req
  | some (.str "event") => eventDrill now req
  | some (.str "cache") => cacheDrill now req
  | some (.str "config") => configDrill req
  | some (.str "retry") => retryDrill req
  | some (.str "sync") => syncDrill now req
  | some (.str "context") => contextDrill now req
  | some (.str "retry_presets") => presetsJson
  | some (.str op) => badRequest ("unknown op " ++ "\"" ++ op ++ "\"")
  | some _ => badRequest (mustBe "op" "a string")
  | none => badRequest (missingField "op")

def respond (now : Int) (line : String) : Json :=
  match Json.parse line with
  | .ok req => answer now req
  | .error e => badRequest ("invalid json: " ++ e.render)

end Drill

end CrateState
