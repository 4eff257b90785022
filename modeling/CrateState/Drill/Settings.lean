import CrateState.Drill.Request
import CrateState.Config.Read

/-!
# Settings drills

A settings drill reads settings from a JSON value (`config`) or from JSON text (`text`)
and answers them as read, with the outcome of each check. Settings that cannot be read
are answered with the kind `deserialize` and the reader's message.
-/

namespace CrateState

namespace Drill

/-- The error object of a settings check. -/
def configErrorJson : ConfigError → Json
  | .storage e => errorJson ("Config:Storage." ++ e.kind) e.message
  | .sync e => errorJson ("Config:Sync." ++ e.kind) e.message

/-- The answer for settings that were read. -/
def settingsJson (c : CoreConfig) : Json :=
  .obj [("storage", c.storage.toJson), ("sync", c.sync.toJson),
    ("storage_validate", match c.storage.validate with
      | .ok () => okJson .null
      | .error e => storeErrorJson e),
    ("sync_validate", match c.sync.validate with
      | .ok () => okJson .null
      | .error e => syncErrorJson e),
    ("validate", match c.validate with
      | .ok () => okJson .null
      | .error e => configErrorJson e)]

/-- Why settings could not be had: the request lacks them, or they do not read. -/
inductive SettingsError where
  /-- The request is malformed. -/
  | request (message : String)
  /-- The settings do not read; the reader's message. -/
  | unreadable (message : String)

/-- Reads the settings of a request: from text when it has `text`, else from `config`. -/
def readSettings (req : Json) : Except SettingsError CoreConfig :=
  match req.field? "text" with
  | some (.str t) => (CoreConfig.codec.readText t).mapError (.unreadable ·.render)
  | some _ => .error (.request "text must be a string")
  | none =>
    match need req "config" with
    | .ok c => (CoreConfig.codec.value c).mapError (.unreadable ·.render)
    | .error m => .error (.request m)

def configDrill (req : Json) : Json :=
  match readSettings req with
  | .ok c => settingsJson c
  | .error (.request m) => badRequest m
  | .error (.unreadable m) => errorJson "deserialize" m

end Drill

end CrateState
