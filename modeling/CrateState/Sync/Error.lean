/-!
# Sync errors

Why a sync operation failed. Transport and ledger errors are transient (a retry policy
retries them); the others are not.
-/

namespace CrateState

/-- Why a sync operation failed. -/
inductive SyncError where
  /-- The event transport failed. -/
  | transport (reason : String)
  /-- The event ledger failed. -/
  | ledger (reason : String)
  /-- An event could not be read or written as JSON. -/
  | serialization (reason : String)
  /-- The component was closed. -/
  | closed
  /-- The coordinator was started twice. -/
  | alreadyStarted
  /-- The sync settings were wrong. -/
  | invalidConfig (reason : String)
  deriving DecidableEq, Repr

namespace SyncError

/-- The text of the error. -/
def message : SyncError → String
  | .transport m => "event transport error: " ++ m
  | .ledger m => "event ledger error: " ++ m
  | .serialization m => "event serialization error: " ++ m
  | .closed => "sync component closed"
  | .alreadyStarted => "sync coordinator already started"
  | .invalidConfig m => "invalid sync configuration: " ++ m

def kind : SyncError → String
  | .transport _ => "Transport"
  | .ledger _ => "Ledger"
  | .serialization _ => "Serialization"
  | .closed => "Closed"
  | .alreadyStarted => "AlreadyStarted"
  | .invalidConfig _ => "InvalidConfig"

def isTransient : SyncError → Bool
  | .transport _ | .ledger _ => true
  | _ => false

end SyncError

end CrateState
