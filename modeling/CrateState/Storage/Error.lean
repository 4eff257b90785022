/-!
# Store errors

Why a store call failed. Only `unavailable` is transient: it is the error that makes a
breaker switch to its secondary store and that a retry policy retries.
-/

namespace CrateState

/-- Why a store call failed. -/
inductive StoreError where
  /-- The store cannot be reached now (connection refused, pool exhausted or closed). -/
  | unavailable (reason : String)
  /-- The store was configured wrongly. -/
  | invalidConfig (reason : String)
  /-- The caller passed an argument the contract forbids. -/
  | invalidInput (reason : String)
  /-- The store itself refused the operation. -/
  | backend (reason : String)
  deriving DecidableEq, Repr

namespace StoreError

/-- The text of the error. -/
def message : StoreError → String
  | .unavailable m => "storage backend unavailable: " ++ m
  | .invalidConfig m => "invalid storage configuration: " ++ m
  | .invalidInput m => "invalid input: " ++ m
  | .backend m => "storage backend error: " ++ m

def kind : StoreError → String
  | .unavailable _ => "Unavailable"
  | .invalidConfig _ => "InvalidConfig"
  | .invalidInput _ => "InvalidInput"
  | .backend _ => "Backend"

def isUnavailable : StoreError → Bool
  | .unavailable _ => true
  | _ => false

end StoreError

end CrateState
