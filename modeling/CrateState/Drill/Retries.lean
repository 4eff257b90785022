import CrateState.Drill.Request
import CrateState.Retry

/-!
# Retry drills

A retry drill runs `retry` over an operation whose n-th try answers the n-th listed
outcome (the last one once the list runs out), with waits capped at 20 ms so the drill
stays quick. Outcomes are `{"ok": n}` or `{"err": {"kind", "message"?}}`, errors being
store errors or sync errors as `error_type` says. An outcome that cannot be read is an
error too: a backend error for stores, a ledger error for sync.
-/

namespace CrateState

namespace Drill

/-- The longest wait a drill allows, in milliseconds. -/
def drillDelayCap : Nat := 20

/-- The kind and message of a drill outcome's error; the message is `injected` when the
outcome gives none. -/
def errorParts (j : Json) : Read (String × String) := do
  let kind ← text j "kind"
  let message := (← optText j "message").getD "injected"
  pure (kind, message)

/-- A store error of a drill outcome; an outcome that cannot be read is a backend error
saying why. -/
def storeErrorOf (j : Json) : StoreError :=
  match errorParts j with
  | .error m => .backend m
  | .ok ("Unavailable", m) => .unavailable m
  | .ok ("InvalidConfig", m) => .invalidConfig m
  | .ok ("InvalidInput", m) => .invalidInput m
  | .ok ("Backend", m) => .backend m
  | .ok (k, _) => .backend ("unknown storage error kind " ++ "\"" ++ k ++ "\"")

/-- A sync error of a drill outcome; an outcome that cannot be read is a ledger error
saying why. -/
def syncErrorOf (j : Json) : SyncError :=
  match errorParts j with
  | .error m => .ledger m
  | .ok ("Transport", m) => .transport m
  | .ok ("Ledger", m) => .ledger m
  | .ok ("Serialization", m) => .serialization m
  | .ok ("Closed", _) => .closed
  | .ok ("AlreadyStarted", _) => .alreadyStarted
  | .ok ("InvalidConfig", m) => .invalidConfig m
  | .ok (k, _) => .ledger ("unknown sync error kind " ++ "\"" ++ k ++ "\"")

/-- One outcome: `{"ok": n}` with a signed 64-bit `n`, or else the error its `err`
member describes. -/
def outcomeOf {ε : Type} (errorOf : Json → ε) (o : Json) : Except ε Int :=
  match (o.field? "ok").map (i64Of "ok") with
  | some (.ok n) => .ok n
  | _ => .error (errorOf ((o.field? "err").getD .null))

/-- The outcomes of a drill, read with `errorOf`. -/
def outcomesOf {ε : Type} (errorOf : Json → ε) (req : Json) : Read (List (Except ε Int)) := do
  pure ((← items req "outcomes").map (outcomeOf errorOf))

/-- The retry policy of a drill, waits capped. -/
def policyOf (j : Json) : Read RetryPolicy := do
  let initial ← u64 j "initial_delay_ms"
  let longest ← u64 j "max_delay_ms"
  let factor ← match ← need j "factor" with
    | .num (.nat n) => pure (Float.ofNat n)
    | .num (.neg n) => pure (-Float.ofNat n.natAbs)
    | .num (.float f) => pure f
    | _ => throw "factor must be a number"
  let attempts ← u64 j "max_attempts"
  pure ⟨min initial drillDelayCap * RetryPolicy.nanosPerMilli,
    min longest drillDelayCap * RetryPolicy.nanosPerMilli, factor, attempts⟩

/-- Runs the retry over listed outcomes and answers the result and the number of tries. -/
def runRetry {ε : Type} (p : RetryPolicy) (transient : ε → Bool) (toJson : ε → Json)
    (outcomes : List (Except ε Int)) : Json :=
  let pick (n : Nat) : Except ε Int :=
    match outcomes[n - 1]?, outcomes.getLast? with
    | some o, _ => o
    | none, some o => o
    | none, none => .ok 0
  match (retry p transient (fun _ => pure ()) (fun n => (pure (pick n) : Id (Except ε Int)))).run with
  | .done r attempts =>
    .obj [("result", match r with
        | .ok n => okJson (Json.int n)
        | .error e => toJson e),
      ("attempts", Json.nat attempts)]
  | .panicked => errorJson "panic" "the library panicked"

def retryDrill (req : Json) : Json :=
  let request : Read (RetryPolicy × String) := do
    let p ← policyOf (← need req "config")
    pure (p, (← optText req "error_type").getD "storage")
  match request with
  | .error m => badRequest m
  | .ok (p, "sync") =>
    match outcomesOf syncErrorOf req with
    | .ok os => runRetry p SyncError.isTransient syncErrorJson os
    | .error m => badRequest m
  | .ok (p, "storage") =>
    match outcomesOf storeErrorOf req with
    | .ok os => runRetry p StoreError.transient storeErrorJson os
    | .error m => badRequest m
  | .ok (_, t) => badRequest ("unknown error_type " ++ "\"" ++ t ++ "\"")

def policyJson (p : RetryPolicy) : Json :=
  .obj [("initial_delay_ms", Json.nat (p.initialDelay / RetryPolicy.nanosPerMilli)),
    ("max_delay_ms", Json.nat (p.maxDelay / RetryPolicy.nanosPerMilli)),
    ("factor", .num (.float p.factor)), ("max_attempts", Json.nat p.maxAttempts)]

def presetsJson : Json :=
  .obj [("startup", policyJson .startup), ("none", policyJson .once),
    ("default", policyJson .default)]

end Drill

end CrateState
