import CrateState.Storage.Call

/-!
# Fault injection

A `Faults` wrapper numbers every data call made through it, from 1, and fails the calls
whose number is listed in `failOn` or is at least `failFrom` (0 meaning never) with a
fixed error, instead of passing them to the store it wraps. An import through the wrapper
is replayed as single calls, each numbered. It lets tests and drills see how callers
behave when a store fails at a chosen moment.
-/

namespace CrateState

/-- The settings and call counter of a fault-injecting wrapper. -/
structure Faults where
  /-- Call numbers that fail. -/
  failOn : List Nat := []
  /-- Every call from this number on fails; 0 means never. -/
  failFrom : Nat := 0
  /-- The error of a failed call. -/
  error : StoreError := .unavailable "injected: connection refused"
  /-- The name to report, if not the default `failing`. -/
  label : Option String := none
  /-- Whether to claim to keep history, if not the wrapped store's answer. -/
  history : Option Bool := none
  /-- Calls numbered so far. -/
  calls : Nat := 0

namespace Faults

/-- The name the wrapper reports. -/
def name (f : Faults) : String := f.label.getD "failing"

/-- Whether call number `n` fails. -/
def fails (f : Faults) (n : Nat) : Bool :=
  f.failOn.contains n || (f.failFrom ≠ 0 && n ≥ f.failFrom)

/-- Numbers the next call: the wrapper with its counter raised, and the error when this
call is one that fails. -/
def next (f : Faults) : Faults × Option StoreError :=
  let n := f.calls + 1
  ({ f with calls := n }, if f.fails n then some f.error else none)

end Faults

end CrateState
