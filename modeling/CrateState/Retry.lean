import CrateState.Storage.Error
import CrateState.Sync.Error
import CrateState.Decimal.Shortest

/-!
# Retrying transient failures

`retry` calls an operation until it succeeds, fails with a non-transient error, or has been
tried `maxAttempts` times (at least once). Between tries it waits, from `initialDelay`,
multiplying by `factor` after each wait, never above `maxDelay`; waiting is an effect of the
operation's monad (`wait`), so a run can be observed with its waits.

Waits are whole nanoseconds. A wait is scaled in seconds as a double and turned back into
nanoseconds by rounding the exact product (ties to even). A negative, not-a-number or too
large product (2^64 seconds or more) has no duration, and the run stops there
(`Retried.panicked`), after the wait it was scaling. A zero wait stays zero under any finite
factor, so such a factor fails only once a wait is positive.

Transient errors: `unavailable` stores; sync transport and ledger failures.
-/

namespace CrateState

/-- How often and how patiently to retry. -/
structure RetryPolicy where
  /-- The first wait, in nanoseconds. -/
  initialDelay : Nat
  /-- The longest wait, in nanoseconds. -/
  maxDelay : Nat
  /-- What each wait is multiplied by for the next. -/
  factor : Float
  /-- The most tries; 0 counts as 1. -/
  maxAttempts : Nat

namespace RetryPolicy

def nanosPerMilli : Nat := 1000000

/-- For startup: five tries, waits from 200 ms doubling up to 2 s. -/
def startup : RetryPolicy := ⟨200 * nanosPerMilli, 2000 * nanosPerMilli, 2.0, 5⟩

/-- One try, no wait. -/
def once : RetryPolicy := ⟨0, 0, 1.0, 1⟩

/-- The default policy, the startup one. -/
def default : RetryPolicy := startup

/-- `a / b` rounded to the nearest whole number, a tie to the even one. -/
def nearestQuotient (a b : Nat) : Nat :=
  let q := a / b
  let r := a % b
  if 2 * r > b then q + 1
  else if 2 * r < b then q
  else if q % 2 = 0 then q else q + 1

/-- A number of seconds given as a double, in whole nanoseconds; `none` for a negative,
not-a-number or infinite number, or one of 2^64 seconds or more. Negative zero is zero. -/
def nanosOfSeconds (secs : Float) : Option Nat :=
  match Decimal.exact secs with
  | none => none
  | some x =>
    let (num, den) := x.fraction
    if x.negative && num != 0 then none
    else if num ≥ Nat.pow 2 64 * den then none
    else some (nearestQuotient (num * 1000000000) den)

/-- A number of nanoseconds as seconds in a double: whole seconds plus the fraction. -/
def secondsOfNanos (nanos : Nat) : Float :=
  Float.ofNat (nanos / 1000000000) + Float.ofNat (nanos % 1000000000) / 1e9

/-- The wait after `delay` (nanoseconds): the scaled wait capped at the longest wait, or
`none` when the scaled wait is no duration. -/
def nextDelay (p : RetryPolicy) (delay : Nat) : Option Nat :=
  (nanosOfSeconds (p.factor * secondsOfNanos delay)).map (min · p.maxDelay)

end RetryPolicy

/-- How a retried run ended. -/
inductive Retried (ε α : Type) where
  /-- With this result after this many tries. -/
  | done (result : Except ε α) (attempts : Nat)
  /-- A wait could not be scaled. -/
  | panicked

/-- Tries `operation` (given the try number, from 1) with `left` more tries allowed after
this one and the current wait `delay`; `transient` says which errors are worth another
try, and `wait` waits a number of nanoseconds. -/
def retryLoop {m : Type → Type} [Monad m] {ε α : Type} (p : RetryPolicy) (transient : ε → Bool)
    (wait : Nat → m Unit) (operation : Nat → m (Except ε α)) : Nat → Nat → Nat → m (Retried ε α)
  | left, attempt, delay => do
    let attempt := attempt + 1
    match ← operation attempt with
    | .ok a => pure (.done (.ok a) attempt)
    | .error e =>
      match left with
      | 0 => pure (.done (.error e) attempt)
      | left + 1 =>
        if !transient e then pure (.done (.error e) attempt)
        else do
          wait delay
          match p.nextDelay delay with
          | none => pure .panicked
          | some d => retryLoop p transient wait operation left attempt d

/-- Runs `operation` under the policy, waiting with `wait` between tries. -/
def retry {m : Type → Type} [Monad m] {ε α : Type} (p : RetryPolicy) (transient : ε → Bool)
    (wait : Nat → m Unit) (operation : Nat → m (Except ε α)) : m (Retried ε α) :=
  retryLoop p transient wait operation (max p.maxAttempts 1 - 1) 0 p.initialDelay

/-- Whether a store error is worth another try. -/
def StoreError.transient (e : StoreError) : Bool := e.isUnavailable

end CrateState
