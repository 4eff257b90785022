import CrateState.Storage.Call

/-!
# The one-way breaker

A breaker serves every call from a primary store until the primary answers a call with
`unavailable`; from then on it is *tripped* and serves every call, that one included,
from the secondary store. It never goes back. Other errors of the primary are passed to
the caller as they are.

Two calls are treated differently:

* history writes (`logOpen`, `recordDelivery`) are routed the same way but never fail the
  caller: a lost history row is not worth an error;
* `snapshot` reads the store active when it starts and never trips the breaker, so that
  a copy never silently exports the other store.

`route` states this for any monad in which the two stores are called, so the rule is
written once whatever the stores are.
-/

namespace CrateState

/-- Which store a breaker is serving from. -/
inductive Tier where
  /-- The primary store. -/
  | primary
  /-- The secondary store. -/
  | secondary
  deriving DecidableEq, Repr

/-- The lowercase name of a tier. -/
def Tier.name : Tier → String
  | .primary => "primary"
  | .secondary => "secondary"

/-- The state of a breaker: whether it has tripped. -/
structure Breaker where
  /-- Whether calls now go to the secondary store. -/
  tripped : Bool := false
  deriving DecidableEq, Repr

namespace Breaker

/-- The tier serving calls. -/
def tier (b : Breaker) : Tier := if b.tripped then .secondary else .primary

variable {m : Type → Type} [Monad m]

/-- Serves a call from the active tier, tripping on the first `unavailable` of the primary
and then serving the same call from the secondary. -/
def serve (b : Breaker) (primary secondary : (c : Call) → m (Reply c)) (c : Call) :
    m (Reply c × Breaker) := do
  if b.tripped then
    let r ← secondary c
    pure (r, b)
  else
    match ← primary c with
    | .error (.unavailable _) =>
      let r ← secondary c
      pure (r, { tripped := true })
    | r => pure (r, b)

/-- Answers a call through the breaker: `primary` and `secondary` call the two stores.
Returns the answer and the breaker's new state. -/
def route (b : Breaker) (primary secondary : (c : Call) → m (Reply c)) :
    (c : Call) → m (Reply c × Breaker)
  | .snapshot => do
    let r ← if b.tripped then secondary .snapshot else primary .snapshot
    pure (r, b)
  | .logOpen p c r t => do
    let (_, b') ← b.serve primary secondary (.logOpen p c r t)
    pure (.ok (), b')
  | .recordDelivery p c r t => do
    let (_, b') ← b.serve primary secondary (.recordDelivery p c r t)
    pure (.ok (), b')
  | c => b.serve primary secondary c

end Breaker

end CrateState
