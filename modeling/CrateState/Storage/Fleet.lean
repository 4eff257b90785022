import CrateState.Storage.Local
import CrateState.Storage.Sql
import CrateState.Storage.Faults
import CrateState.Storage.Breaker

/-!
# A fleet of stores

Stores can be stacked: a fault injector wraps one store, a breaker sits over a primary
and a secondary. A `Fleet` holds stores in a list and lets a wrapper name the stores it
wraps by their position, so a store can be reached both through its wrappers and
directly, and both ways see the same state.

A wrapper names only stores before it, so every chain of calls descends the list; each
function here takes fuel (twice the number of stores is enough) to say so.
-/

namespace CrateState

/-- One store of a fleet. -/
inductive Store where
  /-- An in-memory store. -/
  | memory (s : LocalStore)
  /-- A SQL store. -/
  | sql (s : SqlStore)
  /-- A fault injector over the store at position `inner`. -/
  | faults (inner : Nat) (f : Faults)
  /-- A breaker over the stores at positions `primary` and `secondary`. -/
  | breaker (primary secondary : Nat) (b : Breaker)

/-- Stores, each named by its position. -/
structure Fleet where
  stores : List Store := []

namespace Fleet

/-- The store at a position. -/
def get? (fl : Fleet) (i : Nat) : Option Store := fl.stores[i]?

/-- Replaces the store at a position. -/
def put (fl : Fleet) (i : Nat) (s : Store) : Fleet := { stores := fl.stores.set i s }

/-- Adds a store, answering its position. -/
def add (fl : Fleet) (s : Store) : Nat × Fleet := (fl.stores.length, { stores := fl.stores ++ [s] })

/-- Enough fuel for any chain of calls in the fleet. -/
def fuel (fl : Fleet) : Nat := 2 * fl.stores.length + 2

/-- The name a store reports: a breaker reports its active tier's. -/
def nameAt : Nat → Fleet → Nat → String
  | 0, _, _ => ""
  | fuel + 1, fl, i =>
    match fl.get? i with
    | some (.memory _) => LocalStore.name
    | some (.sql _) => SqlStore.name
    | some (.faults _ f) => f.name
    | some (.breaker p q b) => nameAt fuel fl (if b.tripped then q else p)
    | none => ""

/-- Whether a store keeps history: a breaker answers for its active tier, a fault
injector for the store it wraps unless told otherwise. -/
def historyAt : Nat → Fleet → Nat → Bool
  | 0, _, _ => false
  | fuel + 1, fl, i =>
    match fl.get? i with
    | some (.memory _) => false
    | some (.sql _) => true
    | some (.faults j f) => f.history.getD (historyAt fuel fl j)
    | some (.breaker p q b) => historyAt fuel fl (if b.tripped then q else p)
    | none => false

/-- Answers a call made to the store at position `i`. `now` is the current time. -/
def callAt : Nat → Fleet → Nat → Int → (c : Call) → Reply c × Fleet
  | 0, fl, _, _, _ => (.error (.backend "stores nested too deeply"), fl)
  | fuel + 1, fl, i, now, c =>
    match fl.get? i with
    | none => (.error (.backend "no such store"), fl)
    | some (.memory s) =>
      let (r, s') := s.handle now c
      (r, fl.put i (.memory s'))
    | some (.sql s) =>
      let (r, s') := (s.withClock now).step now c
      (r, fl.put i (.sql s'))
    | some (.faults j f) =>
      match c with
      | .import snap =>
        let run : StateM Fleet (Except StoreError ImportOutcome) :=
          replay (fun c' => modifyGet fun st => callAt fuel st i now c')
            (do let st ← get; pure (historyAt fuel st i)) snap
        run.run fl
      | c =>
        let (f', failure) := f.next
        let fl := fl.put i (.faults j f')
        match failure with
        | some e => (.error e, fl)
        | none => callAt fuel fl j now c
    | some (.breaker p q b) =>
      let run : StateM Fleet (Reply c × Breaker) :=
        b.route (fun c' => modifyGet fun st => callAt fuel st p now c')
          (fun c' => modifyGet fun st => callAt fuel st q now c') c
      let ((r, b'), fl') := run.run fl
      (r, fl'.put i (.breaker p q b'))

/-- Closes a store: an in-memory store is emptied, a pool closed, a breaker closes both
its stores; a fault injector passes the close on without counting it. -/
def closeAt : Nat → Fleet → Nat → Fleet
  | 0, fl, _ => fl
  | fuel + 1, fl, i =>
    match fl.get? i with
    | some (.memory s) => fl.put i (.memory (s.step 0 .clear).2)
    | some (.sql s) => fl.put i (.sql s.close)
    | some (.faults j _) => closeAt fuel fl j
    | some (.breaker p q _) => closeAt fuel (closeAt fuel fl p) q
    | none => fl

/-- Answers a call made to the store at position `i`. -/
def call (fl : Fleet) (i : Nat) (now : Int) (c : Call) : Reply c × Fleet :=
  callAt fl.fuel fl i now c

/-- The name of the store at position `i`. -/
def name (fl : Fleet) (i : Nat) : String := nameAt fl.fuel fl i

/-- Whether the store at position `i` keeps history. -/
def keepsHistory (fl : Fleet) (i : Nat) : Bool := historyAt fl.fuel fl i

/-- Closes the store at position `i`. -/
def close (fl : Fleet) (i : Nat) : Fleet := closeAt fl.fuel fl i

/-- Gives back every connection kept from any SQL store. -/
def releaseAll (fl : Fleet) : Fleet :=
  { stores := fl.stores.map fun
      | .sql s => .sql s.release
      | s => s }

end Fleet

end CrateState
