import CrateState.Storage.Call

/-!
# Copying one store into another

`migrate` copies a source store into a target and checks the copy:

1. snapshot the source;
2. clear the target;
3. import the snapshot (a target without history drops it, saying how many rows);
4. snapshot the target and compare counts: cooldowns and balances must match, history less
   the dropped rows.

The first failing step ends the copy with a report naming the step and the store. Count
mismatches do not fail it; they are listed in the report and its message. Store names are
read when a message is written, so a store that switched tiers is named by the tier it
ended on. `migrate` is written for any monad reaching both stores.
-/

namespace CrateState

/-- What a store offers to a copy: its calls and its name. -/
structure StoreAccess (m : Type → Type) where
  /-- Answers a call. -/
  call : (c : Call) → m (Reply c)
  /-- The store's current name. -/
  name : m String

/-- The outcome of a copy. -/
structure MigrationReport where
  /-- Whether every step succeeded. -/
  success : Bool := false
  /-- Counts of the source snapshot (zero if it was not taken). -/
  source : Counts := {}
  /-- Counts of the target after the copy (zero unless it succeeded). -/
  target : Counts := {}
  /-- History rows the target dropped. -/
  droppedHistory : Nat := 0
  /-- The categories whose counts differ: `cooldowns`, `key_balances`, `history`. -/
  mismatches : List String := []
  /-- A one-line account of the copy. -/
  message : String := ""

/-- The JSON form of a report. -/
def MigrationReport.toJson (r : MigrationReport) : Json :=
  .obj [("success", .bool r.success), ("source", r.source.toJson), ("target", r.target.toJson),
        ("dropped_history", Json.nat r.droppedHistory),
        ("mismatches", .arr (r.mismatches.map Json.str)), ("message", .str r.message)]

/-- The categories whose expected and actual counts differ, in a fixed order. -/
def countMismatches (expected actual : Counts) : List String :=
  [("cooldowns", expected.cooldowns, actual.cooldowns),
   ("key_balances", expected.keyBalances, actual.keyBalances),
   ("history", expected.history, actual.history)].filterMap fun (n, a, b) =>
    if a = b then none else some n

def migratedMessage (src tgt : String) (counts : Counts) (dropped : Nat)
    (mismatches : List String) : String :=
  "migrated " ++ src ++ " -> " ++ tgt ++ ": " ++ counts.render ++
    (if dropped > 0 then " (" ++ toString dropped ++ " history rows dropped)" else "") ++
    (if mismatches.isEmpty then "" else "; count mismatch in " ++ ", ".intercalate mismatches)

/-- Copies `source` into `target` and reports. -/
def migrate {m : Type → Type} [Monad m] (source target : StoreAccess m) : m MigrationReport := do
  match ← source.call .snapshot with
  | .error e =>
    let n ← source.name
    pure { message := "snapshot of " ++ n ++ " failed: " ++ e.message }
  | .ok snap =>
    let counts := snap.counts
    let failed (step : String) (e : StoreError) : m MigrationReport := do
      let n ← target.name
      pure { source := counts, message := step ++ n ++ " failed: " ++ e.message }
    match ← target.call .clear with
    | .error e => failed "clearing " e
    | .ok _ =>
      match ← target.call (.import snap) with
      | .error e => failed "import into " e
      | .ok outcome =>
        match ← target.call .snapshot with
        | .error e => failed "verification snapshot of " e
        | .ok after =>
          let actual := after.counts
          let dropped := outcome.droppedHistory
          let expected := { counts with history := counts.history - min dropped counts.history }
          let mismatches := countMismatches expected actual
          let src ← source.name
          let tgt ← target.name
          pure { success := true, source := counts, target := actual, droppedHistory := dropped,
                 mismatches, message := migratedMessage src tgt actual dropped mismatches }

end CrateState
