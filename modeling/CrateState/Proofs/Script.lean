import Mathlib
import CrateState.Storage.Sql

/-!
# Sessions as the statements they send

A `Session` runs its statements in turn on one connection and shows only its answer. To let
several calls' statements interleave, a call's work is a `Script` here: its next statement,
and the rest as a function of how that statement ended. `Script.session` runs a script as a
session; `Script.feed` advances it by the row counts its statements answered, all an
interleaving needs to know of a call in flight.

Adding keys is one upsert (`addScript`); taking a key a transaction of a decrement and a
delete (`takeScript`). `step_addKeys` and `step_consumeKey` show `SqlStore.step` runs exactly
these scripts, statement for statement and error for error.
-/

namespace CrateState

open Relational

/-- Work on a connection, as the statements it sends. -/
inductive Script (α : Type) where
  /-- The work is done, with its answer. -/
  | pure (a : α)
  /-- The work failed. -/
  | fail (e : DriverError)
  /-- The work sends a statement and goes on by how the statement ended. -/
  | send (c : Command) (rest : Except DriverError Nat → Script α)

namespace Script

variable {α : Type}

/-- Runs a script as a session: its statements on the connection, in order. -/
def session : Script α → Session α
  | .pure a => Pure.pure a
  | .fail e => throw e
  | .send c rest =>
    ExceptT.mk (ExceptT.run (Session.exec c) >>= fun r => ExceptT.run (rest r).session)

/-- Sends a statement and fails with its error, or goes on with its row count. -/
def statement (c : Command) (rest : Nat → Script α) : Script α :=
  .send c fun
    | .ok n => rest n
    | .error e => .fail e

/-- The statement a script sends next, unless it is done. -/
def next? : Script α → Option Command
  | .send c _ => some c
  | _ => none

/-- How a script ended, once it is done. -/
def result? : Script α → Option (Except DriverError α)
  | .pure a => some (.ok a)
  | .fail e => some (.error e)
  | .send _ _ => none

/-- The script after its next statements answered these row counts. -/
def feed : Script α → List Nat → Script α
  | .send _ rest, n :: ns => (rest (.ok n)).feed ns
  | s, _ => s

theorem run_session_send (c : Command) (rest : Except DriverError Nat → Script α) :
    ExceptT.run (send c rest).session =
      ExceptT.run (Session.exec c) >>= fun r => ExceptT.run (rest r).session := rfl

end Script

theorem run_tryCatch {α : Type} (x : Session α) (h : DriverError → Session α) :
    ExceptT.run (tryCatch x h) = ExceptT.run x >>= fun r =>
      match r with
      | .ok a => pure (.ok a)
      | .error e => ExceptT.run (h e) := by
  simp only [tryCatch, tryCatchThe, MonadExceptOf.tryCatch, ExceptT.tryCatch, ExceptT.run_mk]
  apply bind_congr
  rintro (e | a) <;> rfl

namespace SqlStore

/-- Adds keys to a balance: the upsert alone. -/
def addScript (player crate : String) (amount : Nat) : Script Unit :=
  .statement (Tables.addKeys player crate amount) fun _ => .pure ()

/-- Gives up a transaction after a failed statement: rolls back, whatever that answers,
and fails with the statement's error. -/
def abandon {α : Type} (e : DriverError) : Script α :=
  .send ⟨"ROLLBACK", []⟩ fun _ => .fail e

/-- Sends a statement of an open transaction: gives the transaction up when the statement
fails, or goes on with its row count. -/
def within {α : Type} (c : Command) (rest : Nat → Script α) : Script α :=
  .send c fun
    | .ok n => rest n
    | .error e => abandon e

/-- Takes a key in one transaction: decrements a positive balance; when that changed no
row, rolls back and answers `false`; else deletes the balance if it is at zero or below,
commits and answers `true`. -/
def takeScript (player crate : String) : Script Bool :=
  .statement ⟨"BEGIN", []⟩ fun _ =>
  within (Tables.takeKey player crate) fun taken =>
    if taken = 0 then within ⟨"ROLLBACK", []⟩ fun _ => .pure false
    else
      within (Tables.dropEmpty player crate) fun _ =>
      within ⟨"COMMIT", []⟩ fun _ => .pure true

theorem run_abandon {α : Type} (e : DriverError) :
    ExceptT.run (abandon e : Script α).session =
      ExceptT.run (Session.exec ⟨"ROLLBACK", []⟩) >>= fun _ => pure (.error e) := rfl

theorem tryCatch_pure {α : Type} (a : α) (h : DriverError → Session α) :
    tryCatch (pure a : Session α) h = pure a := rfl

theorem run_session_abandon {α : Type} (e : DriverError) :
    ExceptT.run (Session.abandon e : Session α) =
      ExceptT.run (Session.exec ⟨"ROLLBACK", []⟩) >>= fun _ => pure (.error e) := by
  simp only [Session.abandon, Session.plain, ExceptT.run_bind, run_tryCatch, bind_assoc]
  refine bind_congr fun r => ?_
  rcases r with _ | _ <;> rfl

theorem session_abandon {α : Type} (e : DriverError) :
    (abandon e : Script α).session = Session.abandon e :=
  ExceptT.ext (by rw [run_abandon, run_session_abandon])

/-- Work given up on its first failure is its parts, each given up on its own failure:
giving up never succeeds, so the rest of the work never runs after it. -/
theorem tryCatch_bind_abandon {α β : Type} (x : Session α) (f : α → Session β) :
    tryCatch (x >>= f) Session.abandon =
      tryCatch x Session.abandon >>= fun a => tryCatch (f a) Session.abandon := by
  apply ExceptT.ext
  simp only [run_tryCatch, ExceptT.run_bind, bind_assoc]
  refine bind_congr fun r => ?_
  rcases r with e | a
  · simp only [run_session_abandon, bind_assoc, pure_bind]
  · simp only [pure_bind]

theorem session_statement {α : Type} (c : Command) (rest : Nat → Script α) :
    (Script.statement c rest).session = Session.exec c >>= fun n => (rest n).session := by
  apply ExceptT.ext
  simp only [Script.statement, Script.run_session_send, ExceptT.run_bind]
  refine bind_congr fun r => ?_
  rcases r with _ | _ <;> rfl

/-- A statement of an open transaction runs as the statement caught by giving the
transaction up. -/
theorem session_within {α : Type} (c : Command) (rest : Nat → Script α) :
    (within c rest).session = tryCatch (Session.exec c) Session.abandon >>= fun n =>
      (rest n).session := by
  apply ExceptT.ext
  simp only [within, Script.run_session_send, ExceptT.run_bind, run_tryCatch, bind_assoc]
  refine bind_congr fun r => ?_
  rcases r with e | n
  · -- the rollback's outcome is ignored and the statement's error stays the answer
    simp only [← session_abandon, run_abandon, bind_assoc, pure_bind]
  · simp only [pure_bind]

theorem session_addScript (player crate : String) (amount : Nat) :
    (addScript player crate amount).session =
      (do let _ ← Session.exec (Tables.addKeys player crate amount)) := by
  apply ExceptT.ext
  simp only [addScript, Script.statement, Script.run_session_send, ExceptT.run_bind]
  apply bind_congr
  rintro (e | n) <;> rfl

/-- The session of taking a key is the store's transaction, statement for statement: both
send the same statement at each point and go on alike from each of its outcomes. -/
theorem session_takeScript (player crate : String) :
    (takeScript player crate).session = Session.transaction (do
      let taken ← Session.exec (Tables.takeKey player crate)
      if taken = 0 then pure (.rollback false)
      else
        let _ ← Session.exec (Tables.dropEmpty player crate)
        pure (.commit true)) := by
  simp only [takeScript, session_statement, session_within, Session.transaction,
    Session.plain, tryCatch_bind_abandon, bind_assoc]
  refine bind_congr fun _ => bind_congr fun taken => ?_
  -- the transaction's body ends by its own `pure`, which giving up leaves alone
  by_cases h0 : taken = 0
  · simp only [h0, if_true, session_within, tryCatch_pure, pure_bind]
    rfl
  · simp only [h0, if_false, session_within, tryCatch_bind_abandon, bind_assoc, tryCatch_pure,
      pure_bind]
    rfl

/-- Adding keys answers an amount of zero at once; any other amount runs the upsert's
script. -/
theorem step_addKeys (s : SqlStore) (now : Int) (p : PlayerId) (c : String) (n : Nat) :
    s.step now (.addKeys p c n) =
      if n = 0 then (.error (.invalidInput "key amount must be positive"), s)
      else s.use (addScript p.render c n).session := by
  rw [session_addScript]
  rfl

theorem step_consumeKey (s : SqlStore) (now : Int) (p : PlayerId) (c : String) :
    s.step now (.consumeKey p c) = s.use (takeScript p.render c).session := by
  rw [session_takeScript]
  rfl

end SqlStore

end CrateState
