import CrateState.Proofs.AllOrNothing
import CrateState.Proofs.Backends

/-!
# A target that trips between its clear and its import

A breaker target routes `migrate`'s clear and import each on its own. A primary that serves
the clear and then answers the import `unavailable` trips the breaker, and the import is
replayed on the secondary, which the clear never reached: the copy lands on what it held.

`Dropping` is a database whose server goes away after its first commit; it keeps the rules
of `Fallible` (`Fallible.dropping`). `migrate_into_tripped_target_keeps_stale_keys` copies
into a breaker over a SQL store on it and an in-memory store that already holds a balance.
-/

namespace CrateState

open Relational

section Dropping

variable {σ : Type} (run : Command → Conn σ (Relation × Nat))

/-- A database whose server goes away after the first `COMMIT` it is sent (the flag): from
then on `BEGIN` cannot get a connection and fails with a pool timeout, changing nothing. -/
def Dropping (c : Command) : Conn (σ × Bool) (Relation × Nat) :=
  ExceptT.mk fun s =>
    if s.2 && c.sql == "BEGIN" then (.error .poolTimedOut, s)
    else (((ExceptT.run (run c)).run s.1).1,
      (((ExceptT.run (run c)).run s.1).2, s.2 || c.sql == "COMMIT"))

variable {run} {view : σ → DbView}

/-- A statement other than `BEGIN` does on `Dropping` what it does on the database under
it. -/
theorem triple_dropping {c : Command} (other : c.sql ≠ "BEGIN") {V : DbView}
    {post : Except DriverError (Relation × Nat) → DbView → Prop}
    (h : Conn.Triple view V (run c) post) :
    Conn.Triple (fun s => view s.1) V (Dropping run c) post := by
  rintro ⟨db, down⟩ hdb
  have served : (down && c.sql == "BEGIN") = false := by simp [other]
  simp only [Dropping, ExceptT.run_mk, StateT.run, served, Bool.false_eq_true, if_false]
  exact h db hdb

/-- **`Dropping` keeps the rules**: a `BEGIN` after the server went away fails and changes
nothing, as a `BEGIN` may, and every other statement is the one under it. -/
theorem Fallible.dropping (rules : Fallible run view) :
    Fallible (Dropping run) fun s => view s.1 where
  begin st := by
    rintro ⟨db, down⟩ hdb
    cases down
    · simp only [Dropping, ExceptT.run_mk, StateT.run, Bool.false_and, Bool.false_eq_true,
        if_false]
      exact rules.begin st db hdb
    · -- the server is gone: the pool times out and the tables stay as they are
      exact hdb
  commit st₀ st := triple_dropping (by decide) (rules.commit st₀ st)
  rollback st₀ st := triple_dropping (by decide) (rules.rollback st₀ st)
  rollbackOutside st := triple_dropping (by decide) (rules.rollbackOutside st)
  takeKey st₀ st p c := triple_dropping (by simp [Tables.takeKey]) (rules.takeKey st₀ st p c)
  dropEmpty st₀ st p c :=
    triple_dropping (by simp [Tables.dropEmpty]) (rules.dropEmpty st₀ st p c)
  firstWaiting st₀ st p c r :=
    triple_dropping (by simp [Tables.firstWaiting]) (rules.firstWaiting st₀ st p c r)
  markRow st₀ st id := triple_dropping (by simp [Tables.markRow]) (rules.markRow st₀ st id)
  logDelivery st₀ st p c r t ht :=
    triple_dropping (by simp [Tables.logDelivery]) (rules.logDelivery st₀ st p c r t ht)
  clearTable st₀ st t ht := by
    refine triple_dropping ?_ (rules.clearTable st₀ st t ht)
    simp only [Tables.all, List.mem_cons, List.not_mem_nil, or_false] at ht
    rcases ht with rfl | rfl | rfl | rfl | rfl | rfl <;> simp [Tables.clearTable]
  setCooldown st₀ st p c t ht :=
    triple_dropping (by simp [Tables.setCooldown]) (rules.setCooldown st₀ st p c t ht)
  addKeys st₀ st p c n hn hsum :=
    triple_dropping (by simp [Tables.addKeys]) (rules.addKeys st₀ st p c n hn hsum)
  logOpen st₀ st p c r t ht :=
    triple_dropping (by simp [Tables.logOpen]) (rules.logOpen st₀ st p c r t ht)

end Dropping

/-- **A copy into a target that trips after its clear keeps the secondary's rows.** The
source holds one key of a slot, the target's secondary five. The import's `BEGIN` times out
after the clear's commit, the breaker trips, and the import lands on the secondary: the copy
succeeds with no mismatch, and the target lists six keys where the source lists one. -/
theorem migrate_into_tripped_target_keeps_stale_keys :
    let run := Dropping MemoryDatabase.run
    let holding (n : Nat) : Backend (DbView × Bool) :=
      ((Backend.memory {}).step run 0 (.addKeys PlayerId.nil "c" n)).2
    let P : Backend (DbView × Bool) := .sql ⟨none, (⟨{}, none⟩, false)⟩
    let r := (migrate (Backend.source run 0) (Backend.target run 0)).run
      (holding 1, .fallback ⟨false⟩ P (holding 5))
    Fallible run (fun s => s.1) ∧ P.Reachable run (fun s => s.1) ∧
      (holding 1).Reachable run (fun s => s.1) ∧ (holding 5).Reachable run (fun s => s.1) ∧
      (r.1.success = true ∧ r.1.mismatches = [] ∧
        ((holding 1).step run 0 .snapshot).1.map Snapshot.keyBalances =
          .ok [⟨PlayerId.nil, "c", 1⟩] ∧
        (r.2.2.step run 0 .snapshot).1.map Snapshot.keyBalances =
          .ok [⟨PlayerId.nil, "c", 6⟩]) := by
  intro run holding P r
  have reach (n : Nat) (hn : n ≤ maxKeys) : (holding n).Reachable run (fun s => s.1) :=
    .step 0 _ (.fresh rfl) ⟨by decide, hn⟩
  refine ⟨Fallible.dropping MemoryDatabase.fallible, .fresh rfl, reach 1 (by decide),
    reach 5 (by decide), ?_⟩
  dsimp only [r, P, holding, run]
  decide +kernel

end CrateState
