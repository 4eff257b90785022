import CrateState.Proofs.MirrorCalls
import CrateState.Proofs.MemoryDatabase

/-!
# The in-memory store and the SQL store answer alike

Run the same calls, each at its own time, on a fresh in-memory store and on a SQL store over
empty tables of a documented database. As long as the values fit their columns (times in 64
bits, amounts in 32), the calls are fewer than 2^63 (every queued reward gets an id), and no
call takes an in-memory balance past `maxKeys`, every call gets the same answer from both,
up to the order a snapshot lists cooldowns and balances and an import's history counts, and
the tables end holding what the in-memory store holds
(`stores_answer_alike_below_max_keys`): a simulation with invariant `Mirrors`, step
`mirror_step` and run `mirror_run`.

The last condition cannot be dropped: the in-memory store stops a balance at `maxKeys`, the
tables keep the sum and clamp it when read. Add `maxKeys` keys and one more, take one, and
count: `maxKeys − 1` in memory, `maxKeys` in the tables (`key_counts_part_past_max_keys`).
-/

namespace CrateState

open Relational

/-- Two calls with their answers agree: the same call, answered alike (`Reply.Agree`). -/
inductive Answered.Agree : Answered → Answered → Prop
  | mk {c : Call} {r r' : Reply c} : Reply.Agree c r r' → Answered.Agree ⟨c, r⟩ ⟨c, r'⟩

/-- Runs calls on the SQL store one after another, each at its own time, collecting each
call with its answer. -/
def SqlModel.runCalls {σ : Type} (run : Command → Conn σ (Relation × Nat)) (s : SqlModel σ) :
    List (Int × Call) → List Answered × SqlModel σ
  | [] => ([], s)
  | (now, c) :: cs =>
    let (rs, s') := runCalls run (s.step run now c).2 cs
    (⟨c, (s.step run now c).1⟩ :: rs, s')

/-- No call of the run takes a balance of the in-memory store past `maxKeys`. -/
def LocalStore.RunUnclamped : LocalStore → List (Int × Call) → Prop
  | _, [] => True
  | L, (now, c) :: cs => L.Unclamped c ∧ RunUnclamped (L.handle now c).2 cs

section Runs

variable {σ : Type} {run : Command → Conn σ (Relation × Nat)} {view : σ → DbView}
  (hd : Documented run view)
include hd

/-- **Runs on mirrored stores.** From tables that mirror the in-memory store, outside any
transaction and with a connection, calls whose values and times fit, that take no balance
past `maxKeys` and that leave an id for every reward they queue, get agreeing answers call by
call, and the tables after them mirror the in-memory store after them. -/
theorem mirror_run : ∀ (calls : List (Int × Call)) {L : LocalStore} {st : Stored}
    (s : SqlModel σ), Mirrors L st → s.blocked = none → view s.db = ⟨st, none⟩ →
    (∀ e ∈ calls, InI64 e.1 ∧ e.2.Typed) → L.RunUnclamped calls →
    st.lastPending + calls.length < 2 ^ 63 →
    List.Forall₂ Answered.Agree (L.run calls).1 (SqlModel.runCalls run s calls).1 ∧
      ∃ st', view (SqlModel.runCalls run s calls).2.db = ⟨st', none⟩ ∧ Mirrors (L.run calls).2 st'
  | [], _, st, _, hM, _, hv, _, _, _ => ⟨.nil, st, hv, hM⟩
  | (now, c) :: calls, L, st, s, hM, hb, hv, typed, ⟨unclamped, rest⟩, ids => by
    have fits := typed (now, c) List.mem_cons_self
    have counter := hM.counter
    simp only [List.length_cons] at ids
    -- the id a queued reward would take still fits, and one call gives at most one
    have hid : InI64 (st.lastPending + 1) := by
      constructor <;> omega
    obtain ⟨agree, st', hv', hM', given⟩ :=
      mirror_step hd hM now fits.1 hid c fits.2 unclamped s hb hv
    obtain ⟨answers, final⟩ := mirror_run calls (s.step run now c).2 hM'
      ((SqlModel.blocked_step s now c).trans hb) hv'
      (fun e he => typed e (List.mem_cons_of_mem _ he)) rest (by omega)
    exact ⟨.cons (.mk agree) answers, final⟩

/-- **The two stores answer alike while no balance passes `maxKeys`.** Over a database that
keeps its documented rules, from empty tables and with a connection, and from a fresh
in-memory store: run the same calls on both, each at its own time, fewer than 2^63 of them,
with values that fit their columns and times in 64 bits, none taking a balance of the
in-memory store past `maxKeys`. Every call gets the same answer from both, up to the order
of a snapshot's cooldowns and balances and the history counts of an import, and the tables
end mirroring the in-memory store. -/
theorem stores_answer_alike_below_max_keys (s : SqlModel σ) (hb : s.blocked = none)
    (fresh : view s.db = ⟨{}, none⟩) (calls : List (Int × Call))
    (typed : ∀ e ∈ calls, InI64 e.1 ∧ e.2.Typed) (unclamped : LocalStore.RunUnclamped {} calls)
    (short : calls.length < 2 ^ 63) :
    List.Forall₂ Answered.Agree (LocalStore.run {} calls).1 (SqlModel.runCalls run s calls).1 ∧
      ∃ st, view (SqlModel.runCalls run s calls).2.db = ⟨st, none⟩ ∧
        Mirrors (LocalStore.run {} calls).2 st :=
  mirror_run hd calls s mirrors_fresh hb fresh typed unclamped (by
    show (0 : Int) + calls.length < 2 ^ 63
    omega)

end Runs

/-- Over the memory database: keys added and taken, a reward queued and delivered, and a
snapshot, answered alike by both stores. -/
theorem stores_answer_alike_on_keys_and_rewards :
    let calls : List (Int × Call) :=
      [(5, .addKeys PlayerId.nil "c" 2), (6, .consumeKey PlayerId.nil "c"),
        (7, .queueReward PlayerId.nil "c" "gem"), (8, .markDelivered PlayerId.nil "c" "gem"),
        (9, .snapshot)]
    let s : SqlModel DbView := ⟨none, ⟨{}, none⟩⟩
    Documented MemoryDatabase.run id ∧ s.blocked = none ∧ id s.db = ⟨{}, none⟩ ∧
      (∀ e ∈ calls, InI64 e.1 ∧ e.2.Typed) ∧ LocalStore.RunUnclamped {} calls ∧
      calls.length < 2 ^ 63 ∧
      (List.Forall₂ Answered.Agree (LocalStore.run {} calls).1
          (SqlModel.runCalls MemoryDatabase.run s calls).1 ∧
        ∃ st, id (SqlModel.runCalls MemoryDatabase.run s calls).2.db = ⟨st, none⟩ ∧
          Mirrors (LocalStore.run {} calls).2 st) := by
  intro calls s
  have typed : ∀ e ∈ calls, InI64 e.1 ∧ e.2.Typed := by
    simp [calls, Call.Typed, InI64, maxKeys]
  have unclamped : LocalStore.RunUnclamped {} calls :=
    ⟨by simp [LocalStore.Unclamped, Assoc.get?, maxKeys], trivial, trivial, trivial, trivial, trivial⟩
  exact ⟨MemoryDatabase.documented, rfl, rfl, typed, unclamped, by decide,
    stores_answer_alike_below_max_keys MemoryDatabase.documented s rfl rfl calls typed unclamped
      (by decide)⟩

/-- **Past `maxKeys` the stores part.** Over the memory database, from empty stores, add
`maxKeys` keys, then one more, and take one: the in-memory store stopped at `maxKeys` and
counts `maxKeys − 1`; the tables kept the sum and count `maxKeys`, clamped. -/
theorem key_counts_part_past_max_keys :
    let calls : List (Int × Call) :=
      [(0, .addKeys PlayerId.nil "c" maxKeys), (0, .addKeys PlayerId.nil "c" 1),
        (0, .consumeKey PlayerId.nil "c")]
    ((LocalStore.run {} calls).2.handle 0 (.keyCount PlayerId.nil "c")).1 =
        .ok (4294967294 : Nat) ∧
      ((SqlModel.runCalls MemoryDatabase.run ⟨none, ⟨{}, none⟩⟩ calls).2.step MemoryDatabase.run 0
        (.keyCount PlayerId.nil "c")).1 = .ok (4294967295 : Nat) :=
  -- an answer to a count is decided as what it is, a count or a store error
  ⟨@of_decide_eq_true _ ((inferInstance : DecidableEq (Except StoreError Nat)) _ _)
      (by decide +kernel),
    @of_decide_eq_true _ ((inferInstance : DecidableEq (Except StoreError Nat)) _ _)
      (by decide +kernel)⟩

end CrateState
