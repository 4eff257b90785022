import CrateState.Proofs.MigrationCopy

/-!
# A bulk import writes what a replay writes

The SQL store imports a snapshot in one transaction of upserts and inserts
(`SqlStore.importAll`); a store without an import of its own replays it through its calls
(`replay`): a cooldown per record, keys added per positive balance, an open or delivery per
history entry. `SqlModel.replayImport` is that replay on the SQL store.

Both answer the same counts and leave the same tables (`bulk_import_agrees_with_replay`),
read off `Stored.imported`:

* a slot's cooldown is the snapshot's last for it (`get?_imported_cooldowns`);
* a slot's balance is what it held plus the snapshot's positive amounts for it
  (`get?_imported_keys`);
* opens and deliveries are appended in order, a delivery without reward with the empty one
  (`imported_opens`, `imported_deliveries`);
* locks and waiting rewards are left alone.

Each call answers and moves the tables as its `Answers` lemma says (`call_of_answers`), and
each loop of `replay` is an induction over its list.
-/

namespace CrateState

open Relational

/-! ### What an import leaves in the tables -/

namespace Stored

/-- Appending history one entry after another appends the opens to the open table and the
deliveries to the delivery table, each in the order of the entries. -/
theorem foldl_importEntry (hs : List HistoryEntry) (st : Stored) :
    hs.foldl importEntry st =
      { st with
        opens := st.opens ++ (hs.filter (·.kind = .open)).map fun e =>
          (e.player.render, e.crate, e.reward, e.time)
        deliveries := st.deliveries ++ (hs.filter (·.kind = .delivery)).map fun e =>
          (e.player.render, e.crate, e.reward.getD "", e.time) } := by
  induction hs generalizing st with
  | nil => simp
  | cons e hs ih =>
    rw [List.foldl_cons, ih]
    cases hk : e.kind <;> simp [importEntry, hk, logOpen, logDelivery]

variable (st : Stored) (snap : Snapshot)

/-- **Later cooldowns win.** After an import a slot holds the last cooldown the snapshot lists
for it, or the one it held when the snapshot lists none. -/
theorem get?_imported_cooldowns (k : SlotKey) :
    Assoc.get? (st.imported snap).cooldowns k =
      (((snap.cooldowns.filter (·.keyed.1 = k)).getLast?).map (·.lastUsed)).or
        (Assoc.get? st.cooldowns k) := by
  simp only [imported, (importEntry_keeps _ _).1, foldl_importBalance, foldl_importCooldown]
  rw [Assoc.get?_foldl_set, List.filter_map, List.getLast?_map, Option.map_map]
  rfl

/-- **Balances are summed.** After an import a slot holds what it held, none counting as zero,
plus the snapshot's positive amounts for it; a slot with no positive amount keeps what it
held. -/
theorem get?_imported_keys (k : SlotKey) :
    Assoc.get? (st.imported snap).keys k =
      if snap.keyBalances.any (fun b => b.amount > 0 ∧ b.keyed.1 = k) then
        some ((Assoc.get? st.keys k).getD 0 +
          ((snap.keyBalances.filter fun b => b.amount > 0 ∧ b.keyed.1 = k).map
            fun b => (b.amount : Int)).sum)
      else Assoc.get? st.keys k := by
  simp only [imported, (importEntry_keeps _ _).2, foldl_importBalance, foldl_importCooldown]
  rw [Assoc.get?_foldl_add, List.filter_map, List.filter_filter, List.map_map, List.any_map,
    List.any_filter]
  simp [Function.comp_def, Bool.and_comm]

theorem imported_opens :
    (st.imported snap).opens = st.opens ++ (snap.history.filter (·.kind = .open)).map fun e =>
      (e.player.render, e.crate, e.reward, e.time) := by
  simp [imported, foldl_importEntry, foldl_importBalance, foldl_importCooldown]

/-- The deliveries of a snapshot are appended to the delivery table, in order, a delivery
without a reward with the empty reward. -/
theorem imported_deliveries :
    (st.imported snap).deliveries =
      st.deliveries ++ (snap.history.filter (·.kind = .delivery)).map fun e =>
        (e.player.render, e.crate, e.reward.getD "", e.time) := by
  simp [imported, foldl_importEntry, foldl_importBalance, foldl_importCooldown]

theorem imported_locks_pending :
    (st.imported snap).locks = st.locks ∧ (st.imported snap).pending = st.pending := by
  simp [imported, foldl_importEntry, foldl_importBalance, foldl_importCooldown]

end Stored

/-! ### The replay on the SQL store -/

namespace SqlModel

variable {σ : Type} (run : Command → Conn σ (Relation × Nat)) (view : σ → DbView)

/-- A call of the SQL store, run in the state monad over the store. -/
def call (now : Int) (c : Call) : StateM (SqlModel σ) (Reply c) :=
  modifyGet fun s => s.step run now c

/-- The import of a store that brings none of its own, on the SQL store: the snapshot replayed
through the store's calls, history included, since the store keeps it. -/
def replayImport (now : Int) (snap : Snapshot) :
    StateM (SqlModel σ) (Except StoreError ImportOutcome) :=
  replay (call run now) (pure true) snap

/-- The store gets connections, and its database shows tables `st` outside any
transaction. -/
def Shows (s : SqlModel σ) (st : Stored) : Prop := s.blocked = none ∧ view s.db = ⟨st, none⟩

variable {run view}

@[simp] theorem call_run (now : Int) (c : Call) (s : SqlModel σ) :
    (call run now c).run s = s.step run now c := rfl

theorem stateM_run_pure {τ α : Type} (a : α) (s : τ) : (pure a : StateM τ α).run s = (a, s) :=
  rfl

/-- A call whose documented answer is `a`, leaving tables `st'`, does so in the state
monad too, and the store still gets connections. -/
theorem call_of_answers {now : Int} {c : Call} {st st' : Stored} {a : Reply c}
    (h : Answers run view now c ⟨st, none⟩ fun r V' => r = a ∧ V' = ⟨st', none⟩)
    {s : SqlModel σ} (hs : s.Shows view st) :
    ((call run now c).run s).1 = a ∧ ((call run now c).run s).2.Shows view st' := by
  obtain ⟨answer, tables⟩ := h s hs.1 hs.2
  exact ⟨answer, (blocked_step s now c).trans hs.1, tables⟩

variable (hd : Documented run view) (now : Int)
include hd

theorem replay_cooldowns (rs : List Cooldown) (fit : ∀ r ∈ rs, InI64 r.lastUsed) (n : Nat)
    {s : SqlModel σ} {st : Stored} (hs : s.Shows view st) :
    ((Replay.cooldowns (call run now) rs n).run s).1 = .ok (n + rs.length) ∧
      ((Replay.cooldowns (call run now) rs n).run s).2.Shows view
        (rs.foldl Stored.importCooldown st) := by
  induction rs generalizing n s st with
  | nil => exact ⟨rfl, hs⟩
  | cons r rs ih =>
    obtain ⟨answer, hs'⟩ := call_of_answers
      ((answers_setCooldown hd now r.player r.crate r.lastUsed (fit r List.mem_cons_self) _).mono
        fun a V' h => h) hs
    obtain ⟨rest, final⟩ := ih (fun r' hr' => fit r' (List.mem_cons_of_mem _ hr')) (n + 1) hs'
    simp only [Replay.cooldowns, stateM_run_bind, answer]
    refine ⟨?_, final⟩
    rw [rest, List.length_cons, Nat.add_assoc, Nat.add_comm 1]

/-- Replaying balances adds each positive one, in order, and counts them; a zero balance is
passed over. -/
theorem replay_balances (bs : List KeyBalance) (n : Nat) {s : SqlModel σ} {st : Stored}
    (fit : StepsFit (fun b st => InI64 b.amount ∧
        InI64 ((Assoc.get? st.keys (b.player.render, b.crate)).getD 0 + b.amount))
      (fun b st => st.importBalance b) (bs.filter (·.amount > 0)) st)
    (hs : s.Shows view st) :
    ((Replay.balances (call run now) bs n).run s).1 =
        .ok (n + (bs.filter (·.amount > 0)).length) ∧
      ((Replay.balances (call run now) bs n).run s).2.Shows view
        ((bs.filter (·.amount > 0)).foldl Stored.importBalance st) := by
  induction bs generalizing n s st with
  | nil => exact ⟨rfl, hs⟩
  | cons b bs ih =>
    by_cases zero : b.amount = 0
    · have skipped : (b :: bs).filter (·.amount > 0) = bs.filter (·.amount > 0) := by
        simp [zero]
      rw [skipped] at fit ⊢
      simpa only [Replay.balances, zero, if_true] using ih n fit hs
    · have kept : (b :: bs).filter (·.amount > 0) = b :: bs.filter (·.amount > 0) := by
        simp [Nat.pos_of_ne_zero zero]
      rw [kept] at fit ⊢
      obtain ⟨⟨typed, sum⟩, fit⟩ := fit
      obtain ⟨answer, hs'⟩ := call_of_answers
        ((answers_addKeys hd now b.player b.crate (Nat.pos_of_ne_zero zero) typed _ sum).mono
          fun a V' h => h) hs
      obtain ⟨rest, final⟩ := ih (n + 1) fit hs'
      simp only [Replay.balances, zero, if_false, stateM_run_bind, answer]
      refine ⟨?_, final⟩
      rw [rest, List.length_cons, Nat.add_assoc, Nat.add_comm 1]

theorem replay_history (hs : List HistoryEntry) (fit : ∀ h ∈ hs, InI64 h.time) (n : Nat)
    {s : SqlModel σ} {st : Stored} (shows : s.Shows view st) :
    ((Replay.history (call run now) hs n).run s).1 = .ok (n + hs.length) ∧
      ((Replay.history (call run now) hs n).run s).2.Shows view
        (hs.foldl Stored.importEntry st) := by
  induction hs generalizing n s st with
  | nil => exact ⟨rfl, shows⟩
  | cons h hs ih =>
    have time := fit h List.mem_cons_self
    have later : ∀ h' ∈ hs, InI64 h'.time := fun h' hh' => fit h' (List.mem_cons_of_mem _ hh')
    rw [List.foldl_cons, List.length_cons, ← Nat.add_comm 1 hs.length, ← Nat.add_assoc]
    -- the entry is logged as an open or a delivery, and the rest replayed after it
    cases hk : h.kind with
    | «open» =>
      obtain ⟨logged, shows'⟩ := call_of_answers
        ((answers_logOpen hd now h.player h.crate h.reward h.time time _).mono
          fun a V' h => h) shows
      have entry : st.importEntry h = st.logOpen h.player.render h.crate h.reward h.time := by
        simp [Stored.importEntry, hk]
      rw [entry]
      simpa only [Replay.history, hk, stateM_run_bind, stateM_run_pure, logged, Except.map] using
        ih later (n + 1) shows'
    | delivery =>
      obtain ⟨logged, shows'⟩ := call_of_answers
        ((answers_recordDelivery hd now h.player h.crate (h.reward.getD "") h.time time _).mono
          fun a V' h => h) shows
      have entry : st.importEntry h =
          st.logDelivery h.player.render h.crate (h.reward.getD "") h.time := by
        simp [Stored.importEntry, hk]
      rw [entry]
      simpa only [Replay.history, hk, stateM_run_bind, stateM_run_pure, logged, Except.map] using
        ih later (n + 1) shows'

/-- **The replayed import** writes the cooldowns, the positive balances and the history, in
that order, and counts each; it drops no history. -/
theorem replayImport_run (snap : Snapshot) {s : SqlModel σ} {st : Stored}
    (hfit : st.ImportFits snap) (hs : s.Shows view st) :
    ((replayImport run now snap).run s).1 =
        .ok { cooldowns := snap.cooldowns.length,
              keyBalances := (snap.keyBalances.filter (·.amount > 0)).length,
              history := snap.history.length } ∧
      ((replayImport run now snap).run s).2.Shows view (st.imported snap) := by
  obtain ⟨times, sums, historyTimes⟩ := hfit
  obtain ⟨cooldowns, hs₁⟩ := replay_cooldowns hd now snap.cooldowns times 0 hs
  obtain ⟨balances, hs₂⟩ := replay_balances hd now snap.keyBalances 0 sums hs₁
  obtain ⟨history, hs₃⟩ := replay_history hd now snap.history historyTimes 0 hs₂
  simp only [replayImport, replay, stateM_run_bind, stateM_run_pure, cooldowns, balances, history,
    Nat.zero_add, Bool.not_true, Bool.false_eq_true, if_false]
  exact ⟨trivial, hs₃⟩

end SqlModel

/-! ### The two imports agree -/

section Agreement

variable {σ : Type} {run : Command → Conn σ (Relation × Nat)} {view : σ → DbView}
  (hd : Documented run view) (now : Int)
include hd

/-- **A bulk import writes what a replay writes.** Over a database that keeps its documented
rules, from any tables outside a transaction and with a connection, an import of a snapshot
whose values fit their columns answers as the replay of the snapshot through the store's own
calls: the number of cooldowns, of positive balances and of history entries, dropping none.
Both leave the same tables, which hold the last cooldown the snapshot lists for each slot, the
sum of each slot's positive amounts added to what it held, and the opens and deliveries
appended in the snapshot's order, a delivery without a reward with the empty reward; locks
and waiting rewards stay as they were. -/
theorem bulk_import_agrees_with_replay (s : SqlModel σ) (hb : s.blocked = none) {st : Stored}
    (hv : view s.db = ⟨st, none⟩) (snap : Snapshot) (hfit : st.ImportFits snap) :
    (s.step run now (.import snap)).1 = ((SqlModel.replayImport run now snap).run s).1 ∧
      view (s.step run now (.import snap)).2.db =
        view ((SqlModel.replayImport run now snap).run s).2.db ∧
      (s.step run now (.import snap)).1 =
        .ok { cooldowns := snap.cooldowns.length,
              keyBalances := (snap.keyBalances.filter (·.amount > 0)).length,
              history := snap.history.length, droppedHistory := 0 } ∧
      ∃ st', view (s.step run now (.import snap)).2.db = ⟨st', none⟩ ∧
        (∀ k, Assoc.get? st'.cooldowns k =
          (((snap.cooldowns.filter (·.keyed.1 = k)).getLast?).map (·.lastUsed)).or
            (Assoc.get? st.cooldowns k)) ∧
        (∀ k, Assoc.get? st'.keys k =
          if snap.keyBalances.any (fun b => b.amount > 0 ∧ b.keyed.1 = k) then
            some ((Assoc.get? st.keys k).getD 0 +
              ((snap.keyBalances.filter fun b => b.amount > 0 ∧ b.keyed.1 = k).map
                fun b => (b.amount : Int)).sum)
          else Assoc.get? st.keys k) ∧
        st'.opens = st.opens ++ (snap.history.filter (·.kind = .open)).map (fun e =>
          (e.player.render, e.crate, e.reward, e.time)) ∧
        st'.deliveries = st.deliveries ++ (snap.history.filter (·.kind = .delivery)).map (fun e =>
          (e.player.render, e.crate, e.reward.getD "", e.time)) ∧
        st'.locks = st.locks ∧ st'.pending = st.pending := by
  obtain ⟨bulk, bulkTables⟩ := SqlModel.answers_import hd now st snap hfit s hb hv
  obtain ⟨replayed, _, replayTables⟩ := SqlModel.replayImport_run hd now snap hfit ⟨hb, hv⟩
  refine ⟨bulk.trans replayed.symm, bulkTables.trans replayTables.symm, bulk, st.imported snap,
    bulkTables, Stored.get?_imported_cooldowns st snap, Stored.get?_imported_keys st snap,
    Stored.imported_opens st snap, Stored.imported_deliveries st snap,
    Stored.imported_locks_pending st snap⟩

end Agreement

/-- Over the memory database, into empty tables: two cooldowns of one slot, a zero balance and
two positive ones of one slot, and a delivery without a reward before an open. Both imports
count two of each and leave the same tables. -/
theorem bulk_import_agrees_on_duplicates :
    let snap : Snapshot :=
      { cooldowns := [⟨PlayerId.nil, "c", 1⟩, ⟨PlayerId.nil, "c", 2⟩]
        keyBalances := [⟨PlayerId.nil, "c", 0⟩, ⟨PlayerId.nil, "c", 3⟩, ⟨PlayerId.nil, "c", 4⟩]
        history := [⟨PlayerId.nil, "c", none, .delivery, 5⟩, ⟨PlayerId.nil, "c", none, .open, 6⟩] }
    let s : SqlModel DbView := ⟨none, ⟨{}, none⟩⟩
    Documented MemoryDatabase.run id ∧ s.blocked = none ∧ id s.db = ⟨{}, none⟩ ∧
      Stored.ImportFits {} snap ∧
      (s.step MemoryDatabase.run 0 (.import snap)).1 =
        ((SqlModel.replayImport MemoryDatabase.run 0 snap).run s).1 ∧
      id (s.step MemoryDatabase.run 0 (.import snap)).2.db =
        id ((SqlModel.replayImport MemoryDatabase.run 0 snap).run s).2.db := by
  intro snap s
  have fits : Stored.ImportFits {} snap := by
    simp [snap, Stored.ImportFits, StepsFit, InI64, Stored.importBalance, Stored.importCooldown,
      Stored.addKeys, Stored.setCooldown, Assoc.get?, Assoc.set]
  obtain ⟨answers, tables, -⟩ :=
    bulk_import_agrees_with_replay MemoryDatabase.documented 0 s rfl rfl snap fits
  exact ⟨MemoryDatabase.documented, rfl, rfl, fits, answers, tables⟩

end CrateState
