import CrateState.Proofs.SnapshotReads

/-!
# A successful copy replaces the target with the source

`migrate` snapshots the source, clears the target, imports the snapshot into it and
snapshots the target to count what arrived (`migrate_replaces_target`).

The proof follows the four calls. A sound store's snapshot is good (`Snapshot.Good`) and
changes nothing (`snapshot_source`). A clear that answers empties the serving store
(`Backend.Emptied`), whichever store of a breaker that is. An import of a good snapshot
into an empty store answers and leaves it holding the snapshot (`Backend.Loaded`): in the
snapshot's order in memory, as `Stored.imported` in SQL; each later snapshot lists it
again. Over databases keeping their documented rules every statement answers, so no breaker
trips during the copy and the store cleared is the one loaded and read back. Where a pool
gives out after the clear, the import lands on a secondary the clear never reached
(`migrate_into_tripped_target_keeps_stale_keys`).
-/

namespace CrateState

open Relational

/-! ### Good snapshots, as the stores key them -/

theorem HistoryEntry.stored_injective : Function.Injective HistoryEntry.stored := by
  rintro ⟨p, c, r, k, t⟩ ⟨q, d, s, l, u⟩ h
  simp only [HistoryEntry.stored, Prod.mk.injEq] at h
  obtain ⟨same, rfl, rfl, rfl, rfl⟩ := h
  rw [PlayerId.render_injective same]

theorem Snapshot.Good.cooldownKeys {snap : Snapshot} (good : snap.Good) :
    ((snap.cooldowns.map Cooldown.keyed).map Prod.fst).Nodup := by
  simpa [List.map_map, Function.comp_def, Cooldown.keyed] using
    good.cooldownSlots.map Slot.key_injective

theorem Snapshot.Good.balanceKeys {snap : Snapshot} (good : snap.Good) :
    (snap.keyBalances.map fun b => b.keyed.1).Nodup := by
  simpa [List.map_map, Function.comp_def, KeyBalance.keyed] using
    good.balanceSlots.map Slot.key_injective

theorem Snapshot.Good.positive {snap : Snapshot} (good : snap.Good) :
    snap.keyBalances.filter (·.amount > 0) = snap.keyBalances :=
  List.filter_eq_self.mpr fun b hb => by simpa using (good.amounts b hb).1

/-! ### Loading an in-memory store -/

namespace LocalStore

/-- An in-memory store holds a snapshot: its cooldowns and balances are the snapshot's
records, in the snapshot's order. -/
structure Holds (L : LocalStore) (snap : Snapshot) : Prop where
  cooldowns : L.cooldowns = snap.cooldowns.map fun r => (⟨r.player, r.crate⟩, r.lastUsed)
  keys : L.keys = snap.keyBalances.map fun b => (⟨b.player, b.crate⟩, b.amount)

theorem foldl_setCooldown (now : Int) (rs : List Cooldown) (L : LocalStore) :
    rs.foldl (fun L r => (L.step now (.setCooldown r.player r.crate r.lastUsed)).2) L =
      { L with
        cooldowns := (rs.map fun r => ((⟨r.player, r.crate⟩ : Slot), r.lastUsed)).foldl
          (fun acc e => Assoc.set acc e.1 e.2) L.cooldowns } := by
  induction rs generalizing L with
  | nil => rfl
  | cons r rs ih => exact ih _

/-- Adding positive amounts one after another writes each sum, stopped at `maxKeys`, into
the balance list. -/
theorem foldl_addKeys (now : Int) {bs : List KeyBalance} (pos : ∀ b ∈ bs, 0 < b.amount)
    (L : LocalStore) :
    bs.foldl (fun L b => (L.step now (.addKeys b.player b.crate b.amount)).2) L =
      { L with
        keys := (bs.map fun b => ((⟨b.player, b.crate⟩ : Slot), b.amount)).foldl
          (fun acc e => Assoc.set acc e.1 (min ((Assoc.get? acc e.1).getD 0 + e.2) maxKeys))
          L.keys } := by
  induction bs generalizing L with
  | nil => rfl
  | cons b bs ih =>
    have added : b.amount ≠ 0 := (pos b List.mem_cons_self).ne'
    rw [List.foldl_cons, ih (fun b' hb' => pos b' (List.mem_cons_of_mem _ hb'))]
    simp only [step, added, if_false]
    rfl

/-- **An import into an in-memory store without cooldowns or balances** of a good snapshot
leaves the store holding it. -/
theorem holds_import {L : LocalStore} (hc : L.cooldowns = []) (hk : L.keys = [])
    {snap : Snapshot} (good : snap.Good) (now : Int) :
    (L.handle now (.import snap)).2.Holds snap := by
  rw [handle_import, good.positive, foldl_addKeys now (fun b hb => (good.amounts b hb).1),
    foldl_setCooldown]
  constructor
  · -- distinct slots, each written once into an empty list
    show List.foldl _ L.cooldowns _ = _
    rw [hc, Assoc.foldl_set_fresh (fun _ e => e.2) (fun _ _ _ _ => rfl), List.nil_append]
    simpa [List.map_map, Function.comp_def] using good.cooldownSlots
  · show List.foldl _ L.keys _ = _
    rw [hk, Assoc.foldl_set_fresh (fun acc e => min ((Assoc.get? acc e.1).getD 0 + e.2) maxKeys),
      List.nil_append]
    · intro acc e he absent
      obtain ⟨b, hb, rfl⟩ := List.mem_map.mp he
      simp [absent, (good.amounts b hb).2]
    · simpa [List.map_map, Function.comp_def] using good.balanceSlots

theorem snapshot_of_holds {L : LocalStore} {snap : Snapshot} (h : L.Holds snap) (now : Int) :
    L.handle now .snapshot =
      (.ok { cooldowns := snap.cooldowns, keyBalances := snap.keyBalances }, L) := by
  show L.step now .snapshot = _
  simp [step, h.cooldowns, h.keys, Function.comp_def]

end LocalStore

/-! ### Loading emptied tables -/

namespace Stored

theorem foldl_importCooldown (rs : List Cooldown) (st : Stored) :
    rs.foldl importCooldown st =
      { st with
        cooldowns := (rs.map Cooldown.keyed).foldl (fun acc e => Assoc.set acc e.1 e.2)
          st.cooldowns } := by
  induction rs generalizing st with
  | nil => rfl
  | cons r rs ih => exact ih _

theorem foldl_importBalance (bs : List KeyBalance) (st : Stored) :
    bs.foldl importBalance st =
      { st with
        keys := (bs.map fun b => (b.keyed.1, (b.amount : Int))).foldl
          (fun acc e => Assoc.set acc e.1 ((Assoc.get? acc e.1).getD 0 + e.2)) st.keys } := by
  induction bs generalizing st with
  | nil => rfl
  | cons b bs ih => exact ih _

theorem foldl_importEntry_opens {os : List HistoryEntry} (h : ∀ e ∈ os, e.kind = .open)
    (st : Stored) :
    os.foldl importEntry st =
      { st with opens := st.opens ++ os.map fun e => (e.player.render, e.crate, e.reward, e.time) } := by
  induction os generalizing st with
  | nil => simp
  | cons e os ih =>
    rw [List.foldl_cons, ih (fun e' he' => h e' (List.mem_cons_of_mem _ he'))]
    simp [importEntry, h e List.mem_cons_self, logOpen]

theorem foldl_importEntry_deliveries {ds : List HistoryEntry} (h : ∀ e ∈ ds, e.kind = .delivery)
    (st : Stored) :
    ds.foldl importEntry st =
      { st with
        deliveries := st.deliveries ++
          ds.map fun e => (e.player.render, e.crate, e.reward.getD "", e.time) } := by
  induction ds generalizing st with
  | nil => simp
  | cons e ds ih =>
    rw [List.foldl_cons, ih (fun e' he' => h e' (List.mem_cons_of_mem _ he'))]
    simp [importEntry, h e List.mem_cons_self, logDelivery]

/-- Balances under distinct keys that the tables do not hold each start a balance of their
own amount, so every sum their import binds is an amount of the snapshot. -/
theorem stepsFit_importBalance {bs : List KeyBalance} (amounts : ∀ b ∈ bs, b.amount ≤ maxKeys)
    (distinct : (bs.map fun b => b.keyed.1).Nodup) {st : Stored}
    (fresh : ∀ b ∈ bs, Assoc.get? st.keys b.keyed.1 = none) :
    StepsFit (fun b st => InI64 b.amount ∧
        InI64 ((Assoc.get? st.keys (b.player.render, b.crate)).getD 0 + b.amount))
      (fun b st => st.importBalance b) bs st := by
  induction bs generalizing st with
  | nil => trivial
  | cons b bs ih =>
    obtain ⟨outside, distinct⟩ := List.nodup_cons.mp distinct
    have typed := inI64_of_le_maxKeys (amounts b List.mem_cons_self)
    have absent : Assoc.get? st.keys (b.player.render, b.crate) = none := fresh b List.mem_cons_self
    refine ⟨⟨typed, by simpa [absent] using typed⟩,
      ih (fun b' hb' => amounts b' (List.mem_cons_of_mem _ hb')) distinct ?_⟩
    intro b' hb'
    have other : (b.player.render, b.crate) ≠ b'.keyed.1 := by
      intro same
      exact outside (List.mem_map.mpr ⟨b', hb', same.symm⟩)
    show Assoc.get? (Assoc.set st.keys _ _) _ = none
    rw [Assoc.get?_set, if_neg other]
    exact fresh b' (List.mem_cons_of_mem _ hb')

theorem importEntry_keeps (hs : List HistoryEntry) (st : Stored) :
    (hs.foldl importEntry st).cooldowns = st.cooldowns ∧ (hs.foldl importEntry st).keys = st.keys := by
  have entry : ∀ (st : Stored) (h : HistoryEntry),
      (st.importEntry h).cooldowns = st.cooldowns ∧ (st.importEntry h).keys = st.keys := by
    intro st h
    unfold importEntry
    split <;> exact ⟨rfl, rfl⟩
  exact ⟨foldl_keeps cooldowns (fun st h => (entry st h).1) hs st,
    foldl_keeps keys (fun st h => (entry st h).2) hs st⟩

section Cleared

variable (st : Stored) {snap : Snapshot} (good : snap.Good)
include good

theorem importFits_cleared : st.cleared.ImportFits snap := by
  refine ⟨good.times, ?_, good.historyTimes⟩
  rw [good.positive, foldl_importCooldown]
  exact stepsFit_importBalance (fun b hb => (good.amounts b hb).2) good.balanceKeys
    (fun _ _ => rfl)

/-- **Emptied tables loaded with a good snapshot** hold its cooldowns, keyed, in order. -/
theorem cooldowns_cleared_imported :
    (st.cleared.imported snap).cooldowns = snap.cooldowns.map Cooldown.keyed := by
  simp only [imported, (importEntry_keeps _ _).1, foldl_importBalance, foldl_importCooldown]
  rw [show st.cleared.cooldowns = [] from rfl,
    Assoc.foldl_set_fresh (fun _ e => e.2) (fun _ _ _ _ => rfl)
      (by simpa using good.cooldownKeys), List.nil_append]

theorem positiveBalances_cleared_imported :
    (st.cleared.imported snap).positiveBalances = snap.keyBalances.map KeyBalance.keyed := by
  have keys : (st.cleared.imported snap).keys =
      snap.keyBalances.map fun b => (b.keyed.1, (b.amount : Int)) := by
    simp only [imported, (importEntry_keeps _ _).2, good.positive, foldl_importBalance,
      foldl_importCooldown]
    rw [show st.cleared.keys = [] from rfl,
      Assoc.foldl_set_fresh (fun acc e => (Assoc.get? acc e.1).getD 0 + e.2), List.nil_append]
    · intro acc e _ absent
      simp [absent]
    · simpa [List.map_map, Function.comp_def] using good.balanceKeys
  rw [positiveBalances, keys, List.filter_map, List.map_map]
  have positive : snap.keyBalances.filter ((fun e : SlotKey × Int => decide (0 < e.2)) ∘
      fun b => (b.keyed.1, (b.amount : Int))) = snap.keyBalances :=
    List.filter_eq_self.mpr fun b hb => by simpa using (good.amounts b hb).1
  rw [positive]
  apply List.map_congr_left
  intro b hb
  simp [KeyBalance.keyed, clampKeys_natCast (good.amounts b hb).2]

/-- Emptied tables loaded with a good snapshot read back its history, in order: the opens,
which a good snapshot lists first, then the deliveries. -/
theorem history_cleared_imported :
    (st.cleared.imported snap).history = snap.history.map HistoryEntry.stored := by
  obtain ⟨os, ds, split, opens, deliveries⟩ := good.ordered
  simp only [imported, split, List.foldl_append, foldl_importEntry_opens opens,
    foldl_importEntry_deliveries (fun e he => (deliveries e he).1), foldl_importBalance,
    foldl_importCooldown]
  simp only [history, cleared, List.nil_append, List.map_map, List.map_append]
  congr 1
  · apply List.map_congr_left
    intro e he
    simp [HistoryEntry.stored, opens e he]
  · apply List.map_congr_left
    intro e he
    obtain ⟨kind, reward⟩ := deliveries e he
    obtain ⟨r, hr⟩ := Option.isSome_iff_exists.mp reward
    simp [HistoryEntry.stored, kind, hr]

end Cleared

end Stored

/-! ### Clearing, loading and reading back any store -/

namespace Backend

variable {σ : Type} {run : Command → Conn σ (Relation × Nat)} (view : σ → DbView)

/-- The store serving calls is empty: an in-memory store without cooldowns or balances, or a
SQL store that gets connections, on emptied tables outside a transaction. -/
def Emptied : Backend σ → Prop
  | .memory L => L.cooldowns = [] ∧ L.keys = []
  | .sql s => s.blocked = none ∧ ∃ st : Stored, view s.db = ⟨st.cleared, none⟩
  | .fallback b p q => if b.tripped then q.Emptied else p.Emptied

/-- The store serving calls holds a snapshot: an in-memory store lists its records, a SQL
store that gets connections holds emptied tables loaded with it. -/
def Loaded (snap : Snapshot) : Backend σ → Prop
  | .memory L => L.Holds snap
  | .sql s => s.blocked = none ∧ ∃ st : Stored, view s.db = ⟨st.cleared.imported snap, none⟩
  | .fallback b p q => if b.tripped then q.Loaded snap else p.Loaded snap

variable {view} (hd : Documented run view) (now : Int)
include hd

/-- **A clear that answers empties the store serving calls**, whichever store of a breaker
the answer came from. -/
theorem emptied_clear : ∀ {B : Backend σ}, B.Sound view → (B.step run now .clear).1 = .ok () →
    (B.step run now .clear).2.Emptied view
  | .memory _, _, _ => ⟨rfl, rfl⟩
  | .sql s, ⟨st, hv, _⟩, answered => by
    cases hb : s.blocked with
    | some e =>
      simp [Backend.step, SqlModel.step, SqlStore.stepVia, SqlModel.use, hb] at answered
    | none =>
      obtain ⟨-, after⟩ := SqlModel.answers_clear hd now st s hb hv
      exact ⟨(SqlModel.blocked_step s now .clear).trans hb, st, after⟩
  | .fallback b p q, ⟨hp, hq⟩, answered => by
    cases hb : b.tripped
    · cases ht : Breaker.trips .clear (p.step run now .clear).1
      · rw [step_primary run now hb ht] at answered ⊢
        simpa [Emptied, hb] using emptied_clear hp answered
      · -- the primary failed and tripped the breaker: the secondary was cleared instead
        rw [step_trips run now hb ht] at answered ⊢
        simpa [Emptied] using emptied_clear hq answered
    · rw [step_tripped run now hb] at answered ⊢
      simpa [Emptied, hb] using emptied_clear hq answered

/-- **An import of a good snapshot into an empty store answers** and leaves the store holding
the snapshot; it drops the history exactly when the store keeps none. -/
theorem loaded_import {snap : Snapshot} (good : snap.Good) : ∀ {B : Backend σ}, B.Emptied view →
    ∃ o, (B.step run now (.import snap)).1 = .ok o ∧
      o.droppedHistory = (if B.keepsHistory then 0 else snap.history.length) ∧
      (B.step run now (.import snap)).2.Loaded view snap ∧
      (B.step run now (.import snap)).2.keepsHistory = B.keepsHistory
  | .memory L, ⟨hc, hk⟩ => by
    refine ⟨KeyStore.loaded snap, ?_, rfl, L.holds_import hc hk good now, rfl⟩
    show (L.handle now (.import snap)).1 = _
    rw [LocalStore.handle_import]
  | .sql s, ⟨hb, st, hv⟩ => by
    obtain ⟨answer, after⟩ :=
      SqlModel.answers_import hd now st.cleared snap (st.importFits_cleared good) s hb hv
    exact ⟨_, answer, rfl, ⟨(SqlModel.blocked_step s now _).trans hb, st, after⟩, rfl⟩
  | .fallback b p q, emptied => by
    cases hb : b.tripped
    · simp only [Emptied, hb, Bool.false_eq_true, if_false] at emptied
      obtain ⟨o, answer, dropped, loaded, keeps⟩ := loaded_import good emptied
      -- an import that answers trips no breaker
      have ht : Breaker.trips (.import snap) (p.step run now (.import snap)).1 = false := by
        rw [answer]
        rfl
      rw [step_primary run now hb ht]
      exact ⟨o, answer, by simpa [keepsHistory, hb] using dropped,
        by simpa [Loaded, hb] using loaded, by simpa [keepsHistory, hb] using keeps⟩
    · simp only [Emptied, hb, if_true] at emptied
      obtain ⟨o, answer, dropped, loaded, keeps⟩ := loaded_import good emptied
      rw [step_tripped run now hb]
      exact ⟨o, answer, by simpa [keepsHistory, hb] using dropped,
        by simpa [Loaded, hb] using loaded, by simpa [keepsHistory, hb] using keeps⟩

/-- **A store holding a good snapshot lists it back**: its cooldowns and balances in some
order, and its history when the store keeps history; the store still holds it. -/
theorem snapshot_loaded {snap : Snapshot} (good : snap.Good) : ∀ {B : Backend σ},
    B.Loaded view snap → ∃ after, (B.step run now .snapshot).1 = .ok after ∧
      after.cooldowns.Perm snap.cooldowns ∧ after.keyBalances.Perm snap.keyBalances ∧
      after.history = (if B.keepsHistory then snap.history else []) ∧
      (B.step run now .snapshot).2.Loaded view snap ∧
      (B.step run now .snapshot).2.keepsHistory = B.keepsHistory
  | .memory L, holds => by
    have holds : L.Holds snap := holds
    have listed := L.snapshot_of_holds holds now
    refine ⟨_, congrArg Prod.fst listed, List.Perm.refl _, List.Perm.refl _, rfl, ?_, rfl⟩
    show (L.handle now .snapshot).2.Holds snap
    rw [listed]
    exact holds
  | .sql s, ⟨hb, st, hv⟩ => by
    have typed : (Call.import snap).Typed :=
      ⟨good.times, fun b hb => (good.amounts b hb).2, good.historyTimes⟩
    have rendered := ((Stored.Sound.cleared st).imported typed).rendered
    obtain ⟨after, listed, answer, cooldowns, balances, history⟩ :=
      SqlModel.answers_snapshot hd now _ rendered s hb hv
    rw [st.cooldowns_cleared_imported good] at cooldowns
    rw [st.positiveBalances_cleared_imported good] at balances
    rw [st.history_cleared_imported good] at history
    exact ⟨listed, answer, (List.map_perm_map_iff Cooldown.keyed_injective).mp cooldowns,
      (List.map_perm_map_iff KeyBalance.keyed_injective).mp balances,
      List.map_injective_iff.mpr HistoryEntry.stored_injective history,
      ⟨(SqlModel.blocked_step s now _).trans hb, st, after⟩, rfl⟩
  | .fallback b p q, loaded => by
    rw [step_snapshot]
    cases hb : b.tripped
    · simp only [Loaded, hb, Bool.false_eq_true, if_false] at loaded
      simpa [Loaded, keepsHistory, hb] using snapshot_loaded good loaded
    · simp only [Loaded, hb, if_true] at loaded
      simpa [Loaded, keepsHistory, hb] using snapshot_loaded good loaded

/-- **A snapshot of a sound store is good and changes nothing a caller observes.** -/
theorem snapshot_source : ∀ {B : Backend σ}, B.Sound view →
    (B.step run now .snapshot).2.observe view = B.observe view ∧
      ∀ snap, (B.step run now .snapshot).1 = .ok snap → snap.Good
  | .memory L, h => ⟨rfl, fun _ listed => h.snapshot_good now listed⟩
  | .sql s, ⟨st, hv, h⟩ => by
    cases hb : s.blocked with
    | some e =>
      refine ⟨by simp [step, observe, SqlModel.step_of_blocked hb], fun snap listed => ?_⟩
      have failed : (s.step run now .snapshot).1 = .error (storeError e) :=
        SqlModel.snapshot_of_blocked hb now
      simp only [step] at listed
      rw [failed] at listed
      cases listed
    | none =>
      obtain ⟨after, snap, answer, cooldowns, balances, history⟩ :=
        SqlModel.answers_snapshot hd now st h.rendered s hb hv
      refine ⟨?_, fun snap' listed => ?_⟩
      · show Backend.sql ⟨(s.step run now .snapshot).2.blocked, view (s.step run now .snapshot).2.db⟩ =
          .sql ⟨s.blocked, view s.db⟩
        rw [SqlModel.blocked_step, after, hv]
      · have same : snap' = snap := by
          simp only [step] at listed
          rw [answer] at listed
          exact (Except.ok.inj listed).symm
        subst same
        exact h.good_of_lists cooldowns balances history
  | .fallback b p q, ⟨hp, hq⟩ => by
    rw [step_snapshot]
    cases hb : b.tripped
    · obtain ⟨kept, good⟩ := snapshot_source hp
      exact ⟨by simp [observe, kept], good⟩
    · obtain ⟨kept, good⟩ := snapshot_source hq
      exact ⟨by simp [observe, kept], good⟩

end Backend

/-! ### The copy -/

theorem countMismatches_self (c : Counts) : countMismatches c c = [] := by
  simp [countMismatches]

theorem stateM_run_bind {τ α β : Type} (x : StateM τ α) (f : α → StateM τ β) (s : τ) :
    (x >>= f).run s = (f (x.run s).1).run (x.run s).2 := rfl

namespace Backend

variable {σ : Type} (run : Command → Conn σ (Relation × Nat)) (now : Int)

/-- A copy leaves the source as its snapshot left it: every other call goes to the target. -/
theorem migrate_source (S T : Backend σ) :
    ((migrate (source run now) (target run now)).run (S, T)).2.1 = (S.step run now .snapshot).2 := by
  simp only [migrate, source, target, stateM_run_bind, Machine.onLeft_run, machine]
  rcases S.step run now .snapshot with ⟨_ | snap, S'⟩
  · rfl
  simp only [stateM_run_bind, Machine.onRight_run, machine]
  rcases T.step run now .clear with ⟨_ | ⟨⟩, T₁⟩
  · rfl
  simp only [stateM_run_bind, Machine.onRight_run, machine]
  rcases T₁.step run now (.import snap) with ⟨_ | o, T₂⟩
  · rfl
  simp only [stateM_run_bind, Machine.onRight_run, machine]
  rcases T₂.step run now .snapshot with ⟨_ | after, T₃⟩ <;> rfl

/-- **A copy that reports success** had its four calls answered: the source's snapshot, the
target's clear, the import into it and the target's second snapshot. The target it leaves
is the one that snapshot left, and the report gives the import's dropped history and the
categories whose counts the second snapshot does not match. -/
theorem migrate_succeeded {S T : Backend σ}
    (h : ((migrate (source run now) (target run now)).run (S, T)).1.success = true) :
    ∃ snap T₁ o T₂ after, (S.step run now .snapshot).1 = .ok snap ∧
      T.step run now .clear = (.ok (), T₁) ∧ T₁.step run now (.import snap) = (.ok o, T₂) ∧
      (T₂.step run now .snapshot).1 = .ok after ∧
      ((migrate (source run now) (target run now)).run (S, T)).2.2 =
        (T₂.step run now .snapshot).2 ∧
      ((migrate (source run now) (target run now)).run (S, T)).1.droppedHistory = o.droppedHistory ∧
      ((migrate (source run now) (target run now)).run (S, T)).1.mismatches =
        countMismatches { snap.counts with
          history := snap.counts.history - min o.droppedHistory snap.counts.history } after.counts := by
  simp only [migrate, source, target, stateM_run_bind, Machine.onLeft_run, machine] at h ⊢
  -- a failed call ends the copy with a report that is not a success
  rcases hs : S.step run now .snapshot with ⟨_ | snap, S'⟩
  · rw [hs] at h
    exact absurd h Bool.false_ne_true
  rcases hc : T.step run now .clear with ⟨_ | u, T₁⟩
  · simp only [hs, hc, stateM_run_bind, Machine.onRight_run, machine] at h
    exact absurd h Bool.false_ne_true
  cases u
  rcases hi : T₁.step run now (.import snap) with ⟨_ | o, T₂⟩
  · simp only [hs, hc, hi, stateM_run_bind, Machine.onRight_run, machine] at h
    exact absurd h Bool.false_ne_true
  rcases ha : T₂.step run now .snapshot with ⟨_ | after, T₃⟩
  · simp only [hs, hc, hi, ha, stateM_run_bind, Machine.onRight_run, machine] at h
    exact absurd h Bool.false_ne_true
  refine ⟨snap, T₁, o, T₂, after, rfl, rfl, hi, by rw [ha], ?_⟩
  simp only [hc, hi, ha, stateM_run_bind, Machine.onRight_run, machine]
  exact ⟨rfl, rfl, rfl⟩

end Backend

/-- **A successful copy replaces the target with the source.** Between two reachable stores,
a copy leaves the source as a caller sees it, its breakers included, whether or not it
succeeds. When it reports success, the source's snapshot taken at the start answered, and a
snapshot of the target taken at any time after lists the same cooldowns and balances, as
multisets, and the same history when the target keeps history and none when it does not;
the report counts the history dropped as all of it exactly then, and finds no mismatch. -/
theorem migrate_replaces_target {σ : Type} {run : Command → Conn σ (Relation × Nat)}
    {view : σ → DbView} (hd : Documented run view) {S T : Backend σ}
    (hS : S.Reachable run view) (hT : T.Reachable run view) (now later : Int) :
    let r := (migrate (Backend.source run now) (Backend.target run now)).run (S, T)
    r.2.1.observe view = S.observe view ∧
    (r.1.success = true → ∃ snap after,
      (S.step run now .snapshot).1 = .ok snap ∧ (r.2.2.step run later .snapshot).1 = .ok after ∧
      after.cooldowns.Perm snap.cooldowns ∧ after.keyBalances.Perm snap.keyBalances ∧
      after.history = (if r.2.2.keepsHistory then snap.history else []) ∧
      r.1.droppedHistory = (if r.2.2.keepsHistory then 0 else snap.history.length) ∧
      r.1.mismatches = []) := by
  intro r
  obtain ⟨kept, good⟩ := Backend.snapshot_source hd now (hS.sound hd)
  refine ⟨by rw [Backend.migrate_source]; exact kept, fun succeeded => ?_⟩
  obtain ⟨snap, T₁, o, T₂, after, taken, cleared, imported, verified, final, dropped, mismatches⟩ :=
    Backend.migrate_succeeded run now succeeded
  have good := good snap taken
  have emptied : T₁.Emptied view := by
    have := Backend.emptied_clear hd now (hT.sound hd) (by rw [cleared])
    rwa [cleared] at this
  obtain ⟨o', answer, dropped', loaded, keeps⟩ := Backend.loaded_import hd now good emptied
  rw [imported] at answer loaded keeps
  have sameOutcome : o' = o := (Except.ok.inj answer).symm
  obtain ⟨after', verified', cooldowns, balances, history, loaded₃, keeps₃⟩ :=
    Backend.snapshot_loaded hd now good loaded
  have sameAfter : after' = after := Except.ok.inj (verified'.symm.trans verified)
  obtain ⟨final', listed, cooldowns', balances', history', -, -⟩ :=
    Backend.snapshot_loaded hd later good loaded₃
  have keepsFinal : r.2.2.keepsHistory = T₁.keepsHistory := by
    rw [final, keeps₃, ← keeps]
  refine ⟨snap, final', taken, final ▸ listed, cooldowns', balances', ?_, ?_, ?_⟩
  · rw [history', final, keeps₃]
  · rw [dropped, ← sameOutcome, dropped', keepsFinal]
  · -- the second snapshot counts what the source's snapshot counts, less what was dropped
    have same : { snap.counts with
        history := snap.counts.history - min o'.droppedHistory snap.counts.history } =
        after'.counts := by
      rw [dropped']
      cases hk : T₁.keepsHistory <;>
        simp [Snapshot.counts, cooldowns.length_eq, balances.length_eq, history, keeps, hk]
    rw [mismatches, ← sameOutcome, ← sameAfter, same, countMismatches_self]


/-- A copy from an in-memory store that holds one cooldown into a fresh memory database is a
copy between two reachable stores the statement covers. -/
theorem migrate_replaces_target_of_memory :
    let S := ((Backend.memory {} : Backend DbView).step MemoryDatabase.run 0
      (.setCooldown PlayerId.nil "c" 5)).2
    let T : Backend DbView := .sql ⟨none, { stored := {} }⟩
    Documented MemoryDatabase.run id ∧ S.Reachable MemoryDatabase.run id ∧
      T.Reachable MemoryDatabase.run id ∧
      let r := (migrate (Backend.source MemoryDatabase.run 0)
        (Backend.target MemoryDatabase.run 0)).run (S, T)
      r.2.1.observe id = S.observe id ∧
      (r.1.success = true → ∃ snap after,
        (S.step MemoryDatabase.run 0 .snapshot).1 = .ok snap ∧
        (r.2.2.step MemoryDatabase.run 1 .snapshot).1 = .ok after ∧
        after.cooldowns.Perm snap.cooldowns ∧ after.keyBalances.Perm snap.keyBalances ∧
        after.history = (if r.2.2.keepsHistory then snap.history else []) ∧
        r.1.droppedHistory = (if r.2.2.keepsHistory then 0 else snap.history.length) ∧
        r.1.mismatches = []) := by
  intro S T
  have hS : S.Reachable MemoryDatabase.run id := .step 0 _ (.fresh rfl) ⟨by decide, show InI64 5 by decide⟩
  have hT : T.Reachable MemoryDatabase.run id := .fresh rfl
  exact ⟨MemoryDatabase.documented, hS, hT,
    migrate_replaces_target MemoryDatabase.documented hS hT 0 1⟩

end CrateState
