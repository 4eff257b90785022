import CrateState.Proofs.Backends
import CrateState.Proofs.AbstractStore

/-!
# What every reachable store keeps

Every store keeps one entry per slot and 64-bit times; an in-memory store keeps balances
within `0 < n ≤ maxKeys`, and SQL tables only player texts the store wrote
(`LocalStore.Sound`, `Stored.Sound`, `Backend.Sound`, a SQL store also being outside any
transaction). Fresh stores are sound and every fitting call keeps them so
(`Backend.Sound.step`), so every reachable store is sound (`Backend.Reachable.sound`).
What a call does to SQL tables is said once, by `Stored.after`, from the documented rules
(`answers_after`), and the tables' invariant is proved of it.

A sound store's snapshot is good (`Snapshot.Good`): one entry per slot, balances within
`0 < n ≤ maxKeys`, 64-bit times, and the history as a SQL store lists it, opens before
deliveries, each delivery with its reward. Any store can be loaded from a good snapshot and
read back.
-/

namespace CrateState

open Relational

theorem foldl_holds {τ β : Type} (P : τ → Prop) {f : τ → β → τ} {bs : List β}
    (step : ∀ s, ∀ b ∈ bs, P s → P (f s b)) {s : τ} (h : P s) : P (bs.foldl f s) := by
  induction bs generalizing s with
  | nil => exact h
  | cons b bs ih =>
    exact ih (fun s b hb => step s b (List.mem_cons_of_mem _ hb)) (step s b List.mem_cons_self h)

theorem inI64_of_le_maxKeys {n : Nat} (h : n ≤ maxKeys) : InI64 n := by
  unfold maxKeys at h
  constructor <;> omega

/-- A positive stored balance reads back as a balance the in-memory store could hold. -/
theorem clampKeys_of_pos {a : Int} (h : 0 < a) : 0 < clampKeys a ∧ clampKeys a ≤ maxKeys := by
  have : ¬ a < 0 := by omega
  simp only [clampKeys, this, if_false]
  unfold maxKeys
  omega

/-! ### Good snapshots -/

/-- A snapshot a store can be loaded from and read back: one entry per slot, balances the
in-memory store could hold, values that fit their columns, and the history as a SQL store
lists it, the opens before the deliveries, each delivery with its reward. -/
structure Snapshot.Good (snap : Snapshot) : Prop where
  cooldownSlots : (snap.cooldowns.map fun r => (⟨r.player, r.crate⟩ : Slot)).Nodup
  balanceSlots : (snap.keyBalances.map fun b => (⟨b.player, b.crate⟩ : Slot)).Nodup
  amounts : ∀ b ∈ snap.keyBalances, 0 < b.amount ∧ b.amount ≤ maxKeys
  times : ∀ r ∈ snap.cooldowns, InI64 r.lastUsed
  historyTimes : ∀ h ∈ snap.history, InI64 h.time
  ordered : ∃ os ds, snap.history = os ++ ds ∧ (∀ h ∈ os, h.kind = .open) ∧
    ∀ h ∈ ds, h.kind = .delivery ∧ h.reward.isSome

/-! ### The in-memory store -/

/-- What every state of an in-memory store keeps: one entry per slot, balances within
`0 < n ≤ maxKeys`, times of 64 bits. -/
structure LocalStore.Sound (L : LocalStore) : Prop where
  cooldownSlots : (L.cooldowns.map Prod.fst).Nodup
  keySlots : (L.keys.map Prod.fst).Nodup
  wf : L.Wf
  times : ∀ e ∈ L.cooldowns, InI64 e.2

theorem LocalStore.sound_empty : ({} : LocalStore).Sound :=
  ⟨List.nodup_nil, List.nodup_nil, (fun _ he => nomatch he), (fun _ he => nomatch he)⟩

namespace LocalStore.Sound

variable {L : LocalStore}

/-- Every call but an import keeps a store sound, when the time it writes fits. -/
theorem step (h : L.Sound) (now : Int) {c : Call} (typed : c.Typed) :
    (L.step now c).2.Sound := by
  have wf := step_wf h.wf now c
  revert wf
  -- only the writes of cooldowns and balances touch what soundness reads
  cases c with
  | setCooldown p c t =>
    exact fun wf =>
      ⟨Assoc.nodup_set h.cooldownSlots _ _, h.keySlots, wf, Assoc.forall_mem_set h.times typed⟩
  | addKeys p c n =>
    simp only [LocalStore.step]
    split
    · exact fun _ => h
    · exact fun wf => ⟨h.cooldownSlots, Assoc.nodup_set h.keySlots _ _, wf, h.times⟩
  | consumeKey p c =>
    simp only [LocalStore.step]
    split
    · exact fun _ => h
    · split
      · exact fun wf => ⟨h.cooldownSlots, Assoc.nodup_erase h.keySlots _, wf, h.times⟩
      · exact fun wf => ⟨h.cooldownSlots, Assoc.nodup_set h.keySlots _ _, wf, h.times⟩
  | acquireLock p c =>
    simp only [LocalStore.step]
    split
    · exact fun _ => h
    · exact fun wf => ⟨h.cooldownSlots, h.keySlots, wf, h.times⟩
  | markDelivered p c r =>
    simp only [LocalStore.step]
    split
    · exact fun _ => h
    · split
      · exact fun _ => h
      · exact fun wf => ⟨h.cooldownSlots, h.keySlots, wf, h.times⟩
  | clear => exact fun wf => ⟨List.nodup_nil, List.nodup_nil, wf, fun _ he => absurd he List.not_mem_nil⟩
  | _ => exact fun wf => ⟨h.cooldownSlots, h.keySlots, wf, h.times⟩

/-- Every call keeps a store sound, when the times it writes fit: an import is its
replayed writes. -/
theorem handle (h : L.Sound) (now : Int) {c : Call} (typed : c.Typed) :
    (L.handle now c).2.Sound := by
  cases c with
  | «import» snap =>
    obtain ⟨times, amounts, -⟩ := typed
    rw [handle_import]
    refine foldl_holds Sound ?_ (foldl_holds Sound ?_ h)
    · intro L b hb hL
      exact hL.step now (amounts b (List.mem_filter.mp hb).1)
    · intro L r hr hL
      exact hL.step now (times r hr)
  | _ => exact h.step now typed

theorem snapshot_good (h : L.Sound) (now : Int) {snap : Snapshot}
    (hs : (L.handle now .snapshot).1 = .ok snap) : snap.Good := by
  simp only [show L.handle now .snapshot = L.step now .snapshot from rfl, LocalStore.step] at hs
  cases hs
  refine ⟨?_, ?_, ?_, ?_, by simp, [], [], by simp, by simp, by simp⟩
  · simpa [List.map_map, Function.comp_def] using h.cooldownSlots
  · simpa [List.map_map, Function.comp_def] using h.keySlots
  · intro b hb
    obtain ⟨e, he, rfl⟩ := List.mem_map.mp hb
    exact h.wf e he
  · intro r hr
    obtain ⟨e, he, rfl⟩ := List.mem_map.mp hr
    exact h.times e he

end LocalStore.Sound

/-! ### The tables of a SQL store -/

namespace Stored

/-- The tables after a call at time `now`, as the documented rules give them. -/
def after (st : Stored) (now : Int) : Call → Stored
  | .setCooldown p c t => st.setCooldown p.render c t
  | .addKeys p c n => if n = 0 then st else st.addKeys p.render c n
  | .consumeKey p c => (st.consume p.render c).2
  | .acquireLock p c =>
    if (Assoc.get? st.locks (p.render, c)).isSome then st else st.takeLock p.render c now
  | .releaseLock p c => st.giveLock p.render c
  | .logOpen p c r t => st.logOpen p.render c r t
  | .recordDelivery p c r t => st.logDelivery p.render c r t
  | .queueReward p c r => st.queue p.render c r now
  | .markDelivered p c r => (st.deliver p.render c r now).2
  | .clear => st.cleared
  | .import snap => st.imported snap
  | _ => st

/-- What every state of the tables keeps: player texts the store wrote, one row per key,
times of 64 bits. -/
structure Sound (st : Stored) : Prop where
  rendered : st.Rendered
  cooldownKeys : (st.cooldowns.map Prod.fst).Nodup
  balanceKeys : (st.keys.map Prod.fst).Nodup
  times : ∀ e ∈ st.cooldowns, InI64 e.2
  openTimes : ∀ e ∈ st.opens, InI64 e.2.2.2
  deliveryTimes : ∀ e ∈ st.deliveries, InI64 e.2.2.2

theorem sound_empty : ({} : Stored).Sound :=
  ⟨⟨(fun _ he => nomatch he), (fun _ he => nomatch he), (fun _ he => nomatch he),
    (fun _ he => nomatch he)⟩, List.nodup_nil, List.nodup_nil, (fun _ he => nomatch he),
    (fun _ he => nomatch he), (fun _ he => nomatch he)⟩

namespace Sound

variable {st : Stored}

theorem of_tables {st' : Stored} (h : st.Sound) (hc : st'.cooldowns = st.cooldowns)
    (hk : st'.keys = st.keys) (ho : st'.opens = st.opens) (hd : st'.deliveries = st.deliveries) :
    st'.Sound :=
  have ⟨⟨rc, rk, ro, rd⟩, ck, bk, t, ot, dt⟩ := h
  ⟨⟨hc ▸ rc, hk ▸ rk, ho ▸ ro, hd ▸ rd⟩, hc ▸ ck, hk ▸ bk, hc ▸ t, ho ▸ ot, hd ▸ dt⟩

theorem setCooldown (h : st.Sound) (p : PlayerId) (c : String) {t : Int} (ht : InI64 t) :
    (st.setCooldown p.render c t).Sound :=
  { h with
    rendered := ⟨Assoc.forall_mem_set h.rendered.1 ⟨p, rfl⟩, h.rendered.2⟩
    cooldownKeys := Assoc.nodup_set h.cooldownKeys _ _
    times := Assoc.forall_mem_set h.times ht }

theorem setKey (h : st.Sound) (p : PlayerId) (c : String) (v : Int) :
    ({ st with keys := Assoc.set st.keys (p.render, c) v } : Stored).Sound :=
  { h with
    rendered := ⟨h.rendered.1, Assoc.forall_mem_set h.rendered.2.1 ⟨p, rfl⟩, h.rendered.2.2⟩
    balanceKeys := Assoc.nodup_set h.balanceKeys _ _ }

theorem eraseKey (h : st.Sound) (k : SlotKey) :
    ({ st with keys := Assoc.erase st.keys k } : Stored).Sound :=
  { h with
    rendered := ⟨h.rendered.1, fun e he => h.rendered.2.1 e (Assoc.mem_erase he), h.rendered.2.2⟩
    balanceKeys := Assoc.nodup_erase h.balanceKeys _ }

theorem consume (h : st.Sound) (p : PlayerId) (c : String) : (st.consume p.render c).2.Sound := by
  have taken : (st.takeKey p.render c).1.Sound := by
    unfold takeKey
    split
    · split
      · exact h.setKey p c _
      · exact h
    · exact h
  unfold Stored.consume
  split
  · exact h
  · unfold dropEmpty
    split
    · split
      · exact taken.eraseKey _
      · exact taken
    · exact taken

theorem logOpen (h : st.Sound) (p : PlayerId) (c : String) (r : Option String) {t : Int}
    (ht : InI64 t) : (st.logOpen p.render c r t).Sound :=
  { h with
    rendered := ⟨h.rendered.1, h.rendered.2.1,
      List.forall_mem_append.mpr ⟨h.rendered.2.2.1, List.forall_mem_singleton.mpr ⟨p, rfl⟩⟩,
      h.rendered.2.2.2⟩
    openTimes := List.forall_mem_append.mpr ⟨h.openTimes, List.forall_mem_singleton.mpr ht⟩ }

theorem logDelivery (h : st.Sound) (p : PlayerId) (c r : String) {t : Int} (ht : InI64 t) :
    (st.logDelivery p.render c r t).Sound :=
  { h with
    rendered := ⟨h.rendered.1, h.rendered.2.1, h.rendered.2.2.1,
      List.forall_mem_append.mpr ⟨h.rendered.2.2.2, List.forall_mem_singleton.mpr ⟨p, rfl⟩⟩⟩
    deliveryTimes :=
      List.forall_mem_append.mpr ⟨h.deliveryTimes, List.forall_mem_singleton.mpr ht⟩ }

theorem deliver (h : st.Sound) (p : PlayerId) (c r : String) {now : Int} (hnow : InI64 now) :
    (st.deliver p.render c r now).2.Sound := by
  unfold Stored.deliver
  split
  · exact h
  · next row _ =>
    split
    · exact h
    · -- flipping a waiting row touches no table soundness reads
      have flipped : (st.markRow row.id).1.Sound := h.of_tables rfl rfl rfl rfl
      exact flipped.logDelivery p c r hnow

theorem cleared (st : Stored) : st.cleared.Sound :=
  sound_empty.of_tables rfl rfl rfl rfl

theorem imported (h : st.Sound) {snap : Snapshot} (typed : (Call.import snap).Typed) :
    (st.imported snap).Sound := by
  obtain ⟨times, -, historyTimes⟩ := typed
  unfold Stored.imported
  refine foldl_holds Sound ?_ (foldl_holds Sound ?_ (foldl_holds Sound ?_ h))
  · intro st e he hs
    unfold importEntry
    split
    · exact hs.logOpen _ _ _ (historyTimes e he)
    · exact hs.logDelivery _ _ _ (historyTimes e he)
  · intro st b _ hs
    exact hs.setKey b.player b.crate _
  · intro st r hr hs
    exact hs.setCooldown r.player r.crate (times r hr)

/-- **Every call keeps the tables sound**, when the time and values it writes fit. -/
theorem after (h : st.Sound) {now : Int} (hnow : InI64 now) {c : Call} (typed : c.Typed) :
    (st.after now c).Sound := by
  cases c with
  | setCooldown p c t => exact h.setCooldown p c typed
  | addKeys p c n =>
    show (if n = 0 then st else st.addKeys p.render c n).Sound
    split
    · exact h
    · exact h.setKey p c _
  | consumeKey p c => exact h.consume p c
  | acquireLock p c =>
    show (if (Assoc.get? st.locks (p.render, c)).isSome then st
      else st.takeLock p.render c now).Sound
    split
    · exact h
    · exact h.of_tables rfl rfl rfl rfl
  | releaseLock p c => exact h.of_tables rfl rfl rfl rfl
  | logOpen p c r t => exact h.logOpen p c r typed
  | recordDelivery p c r t => exact h.logDelivery p c r typed
  | queueReward p c r => exact h.of_tables rfl rfl rfl rfl
  | markDelivered p c r => exact h.deliver p c r hnow
  | clear => exact cleared st
  | «import» snap => exact h.imported typed
  | getCooldown | keyCount | pendingRewards | snapshot => exact h

/-- A snapshot that lists sound tables is good: what it lists are the tables' rows, keyed as
the tables key them. -/
theorem good_of_lists (h : st.Sound) {snap : Snapshot}
    (cooldowns : (snap.cooldowns.map Cooldown.keyed).Perm st.cooldowns)
    (balances : (snap.keyBalances.map KeyBalance.keyed).Perm st.positiveBalances)
    (history : snap.history.map HistoryEntry.stored = st.history) : snap.Good := by
  obtain ⟨os, ds, split, opens, deliveries⟩ := List.map_eq_append_iff.mp history
  refine ⟨?_, ?_, ?_, ?_, ?_, os, ds, split, ?_, ?_⟩
  · -- the slots' keys are the table's keys, which are distinct
    refine List.Nodup.of_map Slot.key ?_
    rw [List.map_map]
    have keys := (cooldowns.map Prod.fst).nodup_iff.mpr h.cooldownKeys
    rwa [List.map_map] at keys
  · refine List.Nodup.of_map Slot.key ?_
    rw [List.map_map]
    have positive : (st.positiveBalances.map Prod.fst).Nodup := by
      unfold Stored.positiveBalances
      rw [List.map_map]
      exact h.balanceKeys.sublist (List.filter_sublist.map _)
    have keys := (balances.map Prod.fst).nodup_iff.mpr positive
    rwa [List.map_map] at keys
  · intro b hb
    have listed := balances.subset (List.mem_map_of_mem hb)
    unfold Stored.positiveBalances at listed
    obtain ⟨e, he, same⟩ := List.mem_map.mp listed
    simp only [KeyBalance.keyed, Prod.mk.injEq] at same
    rw [← same.2]
    exact clampKeys_of_pos (by simpa using (List.mem_filter.mp he).2)
  · intro r hr
    exact h.times _ (cooldowns.subset (List.mem_map_of_mem hr))
  · intro e he
    have stored : e.stored ∈ st.history := history ▸ List.mem_map_of_mem he
    rcases List.mem_append.mp stored with stored | stored
    · obtain ⟨row, hrow, same⟩ := List.mem_map.mp stored
      simp only [HistoryEntry.stored, Prod.mk.injEq] at same
      rw [← same.2.2.2.1]
      exact h.openTimes row hrow
    · obtain ⟨row, hrow, same⟩ := List.mem_map.mp stored
      simp only [HistoryEntry.stored, Prod.mk.injEq] at same
      rw [← same.2.2.2.1]
      exact h.deliveryTimes row hrow
  · intro e he
    have stored : e.stored ∈ os.map HistoryEntry.stored := List.mem_map_of_mem he
    rw [opens] at stored
    obtain ⟨row, -, same⟩ := List.mem_map.mp stored
    simp only [HistoryEntry.stored, Prod.mk.injEq] at same
    exact same.2.2.2.2.symm
  · intro e he
    have stored : e.stored ∈ ds.map HistoryEntry.stored := List.mem_map_of_mem he
    rw [deliveries] at stored
    obtain ⟨row, -, same⟩ := List.mem_map.mp stored
    simp only [HistoryEntry.stored, Prod.mk.injEq] at same
    exact ⟨same.2.2.2.2.symm, by rw [← same.2.2.1]; rfl⟩

end Sound

end Stored

/-! ### What a call does to the tables -/

namespace SqlModel

variable {σ : Type} {run : Command → Conn σ (Relation × Nat)} {view : σ → DbView}

theorem step_of_blocked {s : SqlModel σ} {e : DriverError} (hb : s.blocked = some e) (now : Int)
    (c : Call) : (s.step run now c).2 = s := by
  have stays : ∀ {α : Type} (work : Conn σ α), (s.use work).2 = s := by
    intro α work
    simp [use, hb]
  cases c <;> simp only [step, SqlStore.stepVia]
  case addKeys =>
    split
    · rfl
    · exact stays _
  all_goals exact stays _

variable (hd : Documented run view)
include hd

/-- **A call leaves the tables `Stored.after` says**, and no transaction open, when its time
and values fit and the tables hold player texts the store wrote. -/
theorem answers_after (now : Int) (st : Stored) (hr : st.Rendered) (hnow : InI64 now) (c : Call)
    (typed : c.Typed) (fits : st.Fits c) :
    Answers run view now c ⟨st, none⟩ fun _ V' => V' = ⟨st.after now c, none⟩ := by
  cases c with
  | getCooldown p c => exact (answers_getCooldown hd now p c _).mono fun _ _ h => h.2
  | setCooldown p c t => exact (answers_setCooldown hd now p c t typed _).mono fun _ _ h => h.2
  | keyCount p c => exact (answers_keyCount hd now p c _).mono fun _ _ h => h.2
  | addKeys p c n =>
    by_cases hn : n = 0
    · subst hn
      exact (answers_addKeys_zero now p c _).mono fun _ _ h => h.2
    · refine (answers_addKeys hd now p c (Nat.pos_of_ne_zero hn) (inI64_of_le_maxKeys typed)
        ⟨st, none⟩ fits).mono fun _ _ h => ?_
      rw [h.2]
      simp [Stored.after, hn]
  | consumeKey p c => exact (answers_consumeKey hd now p c st).mono fun _ _ h => h.2
  | acquireLock p c =>
    by_cases held : (Assoc.get? st.locks (p.render, c)).isSome
    · refine (answers_acquireLock_held hd now p c _ held).mono fun _ _ h => ?_
      simp [h.2, Stored.after, held]
    · have free : Assoc.get? st.locks (p.render, c) = none := by simpa using held
      refine (answers_acquireLock_free hd now hnow p c _ free).mono fun _ _ h => ?_
      simp [h.2, Stored.after, free]
  | releaseLock p c => exact (answers_releaseLock hd now p c _).mono fun _ _ h => h.2
  | logOpen p c r t => exact (answers_logOpen hd now p c r t typed _).mono fun _ _ h => h.2
  | recordDelivery p c r t =>
    exact (answers_recordDelivery hd now p c r t typed _).mono fun _ _ h => h.2
  | queueReward p c r => exact (answers_queueReward hd now hnow p c r ⟨st, none⟩ fits).mono fun _ _ h => h.2
  | pendingRewards p => exact (answers_pendingRewards hd now p _).mono fun _ _ h => h.2
  | markDelivered p c r => exact (answers_markDelivered hd now hnow p c r st).mono fun _ _ h => h.2
  | snapshot => exact (answers_snapshot hd now st hr).mono fun _ _ h => h.1
  | clear => exact (answers_clear hd now st).mono fun _ _ h => h.2
  | «import» snap => exact (answers_import hd now st snap fits).mono fun _ _ h => h.2

end SqlModel

/-! ### Stores built from stores -/

namespace Backend

variable {σ : Type} {run : Command → Conn σ (Relation × Nat)} (view : σ → DbView)

/-- A sound store: every in-memory store under it sound, and every SQL store's tables sound
and outside any transaction. -/
def Sound : Backend σ → Prop
  | .memory L => L.Sound
  | .sql s => ∃ st, view s.db = ⟨st, none⟩ ∧ st.Sound
  | .fallback _ p q => p.Sound ∧ q.Sound

variable {view}

theorem Fresh.sound : ∀ {B : Backend σ}, B.Fresh view → B.Sound view
  | .memory _, rfl => LocalStore.sound_empty
  | .sql _, fresh => ⟨{}, fresh, Stored.sound_empty⟩
  | .fallback _ _ _, ⟨_, hp, hq⟩ => ⟨hp.sound, hq.sound⟩

variable (hd : Documented run view)
include hd

/-- **A call that fits a sound store keeps it sound**: each store the call reaches stays
sound, and the others are left as they were. -/
theorem Sound.step {now : Int} {c : Call} :
    ∀ {B : Backend σ}, B.Sound view → B.Fits view now c → (B.step run now c).2.Sound view
  | .memory _, h, ⟨_, typed⟩ => h.handle now typed
  | .sql s, ⟨st, hv, h⟩, ⟨hnow, typed, fits⟩ => by
    cases hb : s.blocked with
    | some e =>
      show ∃ st', view (s.step run now c).2.db = ⟨st', none⟩ ∧ st'.Sound
      rw [SqlModel.step_of_blocked hb]
      exact ⟨st, hv, h⟩
    | none =>
      exact ⟨_, SqlModel.answers_after hd now st h.rendered hnow c typed (fits st hv) s hb hv,
        h.after hnow typed⟩
  | .fallback b p q, ⟨hp, hq⟩, ⟨fp, fq⟩ => by
    have hp' := Sound.step hp fp
    have hq' := Sound.step hq fq
    simp only [Backend.step]
    split_ifs
    · exact ⟨hp, hq'⟩
    · exact ⟨hp', hq'⟩
    · exact ⟨hp', hq⟩

/-- **Every reachable store is sound.** -/
theorem Reachable.sound {B : Backend σ} (h : B.Reachable run view) : B.Sound view := by
  induction h with
  | fresh fresh => exact fresh.sound
  | step now c _ fits ih => exact ih.step hd fits

end Backend

end CrateState
