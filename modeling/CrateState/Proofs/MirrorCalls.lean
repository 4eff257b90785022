import CrateState.Proofs.MirrorRewards
import CrateState.Proofs.AbstractStore

/-!
# Every call on mirrored stores

One lemma per call: from tables mirroring the in-memory store (`Mirrors`), the SQL store's
answer agrees with the in-memory store's and the tables after mirror the store after
(`Mirrored`); `mirror_step` puts them together. Besides the mirror a call needs

* values fitting their columns (`Call.Typed`): times in 64 bits, amounts in 32;
* a 64-bit time for calls stamping rows, and an id below 2^63 left for a queued reward;
* no in-memory balance taken past `maxKeys` (`LocalStore.Unclamped`): the in-memory store
  stops at `maxKeys`, the tables store the sum and clamp it when read, so past it the
  balances differ, and the next key taken shows it.

Each lemma runs the call's `answers_*` lemma on the tables and its step on the in-memory
store, meeting in a write that keeps the mirror (`Mirrors.setCooldown`, `Mirrors.setKey`,
`Mirrors.eraseKey`, ...). An import is the replay of such writes: cooldowns, positive
balances, then history, which only the tables keep.
-/

namespace CrateState

open Relational

theorem clampKeys_natCast {n : Nat} (h : n ≤ maxKeys) : clampKeys n = n := by
  have : ¬ (n : Int) < 0 := by omega
  simp [clampKeys, this, h]

namespace Stored

theorem consume_of_one {st : Stored} {p c : String} (h : Assoc.get? st.keys (p, c) = some 1) :
    st.consume p c = (true, { st with keys := Assoc.erase st.keys (p, c) }) := by
  simp [consume, takeKey, dropEmpty, h, Assoc.get?_set, Assoc.erase_set_self]

theorem consume_of_gt_one {st : Stored} {p c : String} {a : Int} (h : Assoc.get? st.keys (p, c) = some a)
    (ha : 1 < a) : st.consume p c = (true, { st with keys := Assoc.set st.keys (p, c) (a - 1) }) := by
  have pos : 0 < a := by omega
  have kept : ¬ a - 1 ≤ 0 := by omega
  simp [consume, takeKey, dropEmpty, h, pos, kept, Assoc.get?_set]

theorem consume_of_none {st : Stored} {p c : String} (h : Assoc.get? st.keys (p, c) = none) :
    st.consume p c = (false, st) := by
  simp [consume, takeKey, h]

end Stored

namespace Mirrors

variable {L : LocalStore} {st : Stored}

theorem get?_cooldowns (hM : Mirrors L st) (s : Slot) :
    Assoc.get? st.cooldowns s.key = Assoc.get? L.cooldowns s := by
  rw [hM.cooldowns, Assoc.get?_map Slot.key_injective, Option.map_id]
  rfl

theorem locked_iff (hM : Mirrors L st) (s : Slot) :
    (Assoc.get? st.locks s.key).isSome ↔ s ∈ L.locks := by
  have keys : s.key ∈ st.locks.map Prod.fst ↔ s ∈ L.locks := by
    rw [hM.locks, List.mem_map]
    exact ⟨fun ⟨s', hs', same⟩ => Slot.key_injective same ▸ hs', fun hs => ⟨s, hs, rfl⟩⟩
  rw [← keys, Option.isSome_iff_ne_none, Ne, Assoc.get?_eq_none_iff, not_not]

end Mirrors

theorem Cooldown.keyed_injective : Function.Injective Cooldown.keyed := by
  rintro ⟨p, c, t⟩ ⟨q, d, u⟩ h
  simp only [Cooldown.keyed, Prod.mk.injEq] at h
  rw [PlayerId.render_injective h.1.1, h.1.2, h.2]

theorem KeyBalance.keyed_injective : Function.Injective KeyBalance.keyed := by
  rintro ⟨p, c, n⟩ ⟨q, d, m⟩ h
  simp only [KeyBalance.keyed, Prod.mk.injEq] at h
  rw [PlayerId.render_injective h.1.1, h.1.2, h.2]

/-! ### Adding keys, and replaying an import -/

theorem foldl_keeps {σ β γ : Type} (g : σ → γ) {f : σ → β → σ} (hf : ∀ s b, g (f s b) = g s)
    (bs : List β) (s : σ) : g (bs.foldl f s) = g s := by
  induction bs generalizing s with
  | nil => rfl
  | cons b bs ih => rw [List.foldl_cons, ih, hf]

theorem LocalStore.step_addKeys (L : LocalStore) (now : Int) {p : PlayerId} {c : String} {n : Nat}
    (hn : 0 < n) (unclamped : (Assoc.get? L.keys ⟨p, c⟩).getD 0 + n ≤ maxKeys) :
    L.step now (.addKeys p c n) = (.ok (), { L with keys := addedTo L.keys ⟨p, c, n⟩ }) := by
  simp only [LocalStore.step, Nat.pos_iff_ne_zero.mp hn, if_false, Nat.min_eq_left unclamped]
  rfl

theorem Stored.lastPending_imported (st : Stored) (snap : Snapshot) :
    (st.imported snap).lastPending = st.lastPending := by
  have entry : ∀ (st : Stored) h, (st.importEntry h).lastPending = st.lastPending := by
    intro st h
    unfold Stored.importEntry
    split <;> rfl
  simp only [Stored.imported, foldl_keeps Stored.lastPending entry,
    foldl_keeps Stored.lastPending (fun _ _ => rfl : ∀ (st : Stored) (b : KeyBalance),
      (st.importBalance b).lastPending = st.lastPending),
    foldl_keeps Stored.lastPending (fun _ _ => rfl : ∀ (st : Stored) (r : Cooldown),
      (st.importCooldown r).lastPending = st.lastPending)]

namespace Mirrors

variable {L : LocalStore} {st : Stored} (hM : Mirrors L st)
include hM

/-- The stored balance of a slot is the in-memory one, so a sum on it is the in-memory
sum. -/
theorem sum_keys (p : PlayerId) (c : String) (n : Nat) :
    (Assoc.get? st.keys (p.render, c)).getD 0 + (n : Int) =
      (((Assoc.get? L.keys ⟨p, c⟩).getD 0 + n : Nat) : Int) := by
  have stored := hM.get?_keys ⟨p, c⟩
  simp only [Slot.key_mk] at stored
  rw [stored]
  cases Assoc.get? L.keys ⟨p, c⟩ <;> simp

theorem addKeys_fits {p : PlayerId} {c : String} {n : Nat} (typed : n ≤ maxKeys)
    (unclamped : (Assoc.get? L.keys ⟨p, c⟩).getD 0 + n ≤ maxKeys) :
    InI64 n ∧ InI64 ((Assoc.get? st.keys (p.render, c)).getD 0 + n) := by
  rw [hM.sum_keys]
  unfold InI64 maxKeys at *
  omega

theorem addKeys {p : PlayerId} {c : String} {n : Nat} (hn : 0 < n)
    (unclamped : (Assoc.get? L.keys ⟨p, c⟩).getD 0 + n ≤ maxKeys) :
    Mirrors { L with keys := addedTo L.keys ⟨p, c, n⟩ } (st.addKeys p.render c n) := by
  show Mirrors _ { st with
    keys := Assoc.set st.keys (p.render, c) ((Assoc.get? st.keys (p.render, c)).getD 0 + n) }
  rw [hM.sum_keys]
  exact hM.setKey ⟨p, c⟩ ⟨Nat.lt_of_lt_of_le hn (Nat.le_add_left n _), unclamped⟩

theorem positiveBalances : st.positiveBalances = L.keys.map fun e => (e.1.key, e.2) := by
  rw [Stored.positiveBalances, hM.keys, List.filter_map, List.map_map]
  have positive : L.keys.filter ((fun e : SlotKey × Int => decide (0 < e.2)) ∘
      Prod.map Slot.key Nat.cast) = L.keys :=
    List.filter_eq_self.mpr fun e he => by simp [(hM.keysInRange e he).1]
  rw [positive]
  apply List.map_congr_left
  intro e he
  simp [clampKeys_natCast (hM.keysInRange e he).2]

end Mirrors

namespace Mirrors

/-- Replaying balances that stay unclamped: every value the tables bind fits its column, and
the stores stay mirrored. -/
theorem importBalances (now : Int) : ∀ {L : LocalStore} {st : Stored} (bs : List KeyBalance),
    Mirrors L st → (∀ b ∈ bs, 0 < b.amount ∧ b.amount ≤ maxKeys) →
    StepsFit (fun b keys => (Assoc.get? keys ⟨b.player, b.crate⟩).getD 0 + b.amount ≤ maxKeys)
      (fun b keys => addedTo keys b) bs L.keys →
    StepsFit (fun b st => InI64 b.amount ∧
        InI64 ((Assoc.get? st.keys (b.player.render, b.crate)).getD 0 + b.amount))
      (fun b st => st.importBalance b) bs st ∧
    Mirrors (bs.foldl (fun L b => (L.step now (.addKeys b.player b.crate b.amount)).2) L)
      (bs.foldl Stored.importBalance st)
  | _, _, [], hM, _, _ => ⟨trivial, hM⟩
  | L, st, b :: bs, hM, amounts, ⟨unclamped, rest⟩ => by
    have pos := amounts b List.mem_cons_self
    obtain ⟨fits, mirrors⟩ := importBalances now bs (hM.addKeys pos.1 unclamped)
      (fun b' hb => amounts b' (List.mem_cons_of_mem _ hb)) rest
    refine ⟨⟨hM.addKeys_fits pos.2 unclamped, fits⟩, ?_⟩
    rw [List.foldl_cons, List.foldl_cons, L.step_addKeys now pos.1 unclamped]
    exact mirrors

/-- Appending history keeps the mirror: the tables name only players the store wrote. -/
theorem importHistory : ∀ {st : Stored} (hs : List HistoryEntry), Mirrors L st →
    Mirrors L (hs.foldl Stored.importEntry st)
  | _, [], hM => hM
  | st, h :: hs, hM => by
    rw [List.foldl_cons]
    refine importHistory hs ?_
    unfold Stored.importEntry
    split
    · exact hM.logOpen h.player h.crate h.reward h.time
    · exact hM.logDelivery h.player h.crate _ h.time

end Mirrors

section Calls

variable {σ : Type} {run : Command → Conn σ (Relation × Nat)} {view : σ → DbView}
  (hd : Documented run view) {L : LocalStore} {st : Stored} (hM : Mirrors L st) (now : Int)
include hd hM

theorem mirror_getCooldown (p : PlayerId) (c : String) :
    SqlModel.Answers run view now (.getCooldown p c) ⟨st, none⟩
      (Mirrored L now (.getCooldown p c) st.lastPending) := by
  refine (SqlModel.answers_getCooldown hd now p c _).mono ?_
  rintro r V' ⟨rfl, rfl⟩
  refine ⟨?_, st, rfl, hM, by omega⟩
  show Except.ok _ = Except.ok _
  rw [← Slot.key_mk, hM.get?_cooldowns]

theorem mirror_setCooldown (p : PlayerId) (c : String) (t : Int) (ht : InI64 t) :
    SqlModel.Answers run view now (.setCooldown p c t) ⟨st, none⟩
      (Mirrored L now (.setCooldown p c t) st.lastPending) := by
  refine (SqlModel.answers_setCooldown hd now p c t ht _).mono ?_
  rintro r V' ⟨rfl, rfl⟩
  exact ⟨rfl, _, rfl, hM.setCooldown ⟨p, c⟩ t, by show st.lastPending ≤ _; omega⟩

theorem mirror_keyCount (p : PlayerId) (c : String) :
    SqlModel.Answers run view now (.keyCount p c) ⟨st, none⟩
      (Mirrored L now (.keyCount p c) st.lastPending) := by
  refine (SqlModel.answers_keyCount hd now p c _).mono ?_
  rintro r V' ⟨rfl, rfl⟩
  refine ⟨?_, st, rfl, hM, by omega⟩
  show Except.ok _ = Except.ok _
  rw [← Slot.key_mk, hM.get?_keys, Option.map_map]
  cases h : Assoc.get? L.keys ⟨p, c⟩ with
  | none => rfl
  | some n =>
    have inRange := hM.keysInRange _ (Assoc.mem_of_get? h)
    simp [clampKeys_natCast inRange.2]

theorem mirror_addKeys (p : PlayerId) (c : String) (n : Nat) (typed : n ≤ maxKeys)
    (unclamped : (Assoc.get? L.keys ⟨p, c⟩).getD 0 + n ≤ maxKeys) :
    SqlModel.Answers run view now (.addKeys p c n) ⟨st, none⟩
      (Mirrored L now (.addKeys p c n) st.lastPending) := by
  rcases Nat.eq_zero_or_pos n with rfl | hn
  · refine (SqlModel.answers_addKeys_zero now p c _).mono ?_
    rintro r V' ⟨rfl, rfl⟩
    exact ⟨rfl, st, rfl, hM, by omega⟩
  · have fits := hM.addKeys_fits typed unclamped
    refine (SqlModel.answers_addKeys hd now p c hn fits.1 _ fits.2).mono ?_
    rintro r V' ⟨rfl, rfl⟩
    rw [Mirrored, show L.handle now (.addKeys p c n) = L.step now (.addKeys p c n) from rfl,
      L.step_addKeys now hn unclamped]
    exact ⟨rfl, _, rfl, hM.addKeys hn unclamped, by show st.lastPending ≤ _; omega⟩

theorem mirror_consumeKey (p : PlayerId) (c : String) :
    SqlModel.Answers run view now (.consumeKey p c) ⟨st, none⟩
      (Mirrored L now (.consumeKey p c) st.lastPending) := by
  refine (SqlModel.answers_consumeKey hd now p c st).mono ?_
  rintro r V' ⟨rfl, rfl⟩
  have stored := hM.get?_keys ⟨p, c⟩
  simp only [Slot.key_mk] at stored
  cases h : Assoc.get? L.keys ⟨p, c⟩ with
  | none =>
    rw [h, Option.map_none] at stored
    have local_ : L.handle now (.consumeKey p c) = (.ok false, L) := by
      show L.step now (.consumeKey p c) = _
      simp only [LocalStore.step, h]
    rw [Mirrored, local_, Stored.consume_of_none stored]
    exact ⟨rfl, st, rfl, hM, by omega⟩
  | some n =>
    rw [h, Option.map_some] at stored
    have inRange := hM.keysInRange _ (Assoc.mem_of_get? h)
    simp only at inRange
    by_cases one : n = 1
    · -- the last key: both delete the balance
      subst one
      have local_ : L.handle now (.consumeKey p c) =
          (.ok true, { L with keys := Assoc.erase L.keys ⟨p, c⟩ }) := by
        show L.step now (.consumeKey p c) = _
        simp only [LocalStore.step, h]
        rfl
      rw [Mirrored, local_, Stored.consume_of_one stored]
      exact ⟨rfl, _, rfl, hM.eraseKey ⟨p, c⟩, by show st.lastPending ≤ _; omega⟩
    · have many : 1 < (n : Int) := by omega
      have local_ : L.handle now (.consumeKey p c) =
          (.ok true, { L with keys := Assoc.set L.keys ⟨p, c⟩ (n - 1) }) := by
        show L.step now (.consumeKey p c) = _
        simp only [LocalStore.step, h, show ¬ n ≤ 1 by omega, if_false]
      rw [Mirrored, local_, Stored.consume_of_gt_one stored many,
        show (n : Int) - 1 = ((n - 1 : Nat) : Int) by omega]
      exact ⟨rfl, _, rfl, hM.setKey ⟨p, c⟩ ⟨by omega, by omega⟩, by show st.lastPending ≤ _; omega⟩

theorem mirror_acquireLock (hnow : InI64 now) (p : PlayerId) (c : String) :
    SqlModel.Answers run view now (.acquireLock p c) ⟨st, none⟩
      (Mirrored L now (.acquireLock p c) st.lastPending) := by
  have locked := hM.locked_iff ⟨p, c⟩
  simp only [Slot.key_mk] at locked
  by_cases held : (⟨p, c⟩ : Slot) ∈ L.locks
  · have local_ : L.handle now (.acquireLock p c) = (.ok false, L) := by
      show L.step now (.acquireLock p c) = _
      simp [LocalStore.step, held]
    refine (SqlModel.answers_acquireLock_held hd now p c _ (locked.mpr held)).mono ?_
    rintro r V' ⟨rfl, rfl⟩
    rw [Mirrored, local_]
    exact ⟨rfl, st, rfl, hM, by omega⟩
  · have local_ : L.handle now (.acquireLock p c) =
        (.ok true, { L with locks := L.locks ++ [⟨p, c⟩] }) := by
      show L.step now (.acquireLock p c) = _
      simp [LocalStore.step, held]
    have free : Assoc.get? st.locks (p.render, c) = none :=
      Option.not_isSome_iff_eq_none.mp (mt locked.mp held)
    refine (SqlModel.answers_acquireLock_free hd now hnow p c _ free).mono ?_
    rintro r V' ⟨rfl, rfl⟩
    rw [Mirrored, local_]
    refine ⟨rfl, _, rfl, { hM with locks := ?_ }, by show st.lastPending ≤ _; omega⟩
    show (st.locks ++ [((p.render, c), now)]).map Prod.fst = (L.locks ++ [(⟨p, c⟩ : Slot)]).map Slot.key
    simp [hM.locks]

theorem mirror_releaseLock (p : PlayerId) (c : String) :
    SqlModel.Answers run view now (.releaseLock p c) ⟨st, none⟩
      (Mirrored L now (.releaseLock p c) st.lastPending) := by
  refine (SqlModel.answers_releaseLock hd now p c _).mono ?_
  rintro r V' ⟨rfl, rfl⟩
  refine ⟨rfl, _, rfl, { hM with locks := ?_ }, by show st.lastPending ≤ _; omega⟩
  show (Assoc.erase st.locks (p.render, c)).map Prod.fst = (L.locks.filter (· ≠ (⟨p, c⟩ : Slot))).map Slot.key
  have kept : (Assoc.erase st.locks (p.render, c)).map Prod.fst =
      (st.locks.map Prod.fst).filter (· ≠ (p.render, c)) := by
    simp [Assoc.erase, List.filter_map, Function.comp_def]
  rw [kept, hM.locks, List.filter_map, ← Slot.key_mk]
  congr 1
  apply List.filter_congr
  intro s _
  have same : s.key = (p.render, c) ↔ s = ⟨p, c⟩ := by
    rw [← Slot.key_mk]
    exact Slot.key_injective.eq_iff
  simp [same]

theorem mirror_logOpen (p : PlayerId) (c : String) (r : Option String) (t : Int) (ht : InI64 t) :
    SqlModel.Answers run view now (.logOpen p c r t) ⟨st, none⟩
      (Mirrored L now (.logOpen p c r t) st.lastPending) := by
  refine (SqlModel.answers_logOpen hd now p c r t ht _).mono ?_
  rintro a V' ⟨rfl, rfl⟩
  exact ⟨rfl, _, rfl, { hM.logOpen p c r t with }, by show st.lastPending ≤ _; omega⟩

theorem mirror_recordDelivery (p : PlayerId) (c r : String) (t : Int) (ht : InI64 t) :
    SqlModel.Answers run view now (.recordDelivery p c r t) ⟨st, none⟩
      (Mirrored L now (.recordDelivery p c r t) st.lastPending) := by
  refine (SqlModel.answers_recordDelivery hd now p c r t ht _).mono ?_
  rintro a V' ⟨rfl, rfl⟩
  exact ⟨rfl, _, rfl, { hM.logDelivery p c r t with }, by show st.lastPending ≤ _; omega⟩

theorem mirror_snapshot :
    SqlModel.Answers run view now .snapshot ⟨st, none⟩ (Mirrored L now .snapshot st.lastPending) := by
  refine (SqlModel.answers_snapshot hd now st hM.rendered).mono ?_
  rintro r V' ⟨rfl, snap, rfl, cooldowns, balances, -⟩
  refine ⟨⟨?_, ?_⟩, st, rfl, hM, by omega⟩
  · rw [← List.map_perm_map_iff Cooldown.keyed_injective]
    refine List.Perm.trans ?_ cooldowns.symm
    rw [hM.cooldowns, List.map_map]
    rfl
  · rw [← List.map_perm_map_iff KeyBalance.keyed_injective]
    refine List.Perm.trans ?_ balances.symm
    rw [hM.positiveBalances, List.map_map]
    rfl

theorem mirror_clear :
    SqlModel.Answers run view now .clear ⟨st, none⟩ (Mirrored L now .clear st.lastPending) := by
  refine (SqlModel.answers_clear hd now st).mono ?_
  rintro r V' ⟨rfl, rfl⟩
  have local_ : L.handle now .clear =
      (.ok (), { L with cooldowns := [], keys := [], locks := [], pending := [] }) := rfl
  rw [Mirrored, local_]
  refine ⟨rfl, _, rfl, ⟨rfl, rfl, by simp, rfl, fun q => by simp [Assoc.get?, Stored.cleared],
    List.nodup_nil, by simp [Stored.cleared], hM.counter, by simp [Stored.cleared],
    by simp [Stored.cleared]⟩, by show st.lastPending ≤ _; omega⟩

theorem mirror_import (snap : Snapshot) (typed : Call.Typed (.import snap))
    (unclamped : L.Unclamped (.import snap)) :
    SqlModel.Answers run view now (.import snap) ⟨st, none⟩
      (Mirrored L now (.import snap) st.lastPending) := by
  obtain ⟨cooldownsFit, amountsFit, historyFit⟩ := typed
  -- the cooldowns first, which leave the balances as they are
  have cooldowns := LocalStore.foldl_related Mirrors snap.cooldowns
    (fun L st r _ (h : Mirrors L st) => h.setCooldown ⟨r.player, r.crate⟩ r.lastUsed) hM
  have keys : (snap.cooldowns.foldl
      (fun L r => (L.step now (.setCooldown r.player r.crate r.lastUsed)).2) L).keys = L.keys :=
    foldl_keeps LocalStore.keys (fun (L : LocalStore) (r : Cooldown) => show
      (L.step now (.setCooldown r.player r.crate r.lastUsed)).2.keys = L.keys from rfl) _ _
  -- then the positive balances, each unclamped
  have positive : ∀ b ∈ snap.keyBalances.filter (0 < ·.amount), 0 < b.amount ∧ b.amount ≤ maxKeys :=
    fun b hb => by
      obtain ⟨hb, pos⟩ := List.mem_filter.mp hb
      exact ⟨by simpa using pos, amountsFit b hb⟩
  obtain ⟨fits, balances⟩ := Mirrors.importBalances now _ cooldowns positive (keys ▸ unclamped)
  refine (SqlModel.answers_import hd now st snap ⟨cooldownsFit, fits, historyFit⟩).mono ?_
  rintro r V' ⟨rfl, rfl⟩
  rw [Mirrored, LocalStore.handle_import]
  refine ⟨⟨rfl, rfl⟩, _, rfl, Mirrors.importHistory snap.history balances, ?_⟩
  rw [Stored.lastPending_imported]
  omega

/-- **One call on mirrored stores.** From tables that mirror the in-memory store, a call
whose values fit their columns, made at a time that fits 64 bits while a reward id is left,
and that takes no balance past `maxKeys`, gets an agreeing answer from both stores, and the
tables after it mirror the in-memory store after it. -/
theorem mirror_step (hnow : InI64 now) (hid : InI64 (st.lastPending + 1)) (c : Call)
    (typed : c.Typed) (unclamped : L.Unclamped c) :
    SqlModel.Answers run view now c ⟨st, none⟩ (Mirrored L now c st.lastPending) := by
  cases c with
  | getCooldown p c => exact mirror_getCooldown hd hM now p c
  | setCooldown p c t => exact mirror_setCooldown hd hM now p c t typed
  | keyCount p c => exact mirror_keyCount hd hM now p c
  | addKeys p c n => exact mirror_addKeys hd hM now p c n typed unclamped
  | consumeKey p c => exact mirror_consumeKey hd hM now p c
  | acquireLock p c => exact mirror_acquireLock hd hM now hnow p c
  | releaseLock p c => exact mirror_releaseLock hd hM now p c
  | logOpen p c r t => exact mirror_logOpen hd hM now p c r t typed
  | recordDelivery p c r t => exact mirror_recordDelivery hd hM now p c r t typed
  | queueReward p c r => exact mirror_queueReward hd hM now hnow p c r hid
  | pendingRewards p => exact mirror_pendingRewards hd hM now p
  | markDelivered p c r => exact mirror_markDelivered hd hM now hnow p c r
  | snapshot => exact mirror_snapshot hd hM now
  | clear => exact mirror_clear hd hM now
  | «import» snap => exact mirror_import hd hM now snap typed unclamped

end Calls

end CrateState
