import CrateState.Proofs.Keyed
import CrateState.Proofs.Breaker

/-!
# The in-memory store refines an abstract store

The documentation describes the in-memory store as three maps: a last open per slot, a key
balance in `[0, maxKeys]` per slot, and a set of locked slots. `KeyStore` is that
description, each call a function on it (`KeyStore.apply`), with the answers it promises
(`KeyStore.answer`; `none` for calls it says nothing about):

* a cooldown write overwrites;
* adding `n > 0` keys sets `min (balance + n) maxKeys`; adding none answers `invalidInput`
  and changes nothing;
* taking a key answers whether the balance is positive, then lowers it by one;
* taking a lock answers whether the slot was free, then locks it; giving it back frees it;
* clearing empties everything; an import replays the snapshot's cooldowns and positive
  balances as writes.

`LocalStore.Represents L A` says the lists of `L` hold the maps of `A`;
`local_store_refines_key_store` is the forward simulation, with each call's frame and the
invariant that no balance of zero or above `maxKeys` is stored.
-/

namespace CrateState

/-- The in-memory store as its documentation describes it. -/
structure KeyStore where
  /-- The last open of each slot. -/
  cooldown : Slot → Option Int
  /-- The key balance of each slot. -/
  keys : Slot → Nat
  /-- No balance is above the largest one a 32-bit counter holds. -/
  keys_le : ∀ s, keys s ≤ maxKeys
  /-- The locked slots. -/
  locks : Finset Slot

namespace KeyStore

@[ext]
theorem ext {A B : KeyStore} (hc : A.cooldown = B.cooldown) (hk : A.keys = B.keys)
    (hl : A.locks = B.locks) : A = B := by
  cases A
  cases B
  cases hc
  cases hk
  cases hl
  rfl

/-- Nothing stored and nothing locked. -/
def empty : KeyStore := ⟨fun _ => none, fun _ => 0, fun _ => Nat.zero_le _, ∅⟩

/-- Overwrites the last open of a slot. -/
def setCooldown (A : KeyStore) (s : Slot) (t : Int) : KeyStore :=
  { A with cooldown := Function.update A.cooldown s (some t) }

/-- Adds keys to a slot, stopping at `maxKeys`. -/
def addKeys (A : KeyStore) (s : Slot) (n : Nat) : KeyStore where
  cooldown := A.cooldown
  keys := Function.update A.keys s (min (A.keys s + n) maxKeys)
  keys_le s' := by
    rcases eq_or_ne s' s with rfl | h
    · simp
    · simpa [h] using A.keys_le s'
  locks := A.locks

/-- Takes one key from a slot; a slot without keys keeps none. -/
def takeKey (A : KeyStore) (s : Slot) : KeyStore where
  cooldown := A.cooldown
  keys := Function.update A.keys s (A.keys s - 1)
  keys_le s' := by
    rcases eq_or_ne s' s with rfl | h
    · simpa using le_trans (Nat.sub_le _ _) (A.keys_le s')
    · simpa [h] using A.keys_le s'
  locks := A.locks

def acquire (A : KeyStore) (s : Slot) : KeyStore := { A with locks := insert s A.locks }

def release (A : KeyStore) (s : Slot) : KeyStore := { A with locks := A.locks.erase s }

/-- Replays a snapshot: every cooldown set, then every positive balance added. -/
def load (A : KeyStore) (snap : Snapshot) : KeyStore :=
  (snap.keyBalances.filter (0 < ·.amount)).foldl (fun A b => A.addKeys ⟨b.player, b.crate⟩ b.amount)
    (snap.cooldowns.foldl (fun A r => A.setCooldown ⟨r.player, r.crate⟩ r.lastUsed) A)

def apply (A : KeyStore) : Call → KeyStore
  | .setCooldown p c t => A.setCooldown ⟨p, c⟩ t
  | .addKeys p c n => if n = 0 then A else A.addKeys ⟨p, c⟩ n
  | .consumeKey p c => A.takeKey ⟨p, c⟩
  | .acquireLock p c => A.acquire ⟨p, c⟩
  | .releaseLock p c => A.release ⟨p, c⟩
  | .clear => empty
  | .import snap => A.load snap
  | _ => A

/-- What a replayed import answers: the cooldowns and positive balances it wrote, and the
history it dropped. -/
def loaded (snap : Snapshot) : ImportOutcome :=
  { cooldowns := snap.cooldowns.length
    keyBalances := (snap.keyBalances.filter (0 < ·.amount)).length
    droppedHistory := snap.history.length }

/-- The answer the description promises for a call, if it promises one. -/
def answer (A : KeyStore) : (c : Call) → Option (Reply c)
  | .getCooldown p c => some (.ok (A.cooldown ⟨p, c⟩))
  | .setCooldown .. => some (.ok ())
  | .keyCount p c => some (.ok (A.keys ⟨p, c⟩))
  | .addKeys _ _ n =>
    some (if n = 0 then .error (.invalidInput "key amount must be positive") else .ok ())
  | .consumeKey p c => some (.ok (decide (0 < A.keys ⟨p, c⟩)))
  | .acquireLock p c => some (.ok (decide (⟨p, c⟩ ∉ A.locks)))
  | .releaseLock .. => some (.ok ())
  | .clear => some (.ok ())
  | .import snap => some (.ok (loaded snap))
  | _ => none

/-- The abstract store after calls, one after another. -/
def runCalls (A : KeyStore) (cs : List Call) : KeyStore := cs.foldl apply A

/-- Answers to calls as the abstract store, run from `A` on the calls, accepts them: each
answer is the one it promises, where it promises one. -/
inductive Accepts : KeyStore → List Answered → Prop
  /-- No calls. -/
  | nil (A : KeyStore) : Accepts A []
  /-- A call whose answer is the promised one, then the rest from the store after it. -/
  | cons {A : KeyStore} {c : Call} {r : Reply c} {rest : List Answered} :
    (∀ r' ∈ A.answer c, r = r') → Accepts (A.apply c) rest → Accepts A (⟨c, r⟩ :: rest)

end KeyStore

/-- The slot a call is about, if it is about one. -/
def Call.slot? : Call → Option Slot
  | .getCooldown p c | .setCooldown p c _ | .keyCount p c | .addKeys p c _ | .consumeKey p c
  | .acquireLock p c | .releaseLock p c | .logOpen p c _ _ | .recordDelivery p c _ _
  | .queueReward p c _ | .markDelivered p c _ => some ⟨p, c⟩
  | _ => none

namespace LocalStore

/-- The lists of an in-memory store hold the maps of an abstract store: a slot's cooldown is
its entry, its balance its entry or zero, and it is locked exactly when listed. -/
structure Represents (L : LocalStore) (A : KeyStore) : Prop where
  cooldown : ∀ s, Assoc.get? L.cooldowns s = A.cooldown s
  /-- The balances. -/
  keys : ∀ s, (Assoc.get? L.keys s).getD 0 = A.keys s
  locks : ∀ s, s ∈ L.locks ↔ s ∈ A.locks

/-- The representation invariant: every stored balance is positive and at most `maxKeys`,
so a balance of zero is never stored. -/
def Wf (L : LocalStore) : Prop := ∀ e ∈ L.keys, 0 < e.2 ∧ e.2 ≤ maxKeys

/-- What the store keeps for one slot: the entries of its cooldown and balance, and whether
it is locked. -/
def entry (L : LocalStore) (s : Slot) : Option Int × Option Nat × Prop :=
  (Assoc.get? L.cooldowns s, Assoc.get? L.keys s, s ∈ L.locks)

/-- Runs calls one after another, each at its own time, collecting each call with its
answer. -/
def run (L : LocalStore) : List (Int × Call) → List Answered × LocalStore
  | [] => ([], L)
  | (now, c) :: cs =>
    let (rs, L') := (L.handle now c).2.run cs
    (⟨c, (L.handle now c).1⟩ :: rs, L')

/-! ### Each write, on both sides -/

namespace Represents

variable {L : LocalStore} {A : KeyStore}

/-- A store with no cooldowns, balances or locks represents the empty abstract store,
whatever rewards it keeps. -/
theorem empty (hc : L.cooldowns = []) (hk : L.keys = []) (hl : L.locks = []) :
    L.Represents KeyStore.empty :=
  ⟨fun _ => by simp [hc, Assoc.get?, KeyStore.empty], fun _ => by simp [hk, Assoc.get?, KeyStore.empty],
    fun _ => by simp [hl, KeyStore.empty]⟩

theorem setCooldown (h : L.Represents A) (s : Slot) (t : Int) :
    Represents { L with cooldowns := Assoc.set L.cooldowns s t } (A.setCooldown s t) := by
  refine ⟨fun s' => ?_, h.keys, h.locks⟩
  rw [Assoc.get?_set]
  rcases eq_or_ne s' s with rfl | hs
  · simp [KeyStore.setCooldown]
  · simp [KeyStore.setCooldown, hs, Ne.symm hs, h.cooldown s']

theorem addKeys (h : L.Represents A) (s : Slot) (n : Nat) :
    Represents
      { L with keys := Assoc.set L.keys s (min ((Assoc.get? L.keys s).getD 0 + n) maxKeys) }
      (A.addKeys s n) := by
  refine ⟨h.cooldown, fun s' => ?_, h.locks⟩
  rw [Assoc.get?_set]
  rcases eq_or_ne s' s with rfl | hs
  · simp [KeyStore.addKeys, h.keys]
  · simp [KeyStore.addKeys, hs, Ne.symm hs, h.keys s']

/-- Taking a key when the slot's entry is `n`: a balance of at most one goes, a larger one
is lowered. -/
theorem takeKey (h : L.Represents A) {s : Slot} {n : Nat} (hn : Assoc.get? L.keys s = some n) :
    Represents
      (if n ≤ 1 then { L with keys := Assoc.erase L.keys s }
        else { L with keys := Assoc.set L.keys s (n - 1) })
      (A.takeKey s) := by
  have held : A.keys s = n := by rw [← h.keys s, hn]; rfl
  split
  · refine ⟨h.cooldown, fun s' => ?_, h.locks⟩
    rw [Assoc.get?_erase]
    rcases eq_or_ne s' s with rfl | hs
    · simp [KeyStore.takeKey, held]
      omega
    · simp [KeyStore.takeKey, hs, Ne.symm hs, h.keys s']
  · refine ⟨h.cooldown, fun s' => ?_, h.locks⟩
    rw [Assoc.get?_set]
    rcases eq_or_ne s' s with rfl | hs
    · simp [KeyStore.takeKey, held]
    · simp [KeyStore.takeKey, hs, Ne.symm hs, h.keys s']

theorem takeKey_none (h : L.Represents A) {s : Slot} (hn : Assoc.get? L.keys s = none) :
    L.Represents (A.takeKey s) := by
  have held : A.keys s = 0 := by rw [← h.keys s, hn]; rfl
  refine ⟨h.cooldown, fun s' => ?_, h.locks⟩
  rcases eq_or_ne s' s with rfl | hs
  · simp [KeyStore.takeKey, held, hn]
  · simp [KeyStore.takeKey, hs, h.keys s']

theorem acquire (h : L.Represents A) (s : Slot) :
    Represents { L with locks := L.locks ++ [s] } (A.acquire s) :=
  ⟨h.cooldown, h.keys, fun s' => by simp [KeyStore.acquire, h.locks s', or_comm]⟩

theorem release (h : L.Represents A) (s : Slot) :
    Represents { L with locks := L.locks.filter (· ≠ s) } (A.release s) :=
  ⟨h.cooldown, h.keys, fun s' => by simp [KeyStore.release, h.locks s', and_comm]⟩

end Represents

/-! ### One call -/

theorem step_represents {L : LocalStore} {A : KeyStore} (h : L.Represents A) (now : Int)
    {c : Call} (hc : ∀ snap, c ≠ .import snap) :
    (L.step now c).2.Represents (A.apply c) ∧ ∀ r ∈ A.answer c, (L.step now c).1 = r := by
  cases c with
  | getCooldown p c => exact ⟨h, by simp [step, KeyStore.answer, h.cooldown]⟩
  | setCooldown p c t => exact ⟨h.setCooldown _ t, by simp [step, KeyStore.answer]⟩
  | keyCount p c => exact ⟨h, by simp [step, KeyStore.answer, h.keys]⟩
  | addKeys p c n =>
    by_cases hn : n = 0
    · exact ⟨by simpa [step, KeyStore.apply, hn] using h, by simp [step, KeyStore.answer, hn]⟩
    · exact ⟨by simpa [step, KeyStore.apply, hn] using h.addKeys ⟨p, c⟩ n,
        by simp [step, KeyStore.answer, hn]⟩
  | consumeKey p c =>
    cases hk : Assoc.get? L.keys ⟨p, c⟩ with
    | none =>
      have held : A.keys ⟨p, c⟩ = 0 := by rw [← h.keys, hk]; rfl
      exact ⟨by simpa [step, hk, KeyStore.apply] using h.takeKey_none hk,
        by simp [step, hk, KeyStore.answer, held]⟩
    | some n =>
      have held : A.keys ⟨p, c⟩ = n := by rw [← h.keys, hk]; rfl
      refine ⟨?_, ?_⟩
      · have moved := h.takeKey hk
        by_cases hn : n ≤ 1 <;> simpa [step, hk, hn, KeyStore.apply] using moved
      · -- a stored entry of zero would answer `false` too
        have same : (if n ≤ 1 then n == 1 else true) = decide (0 < n) := by
          rcases n with _ | _ | n <;> simp
        simp only [step, hk, KeyStore.answer, held, Option.mem_def, Option.some.injEq, forall_eq',
          ← same]
        split <;> rfl
  | acquireLock p c =>
    by_cases held : (⟨p, c⟩ : Slot) ∈ A.locks
    · have listed : (⟨p, c⟩ : Slot) ∈ L.locks := (h.locks _).mpr held
      have same : A.acquire ⟨p, c⟩ = A := by
        ext <;> simp [KeyStore.acquire, Finset.insert_eq_of_mem held]
      exact ⟨by simpa [step, listed, KeyStore.apply, same] using h,
        by simp [step, listed, KeyStore.answer, held]⟩
    · have listed : (⟨p, c⟩ : Slot) ∉ L.locks := fun hl => held ((h.locks _).mp hl)
      exact ⟨by simpa [step, listed, KeyStore.apply] using h.acquire ⟨p, c⟩,
        by simp [step, listed, KeyStore.answer, held]⟩
  | releaseLock p c => exact ⟨h.release ⟨p, c⟩, by simp [step, KeyStore.answer]⟩
  | logOpen => exact ⟨⟨h.cooldown, h.keys, h.locks⟩, by simp [KeyStore.answer]⟩
  | recordDelivery => exact ⟨⟨h.cooldown, h.keys, h.locks⟩, by simp [KeyStore.answer]⟩
  | queueReward => exact ⟨⟨h.cooldown, h.keys, h.locks⟩, by simp [KeyStore.answer]⟩
  | pendingRewards => exact ⟨h, by simp [KeyStore.answer]⟩
  | markDelivered p c r =>
    refine ⟨?_, by simp [KeyStore.answer]⟩
    simp only [step, KeyStore.apply]
    split
    · exact h
    · split
      · exact h
      · exact ⟨h.cooldown, h.keys, h.locks⟩
  | snapshot => exact ⟨h, by simp [KeyStore.answer]⟩
  | clear => exact ⟨Represents.empty rfl rfl rfl, by simp [step, KeyStore.answer]⟩
  | «import» snap => exact absurd rfl (hc snap)

theorem step_wf {L : LocalStore} (h : L.Wf) (now : Int) (c : Call) : (L.step now c).2.Wf := by
  cases c with
  | addKeys p c n =>
    simp only [step]
    split
    · exact h
    · intro e he
      rcases Assoc.mem_set he with rfl | he
      · exact ⟨by simp [maxKeys]; omega, by simp⟩
      · exact h e he
  | consumeKey p c =>
    simp only [step]
    split
    · exact h
    · next n hk =>
      have bound := (h _ (Assoc.mem_of_get? hk)).2
      split
      · exact fun e he => h e (Assoc.mem_erase he)
      · intro e he
        rcases Assoc.mem_set he with rfl | he
        · exact ⟨by simp; omega, by simp at bound ⊢; omega⟩
        · exact h e he
  | clear => intro e he; simp [step] at he
  | «import» => exact h
  | markDelivered p c r =>
    simp only [step]
    split
    · exact h
    · split <;> exact h
  | acquireLock p c =>
    simp only [step]
    split <;> exact h
  | _ => exact h

/-! ### Imports, replayed -/

section Replay

variable (now : Int)

theorem replay_cooldowns (L : LocalStore) (rs : List Cooldown) (n : Nat) :
    StateT.run (Replay.cooldowns (m := StateM LocalStore)
        (fun c => modifyGet fun st => st.step now c) rs n) L =
      pure (.ok (n + rs.length),
        rs.foldl (fun L r => (L.step now (.setCooldown r.player r.crate r.lastUsed)).2) L) := by
  induction rs generalizing L n with
  | nil => rfl
  | cons r rs ih =>
    have count : n + (r :: rs).length = n + 1 + rs.length := by simp; omega
    rw [count, List.foldl_cons, ← ih]
    rfl

theorem replay_balances (L : LocalStore) (bs : List KeyBalance) (n : Nat) :
    StateT.run (Replay.balances (m := StateM LocalStore)
        (fun c => modifyGet fun st => st.step now c) bs n) L =
      pure (.ok (n + (bs.filter (0 < ·.amount)).length),
        (bs.filter (0 < ·.amount)).foldl
          (fun L b => (L.step now (.addKeys b.player b.crate b.amount)).2) L) := by
  induction bs generalizing L n with
  | nil => rfl
  | cons b bs ih =>
    by_cases hb : b.amount = 0
    · simpa [Replay.balances, hb] using ih L n
    · have added : (L.step now (.addKeys b.player b.crate b.amount)).1 = .ok () := by
        simp [step, hb]
      have count : n + ((b :: bs).filter (0 < ·.amount)).length =
          n + 1 + (bs.filter (0 < ·.amount)).length := by
        simp [Nat.pos_of_ne_zero hb]
        omega
      rw [count, List.filter_cons_of_pos (by simpa using Nat.pos_of_ne_zero hb), List.foldl_cons,
        ← ih]
      simp only [Replay.balances, hb, if_false, StateT.run_bind, StateT.run_modifyGet, added]
      rfl

end Replay

/-- **An import is the replay of its cooldowns and positive balances**, and answers what it
wrote and dropped. -/
theorem handle_import (L : LocalStore) (now : Int) (snap : Snapshot) :
    L.handle now (.import snap) =
      (.ok (KeyStore.loaded snap),
        (snap.keyBalances.filter (0 < ·.amount)).foldl
          (fun L b => (L.step now (.addKeys b.player b.crate b.amount)).2)
          (snap.cooldowns.foldl
            (fun L r => (L.step now (.setCooldown r.player r.crate r.lastUsed)).2) L)) := by
  show StateT.run (replay _ (pure false) snap) L = _
  simp only [replay, StateT.run_bind, replay_cooldowns, replay_balances, pure_bind, Nat.zero_add,
    Bool.not_false, if_true, StateT.run_pure]
  rfl

/-- Two folds over the same list in step: related states stay related when each step by a
member keeps the relation. -/
theorem foldl_related {σ τ β : Type} (R : σ → τ → Prop) {f : σ → β → σ} {g : τ → β → τ}
    (bs : List β) (step : ∀ s t, ∀ b ∈ bs, R s t → R (f s b) (g t b)) {s : σ} {t : τ}
    (h : R s t) : R (bs.foldl f s) (bs.foldl g t) := by
  induction bs generalizing s t with
  | nil => exact h
  | cons b bs ih =>
    exact ih (fun s t b hb => step s t b (List.mem_cons_of_mem _ hb))
      (step s t b List.mem_cons_self h)

theorem handle_of_ne_import {c : Call} (hc : ∀ snap, c ≠ .import snap) (L : LocalStore)
    (now : Int) : L.handle now c = L.step now c := by
  cases c
  case «import» snap => exact absurd rfl (hc snap)
  all_goals rfl

/-- **One call of the in-memory store is one call of the abstract store**: from a
represented state, the abstract answer, and a represented state after it. -/
theorem handle_represents {L : LocalStore} {A : KeyStore} (h : L.Represents A) (now : Int)
    (c : Call) :
    (L.handle now c).2.Represents (A.apply c) ∧ ∀ r ∈ A.answer c, (L.handle now c).1 = r := by
  by_cases hc : ∀ snap, c ≠ .import snap
  · rw [handle_of_ne_import hc]
    exact step_represents h now hc
  · obtain ⟨snap, rfl⟩ := not_forall_not.mp hc
    rw [handle_import]
    refine ⟨?_, by simp [KeyStore.answer]⟩
    -- both sides replay the same writes, one step at a time
    refine foldl_related Represents _ (fun L A b hb h => ?_) (foldl_related Represents _
      (fun L A r _ h => ?_) h)
    · have positive : b.amount ≠ 0 := Nat.pos_iff_ne_zero.mp (by simpa using (List.mem_filter.mp hb).2)
      simpa [KeyStore.apply, positive] using
        (step_represents h now (c := .addKeys b.player b.crate b.amount) nofun).1
    · exact (step_represents h now (c := .setCooldown r.player r.crate r.lastUsed) nofun).1

theorem handle_wf {L : LocalStore} (h : L.Wf) (now : Int) (c : Call) : (L.handle now c).2.Wf := by
  by_cases hc : ∀ snap, c ≠ .import snap
  · rw [handle_of_ne_import hc]
    exact step_wf h now c
  · obtain ⟨snap, rfl⟩ := not_forall_not.mp hc
    rw [handle_import]
    refine List.foldlRecOn _ _ (motive := Wf) ?_ fun L h _ _ => step_wf h now _
    exact List.foldlRecOn _ _ (motive := Wf) h fun L h _ _ => step_wf h now _

/-- **Every call touches only its own slot**: whatever the store holds, a call about one
slot leaves the entries of every other slot as they were. -/
theorem entry_handle_of_ne (L : LocalStore) (now : Int) {c : Call} {s₀ s : Slot}
    (hc : c.slot? = some s₀) (hs : s ≠ s₀) : (L.handle now c).2.entry s = L.entry s := by
  have notImport : ∀ snap, c ≠ .import snap := by
    rintro snap rfl
    simp [Call.slot?] at hc
  rw [handle_of_ne_import notImport]
  cases c <;> simp only [Call.slot?, Option.some.injEq, reduceCtorEq] at hc <;> subst hc
  case addKeys n => by_cases hn : n = 0 <;> simp [step, entry, hn, Assoc.get?_set, Ne.symm hs]
  case consumeKey =>
    simp only [step]
    split
    · rfl
    · split <;> simp [entry, Assoc.get?_set, Assoc.get?_erase, Ne.symm hs]
  case acquireLock =>
    simp only [step]
    split
    · rfl
    · simp [entry, hs]
  case markDelivered =>
    simp only [step]
    split
    · rfl
    · split <;> rfl
  all_goals simp [step, entry, Assoc.get?_set, hs, Ne.symm hs]

/-! ### Runs -/

/-- **Runs of the in-memory store are runs of the abstract store**: from a represented state,
after any calls the store represents the abstract store after the same calls, and every
answer on the way is the one the abstract store promised. -/
theorem run_represents {L : LocalStore} {A : KeyStore} (h : L.Represents A)
    (cs : List (Int × Call)) :
    (L.run cs).2.Represents (A.runCalls (cs.map Prod.snd)) ∧ A.Accepts (L.run cs).1 := by
  induction cs generalizing L A with
  | nil => exact ⟨h, .nil A⟩
  | cons call cs ih =>
    obtain ⟨now, c⟩ := call
    obtain ⟨moved, answered⟩ := handle_represents h now c
    obtain ⟨h', accepted⟩ := ih moved
    exact ⟨h', .cons answered accepted⟩

theorem run_wf {L : LocalStore} (h : L.Wf) (cs : List (Int × Call)) : (L.run cs).2.Wf := by
  induction cs generalizing L with
  | nil => exact h
  | cons call cs ih => exact ih (handle_wf h call.1 call.2)

end LocalStore

/-- **The in-memory store refines the abstract store.** Run on any calls, each at any time,
from a fresh store, it ends representing the empty abstract store run on the same calls,
every answer on the way is the one the abstract store promised, and it never stores a
balance of zero or one above `maxKeys`. Whatever it holds, a call about one slot leaves every
other slot as it was. -/
theorem local_store_refines_key_store (cs : List (Int × Call)) :
    (LocalStore.run {} cs).2.Represents (KeyStore.empty.runCalls (cs.map Prod.snd)) ∧
      KeyStore.empty.Accepts (LocalStore.run {} cs).1 ∧ (LocalStore.run {} cs).2.Wf ∧
      ∀ (L : LocalStore) (now : Int) (c : Call) (s₀ s : Slot), c.slot? = some s₀ → s ≠ s₀ →
        (L.handle now c).2.entry s = L.entry s := by
  obtain ⟨represents, accepted⟩ :=
    LocalStore.run_represents (LocalStore.Represents.empty (L := {}) rfl rfl rfl) cs
  have fresh : LocalStore.Wf {} := by
    intro e he
    simp at he
  exact ⟨represents, accepted, LocalStore.run_wf fresh cs,
    fun L now _ _ _ hc hs => L.entry_handle_of_ne now hc hs⟩

end CrateState
