import CrateState.Proofs.SqlCalls
import CrateState.Proofs.Keyed

/-!
# An in-memory store and SQL tables that agree

The two stores keep one state in different shapes: lists keyed by slot and per-player
reward lists, against six tables of texts and integers. `Mirrors L st` says the tables `st`
hold what `L` holds:

* cooldowns and balances are the same lists, each slot written as its texts;
* every balance is positive and at most `maxKeys`;
* the same slots are locked, in the same order;
* each player's waiting rewards are that player's rows, by id, ids distinct and given;
* the history tables name only players the store wrote.

The writes keeping the mirror are proved once for both sides: a cooldown set, a balance set
within `0 < n ≤ maxKeys` or erased, history appended to the tables alone. `Mirrored` is what
one call must leave: the same answer (`Reply.Agree`: snapshots list the same cooldowns and
balances in some order, imports count the same) and the stores mirrored again. The calls
are taken one by one in the following modules, up to `mirror_step`.
-/

namespace CrateState

open Relational

/-! ### Keyed lists under a renaming of keys -/

namespace Assoc

variable {κ κ' α β : Type} [DecidableEq κ] [DecidableEq κ']

theorem get?_map {g : κ → κ'} (hg : Function.Injective g) (h : α → β) (xs : List (κ × α))
    (k : κ) : get? (xs.map (Prod.map g h)) (g k) = (get? xs k).map h := by
  unfold get?
  rw [List.find?_map]
  have same : ((fun e : κ' × β => decide (e.1 = g k)) ∘ Prod.map g h) =
      fun e => decide (e.1 = k) := by
    funext e
    simp [hg.eq_iff]
  rw [same, Option.map_map, Option.map_map]
  rfl

theorem erase_map {g : κ → κ'} (hg : Function.Injective g) (h : α → β) (xs : List (κ × α))
    (k : κ) : erase (xs.map (Prod.map g h)) (g k) = (erase xs k).map (Prod.map g h) := by
  unfold erase
  rw [List.filter_map]
  congr 1
  apply List.filter_congr
  intro e _
  simp [hg.eq_iff]

theorem set_map {g : κ → κ'} (hg : Function.Injective g) (h : α → β) (xs : List (κ × α))
    (k : κ) (v : α) :
    set (xs.map (Prod.map g h)) (g k) (h v) = (set xs k v).map (Prod.map g h) := by
  unfold set
  have present : (xs.map (Prod.map g h)).any (·.1 = g k) = xs.any (·.1 = k) := by
    simp [List.any_map, Function.comp_def, hg.eq_iff]
  rw [present]
  split
  · simp only [List.map_map]
    apply List.map_congr_left
    intro e _
    by_cases hk : e.1 = k <;> simp [hk, hg.eq_iff]
  · simp

end Assoc

/-! ### Players and slots as the tables write them -/

theorem PlayerId.render_injective : Function.Injective PlayerId.render := by
  intro p q h
  have back := PlayerId.parse_render p
  rw [h, PlayerId.parse_render] at back
  cases back
  rfl

def Slot.key (s : Slot) : SlotKey := (s.player.render, s.crate)

@[simp] theorem Slot.key_mk (p : PlayerId) (c : String) : Slot.key ⟨p, c⟩ = (p.render, c) := rfl

theorem Slot.key_injective : Function.Injective Slot.key := by
  rintro ⟨p, c⟩ ⟨q, d⟩ h
  simp only [key, Prod.mk.injEq] at h
  rw [PlayerId.render_injective h.1, h.2]

/-- A waiting reward as its row stores it: crate, reward, status text and time. -/
def PendingReward.row (r : PendingReward) : String × String × String × Int :=
  (r.crate, r.reward, r.status.name, r.createdAt)

/-- The fields of a row of waiting rewards that a reward is read back from. -/
def PendingRow.view (row : PendingRow) : String × String × String × Int :=
  (row.crate, row.reward, row.status, row.createdAt)

@[simp] theorem RewardStatus.parse_name (s : RewardStatus) : RewardStatus.parse s.name = s := by
  cases s <;> rfl

theorem PendingRow.reward?_of_view {row : PendingRow} {r : PendingReward}
    (h : row.view = r.row) : row.reward? = r := by
  simp only [view, PendingReward.row, Prod.mk.injEq] at h
  obtain ⟨hc, hr, hs, ht⟩ := h
  simp only [PendingRow.reward?, hc, hr, hs, ht, RewardStatus.parse_name]

/-! ### The mirror -/

/-- The tables `st` hold what the in-memory store `L` holds. -/
structure Mirrors (L : LocalStore) (st : Stored) : Prop where
  cooldowns : st.cooldowns = L.cooldowns.map (Prod.map Slot.key id)
  keys : st.keys = L.keys.map (Prod.map Slot.key Nat.cast)
  keysInRange : ∀ e ∈ L.keys, 0 < e.2 ∧ e.2 ≤ maxKeys
  locks : st.locks.map Prod.fst = L.locks.map Slot.key
  pending : ∀ p : PlayerId, ((Assoc.get? L.pending p).getD []).map PendingReward.row =
    (st.pending.filter fun row => row.player = p.render).map PendingRow.view
  ids : (st.pending.map PendingRow.id).Nodup
  idsGiven : ∀ row ∈ st.pending, row.id ≤ st.lastPending
  counter : 0 ≤ st.lastPending
  opens : ∀ e ∈ st.opens, PlayerId.IsRender e.1
  deliveries : ∀ e ∈ st.deliveries, PlayerId.IsRender e.1

theorem mirrors_fresh : Mirrors {} {} where
  cooldowns := rfl
  keys := rfl
  keysInRange := by simp
  locks := rfl
  pending := by simp [Assoc.get?]
  ids := List.nodup_nil
  idsGiven := by simp
  counter := Int.le_refl 0
  opens := by simp
  deliveries := by simp

theorem Mirrors.rendered {L : LocalStore} {st : Stored} (hM : Mirrors L st) : st.Rendered := by
  refine ⟨?_, ?_, hM.opens, hM.deliveries⟩
  · intro e he
    rw [hM.cooldowns] at he
    obtain ⟨e', -, rfl⟩ := List.mem_map.mp he
    exact ⟨e'.1.player, rfl⟩
  · intro e he
    rw [hM.keys] at he
    obtain ⟨e', -, rfl⟩ := List.mem_map.mp he
    exact ⟨e'.1.player, rfl⟩

/-! ### Writes that keep the mirror -/

namespace Mirrors

variable {L : LocalStore} {st : Stored} (hM : Mirrors L st)
include hM

theorem get?_keys (s : Slot) : Assoc.get? st.keys s.key = (Assoc.get? L.keys s).map Nat.cast := by
  rw [hM.keys, Assoc.get?_map Slot.key_injective]

theorem setCooldown (s : Slot) (t : Int) :
    Mirrors { L with cooldowns := Assoc.set L.cooldowns s t }
      { st with cooldowns := Assoc.set st.cooldowns s.key t } := by
  refine { hM with cooldowns := ?_ }
  show Assoc.set st.cooldowns s.key t = _
  rw [hM.cooldowns]
  exact Assoc.set_map Slot.key_injective id L.cooldowns s t

/-- A balance written on both sides keeps the mirror if it is positive and at most
`maxKeys`, the only balances the in-memory store keeps. -/
theorem setKey (s : Slot) {v : Nat} (hv : 0 < v ∧ v ≤ maxKeys) :
    Mirrors { L with keys := Assoc.set L.keys s v } { st with keys := Assoc.set st.keys s.key v } := by
  refine { hM with keys := ?_, keysInRange := ?_ }
  · show Assoc.set st.keys s.key (v : Int) = _
    rw [hM.keys]
    exact Assoc.set_map Slot.key_injective Nat.cast L.keys s v
  · intro e he
    rcases Assoc.mem_set he with rfl | he
    · exact hv
    · exact hM.keysInRange e he

theorem eraseKey (s : Slot) :
    Mirrors { L with keys := Assoc.erase L.keys s } { st with keys := Assoc.erase st.keys s.key } := by
  refine { hM with keys := ?_, keysInRange := fun e he => hM.keysInRange e (Assoc.mem_erase he) }
  show Assoc.erase st.keys s.key = _
  rw [hM.keys, Assoc.erase_map Slot.key_injective]

/-- History is kept by the tables alone; a row of it names a player the store wrote. -/
theorem logOpen (p : PlayerId) (c : String) (r : Option String) (t : Int) :
    Mirrors L (st.logOpen p.render c r t) := by
  refine { hM with opens := fun e he => ?_ }
  rcases List.mem_append.mp he with he | he
  · exact hM.opens e he
  · rw [List.mem_singleton.mp he]
    exact ⟨p, rfl⟩

theorem logDelivery (p : PlayerId) (c r : String) (t : Int) :
    Mirrors L (st.logDelivery p.render c r t) := by
  refine { hM with deliveries := fun e he => ?_ }
  rcases List.mem_append.mp he with he | he
  · exact hM.deliveries e he
  · rw [List.mem_singleton.mp he]
    exact ⟨p, rfl⟩

end Mirrors

/-! ### Calls that the two stores answer alike -/

/-- Two answers to a call agree: a snapshot's cooldowns and balances are the same up to
order, an import counted the same cooldowns and balances; any other answer is the same. -/
def Reply.Agree : (c : Call) → Reply c → Reply c → Prop
  | .snapshot, .ok a, .ok b => a.cooldowns.Perm b.cooldowns ∧ a.keyBalances.Perm b.keyBalances
  | .import _, .ok a, .ok b => a.cooldowns = b.cooldowns ∧ a.keyBalances = b.keyBalances
  | _, r, r' => r = r'

/-- The values of a call fit the columns they are written to: times in 64 bits, amounts in
32. -/
def Call.Typed : Call → Prop
  | .setCooldown _ _ t | .logOpen _ _ _ t | .recordDelivery _ _ _ t => InI64 t
  | .addKeys _ _ n => n ≤ maxKeys
  | .import snap => (∀ r ∈ snap.cooldowns, InI64 r.lastUsed) ∧
      (∀ b ∈ snap.keyBalances, b.amount ≤ maxKeys) ∧ (∀ h ∈ snap.history, InI64 h.time)
  | _ => True

/-- The balance after adding to it, unclamped. -/
def addedTo (keys : List (Slot × Nat)) (b : KeyBalance) : List (Slot × Nat) :=
  Assoc.set keys ⟨b.player, b.crate⟩ ((Assoc.get? keys ⟨b.player, b.crate⟩).getD 0 + b.amount)

/-- The call takes no balance of the in-memory store past `maxKeys`, where it would stop. -/
def LocalStore.Unclamped (L : LocalStore) : Call → Prop
  | .addKeys p c n => (Assoc.get? L.keys ⟨p, c⟩).getD 0 + n ≤ maxKeys
  | .import snap =>
    StepsFit (fun b keys => (Assoc.get? keys ⟨b.player, b.crate⟩).getD 0 + b.amount ≤ maxKeys)
      (fun b keys => addedTo keys b) (snap.keyBalances.filter (·.amount > 0)) L.keys
  | _ => True

/-! ### One call on mirrored stores -/

/-- The SQL store's answer agrees with the in-memory store's, and the tables it leaves,
outside any transaction, mirror the in-memory store after the call, with at most one more
id given. -/
def Mirrored (L : LocalStore) (now : Int) (c : Call) (lastPending : Int) (r : Reply c)
    (V : DbView) : Prop :=
  Reply.Agree c (L.handle now c).1 r ∧
    ∃ st', V = ⟨st', none⟩ ∧ Mirrors (L.handle now c).2 st' ∧ st'.lastPending ≤ lastPending + 1

end CrateState
