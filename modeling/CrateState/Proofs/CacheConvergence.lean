import CrateState.Sync.Cache
import CrateState.Proofs.Keyed

/-!
# The observation cache converges

An observation keeps three last-write-wins registers (`Register`): the last cooldown, key
use and reward. An event writes some (`SyncEvent.writes`): a cooldown set or open the
cooldown, a key use the key use, a reward grant or an open carrying a reward the reward. A
write lands exactly when its time is strictly newer (`Observation.changes`).

`Observation.apply_eq` puts `Observation.apply` in that form, register by register, and
`time?_apply` reads it as a maximum. Folding events into a cache (`applyAll`) therefore
leaves each register of each slot at the newest time among the slot's events writing it
(`latest`), whatever their order and repetitions: `observation_cache_converges`.
-/

namespace CrateState

/-- The three last-write-wins registers of an observation. -/
inductive Register where
  /-- The last cooldown. -/
  | cooldown
  /-- The last key use. -/
  | keyUse
  /-- The last reward. -/
  | reward
  deriving DecidableEq

namespace SyncEvent

/-- Whether an event writes a register: a cooldown set or an open writes the cooldown, a key
use the last key use, and a reward grant or an open that carries a reward the last reward. -/
def writes (e : SyncEvent) : Register → Bool
  | .cooldown => e.kind == .cooldownSet || e.kind == .crateOpened
  | .keyUse => e.kind == .keyConsumed
  | .reward => (e.kind == .rewardGranted || e.kind == .crateOpened) && e.reward.isSome

def slot (e : SyncEvent) : PlayerId × String := (e.player, e.crate)

theorem isSome_reward {e : SyncEvent} (h : e.writes .reward = true) : e.reward.isSome = true := by
  simp only [writes, Bool.and_eq_true] at h
  exact h.2

end SyncEvent

/-! ### One event on one observation -/

/-- A register's write under the cache's rule: it lands exactly when the time is strictly
newer than the one held. -/
theorem newer_eq (v : Option Int) (t : Int) :
    newer v t = if v.all (· < t) then some (some t) else none := by
  cases v with
  | none => rfl
  | some c => by_cases h : t ≤ c <;> simp [newer, h]

theorem newerReward_eq (v : Option (String × Int)) (w : String) (t : Int) :
    newerReward v w t = if (v.map (·.2)).all (· < t) then some (some (w, t)) else none := by
  cases v with
  | none => rfl
  | some c => by_cases h : t ≤ c.2 <;> simp [newerReward, h]

theorem max_register (v : Option Int) (t : Int) :
    (if v.all (· < t) then some t else v) = max v (some t) := by
  cases v with
  | none => rfl
  | some c =>
    by_cases h : c < t
    · simp [h, Int.le_of_lt h]
    · simp [h, Int.max_def]
      omega

namespace Observation

def time? (o : Observation) : Register → Option Int
  | .cooldown => o.cooldown
  | .keyUse => o.lastKeyConsumed
  | .reward => o.lastReward.map (·.2)

@[simp] theorem time?_default (r : Register) : ({} : Observation).time? r = none := by
  cases r <;> rfl

/-- Whether an event lands a write in a register: it writes the register, at a time strictly
newer than the one held. -/
def changes (o : Observation) (e : SyncEvent) (r : Register) : Bool :=
  e.writes r && (o.time? r).all (· < e.time)

/-- **An apply, register by register**: each register the event changes takes the event's
time (the reward with the event's reward), the rest stay, and the origin moves to the event's
exactly when some register changed. -/
theorem apply_eq (o : Observation) (e : SyncEvent) :
    o.apply e =
      let o' : Observation :=
        { o with
          cooldown := if o.changes e .cooldown then some e.time else o.cooldown
          lastKeyConsumed := if o.changes e .keyUse then some e.time else o.lastKeyConsumed
          lastReward := if o.changes e .reward then e.reward.map (·, e.time) else o.lastReward }
      let changed := o.changes e .cooldown || o.changes e .keyUse || o.changes e .reward
      (if changed then { o' with origin := e.origin } else o', changed) := by
  obtain ⟨kind, origin, player, crate, reward, t⟩ := e
  cases kind
  case cooldownSet =>
    by_cases hc : o.cooldown.all (· < t) <;>
      simp [apply, newer_eq, changes, time?, SyncEvent.writes, hc]
  case keyConsumed =>
    by_cases hk : o.lastKeyConsumed.all (· < t) <;>
      simp [apply, newer_eq, changes, time?, SyncEvent.writes, hk]
  case rewardGranted =>
    cases reward
    · simp [apply, changes, SyncEvent.writes]
    · by_cases hr : (o.lastReward.map (·.2)).all (· < t) <;>
        simp [apply, newerReward_eq, changes, time?, SyncEvent.writes, hr]
  case crateOpened =>
    -- the reward is written even when the cooldown already changed
    cases reward <;> by_cases hc : o.cooldown.all (· < t)
    all_goals try by_cases hr : (o.lastReward.map (·.2)).all (· < t)
    all_goals simp_all [apply, newer_eq, newerReward_eq, changes, time?, SyncEvent.writes]

theorem snd_apply (o : Observation) (e : SyncEvent) :
    (o.apply e).2 = (o.changes e .cooldown || o.changes e .keyUse || o.changes e .reward) := by
  rw [apply_eq]

theorem fst_apply_of_snd (o : Observation) (e : SyncEvent) (h : (o.apply e).2 = false) :
    (o.apply e).1 = o := by
  rw [snd_apply] at h
  simp only [Bool.or_eq_false_iff] at h
  obtain ⟨⟨hc, hk⟩, hr⟩ := h
  rw [apply_eq]
  simp [hc, hk, hr]

theorem time?_apply_changes (o : Observation) (e : SyncEvent) (r : Register) :
    (o.apply e).1.time? r = if o.changes e r then some e.time else o.time? r := by
  rw [apply_eq]
  cases r
  all_goals
    by_cases changed : o.changes e .cooldown || o.changes e .keyUse || o.changes e .reward <;>
      simp only [changed, if_true, if_false, Bool.false_eq_true, time?]
  all_goals
    split
    · next hr =>
      obtain ⟨w, hw⟩ := Option.isSome_iff_exists.mp
        (SyncEvent.isSome_reward (Bool.and_eq_true_iff.mp hr).1)
      simp [hw]
    · rfl

/-- **A register after an apply is the larger of its time and the event's**, when the event
writes it, and stays otherwise. -/
theorem time?_apply (o : Observation) (e : SyncEvent) (r : Register) :
    (o.apply e).1.time? r = if e.writes r then max (o.time? r) (some e.time) else o.time? r := by
  rw [time?_apply_changes, changes]
  by_cases hw : e.writes r
  · rw [if_pos hw, ← max_register]
    by_cases newer : (o.time? r).all (· < e.time) <;> simp [hw, newer]
  · simp [hw]

theorem lastReward_apply (o : Observation) (e : SyncEvent) :
    (o.apply e).1.lastReward = o.lastReward ∨
      ∃ w, e.writes .reward = true ∧ e.reward = some w ∧
        (o.apply e).1.lastReward = some (w, e.time) := by
  rw [apply_eq]
  by_cases hr : o.changes e .reward
  · have writes : e.writes .reward = true := (Bool.and_eq_true_iff.mp hr).1
    obtain ⟨w, hw⟩ := Option.isSome_iff_exists.mp (SyncEvent.isSome_reward writes)
    refine .inr ⟨w, writes, hw, ?_⟩
    simp only [hr, if_true, hw, Option.map_some]
    split <;> rfl
  · refine .inl ?_
    simp only [hr, Bool.false_eq_true, if_false]
    split <;> rfl

end Observation

/-! ### One event on a cache -/

namespace ObservationCache

/-- Applies events one after another. -/
def applyAll (c : ObservationCache) (es : List SyncEvent) : ObservationCache :=
  es.foldl (fun c e => (c.apply e).2) c

/-- The entry of a slot, a fresh one when there is none. -/
def entry (c : ObservationCache) (s : PlayerId × String) : Observation :=
  (c.get? s.1 s.2).getD {}

theorem get?_eq (c : ObservationCache) (p : PlayerId) (crate : String) :
    c.get? p crate = Assoc.get? c.entries (p, crate) := by
  simp only [get?, Assoc.get?, Bool.beq_eq_decide_eq]

theorem entries_apply (c : ObservationCache) (e : SyncEvent) :
    (c.apply e).2.entries = Assoc.set c.entries e.slot ((c.entry e.slot).apply e).1 := by
  simp only [apply, Assoc.set, beq_iff_eq, entry, SyncEvent.slot]
  split <;> simp_all

theorem get?_apply (c : ObservationCache) (e : SyncEvent) (p : PlayerId) (crate : String) :
    (c.apply e).2.get? p crate =
      if e.slot = (p, crate) then some ((c.entry e.slot).apply e).1 else c.get? p crate := by
  rw [get?_eq, entries_apply, Assoc.get?_set, ← get?_eq]

theorem entry_apply (c : ObservationCache) (e : SyncEvent) (s : PlayerId × String) :
    (c.apply e).2.entry s = if e.slot = s then ((c.entry s).apply e).1 else c.entry s := by
  by_cases h : e.slot = s
  · subst h
    simp [entry, get?_apply]
  · simp [entry, get?_apply, h]

end ObservationCache

/-! ### Many events on a cache -/

/-- The newest time among the events of a slot that write a register; `none` when there are
none. -/
def latest (es : List SyncEvent) (s : PlayerId × String) (r : Register) : Option Int :=
  ((es.filter fun e => decide (e.slot = s) && e.writes r).map (·.time)).max?

theorem latest_nil (s : PlayerId × String) (r : Register) : latest [] s r = none := rfl

theorem latest_cons (e : SyncEvent) (es : List SyncEvent) (s : PlayerId × String) (r : Register) :
    latest (e :: es) s r =
      if e.slot = s ∧ e.writes r = true then max (some e.time) (latest es s r) else latest es s r := by
  unfold latest
  by_cases h : e.slot = s ∧ e.writes r = true
  · rw [if_pos h, List.filter_cons_of_pos (by simpa using h), List.map_cons, List.max?_cons]
    cases ((es.filter fun e => decide (e.slot = s) && e.writes r).map (·.time)).max? <;> rfl
  · rw [if_neg h, List.filter_cons_of_neg (by simpa using h)]

theorem max?_eq_of_mem_iff {xs ys : List Int} (h : ∀ x, x ∈ xs ↔ x ∈ ys) : xs.max? = ys.max? := by
  cases hx : xs.max? with
  | none =>
    have empty : ys = [] := List.eq_nil_iff_forall_not_mem.mpr fun y hy =>
      by simp [List.max?_eq_none_iff.mp hx] at h; exact h y hy
    rw [empty, List.max?_nil]
  | some a =>
    obtain ⟨mem, le⟩ := List.max?_eq_some_iff.mp hx
    exact (List.max?_eq_some_iff.mpr ⟨(h a).mp mem, fun b hb => le b ((h b).mpr hb)⟩).symm

theorem latest_congr {es fs : List SyncEvent} (same : ∀ e, e ∈ es ↔ e ∈ fs)
    (s : PlayerId × String) (r : Register) : latest es s r = latest fs s r :=
  max?_eq_of_mem_iff fun x => by simp [same]

theorem max_max_option (a b c : Option Int) : max (max a b) c = max a (max b c) := by
  cases a <;> cases b <;> cases c <;> simp [Int.max_assoc]

namespace ObservationCache

/-- **Each register of each slot after events is the newest of its time and theirs.** -/
theorem time?_applyAll (c : ObservationCache) (es : List SyncEvent) (s : PlayerId × String)
    (r : Register) :
    ((c.applyAll es).entry s).time? r = max ((c.entry s).time? r) (latest es s r) := by
  induction es generalizing c with
  | nil => simp [applyAll, latest_nil]
  | cons e es ih =>
    -- the first event moves the register of its own slot; the rest are folded in after it
    rw [applyAll, List.foldl_cons, ← applyAll, ih, entry_apply, latest_cons]
    by_cases hs : e.slot = s
    · by_cases hw : e.writes r
      · simp [hs, hw, Observation.time?_apply, max_max_option]
      · simp [hs, hw, Observation.time?_apply]
    · simp [hs]

theorem isSome_get?_applyAll (c : ObservationCache) (es : List SyncEvent) (p : PlayerId)
    (crate : String) :
    ((c.applyAll es).get? p crate).isSome =
      ((c.get? p crate).isSome || es.any (·.slot = (p, crate))) := by
  induction es generalizing c with
  | nil => simp [applyAll]
  | cons e es ih =>
    rw [applyAll, List.foldl_cons, ← applyAll, ih, get?_apply]
    by_cases hs : e.slot = (p, crate) <;> simp [hs]

/-- A reward held after events was held before, or is the reward of one of the events, with
its time. -/
theorem lastReward_applyAll {c : ObservationCache} {es : List SyncEvent} {s : PlayerId × String}
    {w : String} {t : Int} (h : ((c.applyAll es).entry s).lastReward = some (w, t)) :
    (c.entry s).lastReward = some (w, t) ∨
      ∃ e ∈ es, e.slot = s ∧ e.writes .reward = true ∧ e.reward = some w ∧ e.time = t := by
  induction es generalizing c with
  | nil => exact .inl h
  | cons e es ih =>
    rw [applyAll, List.foldl_cons, ← applyAll] at h
    rcases ih h with held | ⟨e', mem, rest⟩
    · rw [entry_apply] at held
      split at held
      · next hs =>
        rcases Observation.lastReward_apply (c.entry s) e with same | ⟨w', writes, hw', landed⟩
        · exact .inl (same ▸ held)
        · rw [landed, Option.some.injEq, Prod.mk.injEq] at held
          obtain ⟨rfl, rfl⟩ := held
          exact .inr ⟨e, List.mem_cons_self, hs, writes, hw', rfl⟩
      · exact .inl held
    · exact .inr ⟨e', List.mem_cons_of_mem _ mem, rest⟩

end ObservationCache

/-! ### Convergence -/

namespace ObservationCache

/-- On a fresh cache, each register of each slot after events is the newest time among them. -/
theorem time?_applyAll_fresh (es : List SyncEvent) (s : PlayerId × String) (r : Register) :
    (((({} : ObservationCache).applyAll es).entry s).time? r) = latest es s r := by
  rw [time?_applyAll]
  simp [entry, get?]

/-- On a fresh cache, when a single event carries the newest reward time of a slot, the slot
holds that event's reward. -/
theorem lastReward_applyAll_fresh {es : List SyncEvent} {e : SyncEvent} (he : e ∈ es)
    (slot : e.slot = s) (writes : e.writes .reward = true)
    (newest : latest es s .reward = some e.time)
    (single : ∀ e' ∈ es, e'.slot = s → e'.writes .reward = true → e'.time = e.time → e' = e) :
    ((({} : ObservationCache).applyAll es).entry s).lastReward = e.reward.map (·, e.time) := by
  have held := time?_applyAll_fresh es s .reward
  rw [newest, Observation.time?, Option.map_eq_some_iff] at held
  obtain ⟨⟨w, t⟩, hw, rfl⟩ := held
  rcases lastReward_applyAll hw with fresh | ⟨e', mem, slot', writes', reward', time'⟩
  · simp [entry, get?] at fresh
  · obtain rfl := single e' mem slot' writes' time'
    rw [hw, reward', Option.map_some, time']

theorem fst_apply_iff (c : ObservationCache) (e : SyncEvent) :
    (c.apply e).1 = true ↔
      ∃ r, e.writes r = true ∧ ∀ t ∈ (c.entry e.slot).time? r, t < e.time := by
  show ((c.entry e.slot).apply e).2 = true ↔ _
  rw [Observation.snd_apply]
  constructor
  · intro h
    simp only [Bool.or_eq_true] at h
    rcases h with (h | h) | h <;>
      exact ⟨_, (Bool.and_eq_true_iff.mp h).1,
        by simpa [Option.all_eq_true] using (Bool.and_eq_true_iff.mp h).2⟩
  · rintro ⟨r, writes, newer⟩
    have landed : (c.entry e.slot).changes e r = true := by
      simpa [Observation.changes, writes, Option.all_eq_true] using newer
    cases r <;> simp [landed]

/-- An apply that answers `false` leaves every entry as it was (a slot seen for the first
time gets a fresh entry). -/
theorem entry_apply_of_fst (c : ObservationCache) (e : SyncEvent) (h : (c.apply e).1 = false)
    (s : PlayerId × String) : (c.apply e).2.entry s = c.entry s := by
  rw [entry_apply]
  split
  · next hs =>
    subst hs
    exact Observation.fst_apply_of_snd _ e h
  · rfl

end ObservationCache

/-- **The observation cache converges whatever the order and repetition of events.** Two lists
with the same events, applied to fresh caches, give caches with entries for the same slots;
in each, every register of a slot holds the newest time among the events of the slot that
write it (`none` when there are none); and when a single event carries the newest reward
time of a slot, both hold that event's reward. Every apply answers `true` exactly when the
event's time is strictly newer than the time held by some register the event writes, and
an apply that answers `false` changes no entry. -/
theorem observation_cache_converges (es fs : List SyncEvent) (same : ∀ e, e ∈ es ↔ e ∈ fs)
    (s : PlayerId × String) :
    let A := ({} : ObservationCache).applyAll es
    let B := ({} : ObservationCache).applyAll fs
    (A.get? s.1 s.2).isSome = (B.get? s.1 s.2).isSome ∧
      (∀ r, (A.entry s).time? r = latest es s r ∧ (B.entry s).time? r = latest es s r) ∧
      (∀ e ∈ es, e.slot = s → e.writes .reward = true → latest es s .reward = some e.time →
        (∀ e' ∈ es, e'.slot = s → e'.writes .reward = true → e'.time = e.time → e' = e) →
        (A.entry s).lastReward = e.reward.map (·, e.time) ∧
          (B.entry s).lastReward = e.reward.map (·, e.time)) ∧
      ∀ (c : ObservationCache) (e : SyncEvent),
        ((c.apply e).1 = true ↔
          ∃ r, e.writes r = true ∧ ∀ t ∈ (c.entry e.slot).time? r, t < e.time) ∧
        ((c.apply e).1 = false → ∀ s', (c.apply e).2.entry s' = c.entry s') := by
  intro A B
  refine ⟨?_, fun r => ⟨?_, ?_⟩, fun e he slot writes newest single => ⟨?_, ?_⟩,
    fun c e => ⟨c.fst_apply_iff e, c.entry_apply_of_fst e⟩⟩
  · simp only [A, B, ObservationCache.isSome_get?_applyAll]
    rw [Bool.eq_iff_iff]
    simp [ObservationCache.get?, List.any_eq_true, same]
  · exact ObservationCache.time?_applyAll_fresh es s r
  · rw [latest_congr same]
    exact ObservationCache.time?_applyAll_fresh fs s r
  · exact ObservationCache.lastReward_applyAll_fresh he slot writes newest single
  · -- the newest reward time and the single event carrying it are the same in both lists
    refine ObservationCache.lastReward_applyAll_fresh ((same e).mp he) slot writes
      (by rw [← latest_congr same]; exact newest) fun e' mem => single e' ((same e').mpr mem)

/-- A cooldown set delivered twice, once before and once after an open that carries a reward:
the two orders converge. -/
theorem cache_converges_on_repeated_set :
    let set : SyncEvent :=
      { kind := .cooldownSet, origin := "a", player := PlayerId.nil, crate := "vote", time := 200 }
    let opened : SyncEvent :=
      { kind := .crateOpened, origin := "b", player := PlayerId.nil, crate := "vote",
        reward := some "gem", time := 300 }
    let es := [set, opened, set]
    let fs := [opened, set]
    let s := (PlayerId.nil, "vote")
    (∀ e, e ∈ es ↔ e ∈ fs) ∧
      let A := ({} : ObservationCache).applyAll es
      let B := ({} : ObservationCache).applyAll fs
      (A.get? s.1 s.2).isSome = (B.get? s.1 s.2).isSome ∧
        (∀ r, (A.entry s).time? r = latest es s r ∧ (B.entry s).time? r = latest es s r) ∧
        (∀ e ∈ es, e.slot = s → e.writes .reward = true → latest es s .reward = some e.time →
          (∀ e' ∈ es, e'.slot = s → e'.writes .reward = true → e'.time = e.time → e' = e) →
          (A.entry s).lastReward = e.reward.map (·, e.time) ∧
            (B.entry s).lastReward = e.reward.map (·, e.time)) ∧
        ∀ (c : ObservationCache) (e : SyncEvent),
          ((c.apply e).1 = true ↔
            ∃ r, e.writes r = true ∧ ∀ t ∈ (c.entry e.slot).time? r, t < e.time) ∧
          ((c.apply e).1 = false → ∀ s', (c.apply e).2.entry s' = c.entry s') := by
  intro set opened es fs s
  have same : ∀ e, e ∈ es ↔ e ∈ fs := by
    intro e
    simp only [es, fs, List.mem_cons, List.not_mem_nil, or_false]
    constructor
    · rintro (h | h | h) <;> simp [h]
    · rintro (h | h) <;> simp [h]
  exact ⟨same, observation_cache_converges es fs same s⟩

/-- Two rewards at the same time: the reward kept depends on the order, which is why only a
single newest event fixes it. -/
example :
    let first : SyncEvent :=
      { kind := .rewardGranted, origin := "a", player := PlayerId.nil, crate := "vote",
        reward := some "gem", time := 5 }
    let second : SyncEvent := { first with reward := some "coin" }
    ((({} : ObservationCache).applyAll [first, second]).entry (PlayerId.nil, "vote")).lastReward =
        some ("gem", 5) ∧
      ((({} : ObservationCache).applyAll [second, first]).entry (PlayerId.nil, "vote")).lastReward =
        some ("coin", 5) := by
  decide

end CrateState
