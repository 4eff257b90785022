import CrateState.Proofs.ImportReplay
import CrateState.Proofs.StoreEquivalence

/-!
# Waiting rewards are queues

The documentation describes a player's waiting rewards as a queue of (crate, reward) pairs
(`RewardQueues`): queueing puts a reward last, a player's waiting rewards are the queue,
oldest first, each pending, and marking delivered takes the oldest equal pair out,
answering whether there was one. A clear empties every queue; nothing else touches them,
and no call touches another player's queue.

The in-memory store keeps a reward list per player and flips a delivered one's status in
place (`LocalStore.queues` reads the queues off it). The SQL store keeps one table of rows
with ids and flips the oldest matching row by id (`Stored.queues`); its ids are distinct
and given (`Stored.IdsGiven`), which every call keeps, so a flip by id flips one row alone.

Each store is a forward simulation of the queues, call by call (`LocalStore.queues_handle`,
`SqlModel.answers_queues`), and `waiting_rewards_are_queues` runs both on the same calls.
-/

namespace CrateState

open Relational

/-- Every player's waiting rewards, as (crate, reward) pairs, oldest first. -/
def RewardQueues : Type := PlayerId → List (String × String)

namespace RewardQueues

def empty : RewardQueues := fun _ => []

/-- A reward queued last in its player's queue. -/
def push (Q : RewardQueues) (p : PlayerId) (c r : String) : RewardQueues :=
  Function.update Q p (Q p ++ [(c, r)])

/-- The oldest pair equal to a crate and reward taken out of its player's queue, if there is
one. -/
def take (Q : RewardQueues) (p : PlayerId) (c r : String) : RewardQueues :=
  Function.update Q p ((Q p).erase (c, r))

/-- The queues after a call: a queued reward is pushed, a delivered one taken, a clear empties
every queue; no other call touches them. -/
def apply (Q : RewardQueues) : Call → RewardQueues
  | .queueReward p c r => Q.push p c r
  | .markDelivered p c r => Q.take p c r
  | .clear => empty
  | _ => Q

/-- The queues after calls, one after another. -/
def runCalls (Q : RewardQueues) (cs : List Call) : RewardQueues := cs.foldl apply Q

@[simp] theorem push_apply (Q : RewardQueues) (p : PlayerId) (c r : String) (q : PlayerId) :
    Q.push p c r q = if q = p then Q p ++ [(c, r)] else Q q :=
  Function.update_apply Q p _ q

@[simp] theorem take_apply (Q : RewardQueues) (p : PlayerId) (c r : String) (q : PlayerId) :
    Q.take p c r q = if q = p then (Q p).erase (c, r) else Q q :=
  Function.update_apply Q p _ q

theorem take_of_not_mem {Q : RewardQueues} {p : PlayerId} {c r : String} (h : (c, r) ∉ Q p) :
    Q.take p c r = Q := by
  funext q
  rw [take_apply]
  split
  · next same => rw [same, List.erase_of_not_mem h]
  · rfl

/-- Whether a call can change a player's queue: it names the player, or it is a clear. -/
def touches (p : PlayerId) : Call → Bool
  | .queueReward q .. | .markDelivered q .. => decide (q = p)
  | .clear => true
  | _ => false

theorem apply_of_touches_eq_false (Q : RewardQueues) {c : Call} {p : PlayerId}
    (h : touches p c = false) : Q.apply c p = Q p := by
  cases c with
  | queueReward q c r =>
    have other : p ≠ q := fun same => by simp [touches, same] at h
    simp [apply, other]
  | markDelivered q c r =>
    have other : p ≠ q := fun same => by simp [touches, same] at h
    simp [apply, other]
  | clear => simp [touches] at h
  | _ => rfl

/-- What a call leaves in a player's queue depends on that queue alone. -/
theorem apply_congr {Q Q' : RewardQueues} {p : PlayerId} (h : Q p = Q' p) (c : Call) :
    Q.apply c p = Q'.apply c p := by
  cases c with
  | queueReward q c r =>
    by_cases same : p = q
    · subst same
      simp [apply, h]
    · simp [apply, same, h]
  | markDelivered q c r =>
    by_cases same : p = q
    · subst same
      simp [apply, h]
    · simp [apply, same, h]
  | _ => simp [apply, h, empty]

/-- **No call changes another player's queue.** A player's queue after calls is the one the
calls that touch the player leave. -/
theorem runCalls_touching (Q : RewardQueues) (cs : List Call) (p : PlayerId) :
    Q.runCalls cs p = Q.runCalls (cs.filter (touches p)) p := by
  -- the two runs start from queues that agree on the player, and keep agreeing
  suffices ∀ Q' : RewardQueues, Q p = Q' p →
      Q.runCalls cs p = Q'.runCalls (cs.filter (touches p)) p from this Q rfl
  induction cs generalizing Q with
  | nil => intro Q' h; exact h
  | cons c cs ih =>
    intro Q' h
    by_cases ht : touches p c = true
    · simp only [runCalls, List.foldl_cons, List.filter_cons, ht, if_true] at ih ⊢
      exact ih (Q.apply c) (Q'.apply c) (apply_congr h c)
    · simp only [runCalls, List.foldl_cons, List.filter_cons, ht, Bool.false_eq_true,
        if_false] at ih ⊢
      exact ih (Q.apply c) Q' ((apply_of_touches_eq_false Q (by simpa using ht)).trans h)

end RewardQueues

/-- A waiting reward as a pair of its crate and reward. -/
def PendingReward.pair (x : PendingReward) : String × String := (x.crate, x.reward)

namespace RewardQueues

/-- What the description promises of an answer, from queues `Q`: a queued reward and a clear
are accepted; the waiting rewards of a player are its queue, oldest first, each pending; a
delivery answers whether its pair waits. -/
def Promises (Q : RewardQueues) : (c : Call) → Reply c → Prop
  | .queueReward .., a => a = .ok ()
  | .pendingRewards p, a =>
    ∃ rs : List PendingReward, a = .ok rs ∧ rs.map PendingReward.pair = Q p ∧ ∀ x ∈ rs, x.status = .pending
  | .markDelivered p c r, a => a = .ok (decide ((c, r) ∈ Q p))
  | .clear, a => a = .ok ()
  | _, _ => True

/-- Answers to calls that the queues, run from `Q` on the calls, accept: each is the one they
promise. -/
inductive Accepts : RewardQueues → List Answered → Prop
  /-- No calls. -/
  | nil (Q : RewardQueues) : Accepts Q []
  /-- A call answered as promised, then the rest from the queues after it. -/
  | cons {Q : RewardQueues} {c : Call} {a : Reply c} {rest : List Answered} :
    Q.Promises c a → Accepts (Q.apply c) rest → Accepts Q (⟨c, a⟩ :: rest)

/-- A delivery that answers `true` and takes its pair when the pair waits, and answers `false`
and leaves the queues when it does not, is the delivery the queues promise. -/
theorem promises_markDelivered {Q Q' : RewardQueues} {p : PlayerId} {c r : String}
    {a : Reply (.markDelivered p c r)}
    (h : if (c, r) ∈ Q p then a = .ok true ∧ Q' = Q.take p c r else a = .ok false ∧ Q' = Q) :
    Q.Promises (.markDelivered p c r) a ∧ Q' = Q.apply (.markDelivered p c r) := by
  split at h
  · next waits => exact ⟨by rw [h.1]; simp [Promises, waits], h.2⟩
  · next absent =>
    refine ⟨by rw [h.1]; simp [Promises, absent], ?_⟩
    rw [h.2]
    exact (take_of_not_mem absent).symm

end RewardQueues

/-! ### The in-memory store -/

namespace LocalStore

/-- The waiting rewards of a list, as pairs, oldest first. -/
def waitingPairs (rs : List PendingReward) : List (String × String) :=
  (rs.filter (·.status = .pending)).map PendingReward.pair

/-- The queues an in-memory store holds: each player's waiting rewards. -/
def queues (L : LocalStore) : RewardQueues := fun p =>
  waitingPairs ((Assoc.get? L.pending p).getD [])

theorem waitingPairs_cons (x : PendingReward) (rs : List PendingReward) :
    waitingPairs (x :: rs) =
      if x.status = .pending then x.pair :: waitingPairs rs else waitingPairs rs := by
  by_cases h : x.status = .pending <;> simp [waitingPairs, h]

/-- A store whose waiting rewards are those of another holds its queues. -/
theorem queues_of_pending {L L' : LocalStore} (h : L'.pending = L.pending) :
    L'.queues = L.queues := by
  unfold queues
  rw [h]

theorem markFirst_eq_none_iff (c r : String) (rs : List PendingReward) :
    markFirst c r rs = none ↔ (c, r) ∉ waitingPairs rs := by
  induction rs with
  | nil => simp [markFirst, waitingPairs]
  | cons x rs ih =>
    by_cases hx : x.status = .pending ∧ x.crate = c ∧ x.reward = r
    · simp [markFirst, hx, waitingPairs, PendingReward.pair]
    · -- the head is no waiting match, so the answer is the tail's
      have other : x.status = .pending → x.pair ≠ (c, r) := fun hs same =>
        hx ⟨hs, by simpa [PendingReward.pair] using same⟩
      rw [markFirst, if_neg hx, Option.map_eq_none_iff, ih, waitingPairs_cons]
      split
      · next hs => simp [Ne.symm (other hs)]
      · rfl

/-- The reward `markFirst` flips is the oldest waiting one of its pair. -/
theorem waitingPairs_markFirst {c r : String} {rs' : List PendingReward} :
    ∀ {rs : List PendingReward}, markFirst c r rs = some rs' →
      waitingPairs rs' = (waitingPairs rs).erase (c, r)
  | [], h => by simp [markFirst] at h
  | x :: rs, h => by
    by_cases hx : x.status = .pending ∧ x.crate = c ∧ x.reward = r
    · rw [markFirst, if_pos hx, Option.some.injEq] at h
      subst h
      obtain ⟨hs, hc, hr⟩ := hx
      simp [waitingPairs_cons, hs, PendingReward.pair, hc, hr]
    · rw [markFirst, if_neg hx] at h
      obtain ⟨rs'', marked, rfl⟩ := Option.map_eq_some_iff.mp h
      rw [waitingPairs_cons, waitingPairs_cons, waitingPairs_markFirst marked]
      split
      · next hs =>
        have other : ¬(x.pair == (c, r)) = true := fun same =>
          hx ⟨hs, by simpa [PendingReward.pair] using same⟩
        rw [List.erase_cons_tail other]
      · rfl

/-- What a delivery does to an in-memory store that answers `a` and leaves `L'`: when its
pair waits, it answers `true`, takes the oldest equal pair out of the player's queue and
counts one discarded delivery, the rest of the store as it was; when it does not, it
answers `false` and changes nothing. -/
def Delivers (L : LocalStore) (p : PlayerId) (c r : String) (a : Reply (.markDelivered p c r))
    (L' : LocalStore) : Prop :=
  if (c, r) ∈ L.queues p then
    a = .ok true ∧ L'.queues = L.queues.take p c r ∧ L'.discarded = L.discarded + 1 ∧
      L'.cooldowns = L.cooldowns ∧ L'.keys = L.keys ∧ L'.locks = L.locks
  else a = .ok false ∧ L' = L

/-- **A delivery on the in-memory store**, from any state, does what `Delivers` says. -/
theorem delivers_markDelivered (L : LocalStore) (now : Int) (p : PlayerId) (c r : String) :
    L.Delivers p c r (L.handle now (.markDelivered p c r)).1
      (L.handle now (.markDelivered p c r)).2 := by
  have absent_of : (c, r) ∉ L.queues p → L.Delivers p c r (.ok false) L := fun absent => by
    simp [Delivers, absent]
  cases hg : Assoc.get? L.pending p with
  | none =>
    have absent : (c, r) ∉ L.queues p := by simp [queues, hg, waitingPairs]
    have answered : L.handle now (.markDelivered p c r) = (.ok false, L) := by
      show L.step now (.markDelivered p c r) = _
      simp only [step, hg]
    rw [answered]
    exact absent_of absent
  | some rs =>
    cases hm : markFirst c r rs with
    | none =>
      have absent : (c, r) ∉ L.queues p := by
        simpa [queues, hg] using (markFirst_eq_none_iff c r rs).mp hm
      have answered : L.handle now (.markDelivered p c r) = (.ok false, L) := by
        show L.step now (.markDelivered p c r) = _
        simp only [step, hg, hm]
      rw [answered]
      exact absent_of absent
    | some rs' =>
      have waits : (c, r) ∈ L.queues p := by
        have found := mt (markFirst_eq_none_iff c r rs).mpr (by simp [hm])
        simpa [queues, hg] using found
      have answered : L.handle now (.markDelivered p c r) = (.ok true,
          { L with pending := Assoc.set L.pending p rs', discarded := L.discarded + 1 }) := by
        show L.step now (.markDelivered p c r) = _
        simp only [step, hg, hm]
      -- the player's list is the flipped one; every other list stays
      have taken : { L with pending := Assoc.set L.pending p rs', discarded := L.discarded + 1 }.queues =
          L.queues.take p c r := by
        funext q
        simp only [queues, Assoc.get?_set, RewardQueues.take_apply]
        by_cases same : p = q
        · subst same
          simp [hg, waitingPairs_markFirst hm]
        · simp [same, Ne.symm same]
      rw [answered]
      rw [Delivers, if_pos waits]
      exact ⟨rfl, taken, rfl, rfl, rfl, rfl⟩

theorem step_addKeys_pending (L : LocalStore) (now : Int) (p : PlayerId) (c : String) (n : Nat) :
    (L.step now (.addKeys p c n)).2.pending = L.pending := by
  simp only [step]
  split <;> rfl

/-- **One call on the in-memory store** answers as the queues promise and leaves the queues
of the call. -/
theorem queues_handle (L : LocalStore) (now : Int) (c : Call) :
    L.queues.Promises c (L.handle now c).1 ∧ (L.handle now c).2.queues = L.queues.apply c := by
  cases c with
  | queueReward p c r =>
    refine ⟨rfl, ?_⟩
    funext q
    show waitingPairs ((Assoc.get? (Assoc.set L.pending p _) q).getD []) = _
    rw [Assoc.get?_set, RewardQueues.apply, RewardQueues.push_apply]
    by_cases same : p = q
    · subst same
      simp [queues, waitingPairs, PendingReward.pair]
    · simp [same, Ne.symm same, queues]
  | pendingRewards p =>
    exact ⟨⟨_, rfl, rfl, fun x hx => by simpa using (List.mem_filter.mp hx).2⟩, rfl⟩
  | markDelivered p c r =>
    have done := L.delivers_markDelivered now p c r
    unfold Delivers at done
    refine RewardQueues.promises_markDelivered ?_
    split
    · next waits =>
      rw [if_pos waits] at done
      exact ⟨done.1, done.2.1⟩
    · next absent =>
      rw [if_neg absent] at done
      exact ⟨done.1, by rw [done.2]⟩
  | clear => exact ⟨rfl, rfl⟩
  | «import» snap =>
    refine ⟨trivial, queues_of_pending ?_⟩
    -- an import replays cooldown writes and key additions, none of which queues a reward
    rw [handle_import, foldl_keeps LocalStore.pending (fun L b => step_addKeys_pending L now _ _ _),
      foldl_keeps LocalStore.pending (fun (L : LocalStore) (r : Cooldown) =>
        (rfl : (L.step now (.setCooldown r.player r.crate r.lastUsed)).2.pending = L.pending))]
  | addKeys p c n => exact ⟨trivial, queues_of_pending (step_addKeys_pending L now p c n)⟩
  | consumeKey p c =>
    refine ⟨trivial, queues_of_pending ?_⟩
    show (L.step now (.consumeKey p c)).2.pending = L.pending
    simp only [step]
    split
    · rfl
    · split <;> rfl
  | acquireLock p c =>
    refine ⟨trivial, queues_of_pending ?_⟩
    show (L.step now (.acquireLock p c)).2.pending = L.pending
    simp only [step]
    split <;> rfl
  | getCooldown | setCooldown | keyCount | releaseLock | logOpen | recordDelivery | snapshot =>
    exact ⟨trivial, rfl⟩

/-- **A run on the in-memory store** is accepted by its queues and leaves the queues of its
calls. -/
theorem queues_run (calls : List (Int × Call)) (L : LocalStore) :
    L.queues.Accepts (L.run calls).1 ∧
      (L.run calls).2.queues = L.queues.runCalls (calls.map Prod.snd) := by
  induction calls generalizing L with
  | nil => exact ⟨.nil _, rfl⟩
  | cons call calls ih =>
    obtain ⟨now, c⟩ := call
    obtain ⟨promised, next⟩ := L.queues_handle now c
    obtain ⟨accepted, final⟩ := ih (L.handle now c).2
    rw [next] at accepted final
    exact ⟨.cons promised accepted, final⟩

end LocalStore

/-! ### The SQL store -/

/-- A waiting row as the pair of its crate and reward. -/
def PendingRow.pair (row : PendingRow) : String × String := (row.crate, row.reward)

namespace Stored

/-- The queues the tables hold: each player's waiting rows, in the order of their ids. -/
def queues (st : Stored) : RewardQueues := fun p =>
  (st.pending.filter (waitingFor p.render)).map PendingRow.pair

/-- The waiting rows have distinct ids, none above the last id given. -/
structure IdsGiven (st : Stored) : Prop where
  distinct : (st.pending.map PendingRow.id).Nodup
  given : ∀ row ∈ st.pending, row.id ≤ st.lastPending

theorem idsGiven_empty : ({} : Stored).IdsGiven := ⟨List.nodup_nil, fun _ h => nomatch h⟩

/-- Tables with the waiting rows of others hold their queues. -/
theorem queues_of_pending {st st' : Stored} (h : st'.pending = st.pending) :
    st'.queues = st.queues := by
  unfold queues
  rw [h]

theorem IdsGiven.of_pending {st st' : Stored} (h : st.IdsGiven) (hp : st'.pending = st.pending)
    (hl : st'.lastPending = st.lastPending) : st'.IdsGiven :=
  ⟨hp ▸ h.distinct, hp ▸ hl ▸ h.given⟩

theorem matching_iff {p c r : String} {row : PendingRow} :
    matching p c r row = true ↔ waitingFor p row = true ∧ row.pair = (c, r) := by
  simp only [matching, waitingFor, PendingRow.pair, Bool.and_eq_true, beq_iff_eq, Prod.mk.injEq]
  tauto

theorem find?_matching_eq_none_iff {rows : List PendingRow} {p c r : String} :
    rows.find? (matching p c r) = none ↔
      (c, r) ∉ (rows.filter (waitingFor p)).map PendingRow.pair := by
  simp only [List.find?_eq_none, List.mem_map, List.mem_filter, not_exists, not_and]
  constructor
  · intro h row ⟨hrow, waits⟩ same
    exact h row hrow (matching_iff.mpr ⟨waits, same⟩)
  · intro h row hrow hm
    exact h row ⟨hrow, (matching_iff.mp hm).1⟩ (matching_iff.mp hm).2

/-- **Flipping the first waiting match by its id**, among rows of distinct ids, takes the
oldest equal pair out of the player's waiting pairs and leaves every other player's. -/
theorem waitingPairs_flip {p c r : String} {y : PendingRow} (q : String) :
    ∀ {rows : List PendingRow}, (rows.map PendingRow.id).Nodup →
      rows.find? (matching p c r) = some y →
      ((rows.map (flip y.id)).filter (waitingFor q)).map PendingRow.pair =
        if q = p then ((rows.filter (waitingFor q)).map PendingRow.pair).erase (c, r)
        else (rows.filter (waitingFor q)).map PendingRow.pair
  | [], _, hf => by simp at hf
  | z :: rows, ids, hf => by
    simp only [List.map_cons, List.nodup_cons, List.mem_map] at ids
    obtain ⟨fresh, ids⟩ := ids
    cases hm : matching p c r z with
    | true =>
      -- the first row is the one flipped, and no later row has its id
      simp only [List.find?_cons, hm, Option.some.injEq] at hf
      subst hf
      obtain ⟨waits, same⟩ := matching_iff.mp hm
      simp only [waitingFor, Bool.and_eq_true, beq_iff_eq] at waits
      have later : rows.map (flip z.id) = rows := by
        conv_rhs => rw [← List.map_id rows]
        exact List.map_congr_left fun w hw => flip_of_ne fun e => fresh ⟨w, hw, e⟩
      have gone : waitingFor q (flip z.id z) = false := by
        simp [flip, waitingWith, waitingFor, waits.2]
      rw [List.map_cons, later, List.filter_cons_of_neg (by simp [gone]), List.filter_cons]
      by_cases hq : q = p
      · subst hq
        simp [waitingFor, waits, same]
      · simp [waitingFor, waits, hq, Ne.symm hq]
    | false =>
      simp only [List.find?_cons, hm] at hf
      have other : z.id ≠ y.id := fun e => fresh ⟨y, List.mem_of_find?_eq_some hf, e.symm⟩
      have rest := waitingPairs_flip q ids hf
      rw [List.map_cons, flip_of_ne other]
      by_cases hw : waitingFor q z = true
      · rw [List.filter_cons_of_pos hw, List.filter_cons_of_pos hw, List.map_cons, List.map_cons,
          rest]
        by_cases hq : q = p
        · -- the row waits for the player but holds another pair
          subst hq
          have differs : ¬(z.pair == (c, r)) = true := fun e => by
            have matched := matching_iff.mpr ⟨hw, by simpa using e⟩
            rw [hm] at matched
            exact Bool.false_ne_true matched
          simp [List.erase_cons_tail differs]
        · simp [hq]
      · rw [List.filter_cons_of_neg hw, List.filter_cons_of_neg hw, rest]

theorem deliver_of_found {st : Stored} {p c r : String} {y : PendingRow}
    (hf : st.pending.find? (matching p c r) = some y) (t : Int) :
    st.deliver p c r t =
      (true, { st with pending := st.pending.map (flip y.id)
                       deliveries := st.deliveries ++ [(p, c, r, t)] }) := by
  have waiting : waitingWith y.id y = true := by
    have matched := List.find?_some hf
    simp only [matching, Bool.and_eq_true] at matched
    simp [waitingWith, matched.2]
  have flipped : (st.markRow y.id).2 ≠ 0 := Nat.pos_iff_ne_zero.mp
    (List.length_pos_of_mem (List.mem_filter.mpr ⟨List.mem_of_find?_eq_some hf, waiting⟩))
  simp only [deliver, hf, flipped, if_false]
  rfl

theorem deliver_of_not_found {st : Stored} {p c r : String}
    (hf : st.pending.find? (matching p c r) = none) (t : Int) : st.deliver p c r t = (false, st) := by
  simp only [deliver, hf]

/-- What a delivery does to tables `st` that answers `a` and leaves the database at `V'`:
when its pair waits, it answers `true`, takes the oldest equal pair out of the player's queue
and logs one delivery row, the rest of the tables as they were; when it does not, it answers
`false` and changes nothing. -/
def Delivers (st : Stored) (p : PlayerId) (c r : String) (t : Int)
    (a : Reply (.markDelivered p c r)) (V' : DbView) : Prop :=
  if (c, r) ∈ st.queues p then
    a = .ok true ∧ ∃ st', V' = ⟨st', none⟩ ∧ st'.queues = st.queues.take p c r ∧
      st'.deliveries = st.deliveries ++ [(p.render, c, r, t)] ∧ st'.opens = st.opens ∧
      st'.cooldowns = st.cooldowns ∧ st'.keys = st.keys ∧ st'.locks = st.locks
  else a = .ok false ∧ V' = ⟨st, none⟩

theorem queues_flip {st : Stored} (h : st.IdsGiven) {p : PlayerId} {c r : String} {y : PendingRow}
    (hf : st.pending.find? (matching p.render c r) = some y) {st' : Stored}
    (hp : st'.pending = st.pending.map (flip y.id)) : st'.queues = st.queues.take p c r := by
  funext q
  rw [RewardQueues.take_apply]
  simp only [queues, hp, waitingPairs_flip q.render h.distinct hf, PlayerId.render_injective.eq_iff]
  by_cases same : q = p
  · subst same
    rfl
  · simp [same]

theorem delivers_deliver {st : Stored} (h : st.IdsGiven) (p : PlayerId) (c r : String) (t : Int) :
    st.Delivers p c r t (.ok (st.deliver p.render c r t).1) ⟨(st.deliver p.render c r t).2, none⟩ := by
  cases hf : st.pending.find? (matching p.render c r) with
  | none =>
    have absent : (c, r) ∉ st.queues p := find?_matching_eq_none_iff.mp hf
    rw [deliver_of_not_found hf, Delivers, if_neg absent]
    exact ⟨rfl, rfl⟩
  | some y =>
    have waits : (c, r) ∈ st.queues p := by
      by_contra absent
      have none := find?_matching_eq_none_iff.mpr absent
      rw [hf] at none
      cases none
    rw [deliver_of_found hf, Delivers, if_pos waits]
    exact ⟨rfl, _, rfl, queues_flip h hf rfl, rfl, rfl, rfl, rfl, rfl⟩

/-- A delivery from tables with distinct ids answers as the queues promise and leaves the
queues of the call. -/
theorem promises_deliver {st : Stored} (h : st.IdsGiven) (p : PlayerId) (c r : String) (t : Int) :
    st.queues.Promises (.markDelivered p c r) (.ok (st.deliver p.render c r t).1) ∧
      (st.deliver p.render c r t).2.queues = st.queues.apply (.markDelivered p c r) := by
  refine RewardQueues.promises_markDelivered ?_
  have done := delivers_deliver h p c r t
  unfold Delivers at done
  split
  · next waits =>
    rw [if_pos waits] at done
    obtain ⟨answer, st', same, taken, -⟩ := done
    rw [DbView.mk.injEq] at same
    exact ⟨answer, same.1 ▸ taken⟩
  · next absent =>
    rw [if_neg absent] at done
    have same : (st.deliver p.render c r t).2 = st := congrArg DbView.stored done.2
    exact ⟨done.1, by rw [same]⟩

theorem consume_keeps (st : Stored) (p c : String) :
    (st.consume p c).2.pending = st.pending ∧ (st.consume p c).2.lastPending = st.lastPending := by
  have taken : (st.takeKey p c).1.pending = st.pending ∧
      (st.takeKey p c).1.lastPending = st.lastPending := by
    unfold takeKey
    split
    · split <;> exact ⟨rfl, rfl⟩
    · exact ⟨rfl, rfl⟩
  unfold consume
  split
  · exact ⟨rfl, rfl⟩
  · unfold dropEmpty
    split
    · split <;> exact taken
    · exact taken

/-- **What each call does to the queues the tables hold** is what it does to the queues. -/
theorem queues_after {st : Stored} (h : st.IdsGiven) (now : Int) (c : Call) :
    (st.after now c).queues = st.queues.apply c := by
  cases c with
  | queueReward p c r =>
    funext q
    simp only [after, queue, queues, List.filter_append, List.map_append, RewardQueues.apply,
      RewardQueues.push_apply]
    by_cases same : q = p
    · subst same
      simp [waitingFor, PendingRow.pair]
    · have other : p.render ≠ q.render := PlayerId.render_injective.ne (Ne.symm same)
      simp [waitingFor, same, other]
  | markDelivered p c r => exact (promises_deliver h p c r now).2
  | clear => rfl
  | «import» snap => exact queues_of_pending (imported_locks_pending st snap).2
  | consumeKey p c => exact queues_of_pending (consume_keeps st p.render c).1
  | addKeys p c n =>
    show (if n = 0 then st else st.addKeys p.render c n).queues = st.queues
    split <;> rfl
  | acquireLock p c =>
    show (if (Assoc.get? st.locks (p.render, c)).isSome then st
      else st.takeLock p.render c now).queues = st.queues
    split <;> rfl
  | getCooldown | setCooldown | keyCount | releaseLock | logOpen | recordDelivery
  | pendingRewards | snapshot => rfl

/-- **Every call keeps the ids of the waiting rows distinct and given.** -/
theorem IdsGiven.after {st : Stored} (h : st.IdsGiven) (now : Int) (c : Call) :
    (st.after now c).IdsGiven := by
  cases c with
  | queueReward p c r =>
    constructor
    · -- the new id is above every id given so far
      show ((st.pending ++ [(⟨st.lastPending + 1, p.render, c, r, "PENDING", now⟩ : PendingRow)]).map
        PendingRow.id).Nodup
      rw [List.map_append, List.nodup_append]
      refine ⟨h.distinct, by simp, ?_⟩
      intro a ha b hb
      obtain ⟨row, hrow, rfl⟩ := List.mem_map.mp ha
      have given := h.given row hrow
      simp only [List.map_cons, List.map_nil, List.mem_singleton] at hb
      omega
    · intro row hrow
      rcases List.mem_append.mp hrow with hrow | hrow
      · have given := h.given row hrow
        show row.id ≤ st.lastPending + 1
        omega
      · rw [List.mem_singleton.mp hrow]
        exact Int.le_refl _
  | markDelivered p c r =>
    show (st.deliver p.render c r now).2.IdsGiven
    cases hf : st.pending.find? (matching p.render c r) with
    | none => rw [deliver_of_not_found hf]; exact h
    | some y =>
      rw [deliver_of_found hf]
      -- a flip keeps every id
      refine ⟨?_, fun row hrow => ?_⟩
      · show ((st.pending.map (flip y.id)).map PendingRow.id).Nodup
        rw [List.map_map, show PendingRow.id ∘ flip y.id = PendingRow.id from
          funext (flip_id y.id)]
        exact h.distinct
      · obtain ⟨w, hw, rfl⟩ := List.mem_map.mp hrow
        rw [flip_id]
        exact h.given w hw
  | clear => exact ⟨List.nodup_nil, fun _ hr => nomatch hr⟩
  | «import» snap =>
    exact h.of_pending (imported_locks_pending st snap).2 (lastPending_imported st snap)
  | consumeKey p c => exact h.of_pending (consume_keeps st p.render c).1 (consume_keeps st p.render c).2
  | addKeys p c n =>
    show (if n = 0 then st else st.addKeys p.render c n).IdsGiven
    split
    · exact h
    · exact h.of_pending rfl rfl
  | acquireLock p c =>
    show (if (Assoc.get? st.locks (p.render, c)).isSome then st
      else st.takeLock p.render c now).IdsGiven
    split
    · exact h
    · exact h.of_pending rfl rfl
  | getCooldown | setCooldown | keyCount | releaseLock | logOpen | recordDelivery
  | pendingRewards | snapshot => exact h.of_pending rfl rfl

end Stored

namespace SqlModel

variable {σ : Type} {run : Command → Conn σ (Relation × Nat)} {view : σ → DbView}

variable (run view) in
/-- Each call of a run fits the SQL store it reaches: its time and values fit their columns,
and the sum it makes of a balance, the id it gives a reward and the snapshot it loads fit
the tables. -/
def RunFits : SqlModel σ → List (Int × Call) → Prop
  | _, [] => True
  | s, (now, c) :: cs => (Backend.sql s).Fits view now c ∧ RunFits (s.step run now c).2 cs

variable (hd : Documented run view)
include hd

/-- **One call on the SQL store**, fitting tables with distinct ids, answers as the queues
the tables hold promise, and leaves the tables `Stored.after` says. -/
theorem answers_queues (now : Int) (hnow : InI64 now) {st : Stored} (hs : st.Sound)
    (hi : st.IdsGiven) {c : Call} (typed : c.Typed) (fits : st.Fits c) :
    Answers run view now c ⟨st, none⟩ fun a V' =>
      st.queues.Promises c a ∧ V' = ⟨st.after now c, none⟩ := by
  intro s hb hv
  refine ⟨?_, answers_after hd now st hs.rendered hnow c typed fits s hb hv⟩
  cases c with
  | queueReward p c r => exact (answers_queueReward hd now hnow p c r ⟨st, none⟩ fits s hb hv).1
  | pendingRewards p =>
    refine ⟨_, (answers_pendingRewards hd now p _ s hb hv).1, by rw [List.map_map]; rfl, ?_⟩
    -- every row read waits, and a waiting row reads as pending
    intro x hx
    obtain ⟨row, hrow, rfl⟩ := List.mem_map.mp hx
    have waits := (List.mem_filter.mp hrow).2
    simp only [Stored.waitingFor, Bool.and_eq_true, beq_iff_eq] at waits
    simp only [PendingRow.reward?, waits.2]
    rfl
  | markDelivered p c r =>
    rw [(answers_markDelivered hd now hnow p c r st s hb hv).1]
    exact (Stored.promises_deliver hi p c r now).1
  | clear => exact (answers_clear hd now st s hb hv).1
  | getCooldown | setCooldown | keyCount | addKeys | consumeKey | acquireLock | releaseLock
  | logOpen | recordDelivery | snapshot | «import» => trivial

/-- **A delivery on the SQL store**, from tables with distinct ids, does what
`Stored.Delivers` says. -/
theorem answers_delivers (now : Int) (hnow : InI64 now) {st : Stored} (hi : st.IdsGiven)
    (p : PlayerId) (c r : String) :
    Answers run view now (.markDelivered p c r) ⟨st, none⟩ (st.Delivers p c r now) :=
  (answers_markDelivered hd now hnow p c r st).mono fun _ _ ⟨ha, hV⟩ => by
    rw [ha, hV]
    exact Stored.delivers_deliver hi p c r now

/-- **A run on the SQL store**, each call fitting the store it reaches, from sound tables with
distinct ids outside any transaction, is accepted by the queues the tables hold and leaves
tables, still sound and with distinct ids, that hold the queues of its calls. -/
theorem queues_runCalls : ∀ (calls : List (Int × Call)) (s : SqlModel σ) {st : Stored},
    s.blocked = none → view s.db = ⟨st, none⟩ → st.Sound → st.IdsGiven →
    RunFits run view s calls →
    st.queues.Accepts (s.runCalls run calls).1 ∧
      ∃ st', view (s.runCalls run calls).2.db = ⟨st', none⟩ ∧ st'.Sound ∧ st'.IdsGiven ∧
        st'.queues = st.queues.runCalls (calls.map Prod.snd)
  | [], _, st, _, hv, hs, hi, _ => ⟨.nil _, st, hv, hs, hi, rfl⟩
  | (now, c) :: calls, s, st, hb, hv, hs, hi, ⟨⟨hnow, typed, fits⟩, rest⟩ => by
    obtain ⟨promised, hv'⟩ := answers_queues hd now hnow hs hi typed (fits st hv) s hb hv
    obtain ⟨accepted, st', final, hs', hi', queues'⟩ := queues_runCalls calls (s.step run now c).2
      ((blocked_step s now c).trans hb) hv' (hs.after hnow typed) (hi.after now c) rest
    rw [Stored.queues_after hi] at accepted queues'
    exact ⟨.cons promised accepted, st', final, hs', hi', queues'⟩

end SqlModel

section Queues

variable {σ : Type} {run : Command → Conn σ (Relation × Nat)} {view : σ → DbView}
  (hd : Documented run view)
include hd

/-- **Waiting rewards are queues, on both stores.** Run the same calls on a fresh in-memory
store and on a SQL store over empty tables of a database that keeps its documented rules,
with a connection, each call fitting the SQL store it reaches. Let `Q` be the queues of the
calls: a player's queue in `Q` is what the calls that touch the player leave in it. Each
store's answers are accepted by the queues, and each store ends holding `Q`. From there, a
delivery whose pair waits answers `true`, takes the oldest equal pair out of its player's
queue and records one delivery, as one more discarded history row in memory and as one
delivery row in the tables; a delivery whose pair does not wait answers `false` and changes
nothing. -/
theorem waiting_rewards_are_queues (s : SqlModel σ) (hb : s.blocked = none)
    (fresh : view s.db = ⟨{}, none⟩) (calls : List (Int × Call))
    (fits : SqlModel.RunFits run view s calls) :
    let Q := RewardQueues.empty.runCalls (calls.map Prod.snd)
    (∀ p, Q p = RewardQueues.empty.runCalls ((calls.map Prod.snd).filter (RewardQueues.touches p)) p) ∧
    (RewardQueues.empty.Accepts (LocalStore.run {} calls).1 ∧
      (LocalStore.run {} calls).2.queues = Q ∧
      ∀ now p c r, (LocalStore.run {} calls).2.Delivers p c r
        ((LocalStore.run {} calls).2.handle now (.markDelivered p c r)).1
        ((LocalStore.run {} calls).2.handle now (.markDelivered p c r)).2) ∧
    (RewardQueues.empty.Accepts (SqlModel.runCalls run s calls).1 ∧
      ∃ st, view (SqlModel.runCalls run s calls).2.db = ⟨st, none⟩ ∧ st.queues = Q ∧
        ∀ now p c r, InI64 now →
          SqlModel.Answers run view now (.markDelivered p c r) ⟨st, none⟩ (st.Delivers p c r now)) := by
  intro Q
  obtain ⟨localAccepted, localQueues⟩ := LocalStore.queues_run calls {}
  obtain ⟨sqlAccepted, st, final, -, hi, sqlQueues⟩ := SqlModel.queues_runCalls hd calls s hb fresh
    Stored.sound_empty Stored.idsGiven_empty fits
  exact ⟨fun p => RewardQueues.runCalls_touching _ _ p,
    ⟨localAccepted, localQueues, fun now p c r => LocalStore.delivers_markDelivered _ now p c r⟩,
    ⟨sqlAccepted, st, final, sqlQueues,
      fun now p c r hnow => SqlModel.answers_delivers hd now hnow hi p c r⟩⟩

end Queues

/-- Over the memory database: one reward queued twice for a player, once for another, and
delivered once, on both stores. -/
theorem waiting_rewards_are_queues_on_duplicates :
    let P : PlayerId := PlayerId.nil
    let P' : PlayerId := ⟨List.replicate 32 1, by simp⟩
    let calls : List (Int × Call) :=
      [(1, .queueReward P "c" "gem"), (2, .queueReward P' "c" "gem"),
        (3, .queueReward P "c" "gem"), (4, .markDelivered P "c" "gem")]
    let s : SqlModel DbView := ⟨none, ⟨{}, none⟩⟩
    let Q := RewardQueues.empty.runCalls (calls.map Prod.snd)
    Documented MemoryDatabase.run id ∧ s.blocked = none ∧ id s.db = ⟨{}, none⟩ ∧
      SqlModel.RunFits MemoryDatabase.run id s calls ∧
      (∀ p, Q p =
        RewardQueues.empty.runCalls ((calls.map Prod.snd).filter (RewardQueues.touches p)) p) ∧
      (RewardQueues.empty.Accepts (LocalStore.run {} calls).1 ∧
        (LocalStore.run {} calls).2.queues = Q ∧
        ∀ now p c r, (LocalStore.run {} calls).2.Delivers p c r
          ((LocalStore.run {} calls).2.handle now (.markDelivered p c r)).1
          ((LocalStore.run {} calls).2.handle now (.markDelivered p c r)).2) ∧
      (RewardQueues.empty.Accepts (SqlModel.runCalls MemoryDatabase.run s calls).1 ∧
        ∃ st, id (SqlModel.runCalls MemoryDatabase.run s calls).2.db = ⟨st, none⟩ ∧
          st.queues = Q ∧ ∀ now p c r, InI64 now →
            SqlModel.Answers MemoryDatabase.run id now (.markDelivered p c r) ⟨st, none⟩
              (st.Delivers p c r now)) := by
  intro P P' calls s Q
  -- each queued reward takes an id the tables can still give
  have fits : SqlModel.RunFits MemoryDatabase.run id s calls := by
    refine ⟨⟨by decide, trivial, fun st h => ?_⟩, ⟨by decide, trivial, fun st h => ?_⟩,
      ⟨by decide, trivial, fun st h => ?_⟩, ⟨by decide, trivial, fun _ _ => trivial⟩, trivial⟩
    all_goals
      have e := congrArg DbView.stored h
      subst e
      show InI64 (Stored.lastPending _ + 1)
      decide +kernel
  exact ⟨MemoryDatabase.documented, rfl, rfl, fits,
    waiting_rewards_are_queues MemoryDatabase.documented s rfl rfl calls fits⟩

end CrateState
