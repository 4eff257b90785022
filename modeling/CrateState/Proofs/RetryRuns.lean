import Mathlib
import CrateState.Retry

/-!
# Retried runs

A run of `retry` is observed through its trace of tries and waits (`RetryEvent`).
`run_retryLoop` says that from any try on, the loop makes exactly the tries up to the one where
the run must stop (`RetryPolicy.StopsAt`), with the scheduled wait after each but the last,
and answers that try's outcome; `retry_makes_exact_attempts` is the whole run.

Scaling a wait multiplies doubles, which the logic does not evaluate, so the waits are given
as a sequence each step of the schedule produces (`RetryPolicy.Schedules`), which also says
that no scaling fails: all the statement asks of the factor.
-/

namespace CrateState

/-- What a retried run does: a try of the operation, or a wait in nanoseconds. -/
inductive RetryEvent where
  | call (attempt : Nat)
  | wait (nanos : Nat)

namespace RetryEvent

/-- An operation whose `n`-th try answers `outcome n`, each try recorded. -/
def traced {ε α : Type} (outcome : Nat → Except ε α) (n : Nat) :
    StateM (List RetryEvent) (Except ε α) := do
  modify (· ++ [.call n])
  pure (outcome n)

/-- Waiting, recorded. -/
def recordWait (d : Nat) : StateM (List RetryEvent) Unit := modify (· ++ [.wait d])

/-- The trace of a run that stops at try `k`, from try `a + 1` on: each try `i + 1` before `k`
followed by the wait `ds i`, then try `k`. -/
def eventsFrom (ds : Nat → Nat) (a k : Nat) : List RetryEvent :=
  (List.range' a (k - 1 - a)).flatMap (fun i => [.call (i + 1), .wait (ds i)]) ++ [.call k]

theorem eventsFrom_last (ds : Nat → Nat) (a : Nat) : eventsFrom ds a (a + 1) = [.call (a + 1)] := by
  simp [eventsFrom]

theorem eventsFrom_of_lt (ds : Nat → Nat) {a k : Nat} (h : a + 1 < k) :
    eventsFrom ds a k = .call (a + 1) :: .wait (ds a) :: eventsFrom ds (a + 1) k := by
  obtain ⟨n, hn⟩ : ∃ n, k - 1 - a = n + 1 := ⟨k - 2 - a, by omega⟩
  have rest : k - 1 - (a + 1) = n := by omega
  simp [eventsFrom, hn, rest, List.range'_succ]

theorem run_traced_bind {ε α β : Type} (outcome : Nat → Except ε α) (n : Nat)
    (f : Except ε α → StateM (List RetryEvent) β) (t : List RetryEvent) :
    (traced outcome n >>= f).run t = (f (outcome n)).run (t ++ [.call n]) := rfl

theorem run_recordWait_bind {β : Type} (d : Nat) (f : Unit → StateM (List RetryEvent) β)
    (t : List RetryEvent) : (recordWait d >>= f).run t = (f ()).run (t ++ [.wait d]) := rfl

end RetryEvent

namespace RetryPolicy

/-- `ds` is the schedule of the waits of a run of `k` tries under `p`: the first wait, then
each the one before scaled and capped, no scaling failing. -/
structure Schedules (p : RetryPolicy) (ds : Nat → Nat) (k : Nat) : Prop where
  first : ds 0 = p.initialDelay
  next : ∀ i, i + 1 < k → p.nextDelay (ds i) = some (ds (i + 1))

/-- No wait after the first exceeds the longest wait. -/
theorem Schedules.le_max {p : RetryPolicy} {ds : Nat → Nat} {k : Nat} (hds : p.Schedules ds k)
    {i : Nat} (hi : 0 < i) (hik : i < k) : ds i ≤ p.maxDelay := by
  obtain ⟨j, rfl⟩ : ∃ j, i = j + 1 := ⟨i - 1, by omega⟩
  obtain ⟨x, -, hx⟩ := Option.map_eq_some_iff.mp (hds.next j hik)
  rw [← hx]
  exact Nat.min_le_right _ _

/-- Whether an outcome is worth another try: a transient error. -/
def retriable {ε α : Type} (transient : ε → Bool) : Except ε α → Bool
  | .ok _ => false
  | .error e => transient e

variable {ε α : Type} (p : RetryPolicy) (transient : ε → Bool) (outcome : Nat → Except ε α)

/-- Try `k` is where a run under `p` stops: every earlier try failed with a transient error,
and try `k` succeeded, failed for good, or was the last the policy allows. -/
structure StopsAt (k : Nat) : Prop where
  pos : 0 < k
  le_limit : k ≤ max p.maxAttempts 1
  retried : ∀ i, 0 < i → i < k → retriable transient (outcome i) = true
  final : k = max p.maxAttempts 1 ∨ retriable transient (outcome k) = false

variable {p transient outcome}

/-- A try after `a` that ends the run is try `k`. -/
theorem StopsAt.eq_of_final {k a : Nat} (hk : p.StopsAt transient outcome k) (ha : a < k)
    (stop : a + 1 = max p.maxAttempts 1 ∨ retriable transient (outcome (a + 1)) = false) :
    k = a + 1 := by
  by_contra hne
  have again := hk.retried (a + 1) (by omega) (by omega)
  rcases stop with last | lasting
  · have := hk.le_limit
    omega
  · rw [lasting] at again
    cases again

/-- A transient error before the last allowed try does not end the run. -/
theorem StopsAt.lt_of_retriable {k a : Nat} (hk : p.StopsAt transient outcome k) (ha : a < k)
    (more : a + 1 < max p.maxAttempts 1) (again : retriable transient (outcome (a + 1)) = true) :
    a + 1 < k := by
  by_contra hle
  obtain rfl : k = a + 1 := by omega
  rcases hk.final with last | lasting
  · omega
  · rw [lasting] at again
    cases again

end RetryPolicy

open RetryEvent RetryPolicy in
/-- The run of the loop after `a` tries, with `left` more allowed and waiting `ds a` next:
it makes the tries `a + 1` to `k` with their waits in between and answers the outcome of `k`. -/
theorem run_retryLoop {ε α : Type} {p : RetryPolicy} {transient : ε → Bool}
    {outcome : Nat → Except ε α} {k : Nat} (hk : p.StopsAt transient outcome k) {ds : Nat → Nat}
    (hds : p.Schedules ds k) (left : Nat) :
    ∀ a t, a < k → a + left + 1 = max p.maxAttempts 1 →
      (retryLoop p transient recordWait (traced outcome) left a (ds a)).run t =
        pure (.done (outcome k) k, t ++ eventsFrom ds a k) := by
  -- one try per step; `left` counts down the tries the policy still allows
  induction left with
  | zero =>
    intro a t ha last
    obtain rfl : k = a + 1 := hk.eq_of_final ha (.inl (by omega))
    rw [retryLoop, run_traced_bind, eventsFrom_last]
    cases outcome (a + 1) <;> rfl
  | succ left ih =>
    intro a t ha last
    rw [retryLoop, run_traced_bind]
    rcases ho : outcome (a + 1) with e | x
    · cases ht : transient e
      · obtain rfl : k = a + 1 := hk.eq_of_final ha (.inr (by simp [retriable, ho, ht]))
        simp [ho, ht, eventsFrom_last]
      · have hlt : a + 1 < k := hk.lt_of_retriable ha (by omega) (by simp [retriable, ho, ht])
        simp only [ht, Bool.not_true, Bool.false_eq_true, if_false, run_recordWait_bind,
          hds.next a hlt]
        rw [ih (a + 1) _ hlt (by omega), eventsFrom_of_lt ds hlt]
        simp
    · obtain rfl : k = a + 1 := hk.eq_of_final ha (.inr (by simp [retriable, ho]))
      simp [ho, eventsFrom_last]

open RetryEvent in
/-- **A retried run makes exactly the tries it should.** Let try `k` be the first to succeed
or fail for good, or the last the policy allows, and `ds` the schedule of waits. The run tries
the operation `k` times in order, waits `ds i` after each try `i + 1` but the last, and
answers the outcome of try `k` as it was; no wait after the first exceeds the longest wait. -/
theorem retry_makes_exact_attempts {ε α : Type} (p : RetryPolicy) (transient : ε → Bool)
    (outcome : Nat → Except ε α) {k : Nat} (hk : p.StopsAt transient outcome k) {ds : Nat → Nat}
    (hds : p.Schedules ds k) :
    (retry p transient recordWait (traced outcome)).run [] =
      pure (.done (outcome k) k, eventsFrom ds 0 k) ∧
    ∀ i, 0 < i → i + 1 < k → ds i ≤ p.maxDelay := by
  refine ⟨?_, fun i hi hik => hds.le_max hi (by omega)⟩
  have run := run_retryLoop hk hds (max p.maxAttempts 1 - 1) 0 [] hk.pos (by omega)
  rw [hds.first] at run
  exact run

/-- A lasting error on the first try ends the run there, with no wait. -/
theorem retry_makes_exact_attempts_on_lasting_error :
    let p := RetryPolicy.startup
    let outcome : Nat → Except StoreError Int := fun _ => .error (.invalidConfig "bad url")
    let ds : Nat → Nat := fun _ => p.initialDelay
    p.StopsAt StoreError.transient outcome 1 ∧ p.Schedules ds 1 ∧
    (retry p StoreError.transient RetryEvent.recordWait (RetryEvent.traced outcome)).run [] =
      pure (.done (outcome 1) 1, RetryEvent.eventsFrom ds 0 1) ∧
    ∀ i, 0 < i → i + 1 < 1 → ds i ≤ p.maxDelay := by
  intro p outcome ds
  have hk : p.StopsAt StoreError.transient outcome 1 :=
    ⟨by decide, by decide, fun i hi hi1 => absurd hi1 (by omega), .inr rfl⟩
  have hds : p.Schedules ds 1 := ⟨rfl, fun i hi => absurd hi (by omega)⟩
  exact ⟨hk, hds, retry_makes_exact_attempts p _ outcome hk hds⟩

end CrateState
