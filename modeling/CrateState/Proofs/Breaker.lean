import Mathlib
import CrateState.Storage.Breaker

/-!
# The breaker serves the primary up to the trip and the secondary from it

A store is seen as a deterministic state machine (`Machine`): a call answers from the state
and moves it. A breaker over two is again one (`Breaker.machine`): its state is the flag
with both stores' states, its step `Breaker.route` in the state monad over the pair.

`breaker_simulates_primary_then_secondary` describes every run by the position `k` of the
first non-snapshot call that the primary, having served all before it, answers
`unavailable` (`tripIndex`). The stores being arbitrary, a store recording its calls
(`Machine.logging`) shows the two receive exactly these calls, once each (`calls_received`).
-/

namespace CrateState

/-- A store as a deterministic state machine: a call answers from the state and moves it. -/
def Machine (σ : Type) : Type := (c : Call) → σ → Reply c × σ

/-- A call with the answer it got. -/
abbrev Answered : Type := (c : Call) × Reply c

namespace Machine

variable {σ τ : Type}

/-- Runs calls one after another, collecting each call with its answer. -/
def run (M : Machine σ) : List Call → σ → List Answered × σ
  | [], s => ([], s)
  | c :: cs, s =>
    let (rs, s') := M.run cs (M c s).2
    (⟨c, (M c s).1⟩ :: rs, s')

@[simp] theorem run_nil (M : Machine σ) (s : σ) : M.run [] s = ([], s) := rfl

@[simp] theorem run_cons (M : Machine σ) (c : Call) (cs : List Call) (s : σ) :
    M.run (c :: cs) s = (⟨c, (M c s).1⟩ :: (M.run cs (M c s).2).1, (M.run cs (M c s).2).2) := rfl

/-- The machine as a call in the state monad over a pair of states, moving the first. -/
def onLeft (M : Machine σ) : (c : Call) → StateM (σ × τ) (Reply c) :=
  fun c => modifyGet fun st => ((M c st.1).1, ((M c st.1).2, st.2))

/-- The machine as a call in the state monad over a pair of states, moving the second. -/
def onRight (M : Machine τ) : (c : Call) → StateM (σ × τ) (Reply c) :=
  fun c => modifyGet fun st => ((M c st.2).1, (st.1, (M c st.2).2))

@[simp] theorem onLeft_run (M : Machine σ) (c : Call) (s : σ) (t : τ) :
    (M.onLeft c).run (s, t) = ((M c s).1, ((M c s).2, t)) := rfl

@[simp] theorem onRight_run (M : Machine τ) (c : Call) (s : σ) (t : τ) :
    (M.onRight c).run (s, t) = ((M c t).1, (s, (M c t).2)) := rfl

/-- The machine that also records every call it receives, in order. -/
def logging (M : Machine σ) : Machine (σ × List Call) :=
  fun c st => ((M c st.1).1, ((M c st.1).2, st.2 ++ [c]))

theorem run_logging (M : Machine σ) (cs : List Call) (s : σ) (log : List Call) :
    (M.logging.run cs (s, log)).2 = ((M.run cs s).2, log ++ cs) := by
  induction cs generalizing s log with
  | nil => simp
  | cons c cs ih => simp [logging, ih]

end Machine

namespace Breaker

variable {σ τ : Type}

/-- Whether an answer is the error `unavailable`. -/
def unavailable {α : Type} : Except StoreError α → Bool
  | .error e => e.isUnavailable
  | .ok _ => false

/-- Whether a call is a snapshot, the one call that never trips a breaker. -/
def isSnapshot : Call → Bool
  | .snapshot => true
  | _ => false

/-- Whether an answer of the primary trips the breaker: `unavailable`, to any call but a
snapshot. -/
def trips (c : Call) (r : Reply c) : Bool := !isSnapshot c && unavailable r

/-- The answer the caller of a breaker gets: a history write always succeeds. -/
def absorb : (c : Call) → Reply c → Reply c
  | .logOpen .., _ => .ok ()
  | .recordDelivery .., _ => .ok ()
  | _, r => r

/-- `absorb` on a call with its answer. -/
def absorbAnswer (a : Answered) : Answered := ⟨a.1, absorb a.1 a.2⟩

/-- The breaker over two stores as one store: its state is the breaker's with the
primary's and the secondary's. -/
def machine (P : Machine σ) (S : Machine τ) : Machine (Breaker × σ × τ) :=
  fun c st =>
    let ((r, b), (sp, ss)) := (st.1.route P.onLeft S.onRight c).run (st.2.1, st.2.2)
    (r, (b, sp, ss))

/-- The position of the call that trips a closed breaker over `P` started in state `s`:
the first call that is not a snapshot and that `P`, having served every call before it,
answers `unavailable`. -/
def tripIndex (P : Machine σ) : List Call → σ → Option Nat
  | [], _ => none
  | c :: cs, s => if trips c (P c s).1 then some 0 else (tripIndex P cs (P c s).2).map (· + 1)

/-! ### One call -/

theorem serve_run (b : Breaker) (P : Machine σ) (S : Machine τ) (c : Call) (sp : σ) (ss : τ) :
    (b.serve P.onLeft S.onRight c).run (sp, ss) =
      if b.tripped then (((S c ss).1, b), (sp, (S c ss).2))
      else if unavailable (P c sp).1 then (((S c ss).1, ⟨true⟩), ((P c sp).2, (S c ss).2))
      else (((P c sp).1, b), ((P c sp).2, ss)) := by
  unfold serve
  by_cases hb : b.tripped
  · simp only [hb, if_true]
    rfl
  · simp only [hb, Bool.false_eq_true, if_false, StateT.run_bind, Machine.onLeft_run]
    rcases h : (P c sp).1 with ((_ | _ | _ | _) | _) <;> rfl

/-- What one call does to a breaker over two stores: a tripped breaker passes it to the
secondary; a closed one passes it to the primary and, when the primary's answer trips
it, to the secondary as well. -/
theorem machine_step (P : Machine σ) (S : Machine τ) (b : Breaker) (c : Call) (sp : σ) (ss : τ) :
    machine P S c (b, sp, ss) =
      if b.tripped then (absorb c (S c ss).1, (b, sp, (S c ss).2))
      else if trips c (P c sp).1 then (absorb c (S c ss).1, (⟨true⟩, (P c sp).2, (S c ss).2))
      else (absorb c (P c sp).1, (b, (P c sp).2, ss)) := by
  by_cases hb : b.tripped <;> by_cases hu : unavailable (P c sp).1 <;>
    cases c <;> simp [machine, route, serve_run, trips, isSnapshot, absorb, hb, hu] <;> rfl

/-! ### Runs -/

theorem run_tripped (P : Machine σ) (S : Machine τ) {b : Breaker} (hb : b.tripped)
    (cs : List Call) (sp : σ) (ss : τ) :
    (machine P S).run cs (b, sp, ss) =
      ((S.run cs ss).1.map absorbAnswer, (b, sp, (S.run cs ss).2)) := by
  induction cs generalizing ss with
  | nil => simp
  | cons c cs ih => simp [machine_step, hb, ih, absorbAnswer]

/-- Where a closed breaker trips, counted from the call after the first one, when the
first one does not trip it. -/
theorem tripIndex_cons_getD {P : Machine σ} {c : Call} {cs : List Call} {sp : σ}
    (ht : trips c (P c sp).1 = false) :
    (tripIndex P (c :: cs) sp).getD (c :: cs).length =
      (tripIndex P cs (P c sp).2).getD cs.length + 1 := by
  cases h : tripIndex P cs (P c sp).2 <;> simp [tripIndex, ht, h]

/-- A closed breaker serves the calls before the trip from the primary, and the rest,
the tripping call included, from the secondary. -/
theorem run_closed (P : Machine σ) (S : Machine τ) (cs : List Call) (sp : σ) (ss : τ) :
    (machine P S).run cs (⟨false⟩, sp, ss) =
      (((P.run (cs.take ((tripIndex P cs sp).getD cs.length)) sp).1 ++
          (S.run (cs.drop ((tripIndex P cs sp).getD cs.length)) ss).1).map absorbAnswer,
        (⟨decide ((tripIndex P cs sp).getD cs.length < cs.length)⟩,
          (P.run (cs.take ((tripIndex P cs sp).getD cs.length + 1)) sp).2,
          (S.run (cs.drop ((tripIndex P cs sp).getD cs.length)) ss).2)) := by
  induction cs generalizing sp with
  | nil => simp [tripIndex]
  | cons c cs ih =>
    cases ht : trips c (P c sp).1
    · rw [tripIndex_cons_getD ht]
      simp [machine_step, ht, ih, absorbAnswer]
    · simp [tripIndex, ht, machine_step, run_tripped, absorbAnswer]

theorem tripIndex_logging (P : Machine σ) (cs : List Call) (sp : σ) (log : List Call) :
    tripIndex P.logging cs (sp, log) = tripIndex P cs sp := by
  induction cs generalizing sp log with
  | nil => rfl
  | cons c cs ih => simp [tripIndex, Machine.logging, ih]

theorem tripIndex_lt_length {P : Machine σ} {cs : List Call} {sp : σ} {j : Nat}
    (h : tripIndex P cs sp = some j) : j < cs.length := by
  induction cs generalizing sp j with
  | nil => simp [tripIndex] at h
  | cons c cs ih =>
    by_cases ht : trips c (P c sp).1
    · simp [tripIndex, ht] at h
      simp [← h]
    · simp only [tripIndex, ht, Bool.false_eq_true, if_false, Option.map_eq_some_iff] at h
      obtain ⟨j', hj', rfl⟩ := h
      simpa using ih hj'

theorem tripIndex_take (P : Machine σ) (cs : List Call) (sp : σ) (i : Nat) :
    tripIndex P (cs.take i) sp = (tripIndex P cs sp).filter (· < i) := by
  induction cs generalizing sp i with
  | nil => simp [tripIndex]
  | cons c cs ih =>
    cases i with
    | zero => cases tripIndex P (c :: cs) sp <;> simp [tripIndex, Option.filter_some]
    | succ i =>
      cases ht : trips c (P c sp).1
      · cases h : tripIndex P cs (P c sp).2 <;>
          simp [tripIndex, ht, ih, h, Option.filter_some, apply_ite (Option.map _)]
      · simp [tripIndex, ht, Option.filter_some]

theorem tripped_after (P : Machine σ) (S : Machine τ) (cs : List Call) (sp : σ) (ss : τ)
    (i : Nat) :
    ((machine P S).run (cs.take i) (⟨false⟩, sp, ss)).2.1.tripped =
      (tripIndex P cs sp).any (· < i) := by
  rw [run_closed, tripIndex_take]
  cases h : tripIndex P cs sp with
  | none => simp
  | some j =>
    have hj := tripIndex_lt_length h
    by_cases hji : j < i
    · simp [hji, Option.filter_some]
      exact hj
    · simp [hji, Option.filter_some]

/-! ### The breaker as primary-then-secondary -/

/-- **The breaker simulates its primary up to the trip and its secondary from the trip
on.** For any two stores and any calls, with `k` the position of the tripping call (the
number of calls when none trips):

* a breaker that starts closed answers the calls before the `k`-th with the primary's
  answers and the rest with the secondary's, history writes always `ok`; the primary
  ends as after the calls up to and including the `k`-th, the secondary as after the
  calls from the `k`-th on, and the breaker is tripped exactly when some call tripped it;
* after any `i` of the calls it is tripped exactly when the tripping call is among them;
* a breaker that starts tripped answers every call from the secondary and leaves the
  primary as it was. -/
theorem breaker_simulates_primary_then_secondary (P : Machine σ) (S : Machine τ)
    (cs : List Call) (sp : σ) (ss : τ) :
    (machine P S).run cs (⟨false⟩, sp, ss) =
      (((P.run (cs.take ((tripIndex P cs sp).getD cs.length)) sp).1 ++
          (S.run (cs.drop ((tripIndex P cs sp).getD cs.length)) ss).1).map absorbAnswer,
        (⟨decide ((tripIndex P cs sp).getD cs.length < cs.length)⟩,
          (P.run (cs.take ((tripIndex P cs sp).getD cs.length + 1)) sp).2,
          (S.run (cs.drop ((tripIndex P cs sp).getD cs.length)) ss).2)) ∧
    (∀ i, ((machine P S).run (cs.take i) (⟨false⟩, sp, ss)).2.1.tripped =
      (tripIndex P cs sp).any (· < i)) ∧
    (machine P S).run cs (⟨true⟩, sp, ss) =
      ((S.run cs ss).1.map absorbAnswer, (⟨true⟩, sp, (S.run cs ss).2)) :=
  ⟨run_closed P S cs sp ss, tripped_after P S cs sp ss, run_tripped P S rfl cs sp ss⟩

/-- The calls each store receives from a breaker that starts closed: the primary exactly
the calls up to and including the tripping one, the secondary exactly those from it on,
each once and in order. -/
theorem calls_received (P : Machine σ) (S : Machine τ) (cs : List Call) (sp : σ) (ss : τ) :
    let k := (tripIndex P cs sp).getD cs.length
    ((machine P.logging S.logging).run cs (⟨false⟩, (sp, []), (ss, []))).2.2.1.2 =
        cs.take (k + 1) ∧
      ((machine P.logging S.logging).run cs (⟨false⟩, (sp, []), (ss, []))).2.2.2.2 =
        cs.drop k := by
  simp [run_closed, Machine.run_logging, tripIndex_logging]

end Breaker

end CrateState
