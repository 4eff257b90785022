import CrateState.Proofs.SyncSteps

/-!
# What a coordinator's status reports

A coordinator lives through a session of sync steps and health probes (`SessionStep`): its
server publishes, starts listening, hands it events, marks it degraded and closes it, while
the health monitor probes bus and ledger each interval (`Site.tick`). Each step runs on the
site holding every coordinator, so it also receives what the others publish.

`SessionStep.runAll` records a session, one `SessionStep.Entry` per step: the site before,
the step, its answer and the site after. `Entry.activity` reads off what the step did at one
coordinator: whether it marked it degraded, the publish answers it counted, what a probe
observed, and which events reached its inbound path. The reported status is what the session
did to it (`coordinator_status_truthful`).
-/

namespace CrateState

namespace Coordinator

/-! ## Activity and its accounting -/

/-- What happened at a coordinator, as far as its status tells: whether it was marked degraded,
the bus's and the ledger's answers to the publishes it attempted, the bus's and the ledger's
health as its probes observed them, and the events that reached its inbound path. -/
structure Activity where
  /-- Whether it was marked degraded. -/
  marked : Bool := false
  /-- Whether the bus and the ledger accepted each publish it attempted. -/
  attempts : List (Bool × Bool) := []
  /-- Whether the bus and the ledger were healthy at each of its probes. -/
  probes : List (Bool × Bool) := []
  /-- The events that reached its inbound path, in order. -/
  inbound : List SyncEvent := []

namespace Activity

/-- One activity after another. -/
instance : Append Activity where
  append a b := ⟨a.marked || b.marked, a.attempts ++ b.attempts, a.probes ++ b.probes,
    a.inbound ++ b.inbound⟩

/-- All the activities of a list, one after another. -/
def concat (as : List Activity) : Activity :=
  ⟨as.any (·.marked), as.flatMap (·.attempts), as.flatMap (·.probes), as.flatMap (·.inbound)⟩

@[simp] theorem empty_append (a : Activity) : {} ++ a = a := rfl

@[simp] theorem append_empty (a : Activity) : a ++ {} = a := by
  show (⟨_, _, _, _⟩ : Activity) = a
  simp

@[simp] theorem marked_append (a b : Activity) : (a ++ b).marked = (a.marked || b.marked) := rfl

@[simp] theorem attempts_append (a b : Activity) : (a ++ b).attempts = a.attempts ++ b.attempts := rfl

@[simp] theorem probes_append (a b : Activity) : (a ++ b).probes = a.probes ++ b.probes := rfl

@[simp] theorem inbound_append (a b : Activity) : (a ++ b).inbound = a.inbound ++ b.inbound := rfl

end Activity

/-- `Accounted a c c'`: from `c` to `c'` the coordinator did what `a` records, and its status
shows exactly that. It keeps its settings; it is degraded when it was, or was marked, or a probe
saw an unhealthy component; once closed it stays closed; each attempted publish is counted, with
the bus's and the ledger's refusals; each unhealthy component a probe saw is a health failure;
and each event of its own server that reached its inbound path is a suppressed echo. -/
structure Accounted (a : Activity) (c c' : Coordinator) : Prop where
  config : c'.config = c.config
  degraded : c'.degraded = (c.degraded || a.marked || a.probes.any fun p => !(p.1 && p.2))
  closed : c.closed = true → c'.closed = true
  published : c'.counters.published = c.counters.published + a.attempts.length
  publishFailures :
    c'.counters.publishFailures = c.counters.publishFailures + a.attempts.countP (!·.1)
  ledgerFailures :
    c'.counters.ledgerFailures = c.counters.ledgerFailures + a.attempts.countP (!·.2)
  healthFailures : c'.counters.healthFailures =
    c.counters.healthFailures + (a.probes.countP (!·.1) + a.probes.countP (!·.2))
  echoes : c'.counters.echoesSuppressed =
    c.counters.echoesSuppressed + a.inbound.countP (·.origin == c.config.serverId)

theorem Accounted.refl (c : Coordinator) : Accounted {} c c where
  config := rfl
  degraded := by simp
  closed := id
  published := rfl
  publishFailures := rfl
  ledgerFailures := rfl
  healthFailures := rfl
  echoes := rfl

theorem Accounted.trans {a b : Activity} {c c' c'' : Coordinator} (h : Accounted a c c')
    (h' : Accounted b c' c'') : Accounted (a ++ b) c c'' where
  config := h'.config.trans h.config
  degraded := by
    rw [h'.degraded, h.degraded]
    show _ = (c.degraded || (a.marked || b.marked) || (a.probes ++ b.probes).any _)
    rw [List.any_append]
    cases c.degraded <;> cases a.marked <;> cases b.marked <;> simp
  closed := h'.closed ∘ h.closed
  published := by
    rw [h'.published, h.published]
    show _ = _ + (a.attempts ++ b.attempts).length
    rw [List.length_append]
    omega
  publishFailures := by
    rw [h'.publishFailures, h.publishFailures]
    show _ = _ + (a.attempts ++ b.attempts).countP _
    rw [List.countP_append]
    omega
  ledgerFailures := by
    rw [h'.ledgerFailures, h.ledgerFailures]
    show _ = _ + (a.attempts ++ b.attempts).countP _
    rw [List.countP_append]
    omega
  healthFailures := by
    rw [h'.healthFailures, h.healthFailures]
    show _ = _ + ((a.probes ++ b.probes).countP _ + (a.probes ++ b.probes).countP _)
    rw [List.countP_append, List.countP_append]
    omega
  echoes := by
    -- the echoes of the second stretch are counted against the same server id
    rw [h'.echoes, h.echoes, h.config]
    show _ = _ + (a.inbound ++ b.inbound).countP _
    rw [List.countP_append]
    omega

/-- A change that touches nothing the status reports, and does not reopen, is accounted with
no activity. -/
theorem Accounted.of_quiet {c c' : Coordinator} (config : c'.config = c.config)
    (degraded : c'.degraded = c.degraded) (closed : c.closed = true → c'.closed = true)
    (counters : c'.counters = c.counters) : Accounted {} c c' where
  config := config
  degraded := by simp [degraded]
  closed := closed
  published := by simp [counters]
  publishFailures := by simp [counters]
  ledgerFailures := by simp [counters]
  healthFailures := by simp [counters]
  echoes := by simp [counters]

theorem accounted_markDegraded (c : Coordinator) : Accounted { marked := true } c c.markDegraded where
  config := rfl
  degraded := by simp [markDegraded]
  closed := id
  published := rfl
  publishFailures := rfl
  ledgerFailures := rfl
  healthFailures := rfl
  echoes := rfl

theorem accounted_recordPublish (c : Coordinator) (busOk ledgerOk : Bool) :
    Accounted { attempts := [(busOk, ledgerOk)] } c (c.recordPublish busOk ledgerOk) where
  config := rfl
  degraded := by simp [recordPublish]
  closed := id
  published := rfl
  publishFailures := by cases busOk <;> rfl
  ledgerFailures := by cases ledgerOk <;> rfl
  healthFailures := rfl
  echoes := rfl

theorem accounted_recordProbe (c : Coordinator) (busHealthy ledgerHealthy : Bool) :
    Accounted { probes := [(busHealthy, ledgerHealthy)] } c (c.recordProbe busHealthy ledgerHealthy) := by
  -- a probe degrades exactly when one of the two components was unhealthy
  cases busHealthy <;> cases ledgerHealthy <;>
    exact ⟨rfl, by simp [recordProbe, markDegraded], id, rfl, rfl, rfl, rfl, rfl⟩

theorem accounted_handleInbound (c : Coordinator) (e : SyncEvent) :
    Accounted { inbound := [e] } c (c.handleInbound e).2 := by
  unfold handleInbound
  by_cases echo : e.origin = c.config.serverId
  · -- an echo is only counted
    simp only [echo, beq_self_eq_true, if_true]
    exact ⟨rfl, by simp, id, rfl, rfl, rfl, rfl, by simp [echo]⟩
  · have other : (e.origin == c.config.serverId) = false := by simpa using echo
    simp only [other, Bool.false_eq_true, if_false]
    split
    · exact ⟨rfl, by simp, id, rfl, rfl, rfl, rfl, by simp [other]⟩
    · exact ⟨rfl, by simp, id, rfl, rfl, rfl, rfl, by simp [other]⟩

theorem accounted_iterate_handleInbound (e : SyncEvent) (n : Nat) (c : Coordinator) :
    Accounted { inbound := List.replicate n e } c ((fun c => (c.handleInbound e).2)^[n] c) := by
  induction n generalizing c with
  | zero => exact .refl c
  | succ n ih =>
    rw [Function.iterate_succ_apply]
    exact (accounted_handleInbound c e).trans (ih _)

theorem accounted_modify {f : Coordinator → Coordinator} {a : Activity}
    (hf : ∀ c, Accounted a c (f c)) {cs : List Coordinator} {x : Nat} {c : Coordinator}
    (hx : cs[x]? = some c) (i : Nat) :
    ∃ c', (cs.modify i f)[x]? = some c' ∧ Accounted (if i = x then a else {}) c c' := by
  rw [Site.getElem?_modify_of_some hx]
  refine ⟨_, rfl, ?_⟩
  split
  · exact hf c
  · exact .refl c

theorem accounted_modify_quiet {f : Coordinator → Coordinator} (hf : ∀ c, Accounted {} c (f c))
    {cs : List Coordinator} {x : Nat} {c : Coordinator} (hx : cs[x]? = some c) (i : Nat) :
    ∃ c', (cs.modify i f)[x]? = some c' ∧ Accounted {} c c' := by
  simpa only [ite_self] using accounted_modify hf hx i

end Coordinator

/-- The answers of the bus and the ledger to a publish that was attempted. -/
def PublishOutcome.attempts : PublishOutcome → List (Bool × Bool)
  | .skipped => []
  | .delivered busOk ledgerOk => [(busOk, ledgerOk)]

namespace Site

theorem ledgerOnly_ledgerHealthy : LedgerOnly ledgerHealthy := by
  intro s
  unfold ledgerHealthy
  simp only [StateT.run_bind, StateT.run_get, pure_bind]
  split
  · exact ⟨_, _, rfl, rfl, rfl⟩
  · exact ledgerOnly_onSql _ _ _ s

/-- Whether the ledger reports itself healthy on a site. -/
def ledgerObserved (s : Site) : Bool := (Id.run (ledgerHealthy.run s)).1

theorem accounted_listen (c : Coordinator) : Coordinator.Accounted {} c (listen c) :=
  .of_quiet rfl rfl id rfl

theorem accounted_unstart (c : Coordinator) :
    Coordinator.Accounted {} c { c with started := false } :=
  .of_quiet rfl rfl id rfl

theorem accounted_shut (c : Coordinator) : Coordinator.Accounted {} c (shut c) :=
  .of_quiet rfl rfl (fun _ => rfl) rfl

/-- A probe observes the bus and the ledger on the site it starts from and counts what it saw at
its coordinator; the bus stays as it was. -/
theorem tick_run (i : Nat) (s : Site) :
    ∃ s', Id.run ((tick i).run s) = (s.hub.bus.healthy && s.ledgerObserved, s') ∧
      s'.hub.bus = s.hub.bus ∧
      s'.hub.coordinators =
        s.hub.coordinators.modify i (·.recordProbe s.hub.bus.healthy s.ledgerObserved) := by
  obtain ⟨l, s₁, hrun, hcs, hbus⟩ := ledgerOnly_ledgerHealthy s
  have observed : s.ledgerObserved = l := by simp [ledgerObserved, hrun]
  refine ⟨{ s₁ with
      hub.coordinators := s₁.hub.coordinators.modify i (·.recordProbe s.hub.bus.healthy l) },
    ?_, hbus, by simp [observed, hcs]⟩
  simp [tick, hrun, run_modifyCoordinator, observed]

theorem status_reports {x : Nat} {s : Site} {c : Coordinator} (hx : s.hub.coordinators[x]? = some c) :
    ∃ st, (Id.run ((status x).run s)).1 = some st ∧ st.degraded = c.degraded ∧
      st.counters = c.counters := by
  obtain ⟨l, s₁, hrun, hcs, -⟩ := ledgerOnly_ledgerHealthy s
  simp [status, hrun, run_coordinator?, hcs, hx]

theorem publish_answer {i : Nat} {e : SyncEvent} {s : Site} {c : Coordinator}
    (h : s.hub.coordinators[i]? = some c) (sends : c.skips = false) :
    (Id.run ((publish i e).run s)).1 = .delivered (Id.run ((busPublish e).run s)).1.isOk
      (Id.run ((ledgerAppend e).run (Id.run ((busPublish e).run s)).2)).1.isOk := by
  simp only [publish, StateT.run_bind, run_coordinator?, h, sends, pure_bind, Bool.false_eq_true,
    if_false]
  rcases hb : Id.run ((busPublish e).run s) with ⟨bus, s₁⟩
  rcases hl : Id.run ((ledgerAppend e).run s₁) with ⟨ledger, s₂⟩
  have hb' : (busPublish e).run s = pure (bus, s₁) := hb
  have hl' : (ledgerAppend e).run s₁ = pure (ledger, s₂) := hl
  simp only [hb', hl', pure_bind, run_modifyCoordinator]
  cases bus <;> cases ledger <;> rfl

end Site

/-! ## Sessions with health probes -/

/-- A step of a session with health probes: a sync step, or a probe of the bus and the ledger for
the coordinator at a position, as its health monitor makes on every interval. -/
inductive SessionStep where
  | sync (st : SyncStep)
  | tick (i : Nat)

/-- What a session step answers: a sync step's answer, or whether a probe found both the bus and
the ledger healthy. -/
inductive SessionAnswer where
  | sync (a : SyncAnswer)
  | probed (healthy : Bool)

namespace SyncStep

/-- What a sync step, given its answer and the site it started from, did at the coordinator at
`x`: a publish the bus accepted brought its event to `x` once for each subscription of `x`, and a
publish by `x` that was attempted is counted with its two answers; an event handed to `x` came to
its inbound path; and a mark of `x` marked it. -/
def activity (x : Nat) (s : Site) : SyncStep → SyncAnswer → Coordinator.Activity
  | .publish i e, .published o =>
    { inbound := match o with
        | .delivered true _ => List.replicate (s.hub.bus.subscribers.count x) e
        | _ => [] } ++
      if i = x then { attempts := o.attempts } else {}
  | .handleInbound i e, _ => if i = x then { inbound := [e] } else {}
  | .markDegraded i, _ => if i = x then { marked := true } else {}
  | _, _ => {}

theorem marked_activity (x : Nat) (s : Site) (st : SyncStep) (a : SyncAnswer) :
    (st.activity x s a).marked = true ↔ st = .markDegraded x := by
  cases st with
  | publish i e =>
    cases a with
    | published o => by_cases hi : i = x <;> simp [activity, hi]
    | _ => simp [activity]
  | handleInbound i e => by_cases hi : i = x <;> simp [activity, hi]
  | markDegraded i => by_cases hi : i = x <;> simp [activity, hi]
  | _ => simp [activity]

theorem probes_activity (x : Nat) (s : Site) (st : SyncStep) (a : SyncAnswer) :
    (st.activity x s a).probes = [] := by
  cases st with
  | publish i e =>
    cases a with
    | published o => by_cases hi : i = x <;> simp [activity, hi]
    | _ => simp [activity]
  | handleInbound i e => by_cases hi : i = x <;> simp [activity, hi]
  | markDegraded i => by_cases hi : i = x <;> simp [activity, hi]
  | _ => simp [activity]

theorem accounted_start (i : Nat) {s : Site} {x : Nat} {c : Coordinator}
    (hx : s.hub.coordinators[x]? = some c) :
    ∃ c', ((start i).run s).2.hub.coordinators[x]? = some c' ∧
      Coordinator.Accounted ((start i).activity x s ((start i).run s).1) c c' := by
  rcases run_start_cases i s with ⟨r, h⟩ | ⟨-, -, -, -, -, ⟨-, h⟩ | ⟨-, h⟩⟩
  · exact ⟨c, by rw [h]; exact hx, .refl c⟩
  · rw [h]
    exact Coordinator.accounted_modify_quiet Site.accounted_listen hx i
  · -- a refused subscription leaves the coordinator listening but not started
    rw [h]
    obtain ⟨c₁, h₁, acc₁⟩ := Coordinator.accounted_modify_quiet Site.accounted_listen hx i
    obtain ⟨c₂, h₂, acc₂⟩ := Coordinator.accounted_modify_quiet Site.accounted_unstart h₁ i
    exact ⟨c₂, h₂, acc₁.trans acc₂⟩

theorem accounted_publish (i : Nat) (e : SyncEvent) {s : Site} {x : Nat} {c : Coordinator}
    (hx : s.hub.coordinators[x]? = some c) :
    ∃ c', ((publish i e).run s).2.hub.coordinators[x]? = some c' ∧
      Coordinator.Accounted ((publish i e).activity x s ((publish i e).run s).1) c c' := by
  rcases run_publish_cases i e s with h | ⟨ledgerOk, s', h, -, hcs⟩
  · refine ⟨c, by rw [h]; exact hx, ?_⟩
    rw [h]
    simpa [activity, PublishOutcome.attempts] using Coordinator.Accounted.refl c
  · rw [h]
    simp only [hcs]
    cases hb : s.hub.bus.closed with
    | true =>
      -- a closed bus hands the event to nobody
      obtain ⟨c', h', acc⟩ := Coordinator.accounted_modify
        (fun c => Coordinator.accounted_recordPublish c false ledgerOk) hx i
      exact ⟨c', h', acc⟩
    | false =>
      have handed : (Site.handOut e s.hub.bus.subscribers s.hub.coordinators)[x]? =
          some ((fun c => (c.handleInbound e).2)^[s.hub.bus.subscribers.count x] c) := by
        rw [Site.getElem?_handOut, hx]
        rfl
      obtain ⟨c', h', acc⟩ := Coordinator.accounted_modify
        (fun c => Coordinator.accounted_recordPublish c true ledgerOk) handed i
      exact ⟨c', h', (Coordinator.accounted_iterate_handleInbound e _ c).trans acc⟩

theorem accounted_handleInbound (i : Nat) (e : SyncEvent) {s : Site} {x : Nat} {c : Coordinator}
    (hx : s.hub.coordinators[x]? = some c) :
    ∃ c', ((handleInbound i e).run s).2.hub.coordinators[x]? = some c' ∧
      Coordinator.Accounted ((handleInbound i e).activity x s ((handleInbound i e).run s).1) c c' := by
  rcases run_handleInbound_cases i e s with ⟨hi, h⟩ | ⟨c₀, -, h⟩
  · -- there is no coordinator at `i`, so it is not `x`
    have other : i ≠ x := by
      rintro rfl
      simp [hi] at hx
    exact ⟨c, by rw [h]; exact hx, by simpa [activity, other] using Coordinator.Accounted.refl c⟩
  · rw [h]
    exact Coordinator.accounted_modify (fun c => Coordinator.accounted_handleInbound c e) hx i

theorem accounted_markDegraded (i : Nat) {s : Site} {x : Nat} {c : Coordinator}
    (hx : s.hub.coordinators[x]? = some c) :
    ∃ c', ((markDegraded i).run s).2.hub.coordinators[x]? = some c' ∧
      Coordinator.Accounted ((markDegraded i).activity x s ((markDegraded i).run s).1) c c' := by
  rw [run_markDegraded]
  exact Coordinator.accounted_modify Coordinator.accounted_markDegraded hx i

theorem accounted_close (i : Nat) {s : Site} {x : Nat} {c : Coordinator}
    (hx : s.hub.coordinators[x]? = some c) :
    ∃ c', ((close i).run s).2.hub.coordinators[x]? = some c' ∧
      Coordinator.Accounted ((close i).activity x s ((close i).run s).1) c c' := by
  rcases run_close_cases i s with h | ⟨s', h, hcs, -⟩
  · exact ⟨c, by rw [h]; exact hx, .refl c⟩
  · rw [h, hcs]
    exact Coordinator.accounted_modify_quiet Site.accounted_shut hx i

/-- Every sync step accounts, at every coordinator, for what `activity` says it did there. -/
theorem accounted_run (st : SyncStep) {s : Site} {x : Nat} {c : Coordinator}
    (hx : s.hub.coordinators[x]? = some c) :
    ∃ c', (st.run s).2.hub.coordinators[x]? = some c' ∧
      Coordinator.Accounted (st.activity x s (st.run s).1) c c' := by
  cases st with
  | start i => exact accounted_start i hx
  | publish i e => exact accounted_publish i e hx
  | handleInbound i e => exact accounted_handleInbound i e hx
  | markDegraded i => exact accounted_markDegraded i hx
  | close i => exact accounted_close i hx

end SyncStep

namespace SessionStep

/-- Runs a session step on a site: its answer and the site it leaves. -/
def run : SessionStep → Site → SessionAnswer × Site
  | .sync st, s => let r := st.run s; (.sync r.1, r.2)
  | .tick i, s => let r := Id.run ((Site.tick i).run s); (.probed r.1, r.2)

/-- One step of a session as it happened: the site it started from, the step, its answer and the
site it left. -/
structure Entry where
  /-- The site the step started from. -/
  before : Site
  step : SessionStep
  answer : SessionAnswer
  /-- The site it left. -/
  after : Site

/-- Runs steps in order: what happened at each, and the site they leave. -/
def runAll : List SessionStep → Site → List Entry × Site
  | [], s => ([], s)
  | st :: steps, s =>
    let first := st.run s
    let rest := runAll steps first.2
    (⟨s, st, first.1, first.2⟩ :: rest.1, rest.2)

/-- What a session step, given its answer and the site it started from, did at the coordinator
at `x`: what a sync step did there, or, for a probe of `x`, the health of the bus and of the
ledger it observed. -/
def activity (x : Nat) (s : Site) : SessionStep → SessionAnswer → Coordinator.Activity
  | .sync st, .sync a => st.activity x s a
  | .tick i, _ => if i = x then { probes := [(s.hub.bus.healthy, s.ledgerObserved)] } else {}
  | _, _ => {}

/-- What a step of a session did at the coordinator at `x`. -/
def Entry.activity (x : Nat) (t : Entry) : Coordinator.Activity :=
  t.step.activity x t.before t.answer

/-- What a session did at the coordinator at `x`, step after step. -/
def activityOf (x : Nat) (entries : List Entry) : Coordinator.Activity :=
  Coordinator.Activity.concat (entries.map (·.activity x))

theorem ran_of_mem_runAll {steps : List SessionStep} {s : Site} {t : Entry}
    (ht : t ∈ (runAll steps s).1) : t.step.run t.before = (t.answer, t.after) := by
  induction steps generalizing s with
  | nil => simp [runAll] at ht
  | cons st steps ih =>
    rcases List.mem_cons.mp ht with rfl | ht
    · rfl
    · exact ih ht

theorem marked_activity (x : Nat) (st : SessionStep) (s : Site) :
    (st.activity x s (st.run s).1).marked = true ↔ st = .sync (.markDegraded x) := by
  cases st with
  | sync st => simp [run, activity, SyncStep.marked_activity]
  | tick i => by_cases hi : i = x <;> simp [activity, hi]

/-- Only a probe of `x` observes health at `x`, and it sees an unhealthy component exactly when
the bus or the ledger was unhealthy on the site it started from. -/
theorem unhealthy_activity (x : Nat) (st : SessionStep) (s : Site) :
    ((st.activity x s (st.run s).1).probes.any fun p => !(p.1 && p.2)) = true ↔
      st = .tick x ∧ (s.hub.bus.healthy = false ∨ s.ledgerObserved = false) := by
  cases st with
  | sync st => simp [run, activity, SyncStep.probes_activity]
  | tick i => by_cases hi : i = x <;> simp [activity, hi]

/-- What holds of the activity of every step of a run holds of some entry's activity exactly when
some entry is such a step. -/
theorem exists_activity_iff {steps : List SessionStep} {s : Site} {x : Nat}
    {P : Coordinator.Activity → Prop} {Q : SessionStep → Site → Prop}
    (h : ∀ st s, P (st.activity x s (st.run s).1) ↔ Q st s) :
    (∃ t ∈ (runAll steps s).1, P (t.activity x)) ↔ ∃ t ∈ (runAll steps s).1, Q t.step t.before := by
  have answer : ∀ t ∈ (runAll steps s).1, (t.step.run t.before).1 = t.answer := fun t ht => by
    rw [ran_of_mem_runAll ht]
  constructor
  · rintro ⟨t, ht, hp⟩
    rw [Entry.activity, ← answer t ht] at hp
    exact ⟨t, ht, (h _ _).mp hp⟩
  · rintro ⟨t, ht, hq⟩
    refine ⟨t, ht, ?_⟩
    rw [Entry.activity, ← answer t ht]
    exact (h _ _).mpr hq

theorem marked_activityOf (x : Nat) (steps : List SessionStep) (s : Site) :
    (activityOf x (runAll steps s).1).marked = true ↔
      ∃ t ∈ (runAll steps s).1, t.step = .sync (.markDegraded x) := by
  simp only [activityOf, Coordinator.Activity.concat, List.any_map, List.any_eq_true,
    Function.comp_apply]
  exact exists_activity_iff (P := fun a => a.marked = true) fun st s => marked_activity x st s

/-- A session saw an unhealthy component at `x` exactly when one of its steps was a probe of `x`
that found the bus or the ledger unhealthy. -/
theorem unhealthy_activityOf (x : Nat) (steps : List SessionStep) (s : Site) :
    ((activityOf x (runAll steps s).1).probes.any fun p => !(p.1 && p.2)) = true ↔
      ∃ t ∈ (runAll steps s).1, t.step = .tick x ∧
        (t.before.hub.bus.healthy = false ∨ t.before.ledgerObserved = false) := by
  simp only [activityOf, Coordinator.Activity.concat, List.any_flatMap, List.any_map,
    Function.comp_def]
  rw [List.any_eq_true]
  exact exists_activity_iff (P := fun a => (a.probes.any fun p => !(p.1 && p.2)) = true)
    fun st s => unhealthy_activity x st s

/-- A step answered truthfully if it was a publish by the coordinator at `x`: the publish was
skipped, and the site left as it was, when the coordinator skips publishes; otherwise the publish
answers whether the bus accepted the event and then whether the ledger did. -/
def Entry.PublishTruthful (x : Nat) (t : Entry) : Prop :=
  ∀ e c, t.step = .sync (.publish x e) → t.before.hub.coordinators[x]? = some c →
    (c.skips = true → t.answer = .sync (.published .skipped) ∧ t.after = t.before) ∧
    (c.skips = false →
      t.answer = .sync (.published (.delivered (Id.run ((Site.busPublish e).run t.before)).1.isOk
        (Id.run ((Site.ledgerAppend e).run (Id.run ((Site.busPublish e).run t.before)).2)).1.isOk)))

theorem publishTruthful (x : Nat) (st : SessionStep) (s : Site) :
    Entry.PublishTruthful x ⟨s, st, (st.run s).1, (st.run s).2⟩ := by
  rintro e c rfl hx
  constructor
  · intro skips
    have h := Site.publish_of_skips (i := x) (e := e) (s := s) (fun c' hc' => by
      rw [hx] at hc'
      cases hc'
      exact skips)
    simp [run, SyncStep.run, SyncStep.op, h]
  · intro sends
    have h := Site.publish_answer (e := e) hx sends
    simp only [run, SyncStep.run, SyncStep.op]
    rw [← h]
    rfl

/-- Every session step accounts, at every coordinator, for what `activity` says it did there. -/
theorem accounted_run (st : SessionStep) {s : Site} {x : Nat} {c : Coordinator}
    (hx : s.hub.coordinators[x]? = some c) :
    ∃ c', (st.run s).2.hub.coordinators[x]? = some c' ∧
      Coordinator.Accounted (st.activity x s (st.run s).1) c c' := by
  cases st with
  | sync st => exact SyncStep.accounted_run st hx
  | tick i =>
    obtain ⟨s', h, -, hcs⟩ := Site.tick_run i s
    simp only [run, activity, h, hcs]
    exact Coordinator.accounted_modify
      (fun c => Coordinator.accounted_recordProbe c s.hub.bus.healthy s.ledgerObserved) hx i

theorem accounted_runAll (steps : List SessionStep) {s : Site} {x : Nat} {c : Coordinator}
    (hx : s.hub.coordinators[x]? = some c) :
    ∃ c', (runAll steps s).2.hub.coordinators[x]? = some c' ∧
      Coordinator.Accounted (activityOf x (runAll steps s).1) c c' := by
  induction steps generalizing s c with
  | nil => exact ⟨c, hx, .refl c⟩
  | cons st steps ih =>
    obtain ⟨c₁, h₁, acc₁⟩ := accounted_run st hx
    obtain ⟨c₂, h₂, acc₂⟩ := ih h₁
    exact ⟨c₂, h₂, acc₁.trans acc₂⟩

theorem publishTruthful_runAll (x : Nat) (steps : List SessionStep) (s : Site) :
    ∀ t ∈ (runAll steps s).1, t.PublishTruthful x := by
  induction steps generalizing s with
  | nil => simp [runAll]
  | cons st steps ih =>
    intro t ht
    rcases List.mem_cons.mp ht with rfl | ht
    · exact publishTruthful x st s
    · exact ih _ t ht

end SessionStep

/-- **A coordinator's status tells the truth about its session.** Run any steps of sync and of
health probes on a site. Every publish by the coordinator at `x` is skipped, leaving the site as
it was, exactly when the coordinator skips publishes at that moment, and otherwise answers what
the bus and the ledger answered. At the end the coordinator is degraded exactly when it was, or
the session marked it, or one of its probes found the bus or the ledger unhealthy; it accounts for
the whole session, so that degradation and closing are never undone; and its status reports its
degradation and counters, which count each attempted publish and its refusals, each unhealthy
component its probes saw, and each echo of its own server that reached it. -/
theorem coordinator_status_truthful {s : Site} {x : Nat} {c : Coordinator}
    (hx : s.hub.coordinators[x]? = some c) (steps : List SessionStep) :
    (∀ t ∈ (SessionStep.runAll steps s).1, t.PublishTruthful x) ∧
    ∃ c', (SessionStep.runAll steps s).2.hub.coordinators[x]? = some c' ∧
      (c'.degraded = true ↔ c.degraded = true ∨
        (∃ t ∈ (SessionStep.runAll steps s).1, t.step = .sync (.markDegraded x)) ∨
        ∃ t ∈ (SessionStep.runAll steps s).1, t.step = .tick x ∧
          (t.before.hub.bus.healthy = false ∨ t.before.ledgerObserved = false)) ∧
      Coordinator.Accounted (SessionStep.activityOf x (SessionStep.runAll steps s).1) c c' ∧
      ∃ st, (Id.run ((Site.status x).run (SessionStep.runAll steps s).2)).1 = some st ∧
        st.degraded = c'.degraded ∧ st.counters = c'.counters := by
  obtain ⟨c', h', acc⟩ := SessionStep.accounted_runAll steps hx
  have degraded : c'.degraded = true ↔ c.degraded = true ∨
      (∃ t ∈ (SessionStep.runAll steps s).1, t.step = .sync (.markDegraded x)) ∨
      ∃ t ∈ (SessionStep.runAll steps s).1, t.step = .tick x ∧
        (t.before.hub.bus.healthy = false ∨ t.before.ledgerObserved = false) := by
    rw [acc.degraded, Bool.or_eq_true, Bool.or_eq_true, SessionStep.marked_activityOf,
      SessionStep.unhealthy_activityOf, or_assoc]
  exact ⟨SessionStep.publishTruthful_runAll x steps s, c', h', degraded, acc, Site.status_reports h'⟩

/-- A coordinator that starts listening, publishes an event of its own server, which comes back to
it, is probed, closes and publishes again lives through a session the statement covers. -/
theorem coordinator_status_truthful_of_echo :
    let c : Coordinator := { config := { enabled := true, serverId := "a" } }
    let e : SyncEvent :=
      { kind := .crateOpened, origin := "a", player := PlayerId.nil, crate := "c", time := 0 }
    let s : Site := { hub := { coordinators := [c] } }
    let steps : List SessionStep :=
      [.sync (.start 0), .sync (.publish 0 e), .tick 0, .sync (.close 0), .sync (.publish 0 e)]
    s.hub.coordinators[0]? = some c ∧
    (∀ t ∈ (SessionStep.runAll steps s).1, t.PublishTruthful 0) ∧
    ∃ c', (SessionStep.runAll steps s).2.hub.coordinators[0]? = some c' ∧
      (c'.degraded = true ↔ c.degraded = true ∨
        (∃ t ∈ (SessionStep.runAll steps s).1, t.step = .sync (.markDegraded 0)) ∨
        ∃ t ∈ (SessionStep.runAll steps s).1, t.step = .tick 0 ∧
          (t.before.hub.bus.healthy = false ∨ t.before.ledgerObserved = false)) ∧
      Coordinator.Accounted (SessionStep.activityOf 0 (SessionStep.runAll steps s).1) c c' ∧
      ∃ st, (Id.run ((Site.status 0).run (SessionStep.runAll steps s).2)).1 = some st ∧
        st.degraded = c'.degraded ∧ st.counters = c'.counters := by
  intro c e s steps
  have hx : s.hub.coordinators[0]? = some c := rfl
  exact ⟨hx, coordinator_status_truthful hx steps⟩

end CrateState
