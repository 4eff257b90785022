import CrateState.Sync.Site
import CrateState.Proofs.CacheConvergence

/-!
# Sync steps and what they do

A server's steps on its coordinator are operations of the site holding the coordinators and
the shared bus: `start`, `publish`, `handleInbound`, `markDegraded` and `close`
(`SyncStep`), each with its answer (`SyncAnswer`); `SyncStep.runAll` runs them in order.

What a handler sees shows in the coordinator's log of its calls, its observation cache and
two counters: `Coordinator.Received es n c c'` says that from `c` to `c'` the handler got the
events `es`, in order, and dropped `n` echoes of the server's own. Handling one inbound event is such a
change (`received_handleInbound`), as is, with no events, every change leaving the inbound
path alone.

Each site operation has one lemma per outcome (`Site.start_of_open` and its siblings), on the
coordinators and the bus only, which the ledger's work never touches (`Site.LedgerOnly`).
`Site.handOut` handles an event at a coordinator once per time it is on the list. The
`run_*_cases` lemmas say everything each kind of step can do, so an invariant of runs is a
case analysis over them.
-/

namespace CrateState

open Relational

namespace Coordinator

/-- `Received es n c c'`: between `c` and `c'` the coordinator's handler was called with the
events `es`, in this order, and `n` echoes of its own events were dropped; its settings stayed.
Each call is logged, applied to the observation cache and counted as applied. -/
structure Received (es : List SyncEvent) (n : Nat) (c c' : Coordinator) : Prop where
  config : c'.config = c.config
  handled : c'.handled = c.handled ++ es
  cache : c'.cache = c.cache.applyAll es
  applied : c'.counters.inboundApplied = c.counters.inboundApplied + es.length
  echoes : c'.counters.echoesSuppressed = c.counters.echoesSuppressed + n

/-- A change that leaves the settings and the whole inbound path alone received nothing. -/
theorem Received.quiet {c c' : Coordinator} (config : c'.config = c.config)
    (handled : c'.handled = c.handled) (cache : c'.cache = c.cache)
    (applied : c'.counters.inboundApplied = c.counters.inboundApplied)
    (echoes : c'.counters.echoesSuppressed = c.counters.echoesSuppressed) : Received [] 0 c c' :=
  ⟨config, by rw [handled, List.append_nil], cache, applied, echoes⟩

theorem Received.refl (c : Coordinator) : Received [] 0 c c := .quiet rfl rfl rfl rfl rfl

theorem Received.trans {es es' : List SyncEvent} {n n' : Nat} {c c' c'' : Coordinator}
    (h : Received es n c c') (h' : Received es' n' c' c'') : Received (es ++ es') (n + n') c c'' where
  config := h'.config.trans h.config
  handled := by rw [h'.handled, h.handled, List.append_assoc]
  cache := by
    rw [h'.cache, h.cache]
    simp only [ObservationCache.applyAll, List.foldl_append]
  applied := by rw [h'.applied, h.applied, List.length_append]; omega
  echoes := by rw [h'.echoes, h.echoes]; omega

theorem handleInbound_fst (c : Coordinator) (e : SyncEvent) :
    (c.handleInbound e).1 = true ↔ e.origin ≠ c.config.serverId ∧ c.listening = true := by
  unfold handleInbound
  by_cases echo : e.origin = c.config.serverId
  · simp [echo]
  · by_cases hl : c.listening = true <;> simp [echo, hl]

/-- Handling an inbound event calls the handler with it when it is dispatched, and counts it as
an echo when its origin is the coordinator's own server. -/
theorem received_handleInbound (c : Coordinator) (e : SyncEvent) :
    Received (if (c.handleInbound e).1 then [e] else []) (if e.origin = c.config.serverId then 1 else 0)
      c (c.handleInbound e).2 := by
  unfold handleInbound
  by_cases echo : e.origin = c.config.serverId
  · simpa [echo] using (⟨rfl, (List.append_nil _).symm, rfl, rfl, rfl⟩ : Received [] 1 c
      { c with counters.echoesSuppressed := c.counters.echoesSuppressed + 1 })
  · cases hl : c.listening
    · simpa [echo, hl] using Received.refl c
    · simpa [echo, hl] using (⟨rfl, rfl, rfl, rfl, rfl⟩ : Received [e] 0 c
        { c with
          cache := (c.cache.apply e).2
          handled := c.handled ++ [e]
          counters.inboundApplied := c.counters.inboundApplied + 1 })

@[simp] theorem started_handleInbound (c : Coordinator) (e : SyncEvent) :
    (c.handleInbound e).2.started = c.started := by
  unfold handleInbound
  split
  · rfl
  · split <;> rfl

@[simp] theorem listening_handleInbound (c : Coordinator) (e : SyncEvent) :
    (c.handleInbound e).2.listening = c.listening := by
  unfold handleInbound
  split
  · rfl
  · split <;> rfl

theorem received_recordPublish (c : Coordinator) (busOk ledgerOk : Bool) :
    Received [] 0 c (c.recordPublish busOk ledgerOk) := .quiet rfl rfl rfl rfl rfl

theorem received_markDegraded (c : Coordinator) : Received [] 0 c c.markDegraded :=
  .quiet rfl rfl rfl rfl rfl

@[simp] theorem started_recordPublish (c : Coordinator) (busOk ledgerOk : Bool) :
    (c.recordPublish busOk ledgerOk).started = c.started := rfl

@[simp] theorem listening_recordPublish (c : Coordinator) (busOk ledgerOk : Bool) :
    (c.recordPublish busOk ledgerOk).listening = c.listening := rfl

@[simp] theorem started_markDegraded (c : Coordinator) : c.markDegraded.started = c.started := rfl

@[simp] theorem listening_markDegraded (c : Coordinator) : c.markDegraded.listening = c.listening := rfl

theorem Received.ite {c c' : Coordinator} (h : Received [] 0 c c') (p : Prop) [Decidable p] :
    Received [] 0 c (if p then c' else c) := by
  split
  · exact h
  · exact .refl c

theorem dispatched_of_listening {c : Coordinator} (e : SyncEvent) (h : c.listening = true) :
    (if (c.handleInbound e).1 then [e] else []) = (if e.origin = c.config.serverId then none else some e).toList := by
  by_cases echo : e.origin = c.config.serverId
  · have : (c.handleInbound e).1 = false :=
      Bool.eq_false_iff.mpr fun h' => ((handleInbound_fst c e).mp h').1 echo
    simp [echo, this]
  · have : (c.handleInbound e).1 = true := (handleInbound_fst c e).mpr ⟨echo, h⟩
    simp [echo, this]

end Coordinator

namespace Site

/-! ## What each site operation does to the coordinators and the bus -/

/-- A change of the site that leaves the coordinators and the bus as they were: the ledger's
work. -/
def LedgerOnly {α : Type} (m : StateM Site α) : Prop :=
  ∀ s, ∃ a s', m.run s = pure (a, s') ∧ s'.hub.coordinators = s.hub.coordinators ∧ s'.hub.bus = s.hub.bus

theorem run_coordinator? (i : Nat) (s : Site) :
    (coordinator? i).run s = pure (s.hub.coordinators[i]?, s) := rfl

theorem run_modifyCoordinator (i : Nat) (f : Coordinator → Coordinator) (s : Site) :
    (modifyCoordinator i f).run s = pure ((), { s with hub.coordinators := s.hub.coordinators.modify i f }) :=
  rfl

theorem ledgerOnly_onSql {α : Type} (l : SqlLedger) (op : SqlLedger → Pool → α × SqlLedger × Pool)
    (missing : α) : LedgerOnly (onSql l op missing) := by
  intro s
  unfold onSql
  dsimp only [StateT.run]
  split
  · exact ⟨_, _, rfl, rfl, rfl⟩
  · split <;> exact ⟨_, _, rfl, rfl, rfl⟩

theorem ledgerOnly_ledgerAppend (e : SyncEvent) : LedgerOnly (ledgerAppend e) := by
  intro s
  unfold ledgerAppend
  simp only [StateT.run_bind, StateT.run_get, pure_bind]
  split
  · split
    · exact ⟨_, _, rfl, rfl, rfl⟩
    · exact ⟨_, _, rfl, rfl, rfl⟩
  · exact ledgerOnly_onSql _ _ _ s

theorem ledgerOnly_ledgerClose : LedgerOnly ledgerClose := by
  intro s
  unfold ledgerClose
  simp only [StateT.run_bind, StateT.run_get, pure_bind]
  split
  · exact ⟨_, _, rfl, rfl, rfl⟩
  · exact ledgerOnly_onSql _ _ _ s

/-- The coordinators once an event is handed to the subscribers, in order. -/
def handOut (e : SyncEvent) (subscribers : List Nat) (cs : List Coordinator) : List Coordinator :=
  subscribers.foldl (fun cs i => cs.modify i fun c => (c.handleInbound e).2) cs

theorem getElem?_handOut (e : SyncEvent) (subscribers : List Nat) (cs : List Coordinator) (x : Nat) :
    (handOut e subscribers cs)[x]? =
      (fun c => (fun c => (c.handleInbound e).2)^[subscribers.count x] c) <$> cs[x]? := by
  induction subscribers generalizing cs with
  | nil => simp [handOut]
  | cons i rest ih =>
    rw [handOut, List.foldl_cons, ← handOut, ih, List.getElem?_modify, List.count_cons]
    cases cs[x]? with
    | none => rfl
    | some c =>
      by_cases hi : i = x
      · subst hi
        simp [Function.iterate_succ_apply]
      · simp [hi]

theorem map_started_modify {f : Coordinator → Coordinator} (keeps : ∀ c, (f c).started = c.started)
    (cs : List Coordinator) (i x : Nat) :
    (cs.modify i f)[x]?.map (·.started) = cs[x]?.map (·.started) := by
  rw [List.getElem?_modify]
  cases cs[x]? with
  | none => rfl
  | some c => by_cases hi : i = x <;> simp [hi, keeps]

theorem started_iterate_handleInbound (e : SyncEvent) (n : Nat) (c : Coordinator) :
    ((fun c => (c.handleInbound e).2)^[n] c).started = c.started := by
  induction n generalizing c with
  | zero => rfl
  | succ n ih => rw [Function.iterate_succ_apply, ih, Coordinator.started_handleInbound]

theorem map_started_handOut (e : SyncEvent) (subscribers : List Nat) (cs : List Coordinator) (x : Nat) :
    (handOut e subscribers cs)[x]?.map (·.started) = cs[x]?.map (·.started) := by
  rw [getElem?_handOut]
  cases cs[x]? with
  | none => rfl
  | some c => simp [started_iterate_handleInbound]

theorem getElem?_modify_of_some {f : Coordinator → Coordinator} {cs : List Coordinator} {x : Nat}
    {c : Coordinator} (h : cs[x]? = some c) (i : Nat) :
    (cs.modify i f)[x]? = some (if i = x then f c else c) := by
  rw [List.getElem?_modify, h]
  rfl

theorem getElem?_handOut_once {e : SyncEvent} {subscribers : List Nat} {cs : List Coordinator} {x : Nat}
    {c : Coordinator} (h : cs[x]? = some c) (once : subscribers.count x = 1) :
    (handOut e subscribers cs)[x]? = some (c.handleInbound e).2 := by
  rw [getElem?_handOut, h, once]
  rfl

theorem run_deliver (e : SyncEvent) (subscribers : List Nat) (s : Site) :
    (deliver e subscribers).run s =
      pure ((), { s with hub.coordinators := handOut e subscribers s.hub.coordinators }) := by
  induction subscribers generalizing s with
  | nil => rfl
  | cons i rest ih => simp only [deliver, StateT.run_bind, run_modifyCoordinator, pure_bind, ih]; rfl

theorem run_busPublish (e : SyncEvent) (s : Site) :
    (busPublish e).run s =
      if s.hub.bus.closed then pure (.error .closed, s)
      else pure (.ok (), { s with hub.coordinators := handOut e s.hub.bus.subscribers s.hub.coordinators }) := by
  unfold busPublish Bus.publish
  cases h : s.hub.bus.closed <;> simp [h, run_deliver]

theorem publish_of_skips {i : Nat} {e : SyncEvent} {s : Site}
    (skips : ∀ c, s.hub.coordinators[i]? = some c → c.skips = true) :
    (publish i e).run s = pure (.skipped, s) := by
  unfold publish
  cases h : s.hub.coordinators[i]? with
  | none => simp [run_coordinator?, h]
  | some c => simp [run_coordinator?, h, skips c h]

theorem publish_of_sends {i : Nat} {e : SyncEvent} {s : Site} {c : Coordinator}
    (h : s.hub.coordinators[i]? = some c) (sends : c.skips = false) :
    ∃ ledgerOk s', (publish i e).run s = pure (.delivered (!s.hub.bus.closed) ledgerOk, s') ∧
      s'.hub.bus = s.hub.bus ∧
      s'.hub.coordinators = (if s.hub.bus.closed then s.hub.coordinators
        else handOut e s.hub.bus.subscribers s.hub.coordinators).modify i
          (·.recordPublish (!s.hub.bus.closed) ledgerOk) := by
  unfold publish
  simp only [StateT.run_bind, run_coordinator?, h, sends, pure_bind, Bool.false_eq_true, if_false,
    run_busPublish]
  cases hb : s.hub.bus.closed with
  | false =>
    obtain ⟨r, s', hrun, hcs, hbus⟩ := ledgerOnly_ledgerAppend e
      { s with hub.coordinators := handOut e s.hub.bus.subscribers s.hub.coordinators }
    refine ⟨r.isOk, { s' with hub.coordinators := s'.hub.coordinators.modify i (·.recordPublish true r.isOk) },
      ?_, hbus, by simp [hcs]⟩
    simp only [if_false, Bool.false_eq_true, pure_bind, hrun, run_modifyCoordinator, Bool.not_false]
    cases r <;> rfl
  | true =>
    obtain ⟨r, s', hrun, hcs, hbus⟩ := ledgerOnly_ledgerAppend e s
    refine ⟨r.isOk, { s' with hub.coordinators := s'.hub.coordinators.modify i (·.recordPublish false r.isOk) },
      ?_, hbus, by simp [hcs]⟩
    simp only [if_true, pure_bind, hrun, run_modifyCoordinator, Bool.not_true]
    cases r <;> rfl

/-- A coordinator as `start` leaves it before subscribing: started and listening. -/
def listen (c : Coordinator) : Coordinator := { c with started := true, listening := true }

theorem start_of_none {i : Nat} {s : Site} (h : s.hub.coordinators[i]? = none) :
    (start i).run s = pure (.ok (), s) := by
  simp [start, run_coordinator?, h]

theorem start_of_refused {i : Nat} {s : Site} {c : Coordinator} (h : s.hub.coordinators[i]? = some c)
    (refused : c.config.enabled = false ∨ c.closed = true ∨ c.started = true) :
    ∃ r, (start i).run s = pure (r, s) := by
  rcases refused with off | closed | started
  · exact ⟨.ok (), by simp [start, run_coordinator?, h, off]⟩
  · by_cases off : c.config.enabled = false
    · exact ⟨.ok (), by simp [start, run_coordinator?, h, off]⟩
    · exact ⟨.error .closed, by simp [start, run_coordinator?, h, off, closed]⟩
  · by_cases off : c.config.enabled = false
    · exact ⟨.ok (), by simp [start, run_coordinator?, h, off]⟩
    · by_cases closed : c.closed = true
      · exact ⟨.error .closed, by simp [start, run_coordinator?, h, off, closed]⟩
      · exact ⟨.error .alreadyStarted, by simp [start, run_coordinator?, h, off, closed, started]⟩

theorem start_of_open {i : Nat} {s : Site} {c : Coordinator} (h : s.hub.coordinators[i]? = some c)
    (on : c.config.enabled = true) (fresh : c.closed = false ∧ c.started = false)
    (open_ : s.hub.bus.closed = false) :
    (start i).run s = pure (.ok (), { s with
      hub.coordinators := s.hub.coordinators.modify i listen
      hub.bus := { s.hub.bus with subscribers := s.hub.bus.subscribers ++ [i] } }) := by
  simp [start, run_coordinator?, run_modifyCoordinator, h, on, fresh, Bus.subscribe, open_, setBus]
  rfl

theorem start_of_closed_bus {i : Nat} {s : Site} {c : Coordinator} (h : s.hub.coordinators[i]? = some c)
    (on : c.config.enabled = true) (fresh : c.closed = false ∧ c.started = false)
    (closed : s.hub.bus.closed = true) :
    (start i).run s = pure (.error .closed, { s with
      hub.coordinators := (s.hub.coordinators.modify i listen).modify i fun c => { c with started := false } }) := by
  simp [start, run_coordinator?, run_modifyCoordinator, h, on, fresh, Bus.subscribe, closed]
  rfl

/-- A start that answers `ok` for an enabled coordinator found it neither closed nor started,
and the bus open. -/
theorem start_ok {i : Nat} {s : Site} {c : Coordinator} (h : s.hub.coordinators[i]? = some c)
    (on : c.config.enabled = true) (ok : (Id.run ((start i).run s)).1 = .ok ()) :
    c.closed = false ∧ c.started = false ∧ s.hub.bus.closed = false := by
  by_cases closed : c.closed = true
  · simp [start, run_coordinator?, h, on, closed] at ok
  by_cases started : c.started = true
  · simp [start, run_coordinator?, h, on, closed, started] at ok
  have fresh : c.closed = false ∧ c.started = false := by simp_all
  cases hb : s.hub.bus.closed with
  | false => exact ⟨fresh.1, fresh.2, rfl⟩
  | true => simp [start_of_closed_bus h on fresh hb] at ok

theorem handleInbound_of_some {i : Nat} {e : SyncEvent} {s : Site} {c : Coordinator}
    (h : s.hub.coordinators[i]? = some c) :
    (handleInbound i e).run s = pure ((c.handleInbound e).1,
      { s with hub.coordinators := s.hub.coordinators.modify i fun c => (c.handleInbound e).2 }) := by
  have same : (s.hub.coordinators.modify i fun _ => (c.handleInbound e).2) =
      s.hub.coordinators.modify i fun c => (c.handleInbound e).2 := by
    apply List.ext_getElem?
    intro j
    rw [List.getElem?_modify, List.getElem?_modify]
    by_cases hij : i = j
    · subst hij
      simp [h]
    · simp [hij]
  simp [handleInbound, run_coordinator?, run_modifyCoordinator, h, same]

theorem handleInbound_of_none {i : Nat} {e : SyncEvent} {s : Site} (h : s.hub.coordinators[i]? = none) :
    (handleInbound i e).run s = pure (false, s) := by
  simp [handleInbound, run_coordinator?, h]

/-- A coordinator as `close` leaves it: closed, and no longer listening. -/
def shut (c : Coordinator) : Coordinator := { c with closed := true, listening := false }

theorem close_of_closed {i : Nat} {s : Site} (h : ∀ c, s.hub.coordinators[i]? = some c → c.closed = true) :
    (close i).run s = pure ((), s) := by
  unfold close
  cases hc : s.hub.coordinators[i]? with
  | none => simp [run_coordinator?, hc]
  | some c => simp [run_coordinator?, hc, h c hc]

theorem close_of_open {i : Nat} {s : Site} {c : Coordinator} (h : s.hub.coordinators[i]? = some c)
    (open_ : c.closed = false) :
    ∃ s', (close i).run s = pure ((), s') ∧ s'.hub.coordinators = s.hub.coordinators.modify i shut ∧
      s'.hub.bus = s.hub.bus.close := by
  obtain ⟨r, s', hrun, hcs, hbus⟩ := ledgerOnly_ledgerClose
    { s with hub.coordinators := s.hub.coordinators.modify i shut, hub.bus := s.hub.bus.close }
  refine ⟨s', ?_, hcs, hbus⟩
  simp only [close, StateT.run_bind, run_coordinator?, h, open_, pure_bind, Bool.false_eq_true, if_false,
    run_modifyCoordinator]
  exact hrun

end Site

/-! ## Sessions -/

/-- A step of a sync session: a server starts its coordinator listening, publishes an event,
hands an event to its coordinator directly, marks it degraded, or closes it. -/
inductive SyncStep where
  | start (i : Nat)
  | publish (i : Nat) (e : SyncEvent)
  | handleInbound (i : Nat) (e : SyncEvent)
  | markDegraded (i : Nat)
  | close (i : Nat)

/-- What a step answers. -/
inductive SyncAnswer where
  | started (r : Except SyncError Unit)
  | published (o : PublishOutcome)
  | handled (dispatched : Bool)
  | done

namespace SyncStep

/-- The step as an operation of the site. -/
def op : SyncStep → StateM Site SyncAnswer
  | .start i => .started <$> Site.start i
  | .publish i e => .published <$> Site.publish i e
  | .handleInbound i e => .handled <$> Site.handleInbound i e
  | .markDegraded i => do Site.modifyCoordinator i Coordinator.markDegraded; pure .done
  | .close i => do Site.close i; pure .done

/-- Runs a step on a site: its answer and the site it leaves. -/
def run (st : SyncStep) (s : Site) : SyncAnswer × Site := Id.run (st.op.run s)

/-- Runs steps in order: their answers and the site they leave. -/
def runAll : List SyncStep → Site → List SyncAnswer × Site
  | [], s => ([], s)
  | st :: steps, s =>
    let first := st.run s
    let rest := runAll steps first.2
    (first.1 :: rest.1, rest.2)

/-- The event a step, given its answer, hands to the handler of the coordinator at `x`, whose
server id is `id`: an event published while the bus accepted it, unless its origin is `id`;
or an event handed to `x` directly that `x` dispatched. -/
def handed (x : Nat) (id : String) : SyncStep → SyncAnswer → Option SyncEvent
  | .publish _ e, .published (.delivered true _) => if e.origin = id then none else some e
  | .handleInbound i e, .handled true => if i = x then some e else none
  | _, _ => none

/-- The echoes of its own events that a step, given its answer, brings the coordinator at `x`
of server `id`: one published while the bus accepted it, or one handed to `x` directly. -/
def echoes (x : Nat) (id : String) : SyncStep → SyncAnswer → Nat
  | .publish _ e, .published (.delivered true _) => if e.origin = id then 1 else 0
  | .handleInbound i e, _ => if i = x ∧ e.origin = id then 1 else 0
  | _, _ => 0

theorem run_map_op {α : Type} (f : α → SyncAnswer) {m : StateM Site α} {s s' : Site} {a : α}
    (h : m.run s = pure (a, s')) : Id.run ((f <$> m).run s) = (f a, s') := by
  simp [h]

/-- What a start can do: nothing; or, to an enabled coordinator neither closed nor started,
make it listen and subscribe it to the open bus, or on a closed bus leave it listening but not
started. -/
theorem run_start_cases (i : Nat) (s : Site) :
    (∃ r, (start i).run s = (.started r, s)) ∨
    ∃ c, s.hub.coordinators[i]? = some c ∧ c.config.enabled = true ∧ c.closed = false ∧ c.started = false ∧
      ((s.hub.bus.closed = false ∧ (start i).run s = (.started (.ok ()), { s with
          hub.coordinators := s.hub.coordinators.modify i Site.listen
          hub.bus := { s.hub.bus with subscribers := s.hub.bus.subscribers ++ [i] } })) ∨
       (s.hub.bus.closed = true ∧ (start i).run s = (.started (.error .closed), { s with
          hub.coordinators := (s.hub.coordinators.modify i Site.listen).modify i
            fun c => { c with started := false } }))) := by
  cases hi : s.hub.coordinators[i]? with
  | none => exact .inl ⟨_, run_map_op _ (Site.start_of_none hi)⟩
  | some c =>
    by_cases refused : c.config.enabled = false ∨ c.closed = true ∨ c.started = true
    · obtain ⟨r, hr⟩ := Site.start_of_refused hi refused
      exact .inl ⟨r, run_map_op _ hr⟩
    · have on : c.config.enabled = true := by simpa using (not_or.mp refused).1
      have fresh : c.closed = false ∧ c.started = false := by
        simpa using (not_or.mp (not_or.mp refused).2)
      refine .inr ⟨c, rfl, on, fresh.1, fresh.2, ?_⟩
      cases hb : s.hub.bus.closed with
      | false => exact .inl ⟨rfl, run_map_op _ (Site.start_of_open hi on fresh hb)⟩
      | true => exact .inr ⟨rfl, run_map_op _ (Site.start_of_closed_bus hi on fresh hb)⟩

/-- What a publish can do: skip; or hand the event to every subscriber when the bus is open,
and count the attempt. -/
theorem run_publish_cases (i : Nat) (e : SyncEvent) (s : Site) :
    (publish i e).run s = (.published .skipped, s) ∨
    ∃ ledgerOk s', (publish i e).run s = (.published (.delivered (!s.hub.bus.closed) ledgerOk), s') ∧
      s'.hub.bus = s.hub.bus ∧
      s'.hub.coordinators = (if s.hub.bus.closed then s.hub.coordinators
        else Site.handOut e s.hub.bus.subscribers s.hub.coordinators).modify i
          (·.recordPublish (!s.hub.bus.closed) ledgerOk) := by
  cases hi : s.hub.coordinators[i]? with
  | none => exact .inl (run_map_op _ (Site.publish_of_skips (by simp [hi])))
  | some c =>
    cases hs : c.skips with
    | true => exact .inl (run_map_op _ (Site.publish_of_skips (by simp [hi, hs])))
    | false =>
      obtain ⟨ledgerOk, s', hr, hbus, hcs⟩ := Site.publish_of_sends (e := e) hi hs
      exact .inr ⟨ledgerOk, s', run_map_op _ hr, hbus, hcs⟩

/-- What a direct hand-in can do: nothing, when there is no such coordinator; or let that
coordinator handle the event. -/
theorem run_handleInbound_cases (i : Nat) (e : SyncEvent) (s : Site) :
    (s.hub.coordinators[i]? = none ∧ (handleInbound i e).run s = (.handled false, s)) ∨
    ∃ c, s.hub.coordinators[i]? = some c ∧ (handleInbound i e).run s = (.handled (c.handleInbound e).1,
      { s with hub.coordinators := s.hub.coordinators.modify i fun c => (c.handleInbound e).2 }) := by
  cases hi : s.hub.coordinators[i]? with
  | none => exact .inl ⟨rfl, run_map_op _ (Site.handleInbound_of_none hi)⟩
  | some c => exact .inr ⟨c, rfl, run_map_op _ (Site.handleInbound_of_some hi)⟩

theorem run_markDegraded (i : Nat) (s : Site) :
    (markDegraded i).run s =
      (.done, { s with hub.coordinators := s.hub.coordinators.modify i Coordinator.markDegraded }) := rfl

/-- What a close can do: nothing, for a coordinator already closed or missing; or shut the
coordinator and close the shared bus. -/
theorem run_close_cases (i : Nat) (s : Site) :
    (close i).run s = (.done, s) ∨
    ∃ s', (close i).run s = (.done, s') ∧ s'.hub.coordinators = s.hub.coordinators.modify i Site.shut ∧
      s'.hub.bus = s.hub.bus.close := by
  cases hi : s.hub.coordinators[i]? with
  | none =>
    have hr := Site.close_of_closed (i := i) (s := s) (by simp [hi])
    exact .inl (by simp [run, op, hr])
  | some c =>
    cases hc : c.closed with
    | true =>
      have hr := Site.close_of_closed (i := i) (s := s) (by simp [hi, hc])
      exact .inl (by simp [run, op, hr])
    | false =>
      obtain ⟨s', hr, hcs, hbus⟩ := Site.close_of_open hi hc
      exact .inr ⟨s', by simp [run, op, hr], hcs, hbus⟩

end SyncStep

end CrateState
