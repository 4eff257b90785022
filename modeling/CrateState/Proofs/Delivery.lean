import CrateState.Proofs.SyncSteps

/-!
# Delivery on the shared bus

Coordinators share one bus. A publish the bus accepts hands the event at once to every
subscriber, in subscription order, the publisher included; a coordinator drops echoes of
its own server's events and applies the others to its cache while it listens.

Two invariants carry the proof. `SubscribesStarted`: a coordinator is on the bus's list
only once started, kept by every step (`subscribesStarted_run`). `Listening`: once started,
while the bus is open, a coordinator listens and is on the list exactly once; every step
keeps it and hands the handler exactly the events `SyncStep.handed` reads off the step and
its answer (`listening_run`). A successful start of an enabled coordinator creates
`Listening`, since the first invariant kept it off the list until then.

The main result is `handler_receives_accepted_events`; a direct hand-in and a disabled
coordinator's start are the ways around it (`hand_in_reaches_and_disabled_start_misses`).
-/

namespace CrateState

/-! ## Who is subscribed -/

/-- The coordinator at `x` is on the bus's list only once it has started. -/
def SubscribesStarted (x : Nat) (s : Site) : Prop :=
  x ∈ s.hub.bus.subscribers → s.hub.coordinators[x]?.map (·.started) = some true

namespace SyncStep

/-- No step puts a coordinator on the bus's list without starting it: a start subscribes only
the coordinator it starts, and a refused subscription adds no one. -/
theorem subscribesStarted_run (st : SyncStep) {x : Nat} {s : Site} (h : SubscribesStarted x s) :
    SubscribesStarted x (st.run s).2 := by
  cases st with
  | start i =>
    rcases run_start_cases i s with ⟨r, hr⟩ | ⟨c, hi, -, -, fresh, ⟨-, hr⟩ | ⟨-, hr⟩⟩
    · rw [hr]
      exact h
    · rw [hr]
      intro hx
      by_cases hix : i = x
      · subst hix
        simp [hi, Site.listen]
      · rw [List.getElem?_modify_ne _ _ hix]
        exact h (by simpa [Ne.symm hix] using hx)
    · rw [hr]
      intro hx
      -- a refused subscription only happens to a coordinator that had not started, so not to `x`
      have hix : i ≠ x := by
        rintro rfl
        simpa [hi, fresh] using h hx
      rw [List.getElem?_modify_ne _ _ hix, List.getElem?_modify_ne _ _ hix]
      exact h hx
  | publish i e =>
    rcases run_publish_cases i e s with hr | ⟨ledgerOk, s', hr, hbus, hcs⟩
    · rw [hr]
      exact h
    · rw [hr]
      intro hx
      rw [hbus] at hx
      rw [hcs, Site.map_started_modify (Coordinator.started_recordPublish · _ _)]
      split
      · exact h hx
      · rw [Site.map_started_handOut]
        exact h hx
  | handleInbound i e =>
    rcases run_handleInbound_cases i e s with ⟨-, hr⟩ | ⟨c, -, hr⟩
    · rw [hr]
      exact h
    · rw [hr]
      intro hx
      rw [Site.map_started_modify (fun c => Coordinator.started_handleInbound c e)]
      exact h hx
  | markDegraded i =>
    rw [run_markDegraded]
    intro hx
    dsimp only at hx ⊢
    rw [Site.map_started_modify Coordinator.started_markDegraded]
    exact h hx
  | close i =>
    rcases run_close_cases i s with hr | ⟨s', hr, hcs, hbus⟩
    · rw [hr]
      exact h
    · rw [hr]
      intro hx
      rw [hbus] at hx
      simp [Bus.close] at hx

theorem subscribesStarted_runAll (steps : List SyncStep) {x : Nat} {s : Site} (h : SubscribesStarted x s) :
    SubscribesStarted x (runAll steps s).2 := by
  induction steps generalizing s with
  | nil => exact h
  | cons st steps ih => exact ih (subscribesStarted_run st h)

end SyncStep

/-! ## Delivery to a started coordinator -/

/-- The coordinator at `x` is `c` and has started; while the bus is open, it listens and is on
the bus's list exactly once. -/
structure Listening (x : Nat) (c : Coordinator) (s : Site) : Prop where
  found : s.hub.coordinators[x]? = some c
  started : c.started = true
  subscribed : s.hub.bus.closed = false → c.listening = true ∧ s.hub.bus.subscribers.count x = 1

/-- A step that changes only the coordinator at `i`, in a way that keeps whether it started and
whether it listens, keeps the coordinator at `x` listening. -/
theorem Listening.of_modify {x : Nat} {c : Coordinator} {s s' : Site} (h : Listening x c s)
    {f : Coordinator → Coordinator} {i : Nat} (hcs : s'.hub.coordinators = s.hub.coordinators.modify i f)
    (hbus : s'.hub.bus = s.hub.bus) (keeps : ∀ c, (f c).started = c.started ∧ (f c).listening = c.listening) :
    Listening x (if i = x then f c else c) s' where
  found := by rw [hcs, Site.getElem?_modify_of_some h.found]
  started := by split <;> simp [(keeps c).1, h.started]
  subscribed := by
    rw [hbus]
    intro open_
    obtain ⟨hl, once⟩ := h.subscribed open_
    exact ⟨by split <;> simp [(keeps c).2, hl], once⟩

/-- Handing an event to the subscribers of an open bus handles it once at the coordinator at
`x`, which goes on listening. -/
theorem Listening.handOut {x : Nat} {c : Coordinator} {s : Site} (h : Listening x c s) (e : SyncEvent)
    (open_ : s.hub.bus.closed = false) :
    Listening x (c.handleInbound e).2
      { s with hub.coordinators := Site.handOut e s.hub.bus.subscribers s.hub.coordinators } where
  found := Site.getElem?_handOut_once h.found (h.subscribed open_).2
  started := by simp [h.started]
  subscribed := fun _ => by simpa using h.subscribed open_

namespace SyncStep

/-- One step from a site where the coordinator at `x` listens: it still listens after it, and
its handler got exactly what the step hands it. -/
theorem listening_run (st : SyncStep) {x : Nat} {c : Coordinator} {s : Site} (h : Listening x c s) :
    ∃ c', Listening x c' (st.run s).2 ∧
      Coordinator.Received (st.handed x c.config.serverId (st.run s).1).toList
        (st.echoes x c.config.serverId (st.run s).1) c c' := by
  cases st with
  | start i =>
    rcases run_start_cases i s with ⟨r, hr⟩ | ⟨ci, hi, -, -, fresh, ⟨hb, hr⟩ | ⟨hb, hr⟩⟩
    · rw [hr]
      exact ⟨c, h, by simpa [handed, echoes] using .refl c⟩
    all_goals
      -- only a coordinator that has not started is started again, so not `x`
      have hix : i ≠ x := by
        rintro rfl
        rw [h.found] at hi
        cases hi
        simp [h.started] at fresh
      rw [hr]
      refine ⟨c, ⟨?_, h.started, ?_⟩, by simpa [handed, echoes] using .refl c⟩
    · simpa [List.getElem?_modify_ne _ _ hix] using h.found
    · intro open_
      obtain ⟨hl, once⟩ := h.subscribed open_
      simp [hl, once, hix]
    · simpa [List.getElem?_modify_ne _ _ hix] using h.found
    · exact h.subscribed
  | publish i e =>
    rcases run_publish_cases i e s with hr | ⟨ledgerOk, s', hr, hbus, hcs⟩
    · rw [hr]
      exact ⟨c, h, by simpa [handed, echoes] using .refl c⟩
    · rw [hr]
      cases hb : s.hub.bus.closed with
      | true =>
        -- a closed bus hands the event to no one
        have counted : s'.hub.coordinators = s.hub.coordinators.modify i (·.recordPublish false ledgerOk) := by
          simpa [hb] using hcs
        refine ⟨_, h.of_modify counted hbus fun c => ⟨rfl, rfl⟩, ?_⟩
        simpa [handed, echoes] using Coordinator.Received.ite (Coordinator.received_recordPublish c _ _) _
      | false =>
        have mid := h.handOut e hb
        have counted : s'.hub.coordinators =
            (Site.handOut e s.hub.bus.subscribers s.hub.coordinators).modify i (·.recordPublish true ledgerOk) := by
          simpa [hb] using hcs
        refine ⟨_, mid.of_modify counted hbus fun c => ⟨rfl, rfl⟩, ?_⟩
        have handled := Coordinator.received_handleInbound c e
        have quiet := Coordinator.Received.ite
          (Coordinator.received_recordPublish (c.handleInbound e).2 true ledgerOk) (i = x)
        have whole := handled.trans quiet
        rw [List.append_nil, Nat.add_zero, Coordinator.dispatched_of_listening e (h.subscribed hb).1] at whole
        simpa [handed, echoes] using whole
  | handleInbound i e =>
    rcases run_handleInbound_cases i e s with ⟨hi, hr⟩ | ⟨ci, hi, hr⟩
    · have hix : i ≠ x := by
        rintro rfl
        rw [h.found] at hi
        cases hi
      rw [hr]
      exact ⟨c, h, by simpa [handed, echoes, hix] using .refl c⟩
    · rw [hr]
      have keeps : ∀ c : Coordinator, (c.handleInbound e).2.started = c.started ∧
          (c.handleInbound e).2.listening = c.listening := fun c => by simp
      refine ⟨_, h.of_modify (i := i) rfl rfl keeps, ?_⟩
      by_cases hix : i = x
      · -- handed to `x` itself: what it dispatched reaches its handler
        subst hix
        rw [h.found] at hi
        cases hi
        have handled := Coordinator.received_handleInbound c e
        cases hd : (c.handleInbound e).1 <;> simpa [handed, echoes, hd] using handled
      · cases (ci.handleInbound e).1 <;> simpa [handed, echoes, hix] using .refl c
  | markDegraded i =>
    rw [run_markDegraded]
    refine ⟨_, h.of_modify (i := i) (f := Coordinator.markDegraded) rfl rfl fun c => ⟨rfl, rfl⟩, ?_⟩
    simpa [handed, echoes] using Coordinator.Received.ite (Coordinator.received_markDegraded c) _
  | close i =>
    rcases run_close_cases i s with hr | ⟨s', hr, hcs, hbus⟩
    · rw [hr]
      exact ⟨c, h, by simpa [handed, echoes] using .refl c⟩
    · rw [hr]
      -- the bus is closed now, so nothing more is asked of `x`
      refine ⟨if i = x then Site.shut c else c, ⟨?_, by split <;> simp [h.started, Site.shut], ?_⟩, ?_⟩
      · simp [hcs, Site.getElem?_modify_of_some h.found]
      · simp [hbus, Bus.close]
      · simpa [handed, echoes] using Coordinator.Received.ite (.quiet rfl rfl rfl rfl rfl : Coordinator.Received [] 0 c (Site.shut c)) _

/-- A run from a site where the coordinator at `x` listens: its handler gets, in order, the
events the steps hand it, and it counts the echoes they bring. -/
theorem listening_runAll (steps : List SyncStep) {x : Nat} {c : Coordinator} {s : Site}
    (h : Listening x c s) :
    ∃ c', Listening x c' (runAll steps s).2 ∧
      Coordinator.Received ((steps.zip (runAll steps s).1).filterMap fun p => p.1.handed x c.config.serverId p.2)
        ((steps.zip (runAll steps s).1).map fun p => p.1.echoes x c.config.serverId p.2).sum c c' := by
  induction steps generalizing s c with
  | nil => exact ⟨c, h, .refl c⟩
  | cons st steps ih =>
    obtain ⟨c₁, h₁, first⟩ := listening_run st h
    obtain ⟨c₂, h₂, rest⟩ := ih h₁
    rw [first.config] at rest
    refine ⟨c₂, h₂, ?_⟩
    have whole := first.trans rest
    simp only [runAll, List.zip_cons_cons, List.filterMap_cons, List.map_cons, List.sum_cons]
    cases hh : st.handed x c.config.serverId (st.run s).1 <;> simpa [hh] using whole

end SyncStep

theorem listening_of_start {s : Site} {x : Nat} {c : Coordinator} (sub : SubscribesStarted x s)
    (found : s.hub.coordinators[x]? = some c) (on : c.config.enabled = true)
    (ok : ((SyncStep.start x).run s).1 = .started (.ok ())) :
    Listening x (Site.listen c) ((SyncStep.start x).run s).2 := by
  have ok' : (Id.run ((Site.start x).run s)).1 = .ok () := by
    simpa [SyncStep.run, SyncStep.op] using ok
  obtain ⟨closed, fresh, open_⟩ := Site.start_ok found on ok'
  -- not started yet, so not on the bus's list yet
  have absent : x ∉ s.hub.bus.subscribers := fun hx => by simpa [found, fresh] using sub hx
  have hr : (SyncStep.start x).run s = (.started (.ok ()), _) :=
    SyncStep.run_map_op _ (Site.start_of_open found on ⟨closed, fresh⟩ open_)
  rw [hr]
  refine ⟨by simp [found], rfl, fun _ => ⟨rfl, ?_⟩⟩
  simp [List.count_eq_zero_of_not_mem absent]

/-- Delivery on the shared bus. Take a site where a coordinator is on the bus's list only once
it has started (every site whose bus is fresh), run any steps, and let the coordinator at `x`,
enabled, start with answer `ok`; then run any further steps. Over those, whether or not any
coordinator is or becomes degraded, the handler of `x` is called exactly with the events
some coordinator published while the bus accepted them and whose origin is not the server of
`x`, and the events handed to `x` directly that it dispatched: each once, in step order, so
its log of calls grows by exactly that sequence, and its observation cache is that sequence
applied. And `x` counts as echoes exactly the accepted publishes and direct hand-ins of events
of its own origin. -/
theorem handler_receives_accepted_events (s : Site) (x : Nat) (subscribed : SubscribesStarted x s)
    (pre post : List SyncStep) (c : Coordinator)
    (found : (SyncStep.runAll pre s).2.hub.coordinators[x]? = some c) (on : c.config.enabled = true)
    (started : ((SyncStep.start x).run (SyncStep.runAll pre s).2).1 = .started (.ok ())) :
    let after := SyncStep.runAll post ((SyncStep.start x).run (SyncStep.runAll pre s).2).2
    let trace := post.zip after.1
    let handed := trace.filterMap fun p => p.1.handed x c.config.serverId p.2
    ∃ c', after.2.hub.coordinators[x]? = some c' ∧
      c'.handled = c.handled ++ handed ∧
      c'.cache = c.cache.applyAll handed ∧
      c'.counters.inboundApplied = c.counters.inboundApplied + handed.length ∧
      c'.counters.echoesSuppressed = c.counters.echoesSuppressed +
        (trace.map fun p => p.1.echoes x c.config.serverId p.2).sum := by
  intro after trace handed
  have live := listening_of_start (SyncStep.subscribesStarted_runAll pre subscribed) found on started
  obtain ⟨c', hc', received⟩ := SyncStep.listening_runAll post live
  -- starting touches neither the cache nor the counters
  have whole := (.quiet rfl rfl rfl rfl rfl : Coordinator.Received [] 0 c (Site.listen c)).trans received
  rw [List.nil_append, Nat.zero_add] at whole
  exact ⟨c', hc'.found, whole.handled, whole.cache, whole.applied, whole.echoes⟩

/-- At two servers: `b` starts; then `a` publishes an event of its own, `b` publishes one of
`b`'s origin, `b` is marked degraded and an event is handed to `b` directly. -/
theorem handler_receives_accepted_events_from_peer :
    let a : Coordinator := { config := { enabled := true, serverId := "a" } }
    let b : Coordinator := { config := { enabled := true, serverId := "b" } }
    let s : Site := { hub := { coordinators := [a, b] } }
    let e : SyncEvent :=
      { kind := .cooldownSet, origin := "a", player := PlayerId.nil, crate := "vote", time := 1000 }
    let post := [SyncStep.publish 0 e, .publish 1 { e with origin := "b" }, .markDegraded 1,
      .handleInbound 1 { e with origin := "z", time := 2000 }]
    SubscribesStarted 1 s ∧ (SyncStep.runAll [] s).2.hub.coordinators[1]? = some b ∧ b.config.enabled = true ∧
      ((SyncStep.start 1).run (SyncStep.runAll [] s).2).1 = .started (.ok ()) ∧
      let after := SyncStep.runAll post ((SyncStep.start 1).run (SyncStep.runAll [] s).2).2
      let trace := post.zip after.1
      let handed := trace.filterMap fun p => p.1.handed 1 b.config.serverId p.2
      ∃ c', after.2.hub.coordinators[1]? = some c' ∧
        c'.handled = b.handled ++ handed ∧
        c'.cache = b.cache.applyAll handed ∧
        c'.counters.inboundApplied = b.counters.inboundApplied + handed.length ∧
        c'.counters.echoesSuppressed = b.counters.echoesSuppressed +
          (trace.map fun p => p.1.echoes 1 b.config.serverId p.2).sum := by
  intro a b s e post
  have subscribed : SubscribesStarted 1 s := fun h => absurd h List.not_mem_nil
  have started : ((SyncStep.start 1).run (SyncStep.runAll [] s).2).1 = .started (.ok ()) := rfl
  exact ⟨subscribed, rfl, rfl, started,
    handler_receives_accepted_events s 1 subscribed [] post b rfl rfl started⟩

/-- Two ways the handler of a started coordinator is not called exactly for the accepted
publishes of other servers' events: a direct hand-in reaches the handler of `b` though nothing
was published, and `c`, disabled, answers its start with `ok` but subscribes nothing, so the
accepted publish never reaches it. -/
theorem hand_in_reaches_and_disabled_start_misses :
    let cfg := fun (id : String) (on : Bool) => ({ config := { enabled := on, serverId := id } } : Coordinator)
    let s : Site := { hub := { coordinators := [cfg "a" true, cfg "b" true, cfg "c" false] } }
    let e : SyncEvent :=
      { kind := .cooldownSet, origin := "a", player := PlayerId.nil, crate := "vote", time := 1000 }
    let run := SyncStep.runAll [.start 1, .start 2, .publish 0 e,
      .handleInbound 1 { e with kind := .keyConsumed, origin := "z", time := 2000 }] s
    run.1 = [.started (.ok ()), .started (.ok ()), .published (.delivered true true), .handled true] ∧
      run.2.hub.coordinators.map (·.counters.inboundApplied) = [0, 2, 0] := by
  exact ⟨rfl, rfl⟩

end CrateState
