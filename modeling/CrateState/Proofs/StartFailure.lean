import CrateState.Proofs.SyncSteps

/-!
# Failed starts

A start answers with an error in two ways. It refuses a closed or started coordinator before
touching anything; or it installs the handler, marks the coordinator started and asks the bus
for a subscription, and a closed bus refuses. The second way takes back only the started mark:
the handler stays installed, so the coordinator now hands other servers' events to its
observation cache where before the start it may have dropped them.

The main result is `failed_start_keeps_all_but_handler`; `failed_start_installs_handler` runs
a session where the installed handler shows.
-/

namespace CrateState

namespace Site

theorem modify_listen_unstart {cs : List Coordinator} {i : Nat} {c : Coordinator}
    (h : cs[i]? = some c) (fresh : c.started = false) :
    (cs.modify i listen).modify i (fun c => { c with started := false }) =
      cs.set i { c with listening := true } := by
  rw [List.modify_modify_eq, List.modify_eq_set_getElem?, h]
  cases c
  subst fresh
  rfl

/-- A start that answers with an error either changes nothing, or was refused the subscription
by a closed bus: then it leaves only the handler installed at an enabled coordinator neither
closed nor started. -/
theorem start_error_cases {i : Nat} {s s' : Site} {e : SyncError}
    (h : (start i).run s = pure (.error e, s')) :
    s' = s ∨
    ∃ c, s.hub.coordinators[i]? = some c ∧ c.config.enabled = true ∧ c.closed = false ∧
      c.started = false ∧ s.hub.bus.closed = true ∧ e = .closed ∧
      s' = { s with hub.coordinators := s.hub.coordinators.set i { c with listening := true } } := by
  have hrun : SyncStep.run (.start i) s = (.started (.error e), s') := SyncStep.run_map_op _ h
  rcases SyncStep.run_start_cases i s with ⟨r, hr⟩ | ⟨c, hi, on, closed, fresh, ⟨-, hr⟩ | ⟨hb, hr⟩⟩
  · rw [hr] at hrun
    cases hrun
    exact .inl rfl
  · rw [hr] at hrun
    cases hrun
  · rw [hr, modify_listen_unstart hi fresh] at hrun
    cases hrun
    exact .inr ⟨c, hi, on, closed, fresh, hb, rfl, rfl⟩

end Site

/-- What a start at `i` that answered the error `e` leaves of `s`: the bus and every started
mark as they were, and either nothing changed, or, the subscription refused by a closed bus,
the handler installed: the coordinator now dispatches every event of another server, and a
start on an open bus in its place subscribes it. -/
structure Site.FailedStart (i : Nat) (s : Site) (e : SyncError) (s' : Site) : Prop where
  bus : s'.hub.bus = s.hub.bus
  started : s'.hub.coordinators.map (·.started) = s.hub.coordinators.map (·.started)
  handler : s' = s ∨
    ∃ c, s.hub.coordinators[i]? = some c ∧ s.hub.bus.closed = true ∧ e = .closed ∧
      s' = { s with hub.coordinators := s.hub.coordinators.set i { c with listening := true } } ∧
      (∀ ev, (Id.run ((Site.handleInbound i ev).run s')).1 = true ↔ ev.origin ≠ c.config.serverId) ∧
      ∀ b : Bus, b.closed = false →
        (Site.start i).run { s' with hub.bus := b } = pure (.ok (), { s' with
          hub.coordinators := s'.hub.coordinators.modify i Site.listen
          hub.bus := { b with subscribers := b.subscribers ++ [i] } })

/-- **A failed start keeps all but the handler.** A start that answers with an error leaves
the bus and every started mark; refused a subscription by a closed bus, it leaves the handler
installed. -/
theorem failed_start_keeps_all_but_handler {i : Nat} {s s' : Site} {e : SyncError}
    (h : (Site.start i).run s = pure (.error e, s')) : Site.FailedStart i s e s' := by
  rcases Site.start_error_cases h with rfl | ⟨c, hi, on, closed, fresh, hb, rfl, rfl⟩
  · exact ⟨rfl, rfl, .inl rfl⟩
  · have hlen : i < s.hub.coordinators.length := (List.getElem?_eq_some_iff.mp hi).1
    have hi' : (s.hub.coordinators.set i { c with listening := true })[i]? =
        some { c with listening := true } := by
      simp [hlen]
    have started : (s.hub.coordinators.set i { c with listening := true }).map (·.started) =
        s.hub.coordinators.map (·.started) := by
      apply List.ext_getElem?
      intro j
      by_cases hij : i = j
      · subst hij
        rw [List.getElem?_map, List.getElem?_map, List.getElem?_set_self hlen, hi]
        rfl
      · simp [hij]
    refine ⟨rfl, started, .inr ⟨c, hi, hb, rfl, rfl, fun ev => ?_, fun b open_ => ?_⟩⟩
    · rw [Site.handleInbound_of_some hi', Id.run_pure, Coordinator.handleInbound_fst]
      simp
    · exact Site.start_of_open hi' on ⟨closed, fresh⟩ open_

theorem failed_start_keeps_all_but_handler_on_closed_bus :
    let s : Site := { hub := { coordinators := [{ config := { enabled := true, serverId := "b" } }],
                               bus := { closed := true } } }
    let s' := (Id.run ((Site.start 0).run s)).2
    (Site.start 0).run s = pure (.error .closed, s') ∧ Site.FailedStart 0 s .closed s' := by
  intro s s'
  have h : (Site.start 0).run s = pure (.error .closed, s') := rfl
  exact ⟨h, failed_start_keeps_all_but_handler h⟩

/-- A failed start changes what the coordinator dispatches: after `a` closes the shared bus,
`b` drops another server's event, fails to start, and then dispatches the same event. -/
theorem failed_start_installs_handler :
    let cfg := fun (id : String) => ({ config := { enabled := true, serverId := id } } : Coordinator)
    let s : Site := { hub := { coordinators := [cfg "a", cfg "b"] } }
    let e : SyncEvent :=
      { kind := .cooldownSet, origin := "z", player := PlayerId.nil, crate := "vote", time := 1000 }
    (SyncStep.runAll [.close 0, .handleInbound 1 e, .start 1, .handleInbound 1 e] s).1 =
      [.done, .handled false, .started (.error .closed), .handled true] := by
  rfl

end CrateState
