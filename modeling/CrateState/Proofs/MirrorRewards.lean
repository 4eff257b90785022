import CrateState.Proofs.Mirror

/-!
# Waiting rewards on both stores

The in-memory store keeps each player's waiting rewards in a list, oldest first; the tables
keep one row per reward, for every player, in id order. `Mirrors` relates them per player:
a player's rewards are that player's rows, field by field (`PendingReward.row`,
`PendingRow.view`).

Reading and queueing follow the filter and the append through the correspondence. Marking
delivered is the one with an argument: the in-memory store flips the first waiting match in
the player's list (`markFirst`), the tables find the first matching row among all and flip
every waiting row under its id. The ids being distinct, that flips exactly the row mirroring
the reward `markFirst` flips (`markFirst_of_rows`), and nothing of another player's.
-/

namespace CrateState

open Relational

/-! ### Waiting rewards and their rows -/

namespace Stored

/-- A row as `markRow id` leaves it: delivered if it waits under that id. -/
def flip (id : Int) (row : PendingRow) : PendingRow :=
  if waitingWith id row then { row with status := "DELIVERED" } else row

@[simp] theorem flip_player (id : Int) (row : PendingRow) : (flip id row).player = row.player := by
  unfold flip; split <;> rfl

@[simp] theorem flip_id (id : Int) (row : PendingRow) : (flip id row).id = row.id := by
  unfold flip; split <;> rfl

theorem flip_of_ne {id : Int} {row : PendingRow} (h : row.id ≠ id) : flip id row = row := by
  simp [flip, waitingWith, h]

theorem filter_player_flip (id : Int) (rows : List PendingRow) (q : String) :
    (rows.map (flip id)).filter (fun row => row.player = q) =
      (rows.filter fun row => row.player = q).map (flip id) := by
  rw [List.filter_map]
  congr 1
  apply List.filter_congr
  intro row _
  simp

end Stored

theorem PendingReward.waits_iff {x : PendingReward} {y : PendingRow} (h : x.row = y.view) :
    (y.status == "PENDING") = decide (x.status = .pending) := by
  simp only [PendingReward.row, PendingRow.view, Prod.mk.injEq] at h
  rw [← h.2.2.1]
  cases x.status <;> rfl

theorem filter_pending_of_rows : ∀ {xs : List PendingReward} {ys : List PendingRow},
    xs.map PendingReward.row = ys.map PendingRow.view →
    xs.filter (·.status = .pending) = (ys.filter (·.status == "PENDING")).map PendingRow.reward?
  | [], [], _ => rfl
  | [], _ :: _, h => by simp at h
  | _ :: _, [], h => by simp at h
  | x :: xs, y :: ys, h => by
    simp only [List.map_cons, List.cons.injEq] at h
    obtain ⟨same, rest⟩ := h
    rw [List.filter_cons, List.filter_cons, PendingReward.waits_iff same]
    by_cases hx : x.status = .pending
    · simp [hx, filter_pending_of_rows rest, PendingRow.reward?_of_view same.symm]
    · simp [hx, filter_pending_of_rows rest]

theorem PendingReward.matching_iff {x : PendingReward} {y : PendingRow} (h : x.row = y.view)
    {p : String} (hp : y.player = p) (c r : String) :
    Stored.matching p c r y = decide (x.status = .pending ∧ x.crate = c ∧ x.reward = r) := by
  have waits := PendingReward.waits_iff h
  simp only [PendingReward.row, PendingRow.view, Prod.mk.injEq] at h
  obtain ⟨hc, hr, -, -⟩ := h
  simp only [Stored.matching, hp, ← hc, ← hr, waits]
  by_cases hs : x.status = .pending <;> simp [hs, beq_eq_decide]

theorem markFirst_none_of_rows {p c r : String} : ∀ {xs : List PendingReward} {ys : List PendingRow},
    xs.map PendingReward.row = ys.map PendingRow.view → (∀ y ∈ ys, y.player = p) →
    ys.find? (Stored.matching p c r) = none → markFirst c r xs = none
  | [], _, _, _, _ => rfl
  | _ :: _, [], h, _, _ => by simp at h
  | x :: xs, y :: ys, h, mine, hf => by
    simp only [List.map_cons, List.cons.injEq] at h
    obtain ⟨same, rest⟩ := h
    have hy := PendingReward.matching_iff same (mine y List.mem_cons_self) c r
    cases hm : Stored.matching p c r y with
    | true => simp [hm] at hf
    | false =>
      rw [hm, eq_comm, decide_eq_false_iff_not] at hy
      simp only [List.find?_cons, hm] at hf
      simp only [markFirst, if_neg hy, markFirst_none_of_rows rest
        (fun z hz => mine z (List.mem_cons_of_mem _ hz)) hf, Option.map_none]

theorem PendingReward.row_delivered {x : PendingReward} {y : PendingRow} (h : x.row = y.view) :
    { x with status := .delivered }.row = { y with status := "DELIVERED" }.view := by
  simp only [PendingReward.row, PendingRow.view, Prod.mk.injEq] at h ⊢
  exact ⟨h.1, h.2.1, rfl, h.2.2.2⟩

/-- The first waiting match among the rewards is mirrored by the first matching row, and
flipping that row by its id flips no other row. -/
theorem markFirst_of_rows {p c r : String} : ∀ {xs : List PendingReward} {ys : List PendingRow}
    {y : PendingRow}, xs.map PendingReward.row = ys.map PendingRow.view →
    (∀ z ∈ ys, z.player = p) → (ys.map PendingRow.id).Nodup →
    ys.find? (Stored.matching p c r) = some y →
    ∃ xs', markFirst c r xs = some xs' ∧
      xs'.map PendingReward.row = (ys.map (Stored.flip y.id)).map PendingRow.view
  | [], [], _, _, _, _, hf => by simp at hf
  | [], _ :: _, _, h, _, _, _ => by simp at h
  | _ :: _, [], _, h, _, _, _ => by simp at h
  | x :: xs, z :: ys, y, h, mine, ids, hf => by
    simp only [List.map_cons, List.cons.injEq] at h
    obtain ⟨same, rest⟩ := h
    have hz := PendingReward.matching_iff same (mine z List.mem_cons_self) c r
    simp only [List.map_cons, List.nodup_cons, List.mem_map] at ids
    obtain ⟨fresh, ids⟩ := ids
    cases hm : Stored.matching p c r z with
    | true =>
      -- the first row matches: it is the one flipped, and no later row has its id
      simp only [List.find?_cons, hm, Option.some.injEq] at hf
      subst hf
      rw [hm, eq_comm, decide_eq_true_iff] at hz
      have waiting : Stored.waitingWith z.id z = true := by
        simp only [Stored.matching, Bool.and_eq_true] at hm
        simp [Stored.waitingWith, hm.2]
      have later : ys.map (Stored.flip z.id) = ys := by
        conv_rhs => rw [← List.map_id ys]
        exact List.map_congr_left fun w hw => Stored.flip_of_ne fun e => fresh ⟨w, hw, e⟩
      refine ⟨{ x with status := .delivered } :: xs, by simp only [markFirst, if_pos hz], ?_⟩
      simp only [List.map_cons, later, rest, Stored.flip, waiting, if_true,
        PendingReward.row_delivered same]
    | false =>
      simp only [List.find?_cons, hm] at hf
      rw [hm, eq_comm, decide_eq_false_iff_not] at hz
      obtain ⟨xs', marked, rows⟩ :=
        markFirst_of_rows rest (fun w hw => mine w (List.mem_cons_of_mem _ hw)) ids hf
      refine ⟨x :: xs', by simp only [markFirst, if_neg hz, marked, Option.map_some], ?_⟩
      have other : z.id ≠ y.id := fun e => fresh ⟨y, List.mem_of_find?_eq_some hf, e.symm⟩
      simp only [List.map_cons, rows, Stored.flip_of_ne other, same]

/-! ### The two writes on waiting rewards -/

namespace Mirrors

variable {L : LocalStore} {st : Stored} (hM : Mirrors L st)
include hM

/-- Queueing a reward on both sides keeps the mirror: the reward goes last in the player's
list, its row last among the rows under the next id. -/
theorem queue (p : PlayerId) (c r : String) (t : Int) :
    Mirrors { L with
        pending := Assoc.set L.pending p ((Assoc.get? L.pending p).getD [] ++ [⟨c, r, .pending, t⟩]) }
      (st.queue p.render c r t) := by
  have counter := hM.counter
  refine { hM with pending := ?_, ids := ?_, idsGiven := ?_, counter := ?_ }
  · intro q
    show _ = ((st.pending ++ [(⟨st.lastPending + 1, p.render, c, r, "PENDING", t⟩ : PendingRow)]).filter
      _).map _
    rw [Assoc.get?_set, List.filter_append, List.map_append]
    by_cases same : p = q
    · subst same
      simp only [if_true, Option.getD_some, List.map_append, hM.pending p]
      simp [PendingReward.row, PendingRow.view, RewardStatus.name]
    · have other : p.render ≠ q.render := PlayerId.render_injective.ne same
      simp [same, other, hM.pending q]
  · -- the new id is above every id given so far
    show ((st.pending ++ [(⟨st.lastPending + 1, p.render, c, r, "PENDING", t⟩ : PendingRow)]).map
      PendingRow.id).Nodup
    rw [List.map_append, List.nodup_append]
    refine ⟨hM.ids, by simp, ?_⟩
    intro a ha b hb
    obtain ⟨row, hrow, rfl⟩ := List.mem_map.mp ha
    have given := hM.idsGiven row hrow
    simp only [List.map_cons, List.map_nil, List.mem_singleton] at hb
    omega
  · intro row hrow
    rcases List.mem_append.mp hrow with hrow | hrow
    · have given := hM.idsGiven row hrow
      show row.id ≤ st.lastPending + 1
      omega
    · rw [List.mem_singleton.mp hrow]
      exact Int.le_refl _
  · show 0 ≤ st.lastPending + 1
    omega

/-- Flipping a player's waiting row by its id, and in the player's list the rewards that
mirror the flipped rows, keeps the mirror. The ids are distinct, so no other player's row
is flipped. -/
theorem deliver {p : PlayerId} {y : PendingRow} (hy : y ∈ st.pending) (mine : y.player = p.render)
    {xs : List PendingReward} (rows : xs.map PendingReward.row =
      ((st.pending.filter fun row => row.player = p.render).map (Stored.flip y.id)).map
        PendingRow.view) :
    Mirrors { L with pending := Assoc.set L.pending p xs } (st.markRow y.id).1 := by
  refine { hM with pending := ?_, ids := ?_, idsGiven := ?_ }
  · intro q
    show _ = ((st.pending.map (Stored.flip y.id)).filter fun row => row.player = q.render).map
      PendingRow.view
    rw [Stored.filter_player_flip, Assoc.get?_set]
    by_cases same : p = q
    · subst same
      simpa using rows
    · rw [if_neg same, hM.pending q]
      congr 1
      symm
      conv_rhs => rw [← List.map_id (st.pending.filter fun row => row.player = q.render)]
      refine List.map_congr_left fun w hw => Stored.flip_of_ne fun e => ?_
      have hw := List.mem_filter.mp hw
      have : w = y := List.inj_on_of_nodup_map hM.ids hw.1 hy e
      have other : p.render ≠ q.render := PlayerId.render_injective.ne same
      simp_all
  · show ((st.pending.map (Stored.flip y.id)).map PendingRow.id).Nodup
    rw [List.map_map, show PendingRow.id ∘ Stored.flip y.id = PendingRow.id from
      funext (Stored.flip_id y.id)]
    exact hM.ids
  · intro row hrow
    obtain ⟨w, hw, rfl⟩ := List.mem_map.mp hrow
    show (Stored.flip y.id w).id ≤ st.lastPending
    rw [Stored.flip_id]
    exact hM.idsGiven w hw

end Mirrors

section Calls

variable {σ : Type} {run : Command → Conn σ (Relation × Nat)} {view : σ → DbView}
  (hd : Documented run view) {L : LocalStore} {st : Stored} (hM : Mirrors L st) (now : Int)
include hd hM

theorem mirror_queueReward (hnow : InI64 now) (p : PlayerId) (c r : String)
    (hid : InI64 (st.lastPending + 1)) :
    SqlModel.Answers run view now (.queueReward p c r) ⟨st, none⟩
      (Mirrored L now (.queueReward p c r) st.lastPending) := by
  refine (SqlModel.answers_queueReward hd now hnow p c r _ hid).mono ?_
  rintro a V' ⟨rfl, rfl⟩
  exact ⟨rfl, _, rfl, hM.queue p c r now, Int.le_refl _⟩

theorem mirror_pendingRewards (p : PlayerId) :
    SqlModel.Answers run view now (.pendingRewards p) ⟨st, none⟩
      (Mirrored L now (.pendingRewards p) st.lastPending) := by
  refine (SqlModel.answers_pendingRewards hd now p _).mono ?_
  rintro a V' ⟨rfl, rfl⟩
  refine ⟨?_, st, rfl, hM, by omega⟩
  show Except.ok _ = Except.ok _
  rw [filter_pending_of_rows (hM.pending p), List.filter_filter]
  congr 3
  funext row
  simp [Stored.waitingFor, Bool.and_comm, beq_eq_decide]

theorem mirror_markDelivered (hnow : InI64 now) (p : PlayerId) (c r : String) :
    SqlModel.Answers run view now (.markDelivered p c r) ⟨st, none⟩
      (Mirrored L now (.markDelivered p c r) st.lastPending) := by
  refine (SqlModel.answers_markDelivered hd now hnow p c r st).mono ?_
  rintro a V' ⟨rfl, rfl⟩
  have rows := hM.pending p
  have mine : ∀ z ∈ st.pending.filter (fun row => row.player = p.render), z.player = p.render :=
    fun z hz => by simpa using (List.mem_filter.mp hz).2
  -- a match is a row of the player, so the tables find it first among the player's rows
  have found : st.pending.find? (Stored.matching p.render c r) =
      (st.pending.filter fun row => row.player = p.render).find? (Stored.matching p.render c r) := by
    rw [List.find?_filter]
    congr 1
    funext row
    by_cases h : row.player = p.render <;> simp [Stored.matching, h, beq_eq_decide]
  cases hf : (st.pending.filter fun row => row.player = p.render).find?
      (Stored.matching p.render c r) with
  | none =>
    have deliver : st.deliver p.render c r now = (false, st) := by
      simp only [Stored.deliver, found, hf]
    have local_ : L.handle now (.markDelivered p c r) = (.ok false, L) := by
      show L.step now (.markDelivered p c r) = _
      cases hg : Assoc.get? L.pending p with
      | none => simp only [LocalStore.step, hg]
      | some rs =>
        rw [hg, Option.getD_some] at rows
        simp only [LocalStore.step, hg, markFirst_none_of_rows rows mine hf]
    rw [Mirrored, local_, deliver]
    exact ⟨rfl, st, rfl, hM, by omega⟩
  | some y =>
    have ids : ((st.pending.filter fun row => row.player = p.render).map PendingRow.id).Nodup :=
      hM.ids.sublist (List.filter_sublist.map _)
    obtain ⟨xs', marked, rows'⟩ := markFirst_of_rows rows mine ids hf
    have yours := List.mem_filter.mp (List.mem_of_find?_eq_some hf)
    have waiting : Stored.waitingWith y.id y = true := by
      have matches_ := List.find?_some hf
      simp only [Stored.matching, Bool.and_eq_true] at matches_
      simp [Stored.waitingWith, matches_.2]
    have flipped : (st.markRow y.id).2 ≠ 0 :=
      Nat.pos_iff_ne_zero.mp (List.length_pos_of_mem (List.mem_filter.mpr ⟨yours.1, waiting⟩))
    have deliver : st.deliver p.render c r now =
        (true, (st.markRow y.id).1.logDelivery p.render c r now) := by
      simp only [Stored.deliver, found, hf, flipped, if_false]
    cases hg : Assoc.get? L.pending p with
    | none =>
      rw [hg] at marked
      simp [markFirst] at marked
    | some rs =>
      rw [hg, Option.getD_some] at marked
      have local_ : L.handle now (.markDelivered p c r) = (.ok true, { L with
          pending := Assoc.set L.pending p xs', discarded := L.discarded + 1 }) := by
        show L.step now (.markDelivered p c r) = _
        simp only [LocalStore.step, hg, marked]
      rw [Mirrored, local_, deliver]
      have mirrors := (hM.deliver yours.1 (by simpa using yours.2) rows').logDelivery p c r now
      exact ⟨rfl, _, rfl, { mirrors with }, by show st.lastPending ≤ _; omega⟩

end Calls

end CrateState
