import CrateState.Proofs.LedgerRules
import CrateState.Proofs.Mirror

/-!
# What the SQL ledger reads back

Over a database keeping the ledger's documented rules (`LedgerDocumented`), the ledger is a
faithful log of the events appended on a fresh table (`appended_events_read_back`).

A shared table can hold rows the ledger skips (an unnamed event type, an unparsed player
id). The database cuts the rows after the cursor to the limit *before* the ledger skips
any, so a read answers the events among the first `limit` rows, which are the first `limit`
events exactly when the cut keeps no skipped row or leaves no event behind
(`since_answers_events_in_window`). A cut keeping only skipped rows answers nothing though
events follow (`since_window_of_skipped_row_hides_event`): a caller paging by the last id
stops early.
-/

namespace CrateState

open Relational

/-! ### Cuts of a list before and after a filter -/

/-- Cutting a list to `k` and then keeping what `f` keeps agrees with keeping first and
cutting after exactly when the cut loses nothing `f` keeps: every element it keeps is kept
by `f`, or `f` keeps nothing after it. -/
theorem List.filterMap_take_eq_take_filterMap_iff {α β : Type} (f : α → Option β) (l : List α)
    (k : Nat) :
    (l.take k).filterMap f = (l.filterMap f).take k ↔
      (∀ x ∈ l.take k, (f x).isSome) ∨ ∀ x ∈ l.drop k, f x = none := by
  have kept : ((l.take k).filterMap f).length ≤ (l.take k).length := List.length_filterMap_le f _
  have cut : (l.take k).length ≤ k := List.length_take_le k l
  have within : ((l.take k).filterMap f).length ≤ k := Nat.le_trans kept cut
  -- the kept elements of the cut come first; the rest is what is taken after them
  have split : (l.filterMap f).take k =
      (l.take k).filterMap f ++ ((l.drop k).filterMap f).take (k - ((l.take k).filterMap f).length) := by
    conv => lhs; rw [← List.take_append_drop k l, List.filterMap_append]
    rw [List.take_append, List.take_of_length_le within]
  rw [split, List.self_eq_append_right, List.take_eq_nil_iff, List.filterMap_eq_nil_iff]
  constructor
  · rintro (full | none)
    · left
      have all : ((l.take k).filterMap f).length = (l.take k).length := by omega
      exact List.filterMap_length_eq_length.mp all
    · exact .inr none
  · rintro (all | none)
    · have same := List.filterMap_length_eq_length.mpr all
      by_cases short : l.length ≤ k
      · right
        simp [List.drop_eq_nil_of_le short]
      · left
        rw [same, List.length_take]
        omega
    · exact .inr none

/-! ### Appended entries -/

namespace LedgerEntry

/-- The entries of events appended one after another, the first under the id `n`. -/
def numbered : Int → List SyncEvent → List LedgerEntry
  | _, [] => []
  | n, e :: es => ⟨n, e⟩ :: numbered (n + 1) es

def row (x : LedgerEntry) : LedgerRow := .ofEvent x.id x.event

theorem map_event_numbered (n : Int) (es : List SyncEvent) :
    (numbered n es).map LedgerEntry.event = es := by
  induction es generalizing n with
  | nil => rfl
  | cons e es ih => simp [numbered, ih]

theorem length_numbered (n : Int) (es : List SyncEvent) : (numbered n es).length = es.length := by
  induction es generalizing n with
  | nil => rfl
  | cons e es ih => simp [numbered, ih]

theorem le_id_of_mem_numbered {n : Int} {es : List SyncEvent} {x : LedgerEntry}
    (h : x ∈ numbered n es) : n ≤ x.id := by
  induction es generalizing n with
  | nil => nomatch h
  | cons e es ih =>
    rcases List.mem_cons.mp h with first | later
    · obtain rfl := first
      exact Int.le_refl n
    · have := ih later
      omega

theorem numbered_ascending (n : Int) (es : List SyncEvent) :
    (numbered n es).Pairwise (·.id < ·.id) := by
  induction es generalizing n with
  | nil => exact .nil
  | cons e es ih =>
    refine List.pairwise_cons.mpr ⟨fun x hx => ?_, ih (n + 1)⟩
    have := le_id_of_mem_numbered hx
    show n < x.id
    omega

@[simp] theorem filterMap_decoded?_map_row (xs : List LedgerEntry) :
    (xs.map row).filterMap LedgerRow.decoded? = xs := by
  rw [List.filterMap_map]
  exact (List.filterMap_congr fun x _ => LedgerRow.decoded?_ofEvent x.id x.event).trans
    List.filterMap_some

theorem filter_after_map_row (after : Int) (xs : List LedgerEntry) :
    (xs.map row).filter (after < ·.id) = (xs.filter (after < ·.id)).map row := by
  rw [List.filter_map]
  rfl

theorem filter_player_map_row (p : PlayerId) (xs : List LedgerEntry) :
    (xs.map row).filter (·.player = p.render) = (xs.filter (·.event.player = p)).map row := by
  rw [List.filter_map]
  congr 2
  funext x
  simp [row, LedgerRow.ofEvent, PlayerId.render_injective.eq_iff]

end LedgerEntry

/-- A bound saturated to the largest 64-bit integer takes as much of a list as the bound
itself, as long as the list is shorter than that. -/
theorem take_sqlLimit {α : Type} {xs : List α} (short : xs.length < 2 ^ 63) (limit : Nat) :
    xs.take (sqlLimit limit).toNat = xs.take limit := by
  unfold sqlLimit
  split
  · rfl
  · next large =>
    have big : ¬ limit < 2 ^ 63 := large
    have whole : (Int.ofNat (Nat.pow 2 63) - 1).toNat = 2 ^ 63 - 1 := by decide
    rw [whole, List.take_of_length_le (by omega), List.take_of_length_le (by omega)]

/-! ### A ledger at work -/

namespace SqlLedger

section Via

variable {σ τ : Type} (use : {α : Type} → τ → Conn σ α → Except DriverError α × τ)
  (run : Command → Conn σ (Relation × Nat))

/-- Appends events one after another, as a caller does, keeping each answer. -/
def appendEachVia (l : SqlLedger) (pool : τ) : List SyncEvent →
    List (Except SyncError Unit) × SqlLedger × τ
  | [] => ([], l, pool)
  | e :: es =>
    let (r, l, pool) := l.appendVia use run e pool
    let (rs, l, pool) := appendEachVia l pool es
    (r :: rs, l, pool)

end Via

section Finds

variable {σ : Type} {run : Command → Conn σ (Relation × Nat)} {view : σ → Option LedgerTable}
  {l : SqlLedger} {s : SqlModel σ} {T : LedgerTable}

/-- The ledger `l` is open, the pool `s` gives connections, and the ledger's work on it finds
the table `T`. -/
structure Finds (view : σ → Option LedgerTable) (l : SqlLedger) (s : SqlModel σ)
    (T : LedgerTable) : Prop where
  isOpen : l.closed = false
  free : s.blocked = none
  found : l.tableFor (view s.db) = some T

/-- **One append** answers `ok` and leaves the table with the event's row under the next id. -/
theorem Finds.append (hd : LedgerDocumented run view l.table) (h : l.Finds view s T)
    {e : SyncEvent} (time : InI64 e.time) (room : InI64 (T.lastId + 1)) :
    ∃ s', l.appendVia (@SqlModel.perform σ) run e s = (.ok (), { l with ready := true }, s') ∧
      ({ l with ready := true } : SqlLedger).Finds view s' (T.append e) := by
  obtain ⟨db, hdb, appended⟩ := appendVia_perform hd h.isOpen h.free h.found time room
  exact ⟨{ s with db }, appended, ⟨h.isOpen, h.free, hdb⟩⟩

/-- **Appends one after another** all answer `ok` and add the events' rows under the ids
after the last one given, in order, while the times and the ids fit. -/
theorem Finds.appendEach (hd : LedgerDocumented run view l.table) (h : l.Finds view s T)
    (es : List SyncEvent) (times : ∀ e ∈ es, InI64 e.time) (room : T.lastId + es.length < 2 ^ 63) :
    ∃ l' s' T', l.appendEachVia (@SqlModel.perform σ) run s es = (es.map fun _ => .ok (), l', s') ∧
      l'.table = l.table ∧ l'.Finds view s' T' ∧
      T'.rows = T.rows ++ (LedgerEntry.numbered (T.lastId + 1) es).map LedgerEntry.row := by
  induction es generalizing l s T with
  | nil => exact ⟨l, s, T, rfl, rfl, h, by simp [LedgerEntry.numbered]⟩
  | cons e es ih =>
    have fits : InI64 (T.lastId + 1) := by
      have := T.nonneg
      simp only [List.length_cons] at room
      constructor <;> omega
    obtain ⟨s₁, appended, found₁⟩ := h.append hd (times e List.mem_cons_self) fits
    have hd₁ : LedgerDocumented run view ({ l with ready := true } : SqlLedger).table := hd
    have room₁ : (T.append e).lastId + es.length < 2 ^ 63 := by
      simp only [LedgerTable.lastId_append, List.length_cons] at room ⊢
      omega
    obtain ⟨l', s', T', rest, table', found', rows'⟩ :=
      ih hd₁ found₁ (fun e' he' => times e' (List.mem_cons_of_mem e he')) room₁
    refine ⟨l', s', T', ?_, table', found', ?_⟩
    · rw [appendEachVia, appended]
      dsimp only
      rw [rest]
      rfl
    · rw [rows', LedgerTable.rows_append, LedgerTable.lastId_append]
      simp [LedgerEntry.numbered, LedgerEntry.row]

/-- **A read** answers the entries of the rows its query selects, skipping those that are
not events. -/
theorem Finds.read (hd : LedgerDocumented run view l.table) (h : l.Finds view s T)
    {c : Command} {rows : List LedgerRow} (selects : LedgerReads run view c T rows) :
    (l.readVia (@SqlModel.perform σ) run c s).1 = .ok (rows.filterMap LedgerRow.decoded?) := by
  obtain ⟨db, _, answered⟩ := readVia_perform hd h.isOpen h.free h.found selects
  rw [answered]

end Finds

end SqlLedger

/-! ### The reads of a ledger -/

section Reads

open SqlLedger

variable {σ : Type} {run : Command → Conn σ (Relation × Nat)} {view : σ → Option LedgerTable}
  {l : SqlLedger} {s : SqlModel σ} {T : LedgerTable}

/-- **The ledger is a faithful log.** Events appended one after another on a fresh table all
answer `ok` and are given strictly increasing ids, one entry per event, in order. Afterwards
the read after a cursor `after` answers the first `limit` of these entries whose id is above
it, oldest first, and a player's read answers the newest `limit` of their entries, newest
first: each entry's event is the appended one, field for field. The times and the ids given
must fit in 64 bits. -/
theorem appended_events_read_back (hd : LedgerDocumented run view l.table)
    (start : l.Finds view s T) (fresh : T.rows = []) (es : List SyncEvent)
    (times : ∀ e ∈ es, InI64 e.time) (room : T.lastId + es.length < 2 ^ 63) :
    ∃ l' s', l.appendEachVia (@SqlModel.perform σ) run s es = (es.map fun _ => .ok (), l', s') ∧
      (LedgerEntry.numbered (T.lastId + 1) es).map LedgerEntry.event = es ∧
      (LedgerEntry.numbered (T.lastId + 1) es).Pairwise (·.id < ·.id) ∧
      (∀ after limit, (l'.readVia (@SqlModel.perform σ) run (sinceRows l'.table after limit) s').1 =
        .ok (((LedgerEntry.numbered (T.lastId + 1) es).filter (after < ·.id)).take limit)) ∧
      ∀ p limit, (l'.readVia (@SqlModel.perform σ) run (recentRows l'.table p limit) s').1 =
        .ok (((LedgerEntry.numbered (T.lastId + 1) es).filter (·.event.player = p)).reverse.take limit) := by
  obtain ⟨l', s', T', appended, table', found', rows'⟩ := start.appendEach hd es times room
  rw [fresh, List.nil_append] at rows'
  have hd' : LedgerDocumented run view l'.table := table' ▸ hd
  -- every list the reads cut is shorter than the appended events
  have short : ∀ xs : List LedgerEntry,
      xs.length ≤ (LedgerEntry.numbered (T.lastId + 1) es).length → xs.length < 2 ^ 63 := by
    intro xs within
    have := T.nonneg
    rw [LedgerEntry.length_numbered] at within
    omega
  refine ⟨l', s', appended, LedgerEntry.map_event_numbered _ _,
    LedgerEntry.numbered_ascending _ _, fun after limit => ?_, fun p limit => ?_⟩
  · rw [found'.read hd' (hd'.since T' after limit), rows', LedgerEntry.filter_after_map_row,
      ← List.map_take, LedgerEntry.filterMap_decoded?_map_row,
      take_sqlLimit (short _ (List.length_filter_le _ _))]
  · rw [found'.read hd' (hd'.recent T' p limit), rows', LedgerEntry.filter_player_map_row,
      ← List.map_reverse, ← List.map_take, LedgerEntry.filterMap_decoded?_map_row,
      take_sqlLimit (short _ (by rw [List.length_reverse]; exact List.length_filter_le _ _))]

namespace LedgerMemory

/-- A ledger on the memory database's table, which it has not made yet. -/
def ledger : SqlLedger := { table, sqlite := true, slot := .borrowed 0 }

/-- Two events of two players (the second one's digits all `f`), the second with an empty
reward. -/
def twoPlayers : List SyncEvent :=
  [⟨.crateOpened, "a", PlayerId.nil, "v", none, 1⟩,
   ⟨.rewardGranted, "b", ⟨List.replicate 32 (Fin.last 15), List.length_replicate⟩, "w", some "", -2⟩]

end LedgerMemory

theorem appended_events_read_back_on_two_players :
    ∃ l' s', LedgerMemory.ledger.appendEachVia (@SqlModel.perform _) LedgerMemory.run ⟨none, none⟩
        LedgerMemory.twoPlayers = (LedgerMemory.twoPlayers.map fun _ => .ok (), l', s') ∧
      (LedgerEntry.numbered 1 LedgerMemory.twoPlayers).map LedgerEntry.event =
        LedgerMemory.twoPlayers ∧
      (LedgerEntry.numbered 1 LedgerMemory.twoPlayers).Pairwise (·.id < ·.id) ∧
      (∀ after limit, (l'.readVia (@SqlModel.perform _) LedgerMemory.run
          (sinceRows l'.table after limit) s').1 =
        .ok (((LedgerEntry.numbered 1 LedgerMemory.twoPlayers).filter (after < ·.id)).take limit)) ∧
      ∀ p limit, (l'.readVia (@SqlModel.perform _) LedgerMemory.run
          (recentRows l'.table p limit) s').1 =
        .ok (((LedgerEntry.numbered 1 LedgerMemory.twoPlayers).filter
          (·.event.player = p)).reverse.take limit) :=
  appended_events_read_back LedgerMemory.documented
    (show LedgerMemory.ledger.Finds id ⟨none, none⟩ .empty from ⟨rfl, rfl, rfl⟩) rfl
    LedgerMemory.twoPlayers (by decide) (by decide)

/-- **A read after a cursor answers the events among the first rows after it.** The database
cuts the rows after the cursor to the bound limit `k` (the limit itself below `2 ^ 63`)
before the ledger skips the rows that are not events, so the read answers the events among
those `k` rows. That is the first `k` events after the cursor exactly when every row of the
cut is an event, or no event follows the cut. -/
theorem since_answers_events_in_window (hd : LedgerDocumented run view l.table)
    (h : l.Finds view s T) (after : Int) (limit : Nat) :
    let rows := T.rows.filter (after < ·.id)
    let k := (sqlLimit limit).toNat
    (l.readVia (@SqlModel.perform σ) run (sinceRows l.table after limit) s).1 =
        .ok ((rows.take k).filterMap LedgerRow.decoded?) ∧
      ((l.readVia (@SqlModel.perform σ) run (sinceRows l.table after limit) s).1 =
          .ok ((rows.filterMap LedgerRow.decoded?).take k) ↔
        (∀ r ∈ rows.take k, r.decoded?.isSome) ∨ ∀ r ∈ rows.drop k, r.decoded? = none) := by
  intro rows k
  have answered := h.read hd (hd.since T after limit)
  refine ⟨answered, ?_⟩
  rw [answered, Except.ok.injEq]
  exact List.filterMap_take_eq_take_filterMap_iff _ _ _

namespace LedgerMemory

/-- A table another writer shares: its first row has an event type that names no kind, its
second is an event. -/
def skippedThenEvent : LedgerTable :=
  (LedgerTable.empty.insert "TELEPORTED" "a" PlayerId.nil.render "v" none 1).append
    ⟨.keyConsumed, "a", PlayerId.nil, "v", none, 2⟩

end LedgerMemory

theorem since_answers_events_in_window_on_skipped_row :
    let rows := LedgerMemory.skippedThenEvent.rows.filter (0 < ·.id)
    let k := (sqlLimit 1).toNat
    (LedgerMemory.ledger.readVia (@SqlModel.perform _) LedgerMemory.run
        (sinceRows LedgerMemory.ledger.table 0 1) ⟨none, some LedgerMemory.skippedThenEvent⟩).1 =
        .ok ((rows.take k).filterMap LedgerRow.decoded?) ∧
      ((LedgerMemory.ledger.readVia (@SqlModel.perform _) LedgerMemory.run
          (sinceRows LedgerMemory.ledger.table 0 1) ⟨none, some LedgerMemory.skippedThenEvent⟩).1 =
          .ok ((rows.filterMap LedgerRow.decoded?).take k) ↔
        (∀ r ∈ rows.take k, r.decoded?.isSome) ∨ ∀ r ∈ rows.drop k, r.decoded? = none) :=
  since_answers_events_in_window LedgerMemory.documented ⟨rfl, rfl, rfl⟩ 0 1

/-- A read after the cursor `0` with the limit `1` on a table whose first row is skipped
answers nothing, though the row after it is an event after the cursor. -/
theorem since_window_of_skipped_row_hides_event :
    (LedgerMemory.ledger.readVia (@SqlModel.perform _) LedgerMemory.run
        (sinceRows LedgerMemory.ledger.table 0 1) ⟨none, some LedgerMemory.skippedThenEvent⟩).1 =
        .ok [] ∧
      (LedgerMemory.skippedThenEvent.rows.filter (0 < ·.id)).filterMap LedgerRow.decoded? =
        [⟨2, ⟨.keyConsumed, "a", PlayerId.nil, "v", none, 2⟩⟩] := by
  have hd : LedgerDocumented LedgerMemory.run id LedgerMemory.ledger.table := LedgerMemory.documented
  have start : LedgerMemory.ledger.Finds id ⟨none, some LedgerMemory.skippedThenEvent⟩
      LedgerMemory.skippedThenEvent := ⟨rfl, rfl, rfl⟩
  rw [start.read hd (hd.since _ 0 1)]
  -- the cut keeps only the first row, which names no kind
  have cut : ((LedgerMemory.skippedThenEvent.rows.filter (0 < ·.id)).take (sqlLimit 1).toNat).filterMap
      LedgerRow.decoded? = [] := by decide +kernel
  exact ⟨congrArg Except.ok cut, by decide +kernel⟩

end Reads

end CrateState
