import CrateState.Proofs.SqlCalls
import CrateState.Proofs.Mirror
import CrateState.Proofs.MemoryDatabase

/-!
# Crate locks exclude each other

Clients share one store and take and give back the locks of slots; each call is atomic and
the clients' calls interleave in any order (`LockMove`). A client follows the protocol when
it gives a lock back only while holding it, after an acquire of its own answered `true`
(`Sections.Follows`). `Sections` is the store with the critical sections the clients are in.

`LockCalls` is what the store's lock calls must do: an acquire answering `true` found the
slot free and locks it alone; any other acquire changes no lock; a release that reaches the
store frees the slot alone. The invariant `Exclusive` is kept by every move
(`Exclusive.move`): no two clients are in one slot's section, and the store holds a slot's
lock exactly when a client is in its section.

The in-memory store keeps these rules (`LocalStore.lockCalls`), and so do SQL stores on one
documented database, each client with its own pool (`SqlModel.lockCalls`): the lock table's
primary key refuses a second holder. `crate_locks_exclusive` states the result for both at
every moment of every run following the protocol. The clients make lock calls only: a clear
would drop locks of clients still in their sections.
-/

namespace CrateState

open Relational

/-- A lock call of a client. -/
inductive LockMove where
  /-- Client `k` asks for the lock of a slot at time `now`. -/
  | acquire (k : Nat) (slot : Slot) (now : Int)
  /-- Client `k` gives the lock of a slot back at time `now`. -/
  | release (k : Nat) (slot : Slot) (now : Int)

/-- The clients around one store: the store, and the sections they are in, as the client and
the slot of each acquire that answered `true` and whose lock was not given back yet. -/
structure Sections (β : Type) where
  store : β
  /-- The sections the clients are in. -/
  inside : List (Nat × Slot)

namespace Sections

variable {β : Type} (call : Nat → Int → β → (c : Call) → Reply c × β)

/-- One move, client `k` calling the store by `call k`: an acquire that answers `true` puts the
client in the slot's section, a release takes it out. -/
def move (S : Sections β) : LockMove → Sections β
  | .acquire k sl now =>
    let r := call k now S.store (.acquireLock sl.player sl.crate)
    ⟨r.2, match r.1 with
      | .ok true => S.inside ++ [(k, sl)]
      | _ => S.inside⟩
  | .release k sl now =>
    ⟨(call k now S.store (.releaseLock sl.player sl.crate)).2, S.inside.erase (k, sl)⟩

def run (S : Sections β) : List LockMove → Sections β
  | [] => S
  | m :: ms => (S.move call m).run ms

/-- A move the protocol allows: any acquire, and a release by a client in the slot's section. -/
def Allowed (S : Sections β) : LockMove → Prop
  | .acquire .. => True
  | .release k sl _ => (k, sl) ∈ S.inside

/-- Every move of a run is one the protocol allows where it is made. -/
def Follows (S : Sections β) : List LockMove → Prop
  | [] => True
  | m :: ms => S.Allowed m ∧ (S.move call m).Follows ms

variable {call} in
theorem Follows.take {S : Sections β} {moves : List LockMove} (h : S.Follows call moves) (n : Nat) :
    S.Follows call (moves.take n) := by
  induction moves generalizing S n with
  | nil => simp [Follows]
  | cons m ms ih =>
    cases n with
    | zero => trivial
    | succ n => exact ⟨h.1, ih h.2 n⟩

end Sections

def LockMove.now : LockMove → Int
  | .acquire _ _ now | .release _ _ now => now

section Rules

variable {β : Type} (call : Nat → Int → β → (c : Call) → Reply c × β) (held : β → Slot → Prop)
  (reaches : Nat → Prop) (fits : Int → Prop)

/-- What the lock calls of a store do, read through `held`, when client `k` calls it at a time
that `fits`: an acquire that answers `true` was made by a client that reaches the store and found
the slot free, and locks it alone; any other acquire changes no lock; a release by a client that
reaches the store frees the slot alone. -/
structure LockCalls : Prop where
  acquired : ∀ (k : Nat) (now : Int) (b : β) (sl : Slot), fits now →
    (call k now b (.acquireLock sl.player sl.crate)).1 = .ok true → reaches k ∧ ¬ held b sl ∧
      ∀ sl', held (call k now b (.acquireLock sl.player sl.crate)).2 sl' ↔ held b sl' ∨ sl' = sl
  refused : ∀ (k : Nat) (now : Int) (b : β) (sl : Slot), fits now →
    (call k now b (.acquireLock sl.player sl.crate)).1 ≠ .ok true →
      ∀ sl', held (call k now b (.acquireLock sl.player sl.crate)).2 sl' ↔ held b sl'
  released : ∀ (k : Nat) (now : Int) (b : β) (sl : Slot), reaches k →
    ∀ sl', held (call k now b (.releaseLock sl.player sl.crate)).2 sl' ↔ held b sl' ∧ sl' ≠ sl

/-- Mutual exclusion, as the store reads its locks through `held`: no two entries of the sections
are of one slot, the store holds a slot's lock exactly when a client is in its section, and every
client in a section reaches the store. -/
structure Exclusive (S : Sections β) : Prop where
  one : (S.inside.map Prod.snd).Nodup
  held_iff : ∀ sl, held S.store sl ↔ ∃ k, (k, sl) ∈ S.inside
  reach : ∀ k sl, (k, sl) ∈ S.inside → reaches k

variable {call held reaches fits}

theorem Exclusive.alone {S : Sections β} (h : Exclusive held reaches S) {k k' : Nat} {sl : Slot}
    (hk : (k, sl) ∈ S.inside) (hk' : (k', sl) ∈ S.inside) : k = k' := by
  have same := List.inj_on_of_nodup_map h.one hk hk' rfl
  simpa using same

theorem Exclusive.fresh {b : β} (free : ∀ sl, ¬ held b sl) : Exclusive held reaches ⟨b, []⟩ where
  one := List.nodup_nil
  held_iff sl := by simp [free sl]
  reach := by simp

theorem mem_erase_inside {inside : List (Nat × Slot)} (one : (inside.map Prod.snd).Nodup)
    {k : Nat} {sl : Slot} (hk : (k, sl) ∈ inside) (sl' : Slot) :
    (∃ k', (k', sl') ∈ inside.erase (k, sl)) ↔ (∃ k', (k', sl') ∈ inside) ∧ sl' ≠ sl := by
  have nodup : inside.Nodup := one.of_map _
  constructor
  · rintro ⟨k', hk'⟩
    obtain ⟨ne, mem⟩ := (nodup.mem_erase_iff).mp hk'
    refine ⟨⟨k', mem⟩, ?_⟩
    rintro rfl
    -- the only entry of the slot is the one taken out
    have := List.inj_on_of_nodup_map one mem hk rfl
    exact ne this
  · rintro ⟨⟨k', mem⟩, ne⟩
    refine ⟨k', (nodup.mem_erase_iff).mpr ⟨?_, mem⟩⟩
    intro same
    cases same
    exact ne rfl

/-- **Every move keeps mutual exclusion**, for a store whose lock calls keep the rules, when the
move is allowed and its time fits. -/
theorem Exclusive.move (rules : LockCalls call held reaches fits) {S : Sections β}
    (h : Exclusive held reaches S) {m : LockMove} (allowed : S.Allowed m) (hm : fits m.now) :
    Exclusive held reaches (S.move call m) := by
  cases m with
  | acquire k sl now =>
    simp only [Sections.move]
    split
    next answered =>
      -- the slot was free, so nobody was in its section
      obtain ⟨hk, free, after⟩ := rules.acquired k now S.store sl hm answered
      have absent : sl ∉ S.inside.map Prod.snd := by
        rintro mem
        obtain ⟨⟨k', sl'⟩, hmem, rfl⟩ := List.mem_map.mp mem
        exact free ((h.held_iff _).mpr ⟨k', hmem⟩)
      refine ⟨?_, fun sl' => ?_, ?_⟩
      · rw [List.map_append, List.nodup_append]
        refine ⟨h.one, by simp, ?_⟩
        intro a ha b hb same
        simp only [List.map_cons, List.map_nil, List.mem_singleton] at hb
        subst hb same
        exact absent ha
      · rw [after, h.held_iff]
        simp only [List.mem_append, List.mem_singleton, Prod.mk.injEq]
        constructor
        · rintro (⟨k', hk'⟩ | rfl)
          · exact ⟨k', .inl hk'⟩
          · exact ⟨k, .inr ⟨rfl, rfl⟩⟩
        · rintro ⟨k', hk' | ⟨-, rfl⟩⟩
          · exact .inl ⟨k', hk'⟩
          · exact .inr rfl
      · intro k' sl' mem
        rcases List.mem_append.mp mem with mem | mem
        · exact h.reach k' sl' mem
        · obtain ⟨rfl, -⟩ := Prod.mk.inj (List.mem_singleton.mp mem)
          exact hk
    next other =>
      have answered : (call k now S.store (.acquireLock sl.player sl.crate)).1 ≠ .ok true := other
      have after := rules.refused k now S.store sl hm answered
      exact ⟨h.one, fun sl' => (after sl').trans (h.held_iff sl'), h.reach⟩
  | release k sl now =>
    have hk : (k, sl) ∈ S.inside := allowed
    have after := rules.released k now S.store sl (h.reach k sl hk)
    refine ⟨?_, fun sl' => ?_, ?_⟩
    · exact h.one.sublist (List.erase_sublist.map _)
    · simp only [Sections.move]
      rw [after, h.held_iff, mem_erase_inside h.one hk]
    · intro k' sl' mem
      exact h.reach k' sl' ((List.erase_subset) mem)

/-- **Every run that follows the protocol keeps mutual exclusion**, at times that fit. -/
theorem Exclusive.run (rules : LockCalls call held reaches fits) {S : Sections β}
    (h : Exclusive held reaches S) {moves : List LockMove} (follows : S.Follows call moves)
    (times : ∀ m ∈ moves, fits m.now) : Exclusive held reaches (S.run call moves) := by
  induction moves generalizing S with
  | nil => exact h
  | cons m ms ih =>
    exact ih (h.move rules follows.1 (times m List.mem_cons_self)) follows.2
      fun m' hm' => times m' (List.mem_cons_of_mem _ hm')

/-- What the clients see of the locks at one moment: no two clients are in the section of one
slot, and the store holds a slot's lock exactly when a client is in its section. -/
def MutuallyExclusive (held : β → Slot → Prop) (S : Sections β) : Prop :=
  (∀ k k' sl, (k, sl) ∈ S.inside → (k', sl) ∈ S.inside → k = k') ∧
    ∀ sl, held S.store sl ↔ ∃ k, (k, sl) ∈ S.inside

/-- Clients of a store whose lock calls keep the rules, starting with no lock held and nobody in a
section, see mutual exclusion at every moment of a run that follows the protocol at times that fit. -/
theorem LockCalls.exclusive_take (rules : LockCalls call held reaches fits) {b : β}
    (free : ∀ sl, ¬ held b sl) {moves : List LockMove} (follows : (Sections.mk b []).Follows call moves)
    (times : ∀ m ∈ moves, fits m.now) (n : Nat) :
    MutuallyExclusive held ((Sections.mk b []).run call (moves.take n)) := by
  have start : Exclusive held reaches ⟨b, []⟩ := .fresh free
  have h := start.run rules (follows.take n) fun m hm => times m (List.mem_of_mem_take hm)
  exact ⟨fun _ _ _ => h.alone, h.held_iff⟩

end Rules

/-! ## The in-memory store -/

namespace LocalStore

/-- Clients of one in-memory store all call it directly. -/
def lockCall (_ : Nat) (now : Int) (L : LocalStore) (c : Call) : Reply c × LocalStore :=
  L.handle now c

theorem lockCall_acquire (k : Nat) (now : Int) (L : LocalStore) (sl : Slot) :
    lockCall k now L (.acquireLock sl.player sl.crate) =
      if sl ∈ L.locks then (.ok false, L) else (.ok true, { L with locks := L.locks ++ [sl] }) := by
  show (if L.locks.contains sl then _ else _) = _
  by_cases held : sl ∈ L.locks <;> simp [held]

/-- The in-memory store keeps the rules of lock calls: every client reaches it, at any time. -/
theorem lockCalls : LockCalls lockCall (fun L sl => sl ∈ L.locks) (fun _ => True) (fun _ => True) where
  acquired k now L sl _ answered := by
    by_cases held : sl ∈ L.locks
    · rw [lockCall_acquire, if_pos held] at answered
      cases answered
    · refine ⟨trivial, held, fun sl' => ?_⟩
      simp [lockCall_acquire, held]
  refused k now L sl _ answered := by
    by_cases held : sl ∈ L.locks
    · simp [lockCall_acquire, held]
    · simp [lockCall_acquire, held] at answered
  released k now L sl _ sl' := by
    show sl' ∈ L.locks.filter (· ≠ sl) ↔ _
    simp

end LocalStore

/-! ## SQL stores on one database -/

namespace SqlModel

variable {σ : Type} (run : Command → Conn σ (Relation × Nat)) (view : σ → DbView)

/-- Clients of SQL stores on one database, client `k` through a pool that fails with `blocked k`
when it gives no connection: each call runs on the shared database. -/
def lockCall (blocked : Nat → Option DriverError) (k : Nat) (now : Int) (db : σ) (c : Call) :
    Reply c × σ :=
  let r := (⟨blocked k, db⟩ : SqlModel σ).step run now c
  (r.1, r.2.db)

/-- Whether the tables hold the lock of a slot. -/
def locked (db : σ) (sl : Slot) : Prop := (Assoc.get? (view db).stored.locks sl.key).isSome

variable {run view}

theorem isSome_get?_iff {κ α : Type} [DecidableEq κ] {xs : List (κ × α)} {k : κ} :
    (Assoc.get? xs k).isSome ↔ k ∈ xs.map Prod.fst := by
  rw [← not_iff_not, Bool.not_eq_true, Option.isSome_eq_false_iff, Option.isNone_iff_eq_none,
    Assoc.get?_eq_none_iff]

theorem lockCall_blocked {blocked : Nat → Option DriverError} {k : Nat} {e : DriverError}
    (hb : blocked k = some e) (now : Int) (db : σ) (p : PlayerId) (c : String) :
    lockCall run blocked k now db (.acquireLock p c) = (.error (storeError e), db) := by
  simp only [lockCall, step, SqlStore.stepVia, use, hb]

variable (hd : Documented run view)
include hd

/-- What an acquire does to the tables, at a time within 64 bits: through a pool that gives
connections, a free slot is taken and the acquire answers `true`; any other acquire answers
otherwise and leaves the tables as they were. -/
theorem lockCall_acquire (blocked : Nat → Option DriverError) (k : Nat) {now : Int}
    (hnow : InI64 now) (db : σ) (sl : Slot) :
    let r := lockCall run blocked k now db (.acquireLock sl.player sl.crate)
    (blocked k = none ∧ ¬ locked view db sl ∧ r.1 = .ok true ∧
      view r.2 = { view db with stored := (view db).stored.takeLock sl.player.render sl.crate now }) ∨
    (r.1 ≠ .ok true ∧ view r.2 = view db) := by
  intro r
  cases hb : blocked k with
  | some e =>
    have refused : r = (.error (storeError e), db) := lockCall_blocked hb now db _ _
    rw [refused]
    exact .inr ⟨fun h => (by cases h), rfl⟩
  | none =>
    have open_ : (⟨blocked k, db⟩ : SqlModel σ).blocked = none := hb
    by_cases held : locked view db sl
    · -- the key refuses a second holder
      obtain ⟨no, after⟩ := answers_acquireLock_held hd now sl.player sl.crate (view db) held _ open_ rfl
      exact .inr ⟨fun yes => (by cases no.symm.trans yes), after⟩
    · have free : Assoc.get? (view db).stored.locks sl.key = none := by
        simpa [locked] using held
      obtain ⟨yes, after⟩ :=
        answers_acquireLock_free hd now hnow sl.player sl.crate (view db) free _ open_ rfl
      exact .inl ⟨rfl, held, yes, after⟩

/-- SQL stores on a database that keeps its documented behaviour keep the rules of lock calls, at
times within 64 bits: a client reaches the database when its pool gives connections. -/
theorem lockCalls (blocked : Nat → Option DriverError) :
    LockCalls (lockCall run blocked) (locked view) (fun k => blocked k = none) InI64 where
  acquired k now db sl hnow answered := by
    rcases lockCall_acquire hd blocked k hnow db sl with ⟨hb, free, -, after⟩ | ⟨no, -⟩
    · refine ⟨hb, free, fun sl' => ?_⟩
      simp only [locked, after, Stored.takeLock, isSome_get?_iff, List.map_append,
        List.mem_append, List.map_cons, List.map_nil, List.mem_singleton]
      rw [show (sl.player.render, sl.crate) = sl.key from rfl, Slot.key_injective.eq_iff]
    · exact absurd answered no
  refused k now db sl hnow answered := by
    rcases lockCall_acquire hd blocked k hnow db sl with ⟨-, -, yes, -⟩ | ⟨-, after⟩
    · exact absurd yes answered
    · intro sl'
      simp only [locked, after]
  released k now db sl hb sl' := by
    have open_ : (⟨blocked k, db⟩ : SqlModel σ).blocked = none := hb
    obtain ⟨-, after⟩ := answers_releaseLock hd now sl.player sl.crate (view db) _ open_ rfl
    simp only [locked, lockCall, after, Stored.giveLock]
    rw [show (sl.player.render, sl.crate) = sl.key from rfl, Assoc.get?_erase]
    by_cases same : sl.key = sl'.key
    · simp [Slot.key_injective same]
    · have : sl' ≠ sl := fun h => same (h ▸ rfl)
      simp [same, this]

end SqlModel

/-- **Crate locks give mutual exclusion to clients that follow the protocol.** Clients share one
in-memory store, or SQL stores on one database that keeps its documented behaviour, each client
through its own pool; no lock is held at the start. Along any interleaving of their lock calls in
which every client gives a lock back only while it holds it, with times within 64 bits on the
database, at every moment no two clients are in the section of one slot, and the store holds a
slot's lock exactly when a client is in its section. -/
theorem crate_locks_exclusive :
    (∀ (L : LocalStore) (moves : List LockMove), L.locks = [] →
      (Sections.mk L []).Follows LocalStore.lockCall moves → ∀ n,
        MutuallyExclusive (fun L sl => sl ∈ L.locks)
          ((Sections.mk L []).run LocalStore.lockCall (moves.take n))) ∧
    (∀ {σ : Type} (run : Command → Conn σ (Relation × Nat)) (view : σ → DbView),
      Documented run view → ∀ (blocked : Nat → Option DriverError) (db : σ) (moves : List LockMove),
        (view db).stored.locks = [] → (Sections.mk db []).Follows (SqlModel.lockCall run blocked) moves →
        (∀ m ∈ moves, InI64 m.now) → ∀ n,
          MutuallyExclusive (SqlModel.locked view)
            ((Sections.mk db []).run (SqlModel.lockCall run blocked) (moves.take n))) := by
  constructor
  · intro L moves empty follows n
    have free : ∀ sl, sl ∉ L.locks := by simp [empty]
    exact LocalStore.lockCalls.exclusive_take free follows (fun _ _ => trivial) n
  · intro σ run view hd blocked db moves empty follows times n
    have free : ∀ sl, ¬ SqlModel.locked view db sl := by simp [SqlModel.locked, Assoc.get?, empty]
    exact (SqlModel.lockCalls hd blocked).exclusive_take free follows times n

/-- Two clients take turns on one lock of a fresh in-memory store, and two clients of a fresh
memory database ask for one lock: both runs follow the protocol. -/
theorem crate_locks_exclusive_of_turns :
    let sl : Slot := ⟨PlayerId.nil, "c"⟩
    let turns := [LockMove.acquire 0 sl 0, .acquire 1 sl 0, .release 0 sl 0, .acquire 1 sl 0]
    let asks := [LockMove.acquire 0 sl 0, .acquire 1 sl 0]
    let db : DbView := { stored := {} }
    (({} : LocalStore).locks = [] ∧ (Sections.mk ({} : LocalStore) []).Follows LocalStore.lockCall turns ∧
      ∀ n, MutuallyExclusive (fun L sl => sl ∈ L.locks)
        ((Sections.mk ({} : LocalStore) []).run LocalStore.lockCall (turns.take n))) ∧
    (db.stored.locks = [] ∧
      (Sections.mk db []).Follows (SqlModel.lockCall MemoryDatabase.run fun _ => none) asks ∧
      (∀ m ∈ asks, InI64 m.now) ∧ ∀ n, MutuallyExclusive (SqlModel.locked id)
        ((Sections.mk db []).run (SqlModel.lockCall MemoryDatabase.run fun _ => none) (asks.take n))) := by
  intro sl turns asks db
  have empty : ({} : LocalStore).locks = [] := rfl
  have follows : (Sections.mk ({} : LocalStore) []).Follows LocalStore.lockCall turns :=
    ⟨trivial, trivial, by simp only [Sections.Allowed]; decide, trivial, trivial⟩
  have emptyDb : db.stored.locks = [] := rfl
  have asked : (Sections.mk db []).Follows (SqlModel.lockCall MemoryDatabase.run fun _ => none) asks :=
    ⟨trivial, trivial, trivial⟩
  have times : ∀ m ∈ asks, InI64 m.now := by decide
  exact ⟨⟨empty, follows, crate_locks_exclusive.1 _ turns empty follows⟩,
    ⟨emptyDb, asked, times, crate_locks_exclusive.2 MemoryDatabase.run id MemoryDatabase.documented
      (fun _ => none) db asks emptyDb asked times⟩⟩

end CrateState
