import CrateState.Proofs.Breaker
import CrateState.Proofs.Mirror
import CrateState.Migration

/-!
# Stores built from stores

A store is an in-memory store, a SQL store, or a breaker over two such stores (`Backend`).
Built as a tree, no two of its stores share an underlying store, and those under a breaker
are reached only through it.

`Backend.step` answers a call as each kind does: `LocalStore.handle`, `SqlModel.step`, and
for a breaker `Breaker.route` over its two stores, written out so the step recurses on the
tree (`step_fallback` proves it is `Breaker.route`). A breaker reports the name and history
support of the store it serves, as a fleet does.

A store is *reachable* when fresh, or reached from a reachable store by a call whose values
fit where its stores write them (`Fits`): times in 64 bits, amounts in 32, and for a SQL
store each summed balance and the next reward id in 64 bits. A fresh SQL store may never get
a connection; whether it does never changes.
-/

namespace CrateState

open Relational

/-- The values a call binds fit the columns of tables `st`: the sum it makes of a balance
and the id it gives a queued reward fit 64 bits, and an import fits as `ImportFits` says. -/
def Stored.Fits (st : Stored) : Call → Prop
  | .addKeys p c n => InI64 ((Assoc.get? st.keys (p.render, c)).getD 0 + n)
  | .queueReward .. => InI64 (st.lastPending + 1)
  | .import snap => st.ImportFits snap
  | _ => True

/-- A store: in memory, over SQL on a database whose state is `σ`, or a breaker over a
primary and a secondary store. -/
inductive Backend (σ : Type) where
  /-- An in-memory store. -/
  | memory (L : LocalStore)
  /-- A SQL store. -/
  | sql (s : SqlModel σ)
  /-- A breaker over two stores. -/
  | fallback (b : Breaker) (primary secondary : Backend σ)

namespace Backend

variable {σ : Type} (run : Command → Conn σ (Relation × Nat)) (now : Int)

/-- Answers a call at time `now`. A tripped breaker passes it to the secondary; a closed one
to the primary and, when the primary's answer trips it, to the secondary as well. -/
def step : Backend σ → (c : Call) → Reply c × Backend σ
  | .memory L, c => ((L.handle now c).1, .memory (L.handle now c).2)
  | .sql s, c => ((s.step run now c).1, .sql (s.step run now c).2)
  | .fallback b p q, c =>
    if b.tripped then (Breaker.absorb c (q.step c).1, .fallback b p (q.step c).2)
    else if Breaker.trips c (p.step c).1 then
      (Breaker.absorb c (q.step c).1, .fallback ⟨true⟩ (p.step c).2 (q.step c).2)
    else (Breaker.absorb c (p.step c).1, .fallback b (p.step c).2 q)

def machine : Machine (Backend σ) := fun c B => B.step run now c

/-- **A breaker's step is `Breaker.route`** over its two stores, run on the pair of them. -/
theorem step_fallback (b : Breaker) (p q : Backend σ) (c : Call) :
    (fallback b p q).step run now c =
      let ((r, b'), (p', q')) :=
        (b.route (machine run now).onLeft (machine run now).onRight c).run (p, q)
      (r, fallback b' p' q') := by
  have route := Breaker.machine_step (machine run now) (machine run now) b c p q
  rcases h : (b.route (machine run now).onLeft (machine run now).onRight c).run (p, q) with
    ⟨⟨r, b'⟩, p', q'⟩
  simp only [Breaker.machine, h] at route
  -- the three cases of `machine_step`, each read off the route's result
  by_cases hb : b.tripped
  · simp only [hb, if_true, machine, Prod.mk.injEq] at route
    obtain ⟨rfl, rfl, rfl, rfl⟩ := route
    simp [step, hb]
  · by_cases ht : Breaker.trips c (p.step run now c).1
    · simp only [hb, ht, machine, Bool.false_eq_true, if_false, if_true, Prod.mk.injEq] at route
      obtain ⟨rfl, rfl, rfl, rfl⟩ := route
      simp [step, hb, ht]
    · simp only [hb, ht, machine, Bool.false_eq_true, if_false, Prod.mk.injEq] at route
      obtain ⟨rfl, rfl, rfl, rfl⟩ := route
      simp [step, hb, ht]

section Fallback

variable {b : Breaker} {p q : Backend σ} {c : Call}

theorem step_tripped (hb : b.tripped = true) :
    (fallback b p q).step run now c =
      (Breaker.absorb c (q.step run now c).1, fallback b p (q.step run now c).2) := by
  simp [step, hb]

theorem step_trips (hb : b.tripped = false) (ht : Breaker.trips c (p.step run now c).1 = true) :
    (fallback b p q).step run now c =
      (Breaker.absorb c (q.step run now c).1,
        fallback ⟨true⟩ (p.step run now c).2 (q.step run now c).2) := by
  simp [step, hb, ht]

theorem step_primary (hb : b.tripped = false) (ht : Breaker.trips c (p.step run now c).1 = false) :
    (fallback b p q).step run now c =
      (Breaker.absorb c (p.step run now c).1, fallback b (p.step run now c).2 q) := by
  simp [step, hb, ht]

theorem step_snapshot (b : Breaker) (p q : Backend σ) :
    (fallback b p q).step run now .snapshot =
      if b.tripped then ((q.step run now .snapshot).1, fallback b p (q.step run now .snapshot).2)
      else ((p.step run now .snapshot).1, fallback b (p.step run now .snapshot).2 q) := by
  cases hb : b.tripped
  · have never : Breaker.trips .snapshot (p.step run now .snapshot).1 = false := rfl
    simp only [step_primary run now hb never, Bool.false_eq_true, if_false]
    rfl
  · simp only [step_tripped run now hb, if_true]
    rfl

end Fallback

/-- The name a store reports: a breaker reports its active store's. -/
def name : Backend σ → String
  | .memory _ => LocalStore.name
  | .sql _ => SqlStore.name
  | .fallback b p q => if b.tripped then q.name else p.name

/-- Whether a store keeps history: a breaker answers for its active store. -/
def keepsHistory : Backend σ → Bool
  | .memory _ => false
  | .sql _ => true
  | .fallback b p q => if b.tripped then q.keepsHistory else p.keepsHistory

/-- A copy's access to the first of two stores. -/
def source : StoreAccess (StateM (Backend σ × Backend σ)) where
  call := (machine run now).onLeft
  name := do pure (← get).1.name

/-- A copy's access to the second of two stores. -/
def target : StoreAccess (StateM (Backend σ × Backend σ)) where
  call := (machine run now).onRight
  name := do pure (← get).2.name

variable {run now}

/-- What a caller can observe of a store: each SQL store's connection and tables, read
through `view`, and every breaker and in-memory store as it is. -/
def observe (view : σ → DbView) : Backend σ → Backend DbView
  | .memory L => .memory L
  | .sql s => .sql ⟨s.blocked, view s.db⟩
  | .fallback b p q => .fallback b (p.observe view) (q.observe view)

/-! ### Reachable stores -/

variable (view : σ → DbView)

/-- A call at time `now` fits every store under a store: its time and values fit their
columns, and those a SQL store sums or numbers fit its tables. -/
def Fits (now : Int) (c : Call) : Backend σ → Prop
  | .memory _ => InI64 now ∧ c.Typed
  | .sql s => InI64 now ∧ c.Typed ∧ ∀ st, view s.db = ⟨st, none⟩ → st.Fits c
  | .fallback _ p q => p.Fits now c ∧ q.Fits now c

/-- A fresh store: in-memory stores empty, SQL tables empty and no transaction open, and
every breaker closed. -/
def Fresh : Backend σ → Prop
  | .memory L => L = {}
  | .sql s => view s.db = ⟨{}, none⟩
  | .fallback b p q => b.tripped = false ∧ p.Fresh ∧ q.Fresh

variable (run)

/-- The stores reached from fresh ones by calls that fit them. -/
inductive Reachable : Backend σ → Prop
  /-- A fresh store. -/
  | fresh {B : Backend σ} : B.Fresh view → Reachable B
  /-- A store after a call that fits it. -/
  | step {B : Backend σ} (now : Int) (c : Call) :
    Reachable B → B.Fits view now c → Reachable (B.step run now c).2

end Backend

end CrateState
