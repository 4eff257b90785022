import CrateState.Proofs.Script
import CrateState.Proofs.Breaker

/-!
# Keys are conserved under any interleaving of key calls

Clients add keys to one balance and take keys from it through any number of pools on one
database. Each call is its script of statements (`SqlStore.addScript`,
`SqlStore.takeScript`, run by `SqlStore.step`), and the statements of calls in flight
interleave in any order, each atomic. A `Race` is the database, the calls in flight with
the row counts answered so far, and the returned calls with their answers; a `Move` makes a
call, refuses one at its pool, or sends a call's next statement.

The database is a parameter: `exec` runs a statement and answers its row count, `slot`
reads the balance's row, and `SlotRules` is what the database documents of these statements
on a balance held as a 64-bit integer.

The main result is `keys_conserved`. Its invariant `Race.Balanced` counts the keys takes in
flight hold: a take whose decrement ran holds one key until it commits. A delete runs only
on a row at zero, so no add is lost to it. Past `2 ^ 63` the sum turns into a real and
conservation fails: `conservation_fails_past_64_bits` adds one key to the largest integer
amount and takes it again, and the row ends as a real.
-/

namespace CrateState

open Relational

/-- A call on one balance. -/
inductive KeyCall where
  /-- Adds keys. -/
  | add (amount : Nat)
  /-- Takes one key. -/
  | take
  deriving DecidableEq

/-- A call in flight: the call, and the row counts its statements answered so far. -/
structure Flight where
  call : KeyCall
  /-- The row counts, oldest first. -/
  answers : List Nat
  deriving DecidableEq

/-- What happens next among the clients. -/
inductive Move where
  /-- A client makes a call. -/
  | call (k : KeyCall)
  /-- A client makes a call that its pool refuses before any statement: the pool is
  closed, or no connection came free in time. -/
  | refuse (k : KeyCall) (e : DriverError)
  /-- The `i`-th call in flight sends its next statement. -/
  | step (i : Nat)

/-- The clients and the database they share. -/
structure Race (σ : Type) where
  /-- The database. -/
  db : σ
  /-- The calls in flight. -/
  flights : List Flight
  /-- The calls that returned, with their answers, in the order they returned. -/
  returned : List Answered

section Schedule

variable (player : PlayerId) (crate : String)

/-- The store call a key call makes. -/
def KeyCall.call : KeyCall → Call
  | .add n => .addKeys player crate n
  | .take => .consumeKey player crate

def KeyCall.script : (k : KeyCall) → Script (k.call player crate).Answer
  | .add n => SqlStore.addScript player.render crate n
  | .take => SqlStore.takeScript player.render crate

/-- What is left to run of a call in flight. -/
def Flight.script (f : Flight) : Script (f.call.call player crate).Answer :=
  (f.call.script player crate).feed f.answers

variable {σ : Type} (exec : σ → Command → σ × Nat)

namespace Race

def init (db : σ) : Race σ := ⟨db, [], []⟩

/-- The `i`-th call in flight sends its next statement, which runs on the database and
answers its row count; the call returns as soon as its script is done. -/
def advance (r : Race σ) (i : Nat) : Race σ :=
  match r.flights[i]? with
  | none => r
  | some f =>
    match (f.script player crate).next? with
    | none => r
    | some c =>
      let f' : Flight := { f with answers := f.answers ++ [(exec r.db c).2] }
      match (f'.script player crate).result? with
      | some res =>
        { db := (exec r.db c).1, flights := r.flights.eraseIdx i,
          returned := r.returned ++ [⟨f.call.call player crate, res.mapError storeError⟩] }
      | none => { db := (exec r.db c).1, flights := r.flights.set i f', returned := r.returned }

/-- One move. A call to add nothing is answered at once, as the store answers it. -/
def move (r : Race σ) : Move → Race σ
  | .call (.add 0) =>
    { r with returned := r.returned ++
      [⟨.addKeys player crate 0, .error (.invalidInput "key amount must be positive")⟩] }
  | .call k => { r with flights := r.flights ++ [⟨k, []⟩] }
  | .refuse k e => { r with returned := r.returned ++ [⟨k.call player crate, .error (storeError e)⟩] }
  | .step i => r.advance player crate exec i

def run (r : Race σ) (moves : List Move) : Race σ :=
  moves.foldl (move player crate exec) r

end Race

end Schedule

/-! ### Counting keys -/

/-- The keys a returned call added: its amount, for an add that answered ok. -/
def Answered.added : Answered → Nat
  | ⟨.addKeys _ _ n, .ok _⟩ => n
  | _ => 0

/-- The keys a returned call took: one, for a take that answered `true`. -/
def Answered.taken : Answered → Nat
  | ⟨.consumeKey _ _, .ok true⟩ => 1
  | _ => 0

/-- The keys the returned calls added. -/
def keysAdded (log : List Answered) : Nat := (log.map Answered.added).sum

/-- The keys the returned calls took. -/
def keysTaken (log : List Answered) : Nat := (log.map Answered.taken).sum

/-- The keys an add in flight is to add. -/
def Flight.adding (f : Flight) : Nat :=
  match f.call with
  | .add n => n
  | .take => 0

/-- The key a take in flight holds: one, once its decrement changed a row. -/
def Flight.holding (f : Flight) : Nat :=
  match f.call, f.answers with
  | .take, _ :: t :: _ => if t = 0 then 0 else 1
  | _, _ => 0

/-- The keys the adds in flight are to add. -/
def keysAdding (flights : List Flight) : Nat := (flights.map Flight.adding).sum

/-- The keys the takes in flight hold. -/
def keysHeld (flights : List Flight) : Nat := (flights.map Flight.holding).sum

def Move.adding : Move → Nat
  | .call (.add n) => n
  | _ => 0

@[simp] theorem keysAdded_append (log : List Answered) (a : Answered) :
    keysAdded (log ++ [a]) = keysAdded log + a.added := by
  simp [keysAdded]

@[simp] theorem keysTaken_append (log : List Answered) (a : Answered) :
    keysTaken (log ++ [a]) = keysTaken log + a.taken := by
  simp [keysTaken]

@[simp] theorem keysAdding_append (flights : List Flight) (f : Flight) :
    keysAdding (flights ++ [f]) = keysAdding flights + f.adding := by
  simp [keysAdding]

@[simp] theorem keysHeld_append (flights : List Flight) (f : Flight) :
    keysHeld (flights ++ [f]) = keysHeld flights + f.holding := by
  simp [keysHeld]

theorem sum_eraseIdx_add {l : List Flight} {i : Nat} {f : Flight} (hi : l[i]? = some f)
    (g : Flight → Nat) : ((l.eraseIdx i).map g).sum + g f = (l.map g).sum := by
  have hm : (l.map g)[i]? = some (g f) := by simp [hi]
  obtain ⟨hlen, hget⟩ := List.getElem?_eq_some_iff.mp hm
  rw [← List.eraseIdx_map, ← hget, add_comm]
  exact List.add_sum_eraseIdx hlen fun _ _ => AddCommute.all _ _

theorem sum_set_add {l : List Flight} {i : Nat} {f : Flight} (hi : l[i]? = some f)
    (g : Flight → Nat) (f' : Flight) :
    ((l.set i f').map g).sum + g f = (l.map g).sum + g f' := by
  have hi' : (l.set i f')[i]? = some f' := by
    rw [List.getElem?_set_self]
    exact (List.getElem?_eq_some_iff.mp hi).1
  have hset := sum_eraseIdx_add hi' g
  rw [List.eraseIdx_set_eq] at hset
  rw [← sum_eraseIdx_add hi g, ← hset]
  omega

/-! ### The database on one balance -/

/-- The amount a balance row holds, no row counting as zero; `none` for a stored value that
is not an integer. -/
def amountOf : Option SqlValue → Option Int
  | none => some 0
  | some (.int v) => some v
  | some _ => none

/-- A row has an integer amount when it is missing (and the amount zero) or holds it. -/
theorem amountOf_eq_some {x : Option SqlValue} {v : Int} :
    amountOf x = some v ↔ (x = none ∧ v = 0) ∨ x = some (.int v) := by
  rcases x with _ | ((_ | w | _ | _ | _))
  · simp [amountOf, eq_comm]
  all_goals simp [amountOf]

section Rules

variable {σ : Type}

/-- What the database documents of the statements of key calls on one balance, while its
amount is a 64-bit integer. `slot` reads the balance's row: the stored amount, `none` when
there is no row. -/
structure SlotRules (exec : σ → Command → σ × Nat) (slot : σ → Option SqlValue)
    (player crate : String) : Prop where
  /-- The upsert of a missing row inserts the amount. -/
  insert : ∀ s (n : Nat), slot s = none → (n : Int) < 2 ^ 63 →
    slot (exec s (Tables.addKeys player crate n)).1 = some (.int n)
  /-- The upsert of a row adds the amount, while the sum fits 64 bits. -/
  update : ∀ s (v : Int) (n : Nat), slot s = some (.int v) → -2 ^ 63 ≤ v + n → v + n < 2 ^ 63 →
    slot (exec s (Tables.addKeys player crate n)).1 = some (.int (v + n))
  /-- The decrement of a positive amount changes its row. -/
  decrement : ∀ s (v : Int), slot s = some (.int v) → 0 < v → v < 2 ^ 63 →
    (exec s (Tables.takeKey player crate)).2 = 1 ∧
      slot (exec s (Tables.takeKey player crate)).1 = some (.int (v - 1))
  /-- The decrement changes no row holding zero or less. -/
  decrement_nonpositive : ∀ s (v : Int), slot s = some (.int v) → v ≤ 0 →
    (exec s (Tables.takeKey player crate)).2 = 0 ∧
      slot (exec s (Tables.takeKey player crate)).1 = slot s
  /-- The decrement finds no missing row. -/
  decrement_missing : ∀ s, slot s = none →
    (exec s (Tables.takeKey player crate)).2 = 0 ∧
      slot (exec s (Tables.takeKey player crate)).1 = none
  /-- The delete removes a row holding zero or less. -/
  delete : ∀ s (v : Int), slot s = some (.int v) → v ≤ 0 →
    slot (exec s (Tables.dropEmpty player crate)).1 = none
  /-- The delete keeps a row holding a positive amount. -/
  delete_positive : ∀ s (v : Int), slot s = some (.int v) → 0 < v →
    slot (exec s (Tables.dropEmpty player crate)).1 = slot s
  /-- The delete finds no missing row. -/
  delete_missing : ∀ s, slot s = none → slot (exec s (Tables.dropEmpty player crate)).1 = none
  /-- Beginning, committing and rolling back change no row: every statement takes effect
  when it runs, and the rollback of a take follows a decrement that changed no row. -/
  control : ∀ s (sql : String), sql = "BEGIN" ∨ sql = "COMMIT" ∨ sql = "ROLLBACK" →
    slot (exec s ⟨sql, []⟩).1 = slot s

end Rules

/-! ### Where a call in flight stands -/

/-- The points of its script a call in flight can stand at. -/
inductive Phase : Flight → Prop where
  /-- An add of a positive amount, before its upsert. -/
  | adding {n : Nat} (h : n ≠ 0) : Phase ⟨.add n, []⟩
  /-- A take before its transaction begins. -/
  | opening : Phase ⟨.take, []⟩
  /-- A take inside its transaction, before the decrement. -/
  | deciding (b : Nat) : Phase ⟨.take, [b]⟩
  /-- A take whose decrement changed no row, before the rollback. -/
  | declining (b : Nat) : Phase ⟨.take, [b, 0]⟩
  /-- A take whose decrement changed a row, before the delete. -/
  | clearing (b t : Nat) : Phase ⟨.take, [b, t + 1]⟩
  /-- A take past its delete, before the commit. -/
  | committing (b t d : Nat) : Phase ⟨.take, [b, t + 1, d]⟩

/-! ### The invariant -/

section Invariant

variable {σ : Type} (player : PlayerId) (crate : String) (exec : σ → Command → σ × Nat)
  (slot : σ → Option SqlValue)

/-- The keys the row holds by the books: those there were and were added, less those taken
or held. -/
def Race.stock (a : Nat) (r : Race σ) : Nat :=
  a + keysAdded r.returned - (keysTaken r.returned + keysHeld r.flights)

/-- What every reachable race keeps, from a starting amount `a`, while the moves still to
come may add `budget` more keys. -/
structure Race.Balanced (a budget : Nat) (r : Race σ) : Prop where
  /-- Every call in flight stands at a point of its script. -/
  phases : ∀ f ∈ r.flights, Phase f
  /-- The keys taken or held never exceed the keys there were. -/
  covered : keysTaken r.returned + keysHeld r.flights ≤ a + keysAdded r.returned
  /-- The row holds the keys by the books. -/
  amount : amountOf (slot r.db) = some (r.stock a : Int)
  /-- All the keys there can ever be fit 64 bits. -/
  fits : a + keysAdded r.returned + keysAdding r.flights + budget < 2 ^ 63

/-- A call in flight that goes on after its statement: the database moves, the call stays
where it was with one more answer. -/
theorem Race.advance_resume {r : Race σ} {i : Nat} {f : Flight} {c : Command}
    (hi : r.flights[i]? = some f) (hc : (f.script player crate).next? = some c)
    (hr : ({ f with answers := f.answers ++ [(exec r.db c).2] }.script player crate).result? =
      none) :
    r.advance player crate exec i =
      ⟨(exec r.db c).1, r.flights.set i { f with answers := f.answers ++ [(exec r.db c).2] },
        r.returned⟩ := by
  simp only [Race.advance, hi, hc, hr]

/-- A call in flight whose script is done after its statement returns with the script's
answer. -/
theorem Race.advance_finish {r : Race σ} {i : Nat} {f : Flight} {c : Command}
    {res : Except DriverError (f.call.call player crate).Answer}
    (hi : r.flights[i]? = some f) (hc : (f.script player crate).next? = some c)
    (hr : ({ f with answers := f.answers ++ [(exec r.db c).2] }.script player crate).result? =
      some res) :
    r.advance player crate exec i =
      ⟨(exec r.db c).1, r.flights.eraseIdx i,
        r.returned ++ [⟨f.call.call player crate, res.mapError storeError⟩]⟩ := by
  simp only [Race.advance, hi, hc, hr]

variable {player crate exec slot}

/-- A call in flight may move on to a new point of its script when the row moves by the
keys the call holds less than before. -/
theorem Race.Balanced.resume {a budget : Nat} {r : Race σ} (h : r.Balanced slot a budget)
    {i : Nat} {f : Flight} (hi : r.flights[i]? = some f) (f' : Flight) (hcall : f'.call = f.call)
    (hf' : Phase f') {db : σ}
    (hcov : keysTaken r.returned + keysHeld r.flights + f'.holding ≤
      a + keysAdded r.returned + f.holding)
    (hdb : amountOf (slot db) = some ((r.stock a : Int) + f.holding - f'.holding)) :
    Race.Balanced slot a budget ⟨db, r.flights.set i f', r.returned⟩ := by
  have held := sum_set_add hi Flight.holding f'
  have adding := sum_set_add hi Flight.adding f'
  have same : f'.adding = f.adding := by simp only [Flight.adding, hcall]
  have covered := h.covered
  have fits := h.fits
  simp only [keysHeld, keysAdding] at held adding covered fits hcov
  refine ⟨?_, ?_, ?_, ?_⟩
  · intro g hg
    rcases List.mem_or_eq_of_mem_set hg with hg | rfl
    · exact h.phases g hg
    · exact hf'
  · simp only [keysHeld]
    omega
  · rw [hdb, Race.stock, Race.stock]
    congr 1
    simp only [keysHeld]
    omega
  · simp only [keysAdding]
    omega

/-- A call in flight may return when the answer takes the keys the call held and adds the
keys it was to add, and the row moves by the keys it adds. -/
theorem Race.Balanced.finish {a budget : Nat} {r : Race σ} (h : r.Balanced slot a budget)
    {i : Nat} {f : Flight} (hi : r.flights[i]? = some f) {x : Answered}
    (htaken : x.taken = f.holding) (hadded : x.added = f.adding) {db : σ}
    (hdb : amountOf (slot db) = some ((r.stock a : Int) + f.adding)) :
    Race.Balanced slot a budget ⟨db, r.flights.eraseIdx i, r.returned ++ [x]⟩ := by
  have held := sum_eraseIdx_add hi Flight.holding
  have adding := sum_eraseIdx_add hi Flight.adding
  have covered := h.covered
  have fits := h.fits
  simp only [keysHeld, keysAdding] at held adding covered fits
  refine ⟨fun g hg => h.phases g (List.mem_of_mem_eraseIdx hg), ?_, ?_, ?_⟩
  · simp only [keysAdded_append, keysTaken_append, keysHeld]
    omega
  · rw [hdb, Race.stock, Race.stock]
    congr 1
    simp only [keysAdded_append, keysTaken_append, keysHeld]
    omega
  · simp only [keysAdded_append, keysAdding]
    omega

end Invariant

/-! ### The scripts, point by point -/

section Points

variable (player : PlayerId) (crate : String) (n m b t d x : Nat)

theorem add_sends_upsert :
    (Flight.script player crate ⟨.add n, []⟩).next? =
      some (Tables.addKeys player.render crate n) := rfl

theorem add_done : (Flight.script player crate ⟨.add n, [m]⟩).result? = some (.ok ()) := rfl

theorem take_sends_begin : (Flight.script player crate ⟨.take, []⟩).next? =
    some ⟨"BEGIN", []⟩ := rfl

theorem take_begun : (Flight.script player crate ⟨.take, [b]⟩).result? = none := rfl

theorem take_sends_decrement : (Flight.script player crate ⟨.take, [b]⟩).next? =
    some (Tables.takeKey player.render crate) := rfl

theorem take_decided : (Flight.script player crate ⟨.take, [b, t]⟩).result? = none := by
  cases t <;> rfl

theorem take_sends_rollback : (Flight.script player crate ⟨.take, [b, 0]⟩).next? =
    some ⟨"ROLLBACK", []⟩ := rfl

theorem take_declined :
    (Flight.script player crate ⟨.take, [b, 0, x]⟩).result? = some (.ok false) := rfl

theorem take_sends_delete : (Flight.script player crate ⟨.take, [b, t + 1]⟩).next? =
    some (Tables.dropEmpty player.render crate) := rfl

theorem take_cleared : (Flight.script player crate ⟨.take, [b, t + 1, d]⟩).result? = none := rfl

theorem take_sends_commit : (Flight.script player crate ⟨.take, [b, t + 1, d]⟩).next? =
    some ⟨"COMMIT", []⟩ := rfl

theorem take_committed :
    (Flight.script player crate ⟨.take, [b, t + 1, d, x]⟩).result? = some (.ok true) := rfl

end Points

/-! ### One statement keeps the books -/

section Step

variable {σ : Type} {player : PlayerId} {crate : String} {exec : σ → Command → σ × Nat}
  {slot : σ → Option SqlValue} {a budget : Nat} {r : Race σ} {i : Nat}

/-- An add's upsert puts its amount on the row, which stays within 64 bits since the amount
was counted in. -/
theorem Race.Balanced.advance_adding (rules : SlotRules exec slot player.render crate)
    (h : r.Balanced slot a budget) {n : Nat} (hi : r.flights[i]? = some ⟨.add n, []⟩) :
    (r.advance player crate exec i).Balanced slot a budget := by
  rw [Race.advance_finish player crate exec hi (add_sends_upsert player crate n)
    (add_done player crate n _)]
  have rest := sum_eraseIdx_add hi Flight.adding
  have fits := h.fits
  have covered := h.covered
  simp only [keysAdding, Flight.adding] at rest fits
  have below : (r.stock a : Int) + n < 2 ^ 63 := by
    simp only [Race.stock]
    omega
  refine h.finish hi rfl rfl ?_
  rcases amountOf_eq_some.mp h.amount with ⟨missing, zero⟩ | row
  · rw [rules.insert _ n missing (by omega), zero]
    simp [amountOf, Flight.adding]
  · rw [rules.update _ _ n row (by omega) below]
    rfl

theorem Race.Balanced.advance_opening (rules : SlotRules exec slot player.render crate)
    (h : r.Balanced slot a budget) (hi : r.flights[i]? = some ⟨.take, []⟩) :
    (r.advance player crate exec i).Balanced slot a budget := by
  rw [Race.advance_resume player crate exec hi (take_sends_begin player crate)
    (take_begun player crate _)]
  refine h.resume hi ⟨.take, [_]⟩ rfl (.deciding _) (by simp [Flight.holding, h.covered]) ?_
  rw [rules.control _ _ (.inl rfl), h.amount]
  simp [Flight.holding]

/-- A take's decrement either finds a positive amount, takes one key off the row and holds
it, or finds none and changes nothing. -/
theorem Race.Balanced.advance_deciding (rules : SlotRules exec slot player.render crate)
    (h : r.Balanced slot a budget) {b : Nat} (hi : r.flights[i]? = some ⟨.take, [b]⟩) :
    (r.advance player crate exec i).Balanced slot a budget := by
  rw [Race.advance_resume player crate exec hi (take_sends_decrement player crate b)
    (take_decided player crate b _)]
  have fits := h.fits
  have covered := h.covered
  by_cases positive : 0 < r.stock a
  -- a positive amount is a stored integer, and the decrement takes one key off it
  · have row : slot r.db = some (.int (r.stock a)) := by
      rcases amountOf_eq_some.mp h.amount with ⟨-, zero⟩ | row
      · omega
      · exact row
    have below : (r.stock a : Int) < 2 ^ 63 := by
      simp only [Race.stock]
      omega
    obtain ⟨one, after⟩ := rules.decrement _ _ row (by omega) below
    simp only [List.cons_append, List.nil_append, one]
    refine h.resume hi ⟨.take, [b, 0 + 1]⟩ rfl (.clearing b 0) ?_ ?_
    · simp only [Race.stock] at positive
      simp only [Flight.holding, Nat.add_one_ne_zero, if_false]
      omega
    · rw [after]
      simp [amountOf, Flight.holding]
  -- no key to take: the row is missing or at zero, and stays so
  · have zero : r.stock a = 0 := by omega
    have unchanged : (exec r.db (Tables.takeKey player.render crate)).2 = 0 ∧
        slot (exec r.db (Tables.takeKey player.render crate)).1 = slot r.db := by
      rcases amountOf_eq_some.mp h.amount with ⟨missing, -⟩ | row
      · rw [missing]
        exact rules.decrement_missing _ missing
      · exact rules.decrement_nonpositive _ _ row (by omega)
    simp only [List.cons_append, List.nil_append, unchanged.1]
    refine h.resume hi ⟨.take, [b, 0]⟩ rfl (.declining b) (by simp [Flight.holding, covered]) ?_
    rw [unchanged.2, h.amount]
    simp [Flight.holding]

theorem Race.Balanced.advance_declining (rules : SlotRules exec slot player.render crate)
    (h : r.Balanced slot a budget) {b : Nat} (hi : r.flights[i]? = some ⟨.take, [b, 0]⟩) :
    (r.advance player crate exec i).Balanced slot a budget := by
  rw [Race.advance_finish player crate exec hi (take_sends_rollback player crate b)
    (take_declined player crate b _)]
  refine h.finish hi rfl rfl ?_
  rw [rules.control _ _ (.inr (.inr rfl)), h.amount]
  simp [Flight.adding]

/-- A take's delete removes the row only at zero, where a missing row counts the same, and
leaves a positive amount alone: an add that came in since the decrement stays. -/
theorem Race.Balanced.advance_clearing (rules : SlotRules exec slot player.render crate)
    (h : r.Balanced slot a budget) {b t : Nat}
    (hi : r.flights[i]? = some ⟨.take, [b, t + 1]⟩) :
    (r.advance player crate exec i).Balanced slot a budget := by
  rw [Race.advance_resume player crate exec hi (take_sends_delete player crate b t)
    (take_cleared player crate b t _)]
  refine h.resume hi ⟨.take, [b, t + 1, _]⟩ rfl (.committing b t _)
    (by simp [Flight.holding, h.covered]) ?_
  have same : amountOf (slot (exec r.db (Tables.dropEmpty player.render crate)).1) =
      amountOf (slot r.db) := by
    rcases amountOf_eq_some.mp h.amount with ⟨missing, -⟩ | row
    · rw [rules.delete_missing _ missing, missing]
    · by_cases positive : 0 < (r.stock a : Int)
      · rw [rules.delete_positive _ _ row positive]
      · rw [rules.delete _ _ row (by omega), row]
        simp only [amountOf]
        congr 1
        omega
  rw [same, h.amount]
  simp [Flight.holding]

theorem Race.Balanced.advance_committing (rules : SlotRules exec slot player.render crate)
    (h : r.Balanced slot a budget) {b t d : Nat}
    (hi : r.flights[i]? = some ⟨.take, [b, t + 1, d]⟩) :
    (r.advance player crate exec i).Balanced slot a budget := by
  rw [Race.advance_finish player crate exec hi (take_sends_commit player crate b t d)
    (take_committed player crate b t d _)]
  refine h.finish hi rfl rfl ?_
  rw [rules.control _ _ (.inr (.inl rfl)), h.amount]
  simp [Flight.adding]

theorem Race.Balanced.advance (rules : SlotRules exec slot player.render crate)
    (h : r.Balanced slot a budget) (i : Nat) :
    (r.advance player crate exec i).Balanced slot a budget := by
  cases hi : r.flights[i]? with
  | none =>
    simp only [Race.advance, hi]
    exact h
  | some f =>
    -- the call stands at a point of its script, and each point is a case of its own
    cases h.phases f (List.mem_of_getElem? hi) with
    | adding _ => exact h.advance_adding rules hi
    | opening => exact h.advance_opening rules hi
    | deciding b => exact h.advance_deciding rules hi
    | declining b => exact h.advance_declining rules hi
    | clearing b t => exact h.advance_clearing rules hi
    | committing b t d => exact h.advance_committing rules hi

end Step

/-! ### Every run keeps the books -/

section Run

variable {σ : Type} {player : PlayerId} {crate : String} {exec : σ → Command → σ × Nat}
  {slot : σ → Option SqlValue} {a budget : Nat} {r : Race σ}

theorem Race.Balanced.of_le {more : Nat} (h : r.Balanced slot a more) (le : budget ≤ more) :
    r.Balanced slot a budget :=
  ⟨h.phases, h.covered, h.amount, by have := h.fits; omega⟩

theorem Race.Balanced.answer_error (h : r.Balanced slot a budget) {x : Answered}
    (added : x.added = 0) (taken : x.taken = 0) :
    Race.Balanced slot a budget { r with returned := r.returned ++ [x] } := by
  have covered := h.covered
  have fits := h.fits
  refine ⟨h.phases, ?_, ?_, ?_⟩
  · simp only [keysAdded_append, keysTaken_append, added, taken]
    omega
  · rw [h.amount]
    simp [Race.stock, added, taken]
  · simp only [keysAdded_append, added]
    omega

theorem Race.Balanced.join {f : Flight} (h : r.Balanced slot a (f.adding + budget))
    (phase : Phase f) (holds : f.holding = 0) :
    Race.Balanced slot a budget { r with flights := r.flights ++ [f] } := by
  have covered := h.covered
  have fits := h.fits
  refine ⟨?_, ?_, ?_, ?_⟩
  · intro g hg
    rcases List.mem_append.mp hg with hg | hg
    · exact h.phases g hg
    · rw [List.mem_singleton.mp hg]
      exact phase
  · simp only [keysHeld_append, holds]
    omega
  · rw [h.amount]
    simp [Race.stock, holds]
  · simp only [keysAdding_append]
    omega

theorem Race.Balanced.move (rules : SlotRules exec slot player.render crate) {m : Move}
    (h : r.Balanced slot a (m.adding + budget)) :
    (r.move player crate exec m).Balanced slot a budget := by
  cases m with
  | call k =>
    cases k with
    | add n =>
      cases n with
      | zero => exact (h.of_le (by simp [Move.adding])).answer_error rfl rfl
      | succ n => exact h.join (.adding (Nat.add_one_ne_zero n)) rfl
    | take => exact h.join .opening rfl
  | refuse k e =>
    cases k <;> exact (h.of_le (by simp [Move.adding])).answer_error rfl rfl
  | step i => exact (h.of_le (by simp [Move.adding])).advance rules i

theorem Race.Balanced.run (rules : SlotRules exec slot player.render crate)
    (moves : List Move) (h : r.Balanced slot a ((moves.map Move.adding).sum + budget)) :
    (r.run player crate exec moves).Balanced slot a budget := by
  induction moves generalizing r with
  | nil => simpa [Race.run] using h
  | cons m ms ih =>
    have h' : r.Balanced slot a (m.adding + ((ms.map Move.adding).sum + budget)) := by
      simpa [Nat.add_assoc] using h
    exact ih (h'.move rules)

theorem Race.Balanced.init {db : σ} (start : amountOf (slot db) = some a)
    (fits : a + budget < 2 ^ 63) : (Race.init db).Balanced slot a budget := by
  refine ⟨by simp [Race.init], by simp [Race.init, keysTaken, keysHeld], ?_, ?_⟩
  · simp [Race.init, Race.stock, keysAdded, keysTaken, keysHeld, start]
  · simpa [Race.init, keysAdded, keysAdding] using fits

end Run

/-! ### A database of one balance -/

/-- The amount of one balance row as the database stores it: an integer, or a real once a
sum left the 64-bit range, where `real v` is the double nearest to the integer `v`. -/
inductive Cell where
  /-- A 64-bit integer. -/
  | int (v : Int)
  /-- A double. -/
  | real (v : Int)
  deriving DecidableEq

namespace Cell

/-- The stored value. -/
def value : Cell → SqlValue
  | int v => .int v
  | real v => .real (Float.ofInt v)

/-- Adds an integer as the database's `+` does: exactly while the sum fits 64 bits, as a
real beyond. -/
def add : Cell → Int → Cell
  | int v, n => if -2 ^ 63 ≤ v + n ∧ v + n < 2 ^ 63 then int (v + n) else real (v + n)
  | real v, n => real (v + n)

/-- Whether the amount is above zero. -/
def positive : Cell → Bool
  | int v | real v => decide (0 < v)

def slot (s : Option Cell) : Option SqlValue := s.map value

/-- Runs a statement of a key call on the row: the upsert adds its amount, inserting the
row when it is missing; the decrement takes one from a positive amount; the delete removes
an amount at zero or below. Any other statement changes nothing. -/
def exec (s : Option Cell) (c : Command) : Option Cell × Nat :=
  if c.sql = (Tables.addKeys "" "" 0).sql then
    match c.params with
    | [_, _, .int n] => (some ((s.map (·.add n)).getD (int n)), 1)
    | _ => (s, 0)
  else if c.sql = (Tables.takeKey "" "").sql then
    match s with
    | some v => if v.positive then (some (v.add (-1)), 1) else (s, 0)
    | none => (none, 0)
  else if c.sql = (Tables.dropEmpty "" "").sql then
    match s with
    | some v => if v.positive then (s, 0) else (none, 1)
    | none => (none, 0)
  else (s, 0)

theorem add_int {v n : Int} (low : -2 ^ 63 ≤ v + n) (high : v + n < 2 ^ 63) :
    (int v).add n = int (v + n) :=
  if_pos ⟨low, high⟩

theorem slot_eq_none {s : Option Cell} : slot s = none ↔ s = none := by
  simp [slot]

theorem slot_eq_int {s : Option Cell} {v : Int} : slot s = some (.int v) ↔ s = some (int v) := by
  rcases s with _ | (w | w) <;> simp [slot, value]

theorem exec_rules (player crate : String) : SlotRules exec slot player crate where
  insert s n missing _ := by
    rw [slot_eq_none.mp missing]
    simp [exec, Tables.addKeys, slot, value]
  update s v n row low high := by
    rw [slot_eq_int.mp row]
    simp [exec, Tables.addKeys, slot, value, add_int low high]
  decrement s v row positive below := by
    have taken : (int v).add (-1) = int (v + -1) := add_int (by omega) (by omega)
    rw [slot_eq_int.mp row, Int.sub_eq_add_neg]
    simp [exec, Tables.addKeys, Tables.takeKey, slot, value, Cell.positive, positive, taken]
  decrement_nonpositive s v row nonpositive := by
    rw [slot_eq_int.mp row]
    have : ¬ 0 < v := by omega
    simp [exec, Tables.addKeys, Tables.takeKey, Cell.positive, this]
  decrement_missing s missing := by
    rw [slot_eq_none.mp missing]
    simp [exec, Tables.addKeys, Tables.takeKey, slot]
  delete s v row nonpositive := by
    rw [slot_eq_int.mp row]
    have : ¬ 0 < v := by omega
    simp [exec, Tables.addKeys, Tables.takeKey, Tables.dropEmpty, Cell.positive, this, slot]
  delete_positive s v row positive := by
    rw [slot_eq_int.mp row]
    simp [exec, Tables.addKeys, Tables.takeKey, Tables.dropEmpty, Cell.positive, positive]
  delete_missing s missing := by
    rw [slot_eq_none.mp missing]
    simp [exec, Tables.addKeys, Tables.takeKey, Tables.dropEmpty, slot]
  control s sql text := by
    rcases text with rfl | rfl | rfl <;>
      simp [exec, Tables.addKeys, Tables.takeKey, Tables.dropEmpty]

end Cell

/-! ### Conservation -/

section Conservation

variable {σ : Type} (player : PlayerId) (crate : String) (exec : σ → Command → σ × Nat)
  (slot : σ → Option SqlValue)

/-- **Keys are conserved under any interleaving of key calls.** Start from a balance of `a`
keys and make any moves, while `a` and the amounts of all adds stay below `2 ^ 63`. The
balance is always a nonnegative integer; whenever no call is in flight it is `a` plus the
amounts of the adds that answered ok, less the takes that answered `true`; and the takes
that answered `true` are never more than `a` plus those amounts. -/
theorem keys_conserved (rules : SlotRules exec slot player.render crate) {a : Nat} {db : σ}
    (start : amountOf (slot db) = some a) (moves : List Move)
    (bound : a + (moves.map Move.adding).sum < 2 ^ 63) :
    let r := (Race.init db).run player crate exec moves
    (∃ v : Nat, amountOf (slot r.db) = some v) ∧
      (r.flights = [] →
        amountOf (slot r.db) = some ((a : Int) + keysAdded r.returned - keysTaken r.returned)) ∧
      keysTaken r.returned ≤ a + keysAdded r.returned := by
  intro r
  have h : r.Balanced slot a 0 :=
    Race.Balanced.run rules moves (Race.Balanced.init start (by simpa using bound))
  have covered := h.covered
  refine ⟨⟨_, h.amount⟩, fun quiet => ?_, by omega⟩
  -- with no call in flight no key is held
  have none_held : keysHeld r.flights = 0 := by simp [quiet, keysHeld]
  rw [h.amount, Race.stock, none_held]
  congr 1
  omega

/-- From one key, a take decrements to zero, an add of five lands before the take's delete,
the delete finds five and keeps the row, and the take commits. -/
theorem keys_conserved_add_inside_take :
    let moves : List Move :=
      [.call .take, .step 0, .step 0, .call (.add 5), .step 1, .step 0, .step 0]
    SlotRules Cell.exec Cell.slot PlayerId.nil.render "c" ∧
      amountOf (Cell.slot (some (.int 1))) = some ((1 : Nat) : Int) ∧
      1 + (moves.map Move.adding).sum < 2 ^ 63 ∧
      let r := (Race.init (some (Cell.int 1))).run PlayerId.nil "c" Cell.exec moves
      (∃ v : Nat, amountOf (Cell.slot r.db) = some v) ∧
        (r.flights = [] → amountOf (Cell.slot r.db) =
          some (((1 : Nat) : Int) + keysAdded r.returned - keysTaken r.returned)) ∧
        keysTaken r.returned ≤ 1 + keysAdded r.returned :=
  ⟨Cell.exec_rules _ _, rfl, by decide,
    keys_conserved PlayerId.nil "c" Cell.exec Cell.slot (Cell.exec_rules _ _) rfl _ (by decide)⟩

example : ((Race.init (some (Cell.int 1))).run PlayerId.nil "c" Cell.exec
    [.call .take, .step 0, .step 0, .call (.add 5), .step 1, .step 0, .step 0]).db =
    some (.int 5) := by
  decide +kernel

/-- Past 64 bits the books no longer balance: one key added to the largest integer amount
and taken again leaves a real on the row, with no call in flight. -/
theorem conservation_fails_past_64_bits :
    SlotRules Cell.exec Cell.slot PlayerId.nil.render "c" ∧
      let r := (Race.init (some (Cell.int (2 ^ 63 - 1)))).run PlayerId.nil "c" Cell.exec
        [.call (.add 1), .step 0, .call .take, .step 0, .step 0, .step 0, .step 0]
      r.flights = [] ∧ keysAdded r.returned = 1 ∧ keysTaken r.returned = 1 ∧
        amountOf (Cell.slot r.db) ≠
          some ((2 ^ 63 - 1 : Int) + keysAdded r.returned - keysTaken r.returned) :=
  ⟨Cell.exec_rules _ _, by decide +kernel⟩

end Conservation

end CrateState
