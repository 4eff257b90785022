import CrateState.Proofs.MemoryDatabase

/-!
# Transactions whose statements fail

The SQL store takes a key, marks a reward delivered, clears and imports each in one
transaction (`Conn.transaction`). Each of these calls does all it documents or nothing,
over a database where any statement may fail.

`Fallible run view` is what the database guarantees when any statement may fail. `BEGIN`
opens a transaction or fails and changes nothing. Inside it, a statement that answers has
done its documented write (`Within`); one that fails leaves the transaction open on the
tables it found, or rolls it back to them (`Kept`). `COMMIT` keeps the tables or fails
likewise. `ROLLBACK` restores the tables the transaction found, and outside one changes
nothing: the rules of `Documented`, with room for every failure.
`Fallible.triple_transaction` is the transaction lemma; `transactional_calls_all_or_nothing`
applies it to the four calls.

The view is what the statements read of the six tables; the database may hold anything
else. A call of one statement runs outside a transaction, where a failing statement may
keep what it wrote, as a trigger raising `FAIL` after an insert does. `Raising` puts such a
trigger on any database and keeps every rule (`Fallible.raising`);
`set_cooldown_fails_after_writing` shows a cooldown written by a call that failed.
-/

namespace CrateState

open Relational

/-- A condition on how work ended that reads an answer with `ok` and a failure with
`failed`. -/
def Outcome {ε α : Type} (ok : α → DbView → Prop) (failed : DbView → Prop) :
    Except ε α → DbView → Prop
  | .ok a, V => ok a V
  | .error _, V => failed V

@[simp] theorem outcome_ok {ε α : Type} {ok : α → DbView → Prop} {failed : DbView → Prop} {a : α}
    {V : DbView} : Outcome (ε := ε) ok failed (.ok a) V = ok a V := rfl

@[simp] theorem outcome_error {ε α : Type} {ok : α → DbView → Prop} {failed : DbView → Prop}
    {e : ε} {V : DbView} : Outcome (α := α) ok failed (.error e) V = failed V := rfl

/-- Where a statement that failed inside a transaction begun on `st₀` may leave the
database: the transaction still open on the tables it found, whatever the statement wrote
before failing, or rolled back to them. -/
def Kept (st₀ : Stored) (V : DbView) : Prop :=
  V.saved = some st₀ ∨ V = ⟨st₀, none⟩

section Within

variable {σ α β : Type} (view : σ → DbView)

/-- Work inside a transaction begun on `st₀`, from tables `st`: when it answers, the
transaction is still open and `ok` accepts the answer and the tables; when it fails, the
transaction is kept or rolled back. -/
def Within (st₀ st : Stored) (work : Conn σ α) (ok : α → Stored → Prop) : Prop :=
  Conn.Triple view ⟨st, some st₀⟩ work
    (Outcome (fun a V => ∃ st', V = ⟨st', some st₀⟩ ∧ ok a st') (Kept st₀))

variable {view} {st₀ st : Stored}

theorem Within.mono {work : Conn σ α} {P Q : α → Stored → Prop} (h : Within view st₀ st work P)
    (weaker : ∀ a st', P a st' → Q a st') : Within view st₀ st work Q := by
  refine Conn.Triple.mono h ?_
  rintro (e | a) V hr
  · exact hr
  · obtain ⟨st', hV, hp⟩ := hr
    exact ⟨st', hV, weaker a st' hp⟩

theorem Within.pure {a : α} {P : α → Stored → Prop} (h : P a st) :
    Within view st₀ st (pure a) P :=
  Conn.triple_pure ⟨st, rfl, h⟩

/-- Work followed by more, inside one transaction: a failure of either part is a failure of
the whole, and keeps the transaction or rolls it back. -/
theorem Within.bind {x : Conn σ α} {f : α → Conn σ β} {P : α → Stored → Prop}
    {Q : β → Stored → Prop} (hx : Within view st₀ st x P)
    (hf : ∀ a st', P a st' → Within view st₀ st' (f a) Q) : Within view st₀ st (x >>= f) Q := by
  refine Conn.triple_bind hx ?_ fun _ _ kept => kept
  rintro a V ⟨st', rfl, hp⟩
  exact hf a st' hp

theorem Within.map {x : Conn σ α} {f : α → β} {Q : β → Stored → Prop}
    (hx : Within view st₀ st x fun a st' => Q (f a) st') : Within view st₀ st (f <$> x) Q := by
  refine Conn.triple_map (Conn.Triple.mono hx ?_)
  rintro (e | a) V hr
  · exact hr
  · exact hr

theorem Within.exec {run : Command → Conn σ (Relation × Nat)} {c : Command}
    {P : Relation × Nat → Stored → Prop} (h : Within view st₀ st (run c) P) :
    Within view st₀ st (Conn.exec run c) fun n st' => ∃ o, P o st' ∧ n = o.2 :=
  Within.bind h fun o _ hp => Within.pure ⟨o, hp, rfl⟩

theorem Within.query {run : Command → Conn σ (Relation × Nat)} {c : Command}
    {P : Relation × Nat → Stored → Prop} (h : Within view st₀ st (run c) P) :
    Within view st₀ st (Conn.query run c) fun rel st' => ∃ o, P o st' ∧ rel = o.1 :=
  Within.bind h fun o _ hp => Within.pure ⟨o, hp, rfl⟩

/-- **A loop inside a transaction** changes the tables by the fold of its steps when it
answers, as long as each step meets its condition; a failing step fails the loop. -/
theorem Within.forIn {γ : Type} (step : γ → Stored → Stored) (fits : γ → Stored → Prop)
    {body : γ → PUnit → Conn σ (ForInStep PUnit)}
    (hbody : ∀ x st, fits x st →
      Within view st₀ st (body x ⟨⟩) fun r st' => r = .yield ⟨⟩ ∧ st' = step x st)
    (l : List γ) (st : Stored) (hfit : StepsFit fits step l st) :
    Within view st₀ st (forIn l ⟨⟩ body) fun _ st' => st' = l.foldl (fun st x => step x st) st := by
  induction l generalizing st with
  | nil => exact Within.pure rfl
  | cons x l ih =>
    rw [List.forIn_cons]
    refine Within.bind (hbody x st hfit.1) ?_
    rintro _ st' ⟨rfl, rfl⟩
    exact ih _ hfit.2

end Within

/-! ### The rules of a database whose statements may fail -/

section Rules

variable {σ : Type} (run : Command → Conn σ (Relation × Nat)) (view : σ → DbView)

/-- What a database guarantees of the store's transactions when any statement may fail.
The writes and the read are those of taking a key, marking a reward delivered, clearing and
importing, each under the conditions `Documented` puts on it. -/
structure Fallible : Prop where
  /-- `BEGIN` outside a transaction opens one on the tables as they are, or fails and
  changes nothing. -/
  begin : ∀ st, Conn.Triple view ⟨st, none⟩ (run ⟨"BEGIN", []⟩)
    (Outcome (fun _ V => V = ⟨st, some st⟩) (· = ⟨st, none⟩))
  /-- `COMMIT` ends the transaction keeping its tables, or fails and keeps it or rolls it
  back. -/
  commit : ∀ st₀ st, Conn.Triple view ⟨st, some st₀⟩ (run ⟨"COMMIT", []⟩)
    (Outcome (fun _ V => V = ⟨st, none⟩) (Kept st₀))
  /-- `ROLLBACK` puts back the tables the transaction found, whatever it answers. -/
  rollback : ∀ st₀ st, Conn.Triple view ⟨st, some st₀⟩ (run ⟨"ROLLBACK", []⟩) fun _ V =>
    V = ⟨st₀, none⟩
  /-- `ROLLBACK` outside a transaction changes nothing. -/
  rollbackOutside : ∀ st, Conn.Triple view ⟨st, none⟩ (run ⟨"ROLLBACK", []⟩) fun _ V =>
    V = ⟨st, none⟩
  /-- The decrement of a positive balance. -/
  takeKey : ∀ st₀ st p c, Within view st₀ st (run (Tables.takeKey p c)) fun o st' =>
    o.2 = (st.takeKey p c).2 ∧ st' = (st.takeKey p c).1
  /-- The delete of a balance at zero or below. -/
  dropEmpty : ∀ st₀ st p c, Within view st₀ st (run (Tables.dropEmpty p c)) fun o st' =>
    o.2 = (st.dropEmpty p c).2 ∧ st' = (st.dropEmpty p c).1
  /-- The id of the first waiting reward that matches. -/
  firstWaiting : ∀ st₀ st p c r, Within view st₀ st (run (Tables.firstWaiting p c r))
    fun o st' => st' = st ∧ o.1.columns.map ColumnInfo.name = ["id"] ∧
      o.1.rows = ((st.pending.find? (Stored.matching p c r)).map fun row =>
        [SqlValue.int row.id]).toList
  /-- A waiting reward marked delivered. -/
  markRow : ∀ st₀ st id, Within view st₀ st (run (Tables.markRow id)) fun o st' =>
    o.2 = (st.markRow id).2 ∧ st' = (st.markRow id).1
  /-- A delivery appended. -/
  logDelivery : ∀ st₀ st p c r t, InI64 t →
    Within view st₀ st (run (Tables.logDelivery p c r t)) fun _ st' =>
      st' = st.logDelivery p c r t
  /-- A table emptied. -/
  clearTable : ∀ st₀ st t, t ∈ Tables.all →
    Within view st₀ st (run (Tables.clearTable t)) fun _ st' => st' = st.clearTable t
  /-- The cooldown upsert. -/
  setCooldown : ∀ st₀ st p c t, InI64 t →
    Within view st₀ st (run (Tables.setCooldown p c t)) fun _ st' => st' = st.setCooldown p c t
  /-- The balance upsert, while the sum fits 64 bits. -/
  addKeys : ∀ st₀ st p c (n : Nat), InI64 n → InI64 ((Assoc.get? st.keys (p, c)).getD 0 + n) →
    Within view st₀ st (run (Tables.addKeys p c n)) fun _ st' => st' = st.addKeys p c n
  /-- An open appended. -/
  logOpen : ∀ st₀ st p c r t, InI64 t →
    Within view st₀ st (run (Tables.logOpen p c r t)) fun _ st' => st' = st.logOpen p c r t

end Rules

/-- How a call that does all it documents or nothing may end from tables `st`, when
`effect` is its documented answer and tables: answering, with that answer and those tables;
failing, with the tables as they were; either way with no transaction open. -/
def AllOrNothing {ε α : Type} (st : Stored) (effect : α × Stored) : Except ε α → DbView → Prop :=
  Outcome (fun a V => a = effect.1 ∧ V = ⟨effect.2, none⟩) (· = ⟨st, none⟩)

/-- How the body of a transaction begun on `st` ends, for the transaction to do all of
`effect` or nothing: a commit with the documented answer and tables, or a rollback with the
documented answer when the documented tables are those the transaction found. -/
def EndsAs {α : Type} (st : Stored) (effect : α × Stored) : Session.Ending α → Stored → Prop
  | .commit a, st' => a = effect.1 ∧ st' = effect.2
  | .rollback a, _ => a = effect.1 ∧ effect.2 = st

/-- What an import does to the tables, with its answer: the counts of what it wrote. -/
def Stored.importing (st : Stored) (snap : Snapshot) : ImportOutcome × Stored :=
  ({ cooldowns := snap.cooldowns.length,
     keyBalances := (snap.keyBalances.filter (·.amount > 0)).length,
     history := snap.history.length }, st.imported snap)

/-! ### Transactions -/

section Transactions

variable {σ α : Type} {run : Command → Conn σ (Relation × Nat)} {view : σ → DbView}

theorem triple_exec_cases {c : Command} {V : DbView} {P Q : DbView → Prop}
    (h : Conn.Triple view V (run c) (Outcome (fun _ => P) Q)) :
    Conn.Triple view V (Conn.exec run c) (Outcome (fun _ => P) Q) := by
  refine (triple_exec h).mono ?_
  rintro r V' ⟨(e | x), hr, rfl⟩ <;> exact hr

variable (rules : Fallible run view)
include rules

/-- Giving up a transaction begun on `st₀`, kept or rolled back, puts back `st₀` and fails
with the error. -/
theorem Fallible.triple_abandon {st₀ : Stored} {V : DbView} (kept : Kept st₀ V)
    (e : DriverError) :
    Conn.Triple view V (Conn.abandon run e : Conn σ α) fun r V' =>
      r = .error e ∧ V' = ⟨st₀, none⟩ := by
  -- inside the transaction `ROLLBACK` restores it; after a rollback it changes nothing
  have sent : Conn.Triple view V (run ⟨"ROLLBACK", []⟩) fun _ V' => V' = ⟨st₀, none⟩ := by
    rcases kept with inside | rfl
    · obtain ⟨st, saved⟩ := V
      obtain rfl : saved = some st₀ := inside
      exact rules.rollback st₀ st
    · exact rules.rollbackOutside st₀
  have back : Conn.Triple view V (tryCatch (Conn.plain run "ROLLBACK") fun _ => pure 0)
      fun r V' => (∃ n, r = .ok n) ∧ V' = ⟨st₀, none⟩ := by
    refine Conn.triple_tryCatch (triple_exec sent) ?_ ?_
    · rintro n V' ⟨-, hV, -⟩
      exact ⟨⟨n, rfl⟩, hV⟩
    · rintro _ V' ⟨-, hV, -⟩
      exact Conn.triple_pure ⟨⟨0, rfl⟩, hV⟩
  unfold Conn.abandon
  exact Conn.triple_bind_of_succeeds back fun _ => Conn.triple_throw ⟨rfl, rfl⟩

theorem Fallible.triple_caught {st₀ : Stored} {V : DbView} {work : Conn σ α}
    {P : α → DbView → Prop}
    (h : Conn.Triple view V work (Outcome P (Kept st₀))) :
    Conn.Triple view V (tryCatch work (Conn.abandon run)) (Outcome P (· = ⟨st₀, none⟩)) := by
  refine Conn.triple_tryCatch h (fun _ _ hp => hp) fun e _ kept => ?_
  refine (rules.triple_abandon kept e).mono ?_
  rintro _ V' ⟨rfl, hV⟩
  exact hV

/-- **A transaction whose statements may fail ends as its body settles it, or as it
began.** From tables `st` outside any transaction: a body that answers a commit on tables
`st'` leaves `st'`; one that answers a rollback leaves `st`; a failure anywhere leaves `st`
and is the answer. No transaction stays open. -/
theorem Fallible.triple_transaction {st : Stored} {body : Conn σ (Session.Ending α)}
    {ok : Session.Ending α → Stored → Prop} (hbody : Within view st st body ok) :
    Conn.Triple view ⟨st, none⟩ (Conn.transaction run body)
      (Outcome (fun a V => (∃ st', ok (.commit a) st' ∧ V = ⟨st', none⟩) ∨
          (∃ st', ok (.rollback a) st' ∧ V = ⟨st, none⟩)) (· = ⟨st, none⟩)) := by
  unfold Conn.transaction
  refine Conn.triple_bind (triple_exec_cases (rules.begin st)) ?_ fun _ _ hV => hV
  rintro _ _ rfl
  refine Conn.triple_bind (rules.triple_caught hbody) ?_ fun _ _ hV => hV
  rintro (a | a) _ ⟨st', rfl, hok⟩
  · -- a failed `COMMIT` is given up like a failed statement
    have committed : Conn.Triple view ⟨st', some st⟩ (Conn.plain run "COMMIT")
        (Outcome (fun _ V => V = ⟨st', none⟩) (Kept st)) :=
      triple_exec_cases (rules.commit st st')
    refine Conn.triple_bind (rules.triple_caught committed) ?_ fun _ _ hV => hV
    rintro _ _ rfl
    exact Conn.triple_pure (.inl ⟨st', hok, rfl⟩)
  · -- the `ROLLBACK` the body asked for restores `st` whatever it answers
    have restored : Conn.Triple view ⟨st', some st⟩ (Conn.plain run "ROLLBACK")
        (Outcome (fun _ V => V = ⟨st, none⟩) (Kept st)) := by
      refine triple_exec_cases ((rules.rollback st st').mono ?_)
      rintro (e | n) V hV
      · exact .inr hV
      · exact hV
    refine Conn.triple_bind (rules.triple_caught restored) ?_ fun _ _ hV => hV
    rintro _ _ rfl
    exact Conn.triple_pure (.inr ⟨st', hok, rfl⟩)

theorem Fallible.transaction_all_or_nothing {st : Stored} {effect : α × Stored}
    {body : Conn σ (Session.Ending α)} (hbody : Within view st st body (EndsAs st effect)) :
    Conn.Triple view ⟨st, none⟩ (Conn.transaction run body) (AllOrNothing st effect) := by
  refine (rules.triple_transaction hbody).mono ?_
  rintro (e | a) V hr
  · exact hr
  · rcases hr with ⟨st', ⟨rfl, rfl⟩, rfl⟩ | ⟨st', ⟨rfl, hst⟩, rfl⟩
    · exact ⟨rfl, rfl⟩
    · exact ⟨rfl, by rw [hst]⟩

theorem Fallible.atomically_all_or_nothing {st : Stored} {effect : α × Stored}
    {body : Conn σ α} (hbody : Within view st st body fun a st' => a = effect.1 ∧ st' = effect.2) :
    Conn.Triple view ⟨st, none⟩ (Conn.atomically run body) (AllOrNothing st effect) :=
  rules.transaction_all_or_nothing (Within.map hbody)

end Transactions

/-! ### The calls -/

namespace SqlModel

variable {σ : Type} {run : Command → Conn σ (Relation × Nat)} {view : σ → DbView}

/-- A call whose step is some work that does all of `effect` or nothing does so from every
store whose database the view shows outside a transaction, with a connection or without. -/
theorem all_or_nothing_of_triple {now : Int} (c : Call) {st : Stored}
    {effect : c.Answer × Stored} {work : Conn σ c.Answer} (s : SqlModel σ)
    (hs : view s.db = ⟨st, none⟩) (hstep : ∀ s : SqlModel σ, s.step run now c = s.use work)
    (h : Conn.Triple view ⟨st, none⟩ work (AllOrNothing st effect)) :
    AllOrNothing st effect (s.step run now c).1 (view (s.step run now c).2.db) := by
  rw [hstep]
  unfold use
  split
  · exact hs
  · have done := h s.db hs
    revert done
    rcases (ExceptT.run work).run s.db with ⟨e | a, db⟩ <;> exact id

variable (rules : Fallible run view)
include rules

theorem consume_all_or_nothing (now : Int) (p : PlayerId) (c : String) (st : Stored)
    (s : SqlModel σ) (hs : view s.db = ⟨st, none⟩) :
    AllOrNothing st (st.consume p.render c) (s.step run now (.consumeKey p c)).1
      (view (s.step run now (.consumeKey p c)).2.db) := by
  refine all_or_nothing_of_triple (.consumeKey p c) s hs (fun _ => by rfl)
    (rules.transaction_all_or_nothing ?_)
  refine (Within.exec (rules.takeKey st st p.render c)).bind ?_
  rintro _ _ ⟨o, ⟨taken, rfl⟩, rfl⟩
  dsimp only [Call.Answer]
  rw [taken]
  by_cases h0 : (st.takeKey p.render c).2 = 0
  · rw [if_pos h0]
    exact Within.pure (by simp [EndsAs, Stored.consume, h0])
  · rw [if_neg h0]
    refine (Within.exec (rules.dropEmpty st _ p.render c)).bind ?_
    rintro _ _ ⟨_, ⟨-, rfl⟩, rfl⟩
    exact Within.pure (by simp [EndsAs, Stored.consume, h0])

theorem deliver_all_or_nothing (now : Int) (hnow : InI64 now) (p : PlayerId) (c r : String)
    (st : Stored) (s : SqlModel σ) (hs : view s.db = ⟨st, none⟩) :
    AllOrNothing st (st.deliver p.render c r now) (s.step run now (.markDelivered p c r)).1
      (view (s.step run now (.markDelivered p c r)).2.db) := by
  refine all_or_nothing_of_triple (.markDelivered p c r) s hs (fun _ => by rfl)
    (rules.transaction_all_or_nothing ?_)
  refine (Within.query (rules.firstWaiting st st p.render c r)).bind ?_
  rintro _ st' ⟨o, ⟨same, names, rows⟩, rfl⟩
  subst st'
  dsimp only [Call.Answer]
  cases found : st.pending.find? (Stored.matching p.render c r) with
  | none =>
    simp only [found, Option.map_none, Option.toList_none] at rows
    simp only [rows, List.head?_nil]
    exact Within.pure (by simp [EndsAs, Stored.deliver, found])
  | some row =>
    simp only [found, Option.map_some, Option.toList_some] at rows
    simp only [rows, List.head?_cons, readInt_single names, Conn.decoded_ok, pure_bind]
    refine (Within.exec (rules.markRow st st row.id)).bind ?_
    rintro _ _ ⟨o', ⟨flipped, rfl⟩, rfl⟩
    rw [flipped]
    by_cases h0 : (st.markRow row.id).2 = 0
    · rw [if_pos h0]
      exact Within.pure (by simp [EndsAs, Stored.deliver, found, h0])
    · rw [if_neg h0]
      refine (Within.exec (rules.logDelivery st _ p.render c r now hnow)).bind ?_
      rintro _ _ ⟨_, rfl, rfl⟩
      exact Within.pure (by simp [EndsAs, Stored.deliver, found, h0])

theorem clear_all_or_nothing (now : Int) (st : Stored) (s : SqlModel σ)
    (hs : view s.db = ⟨st, none⟩) :
    AllOrNothing st ((), st.cleared) (s.step run now .clear).1
      (view (s.step run now .clear).2.db) := by
  refine all_or_nothing_of_triple .clear s hs (fun _ => by rfl)
    (rules.atomically_all_or_nothing ?_)
  refine (Within.forIn (fun t st => st.clearTable t) (fun t _ => t ∈ Tables.all) ?_ Tables.all st
    (stepsFit_of_forall (fun t ht _ => ht) st)).bind ?_
  · intro t st' ht
    exact (Within.exec (rules.clearTable st st' t ht)).bind fun _ _ ⟨_, hst, _⟩ =>
      Within.pure ⟨rfl, hst⟩
  · rintro _ _ rfl
    exact Within.pure ⟨rfl, Stored.foldl_clearTable st⟩

theorem import_all_or_nothing (now : Int) (snap : Snapshot) (st : Stored)
    (hfit : st.ImportFits snap) (s : SqlModel σ) (hs : view s.db = ⟨st, none⟩) :
    AllOrNothing st (st.importing snap) (s.step run now (.import snap)).1
      (view (s.step run now (.import snap)).2.db) := by
  obtain ⟨hcool, hbal, hhist⟩ := hfit
  refine all_or_nothing_of_triple (.import snap) s hs (fun _ => by rfl)
    (rules.atomically_all_or_nothing ?_)
  refine (Within.forIn (fun r st => st.importCooldown r) (fun r _ => InI64 r.lastUsed) ?_
    snap.cooldowns st (stepsFit_of_forall (fun r hr _ => hcool r hr) st)).bind ?_
  · intro r st' ht
    exact (Within.exec (rules.setCooldown st st' _ _ _ ht)).bind fun _ _ written =>
      written.elim fun _ hst => Within.pure ⟨rfl, hst.1⟩
  rintro _ _ rfl
  refine (Within.forIn (fun b st => st.importBalance b) _ ?_ _ _ hbal).bind ?_
  · rintro b st' ⟨hn, hsum⟩
    exact (Within.exec (rules.addKeys st st' _ _ _ hn hsum)).bind fun _ _ written =>
      written.elim fun _ hst => Within.pure ⟨rfl, hst.1⟩
  rintro _ _ rfl
  refine (Within.forIn (fun h st => st.importEntry h) (fun h _ => InI64 h.time) ?_
    snap.history _ (stepsFit_of_forall (fun h hh _ => hhist h hh) _)).bind ?_
  · intro h st' ht
    cases kind : h.kind with
    | «open» =>
      refine (Within.exec (rules.logOpen st st' _ _ _ _ ht)).bind fun _ _ written =>
        written.elim fun _ hst => Within.pure ⟨rfl, ?_⟩
      simp only [hst.1, Stored.importEntry, kind]
    | delivery =>
      refine (Within.exec (rules.logDelivery st st' _ _ _ _ ht)).bind fun _ _ written =>
        written.elim fun _ hst => Within.pure ⟨rfl, ?_⟩
      simp only [hst.1, Stored.importEntry, kind]
  rintro _ _ rfl
  exact Within.pure ⟨rfl, rfl⟩

end SqlModel

/-! ### Databases that keep the rules -/

section Instances

variable {σ : Type} {run : Command → Conn σ (Relation × Nat)} {view : σ → DbView}

theorem Writes.within {c : Command} {st₀ st st' : Stored} {n : Nat}
    (h : Writes run view c ⟨st, some st₀⟩ st' n) :
    Within view st₀ st (run c) fun o st'' => o.2 = n ∧ st'' = st' := by
  refine h.mono ?_
  rintro r V ⟨⟨rel, rfl⟩, rfl⟩
  exact ⟨st', rfl, rfl, rfl⟩

theorem Reads.within {c : Command} {st₀ st : Stored} {names : List String}
    {rows : List (List SqlValue) → Prop} (h : Reads run view c ⟨st, some st₀⟩ names rows) :
    Within view st₀ st (run c) fun o st' =>
      st' = st ∧ o.1.columns.map ColumnInfo.name = names ∧ rows o.1.rows := by
  refine h.mono ?_
  rintro r V ⟨rfl, rel, n, rfl, hn, hrows⟩
  exact ⟨st, rfl, rfl, hn, hrows⟩

/-- **A database that keeps the documented rules keeps these**, when a `ROLLBACK` outside a
transaction changes nothing: where the documented rules have a statement answer, it never
fails. -/
theorem Fallible.of_documented (hd : Documented run view)
    (outside : ∀ st, Conn.Triple view ⟨st, none⟩ (run ⟨"ROLLBACK", []⟩) fun _ V =>
      V = ⟨st, none⟩) :
    Fallible run view where
  begin st := (hd.begin st).mono fun _ _ ⟨⟨_, hr⟩, hV⟩ => by subst hr; exact hV
  commit st₀ st := (hd.commit st st₀).mono fun _ _ ⟨⟨_, hr⟩, hV⟩ => by subst hr; exact hV
  rollback st₀ st := (hd.rollback st st₀).mono fun _ _ h => h.2
  rollbackOutside := outside
  takeKey _ _ p c := (hd.takeKey _ p c).within
  dropEmpty _ _ p c := (hd.dropEmpty _ p c).within
  firstWaiting _ _ p c r := (hd.firstWaiting _ p c r).within
  markRow _ _ id := (hd.markRow _ id).within
  logDelivery _ _ p c r t ht := (hd.logDelivery _ p c r t ht).within.mono fun _ _ h => h.2
  clearTable _ _ t ht := by
    obtain ⟨n, hn⟩ := hd.clearTable _ t ht
    exact hn.within.mono fun _ _ h => h.2
  setCooldown _ _ p c t ht := (hd.setCooldown _ p c t ht).within.mono fun _ _ h => h.2
  addKeys _ _ p c n hn hsum := (hd.addKeys _ p c n hn hsum).within.mono fun _ _ h => h.2
  logOpen _ _ p c r t ht := (hd.logOpen _ p c r t ht).within.mono fun _ _ h => h.2

end Instances

theorem MemoryDatabase.fallible : Fallible MemoryDatabase.run id :=
  Fallible.of_documented MemoryDatabase.documented MemoryDatabase.triple_rollback_outside

/-! ### A statement that fails after writing -/

/-- The error of a trigger that raises `FAIL`. -/
def raisedFail : DriverError := .database ⟨1811, "refused"⟩

section Raising

variable {σ : Type} (run : Command → Conn σ (Relation × Nat))

/-- A database with a trigger that raises `FAIL` after every upsert of a cooldown: the
upsert runs, then fails, and what it wrote stays. -/
def Raising (c : Command) : Conn σ (Relation × Nat) :=
  if c.sql = (Tables.setCooldown "" "" 0).sql then do
    let _ ← run c
    throw raisedFail
  else run c

variable {run} {view : σ → DbView}

theorem raising_of_ne {c : Command} (other : c.sql ≠ (Tables.setCooldown "" "" 0).sql) :
    Raising run c = run c := by
  rw [Raising, if_neg other]

/-- **A trigger raising `FAIL` keeps the rules**: inside a transaction the failing upsert
leaves the transaction open, whatever it wrote, and every other statement is the one under
the trigger. -/
theorem Fallible.raising (rules : Fallible run view) : Fallible (Raising run) view where
  begin st := by
    rw [raising_of_ne]
    exacts [rules.begin st, by simp [Tables.setCooldown]]
  commit st₀ st := by
    rw [raising_of_ne]
    exacts [rules.commit st₀ st, by simp [Tables.setCooldown]]
  rollback st₀ st := by
    rw [raising_of_ne]
    exacts [rules.rollback st₀ st, by simp [Tables.setCooldown]]
  rollbackOutside st := by
    rw [raising_of_ne]
    exacts [rules.rollbackOutside st, by simp [Tables.setCooldown]]
  takeKey st₀ st p c := by
    rw [raising_of_ne]
    exacts [rules.takeKey st₀ st p c, by simp [Tables.takeKey, Tables.setCooldown]]
  dropEmpty st₀ st p c := by
    rw [raising_of_ne]
    exacts [rules.dropEmpty st₀ st p c, by simp [Tables.dropEmpty, Tables.setCooldown]]
  firstWaiting st₀ st p c r := by
    rw [raising_of_ne]
    exacts [rules.firstWaiting st₀ st p c r, by simp [Tables.firstWaiting, Tables.setCooldown]]
  markRow st₀ st id := by
    rw [raising_of_ne]
    exacts [rules.markRow st₀ st id, by simp [Tables.markRow, Tables.setCooldown]]
  logDelivery st₀ st p c r t ht := by
    rw [raising_of_ne]
    exacts [rules.logDelivery st₀ st p c r t ht, by simp [Tables.logDelivery, Tables.setCooldown]]
  clearTable st₀ st t ht := by
    rw [raising_of_ne]
    · exact rules.clearTable st₀ st t ht
    · -- no table's clear is the upsert
      simp only [Tables.all, List.mem_cons, List.not_mem_nil, or_false] at ht
      rcases ht with rfl | rfl | rfl | rfl | rfl | rfl <;> simp [Tables.clearTable, Tables.setCooldown]
  setCooldown st₀ st p c t ht := by
    -- the upsert's own outcome, then the trigger's failure on top of it
    have same : (Tables.setCooldown p c t).sql = (Tables.setCooldown "" "" 0).sql := rfl
    rw [Raising, if_pos same]
    refine Conn.triple_bind (rules.setCooldown st₀ st p c t ht) ?_ fun _ _ kept => kept
    rintro _ _ ⟨st', rfl, -⟩
    exact Conn.triple_throw (.inl rfl)
  addKeys st₀ st p c n hn hsum := by
    rw [raising_of_ne]
    exacts [rules.addKeys st₀ st p c n hn hsum, by simp [Tables.addKeys, Tables.setCooldown]]
  logOpen st₀ st p c r t ht := by
    rw [raising_of_ne]
    exacts [rules.logOpen st₀ st p c r t ht, by simp [Tables.logOpen, Tables.setCooldown]]

end Raising

/-! ### The calls are all or nothing -/

/-- **The transactional calls are all or nothing.** Over a database that keeps the rules of
`Fallible`, from tables `st` outside a transaction, with a connection or without: taking a
key, marking a reward delivered, clearing, and importing a snapshot whose values fit their
columns each either answer their documented answer and leave their documented tables, or
fail and leave `st`; no transaction stays open. -/
theorem transactional_calls_all_or_nothing {σ : Type} {run : Command → Conn σ (Relation × Nat)}
    {view : σ → DbView} (rules : Fallible run view) (now : Int) (hnow : InI64 now)
    (s : SqlModel σ) (st : Stored) (hs : view s.db = ⟨st, none⟩) (p : PlayerId) (c r : String)
    (snap : Snapshot) (hfit : st.ImportFits snap) :
    let ends := fun (call : Call) (effect : call.Answer × Stored) =>
      AllOrNothing st effect (s.step run now call).1 (view (s.step run now call).2.db)
    ends (.consumeKey p c) (st.consume p.render c) ∧
      ends (.markDelivered p c r) (st.deliver p.render c r now) ∧
      ends .clear ((), st.cleared) ∧ ends (.import snap) (st.importing snap) :=
  ⟨SqlModel.consume_all_or_nothing rules now p c st s hs,
    SqlModel.deliver_all_or_nothing rules now hnow p c r st s hs,
    SqlModel.clear_all_or_nothing rules now st s hs,
    SqlModel.import_all_or_nothing rules now snap st hfit s hs⟩

/-- Over the memory database under a trigger that fails every upsert of a cooldown, from empty
tables: the four calls are all or nothing, an import of a cooldown among them. -/
theorem all_or_nothing_under_failing_trigger :
    let snap : Snapshot := { cooldowns := [⟨PlayerId.nil, "c", 5⟩] }
    let s : SqlModel DbView := ⟨none, ⟨{}, none⟩⟩
    Fallible (Raising MemoryDatabase.run) id ∧ InI64 0 ∧ id s.db = ⟨{}, none⟩ ∧
      ({} : Stored).ImportFits snap ∧
      let ends := fun (call : Call) (effect : call.Answer × Stored) =>
        AllOrNothing {} effect (s.step (Raising MemoryDatabase.run) 0 call).1
          (id (s.step (Raising MemoryDatabase.run) 0 call).2.db)
      ends (.consumeKey PlayerId.nil "c") (({} : Stored).consume PlayerId.nil.render "c") ∧
        ends (.markDelivered PlayerId.nil "c" "gem")
          (({} : Stored).deliver PlayerId.nil.render "c" "gem" 0) ∧
        ends .clear ((), ({} : Stored).cleared) ∧ ends (.import snap) (({} : Stored).importing snap) := by
  intro snap s
  have rules : Fallible (Raising MemoryDatabase.run) id := Fallible.raising MemoryDatabase.fallible
  have fits : ({} : Stored).ImportFits snap := ⟨by decide, trivial, by decide⟩
  exact ⟨rules, by decide, rfl, fits,
    transactional_calls_all_or_nothing rules 0 (by decide) s {} rfl PlayerId.nil "c" "gem" snap fits⟩

/-- The import of a cooldown under the failing trigger fails, and the tables stay empty. -/
example :
    (SqlModel.step (Raising MemoryDatabase.run) ⟨none, ⟨{}, none⟩⟩ 0
        (.import { cooldowns := [⟨PlayerId.nil, "c", 5⟩] })).1.isOk = false ∧
      (SqlModel.step (Raising MemoryDatabase.run) ⟨none, ⟨{}, none⟩⟩ 0
        (.import { cooldowns := [⟨PlayerId.nil, "c", 5⟩] })).2.db = ⟨{}, none⟩ := by
  decide +kernel

/-- **A failing call of one statement can keep its write.** Under the trigger, which keeps
every rule of `Fallible`, setting a cooldown outside any transaction fails, and the cooldown
is in its table. -/
theorem set_cooldown_fails_after_writing :
    Fallible (Raising MemoryDatabase.run) id ∧
      (SqlModel.step (Raising MemoryDatabase.run) ⟨none, ⟨{}, none⟩⟩ 0
          (.setCooldown PlayerId.nil "c" 5)).1.isOk = false ∧
      (SqlModel.step (Raising MemoryDatabase.run) ⟨none, ⟨{}, none⟩⟩ 0
          (.setCooldown PlayerId.nil "c" 5)).2.db =
        ⟨({} : Stored).setCooldown PlayerId.nil.render "c" 5, none⟩ :=
  ⟨Fallible.raising MemoryDatabase.fallible, by decide +kernel⟩

end CrateState
