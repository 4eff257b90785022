import CrateState.Proofs.Documented

/-!
# What each call of the SQL store answers

Over a database keeping its documented rules (`Documented`), every call of the SQL store
has a definite answer and effect on the tables, as long as its values fit the columns; one
`Answers` lemma per call:

* point reads answer their key's row, clamped for a balance;
* writes answer `ok` and change the tables as the `Stored` operations say;
* taking a key decrements a positive balance, then removes one at zero or below, or rolls
  back and answers `false`; marking a reward delivered flips the first matching waiting
  row and logs a delivery, or rolls back and answers `false`;
* a lock held answers `false` and changes nothing;
* a snapshot lists every cooldown and positive balance in some order, clamped, and the
  history in order, if every stored player id is one the store wrote;
* a clear empties the six tables; an import writes the snapshot as its calls would.

A transaction's statements see the tables it found (`saved`); `BEGIN`, `COMMIT` and
`ROLLBACK` give the transaction lemma `triple_transaction`.
-/

namespace CrateState

open Relational

section Statements

variable {σ α : Type} {run : Command → Conn σ (Relation × Nat)} {view : σ → DbView}

theorem triple_exec {c : Command} {V : DbView}
    {post : Except DriverError (Relation × Nat) → DbView → Prop}
    (h : Conn.Triple view V (run c) post) :
    Conn.Triple view V (Conn.exec run c) fun r V' => ∃ r₀, post r₀ V' ∧ r = r₀.map Prod.snd := by
  refine Conn.triple_bind h (fun ⟨rel, n⟩ V hp => Conn.triple_pure ⟨_, hp, rfl⟩) ?_
  intro e V hp
  exact ⟨_, hp, rfl⟩

theorem triple_query {c : Command} {V : DbView}
    {post : Except DriverError (Relation × Nat) → DbView → Prop}
    (h : Conn.Triple view V (run c) post) :
    Conn.Triple view V (Conn.query run c) fun r V' => ∃ r₀, post r₀ V' ∧ r = r₀.map Prod.fst := by
  refine Conn.triple_bind h (fun ⟨rel, n⟩ V hp => Conn.triple_pure ⟨_, hp, rfl⟩) ?_
  intro e V hp
  exact ⟨_, hp, rfl⟩

theorem Writes.exec {c : Command} {V : DbView} {st' : Stored} {n : Nat}
    (h : Writes run view c V st' n) :
    Conn.Triple view V (Conn.exec run c) fun r V' => r = .ok n ∧ V' = { V with stored := st' } := by
  refine (triple_exec h).mono ?_
  rintro r V' ⟨_, ⟨⟨rel, rfl⟩, hV⟩, rfl⟩
  exact ⟨rfl, hV⟩

theorem Reads.query {c : Command} {V : DbView} {names : List String}
    {rows : List (List SqlValue) → Prop} (h : Reads run view c V names rows) :
    Conn.Triple view V (Conn.query run c) fun r V' =>
      V' = V ∧ ∃ rel, r = .ok rel ∧ rel.columns.map ColumnInfo.name = names ∧ rows rel.rows := by
  refine (triple_query h).mono ?_
  rintro r V' ⟨_, ⟨hV, rel, n, rfl, hn, hr⟩, rfl⟩
  exact ⟨hV, rel, rfl, hn, hr⟩

theorem triple_plain {c : Command} {V W : DbView}
    (h : Conn.Triple view V (run c) fun r V' => (∃ x, r = .ok x) ∧ V' = W) :
    Conn.Triple view V (Conn.exec run c) fun r V' => (∃ n, r = .ok n) ∧ V' = W := by
  refine (triple_exec h).mono ?_
  rintro r V' ⟨_, ⟨⟨x, rfl⟩, hV⟩, rfl⟩
  exact ⟨⟨x.2, rfl⟩, hV⟩

theorem Reads.bind {β : Type} {c : Command} {V : DbView} {names : List String}
    {rows : List (List SqlValue) → Prop} {f : Relation → Conn σ β}
    {post : Except DriverError β → DbView → Prop} (h : Reads run view c V names rows)
    (next : ∀ rel, rel.columns.map ColumnInfo.name = names → rows rel.rows →
      Conn.Triple view V (f rel) post) :
    Conn.Triple view V (Conn.query run c >>= f) post := by
  refine Conn.triple_bind h.query ?_ ?_
  · rintro o V' ⟨rfl, rel, ho, hn, hrows⟩
    cases ho
    exact next o hn hrows
  · rintro e V' ⟨-, rel, he, -⟩
    cases he

theorem Writes.bind {β : Type} {c : Command} {V : DbView} {st' : Stored} {n : Nat}
    {f : Nat → Conn σ β} {post : Except DriverError β → DbView → Prop}
    (h : Writes run view c V st' n) (next : Conn.Triple view { V with stored := st' } (f n) post) :
    Conn.Triple view V (Conn.exec run c >>= f) post :=
  Conn.triple_bind_of_ok h.exec next

end Statements

/-! ### Transactions -/

section Transactions

variable {σ α : Type} {run : Command → Conn σ (Relation × Nat)} {view : σ → DbView}

/-- How the body of a transaction begun on tables `st` may end, for the transaction to
end as `post` says: a commit keeps the body's tables, a rollback and an error go back to
`st`. -/
def Settles (post : Except DriverError α → DbView → Prop) (st : Stored) :
    Except DriverError (Session.Ending α) → DbView → Prop
  | .ok (.commit a), V => ∃ st', V = ⟨st', some st⟩ ∧ post (.ok a) ⟨st', none⟩
  | .ok (.rollback a), V => ∃ st', V = ⟨st', some st⟩ ∧ post (.ok a) ⟨st, none⟩
  | .error e, V => ∃ st', V = ⟨st', some st⟩ ∧ post (.error e) ⟨st, none⟩

/-- The `COMMIT` or `ROLLBACK` that ends a transaction succeeds, so giving up is never
needed. -/
theorem triple_ending {st st' : Stored} {sql : String} {st'' : Stored}
    {handler : DriverError → Conn σ Nat} (ends : Conn.Triple view ⟨st', some st⟩ (run ⟨sql, []⟩) fun r V' =>
      (∃ x, r = .ok x) ∧ V' = ⟨st'', none⟩) :
    Conn.Triple view ⟨st', some st⟩ (tryCatch (Conn.plain run sql) handler)
      fun r V' => (∃ n, r = .ok n) ∧ V' = ⟨st'', none⟩ := by
  refine Conn.triple_tryCatch (triple_plain ends) (fun a V h => h) ?_
  rintro e V ⟨⟨n, hn⟩, -⟩
  cases hn

variable (hd : Documented run view)
include hd

/-- Giving a transaction up puts back the tables it found, and fails with the error. -/
theorem triple_abandon {st st' : Stored} (e : DriverError) :
    Conn.Triple view ⟨st', some st⟩ (Conn.abandon run e : Conn σ α) fun r V =>
      r = .error e ∧ V = ⟨st, none⟩ := by
  unfold Conn.abandon
  exact Conn.triple_bind_of_succeeds (triple_ending (hd.rollback st' st))
    fun _ => Conn.triple_throw ⟨rfl, rfl⟩

/-- A body caught for its rollback: its commits and rollbacks as they are, its errors after
the rollback has restored the tables. -/
theorem triple_caught {st : Stored} {body : Conn σ (Session.Ending α)}
    {post : Except DriverError α → DbView → Prop}
    (hbody : Conn.Triple view ⟨st, some st⟩ body (Settles post st)) :
    Conn.Triple view ⟨st, some st⟩ (tryCatch body (Conn.abandon run))
      fun r V => match r with
        | .ok e => Settles post st (.ok e) V
        | .error e => V = ⟨st, none⟩ ∧ post (.error e) ⟨st, none⟩ := by
  refine Conn.triple_tryCatch hbody (fun a V h => h) ?_
  rintro e V ⟨st', rfl, hpost⟩
  refine (triple_abandon hd e).mono ?_
  rintro r V ⟨rfl, rfl⟩
  exact ⟨rfl, hpost⟩

/-- **A transaction ends as its body settles it.** Begun outside any transaction, the body
runs on tables it may change; a commit keeps the changes, a rollback or an error restores
the tables the transaction found. -/
theorem triple_transaction {st : Stored} {body : Conn σ (Session.Ending α)}
    {post : Except DriverError α → DbView → Prop}
    (hbody : Conn.Triple view ⟨st, some st⟩ body (Settles post st)) :
    Conn.Triple view ⟨st, none⟩ (Conn.transaction run body) post := by
  unfold Conn.transaction
  refine Conn.triple_bind_of_succeeds (triple_plain (hd.begin st)) fun _ => ?_
  refine Conn.triple_bind (triple_caught hd hbody) ?_ ?_
  · rintro (a | a) V ⟨st', rfl, hpost⟩
    · exact Conn.triple_bind_of_succeeds (triple_ending (hd.commit st' st))
        fun _ => Conn.triple_pure hpost
    · exact Conn.triple_bind_of_succeeds (triple_ending (hd.rollback st' st))
        fun _ => Conn.triple_pure hpost
  · rintro e V ⟨rfl, hpost⟩
    exact hpost

theorem triple_atomically {st : Stored} {body : Conn σ α}
    {post : Except DriverError α → DbView → Prop}
    (hbody : Conn.Triple view ⟨st, some st⟩ body fun r V =>
      ∃ a st', r = .ok a ∧ V = ⟨st', some st⟩ ∧ post (.ok a) ⟨st', none⟩) :
    Conn.Triple view ⟨st, none⟩ (Conn.atomically run body) post := by
  refine triple_transaction hd (Conn.triple_map (hbody.mono ?_))
  rintro r V ⟨a, st', rfl, rfl, hpost⟩
  exact ⟨st', rfl, hpost⟩

end Transactions

/-! ### Loops -/

/-- Every step of a fold over `l` from `st` meets its condition `fits`. -/
def StepsFit {β τ : Type} (fits : β → τ → Prop) (step : β → τ → τ) : List β → τ → Prop
  | [], _ => True
  | x :: l, st => fits x st ∧ StepsFit fits step l (step x st)

theorem stepsFit_of_forall {β τ : Type} {fits : β → τ → Prop} {step : β → τ → τ} {l : List β}
    (h : ∀ x ∈ l, ∀ st, fits x st) (st : τ) : StepsFit fits step l st := by
  induction l generalizing st with
  | nil => trivial
  | cons x l ih =>
    exact ⟨h x List.mem_cons_self st, ih (fun y hy => h y (List.mem_cons_of_mem x hy)) _⟩

section Loops

variable {σ β : Type} {view : σ → DbView}

/-- **A loop runs its body on each element in turn**: if the body, from tables its
condition accepts, yields and changes them by `step`, the loop changes the tables by the
fold of `step`, as long as each step meets the condition. -/
theorem triple_forIn {sv : Option Stored} (step : β → Stored → Stored) (fits : β → Stored → Prop)
    {body : β → PUnit → Conn σ (ForInStep PUnit)}
    (hbody : ∀ x st, fits x st → Conn.Triple view ⟨st, sv⟩ (body x ⟨⟩) fun r V' =>
      r = .ok (.yield ⟨⟩) ∧ V' = ⟨step x st, sv⟩)
    (l : List β) (st : Stored) (hfit : StepsFit fits step l st) :
    Conn.Triple view ⟨st, sv⟩ (forIn l ⟨⟩ body) fun r V' =>
      r = .ok ⟨⟩ ∧ V' = ⟨l.foldl (fun st x => step x st) st, sv⟩ := by
  induction l generalizing st with
  | nil => exact Conn.triple_pure ⟨rfl, rfl⟩
  | cons x l ih =>
    rw [List.forIn_cons]
    exact Conn.triple_bind_of_ok (hbody x st hfit.1) (ih _ hfit.2)

end Loops

/-! ### Reading the rows of a result -/

/-- A column is looked up by its name alone: the last column of that name wins. -/
theorem Relation.get_of_names {r : Relation} {names : List String}
    (h : r.columns.map ColumnInfo.name = names) (row : List SqlValue) (name : String) :
    r.get row name =
      match (names.zip row).foldl (fun acc nv => if nv.1 == name then some nv.2 else acc) none with
      | some v => .ok v
      | none => .error (.missingColumn name) := by
  subst h
  simp only [Relation.get, List.zip_map_left, List.foldl_map]
  rfl

@[simp] theorem Conn.decoded_ok {σ α : Type} (a : α) :
    Conn.decoded (σ := σ) (.ok a) = pure a := rfl

/-- The integer of a row of one column reads back under that column's name. -/
theorem readInt_single {r : Relation} {name : String} (h : r.columns.map ColumnInfo.name = [name])
    (i : Int) : readInt r [.int i] name = .ok i :=
  readInt_int (by simp [Relation.get_of_names h])

/-- The reward a waiting row reads back as. -/
def PendingRow.reward? (row : PendingRow) : PendingReward :=
  { crate := row.crate, reward := row.reward, status := RewardStatus.parse row.status,
    createdAt := row.createdAt }

/-! ### Decoding the rows the store wrote -/

theorem mapM_map_of_pure {m : Type → Type} [Monad m] [LawfulMonad m] {β γ δ : Type}
    {l : List β} {h : β → γ} {f : γ → m δ} {g : β → δ} (hf : ∀ b ∈ l, f (h b) = pure (g b)) :
    (l.map h).mapM f = pure (l.map g) := by
  induction l with
  | nil => rfl
  | cons b l ih =>
    simp only [List.map_cons, List.mapM_cons, hf b List.mem_cons_self, pure_bind,
      ih fun b' hb' => hf b' (List.mem_cons_of_mem b hb')]

theorem mapM_eq_filterMap {ε ρ β : Type} {l : List ρ} {f : ρ → Except ε β}
    (each : ∀ r ∈ l, ∃ b, f r = .ok b) : l.mapM f = .ok (l.filterMap fun r => (f r).toOption) := by
  induction l with
  | nil => rfl
  | cons r l ih =>
    obtain ⟨b, hb⟩ := each r List.mem_cons_self
    simp only [List.mapM_cons, hb, ih fun r' hr' => each r' (List.mem_cons_of_mem _ hr'),
      List.filterMap_cons, Except.toOption]
    rfl

theorem filterMap_map_of_each {α β γ : Type} {L : List α} {F : α → Option β} {k : β → γ}
    {g : α → γ} (each : ∀ a ∈ L, ∃ b, F a = some b ∧ k b = g a) :
    (L.filterMap F).map k = L.map g := by
  induction L with
  | nil => rfl
  | cons a L ih =>
    obtain ⟨b, hb, hk⟩ := each a List.mem_cons_self
    simp only [List.filterMap_cons, hb, List.map_cons, hk,
      ih fun a' ha' => each a' (List.mem_cons_of_mem _ ha')]

/-- Rows written from entries, each decoded to something that `k` takes to what `g` takes its
entry to, decode in order. -/
theorem mapM_map_ok {ε α ρ β γ : Type} {L : List α} {R : List ρ} {toRow : α → ρ}
    (hR : R = L.map toRow) {f : ρ → Except ε β} {k : β → γ} {g : α → γ}
    (hf : ∀ a ∈ L, ∃ b, f (toRow a) = .ok b ∧ k b = g a) :
    ∃ out, R.mapM f = .ok out ∧ out.map k = L.map g := by
  subst hR
  refine ⟨_, mapM_eq_filterMap ?_, ?_⟩
  · intro r hr
    obtain ⟨a, ha, rfl⟩ := List.mem_map.mp hr
    obtain ⟨b, hb, -⟩ := hf a ha
    exact ⟨b, hb⟩
  · rw [List.filterMap_map]
    refine filterMap_map_of_each fun a ha => ?_
    obtain ⟨b, hb, hk⟩ := hf a ha
    exact ⟨b, by simp only [Function.comp, hb, Except.toOption], hk⟩

/-- The same, for rows listed in some order: they decode in some order. -/
theorem mapM_perm_ok {ε α ρ β γ : Type} {L : List α} {R : List ρ} {toRow : α → ρ}
    (hR : R.Perm (L.map toRow)) {f : ρ → Except ε β} {k : β → γ} {g : α → γ}
    (hf : ∀ a ∈ L, ∃ b, f (toRow a) = .ok b ∧ k b = g a) :
    ∃ out, R.mapM f = .ok out ∧ (out.map k).Perm (L.map g) := by
  obtain ⟨out, hout, hmap⟩ := mapM_map_ok rfl hf
  have each : ∀ r ∈ L.map toRow, ∃ b, f r = .ok b := by
    intro r hr
    obtain ⟨a, ha, rfl⟩ := List.mem_map.mp hr
    obtain ⟨b, hb, -⟩ := hf a ha
    exact ⟨b, hb⟩
  rw [mapM_eq_filterMap each] at hout
  cases hout
  refine ⟨_, mapM_eq_filterMap fun r hr => each r (hR.subset hr), ?_⟩
  rw [← hmap]
  exact (hR.filterMap _).map k

theorem storedPlayer_render (p : PlayerId) : storedPlayer p.render = .ok p := by
  simp only [storedPlayer, PlayerId.parse_render]

/-- A text the store writes for a player id. -/
def PlayerId.IsRender (s : String) : Prop := ∃ p : PlayerId, p.render = s

def Cooldown.keyed (c : Cooldown) : SlotKey × Int := ((c.player.render, c.crate), c.lastUsed)

def KeyBalance.keyed (b : KeyBalance) : SlotKey × Nat := ((b.player.render, b.crate), b.amount)

/-- A history entry as its table row has it, with its kind. -/
def HistoryEntry.stored (h : HistoryEntry) : String × String × Option String × Int × HistoryKind :=
  (h.player.render, h.crate, h.reward, h.time, h.kind)

section Rows

variable {o : Relation}

theorem cooldownRow_written (hn : o.columns.map ColumnInfo.name = ["player_id", "crate_id", "last_used"])
    (p : PlayerId) (c : String) (t : Int) :
    SqlStore.cooldownRow o [heldText p.render, heldText c, .int t] = .ok ⟨p, c, t⟩ := by
  have get := Relation.get_of_names hn [heldText p.render, heldText c, .int t]
  simp only [SqlStore.cooldownRow, readText_held (get "player_id"), readText_held (get "crate_id"),
    readInt_int (get "last_used"), storedPlayer_render, Except.mapError, bind, Except.bind]
  rfl

theorem balanceRow_written (hn : o.columns.map ColumnInfo.name = ["player_id", "crate_id", "amount"])
    (p : PlayerId) (c : String) (a : Int) :
    SqlStore.balanceRow o [heldText p.render, heldText c, .int a] = .ok ⟨p, c, clampKeys a⟩ := by
  have get := Relation.get_of_names hn [heldText p.render, heldText c, .int a]
  simp only [SqlStore.balanceRow, readText_held (get "player_id"), readText_held (get "crate_id"),
    readInt_int (get "amount"), storedPlayer_render, Except.mapError, bind, Except.bind]
  rfl

theorem historyRow_open
    (hn : o.columns.map ColumnInfo.name = ["player_id", "crate_id", "reward_id", "opened_at"])
    (p : PlayerId) (c : String) (r : Option String) (t : Int) :
    SqlStore.historyRow o .open "opened_at" [heldText p.render, heldText c, (r.map heldText).getD .null, .int t] =
      .ok ⟨p, c, r, .open, t⟩ := by
  have get := Relation.get_of_names hn [heldText p.render, heldText c, (r.map heldText).getD .null, .int t]
  have reward : readOptText o [heldText p.render, heldText c, (r.map heldText).getD .null, .int t]
      "reward_id" = .ok r := by
    cases r with
    | none => exact readOptText_null (get "reward_id")
    | some r => exact readOptText_held (get "reward_id")
  simp only [SqlStore.historyRow, readText_held (get "player_id"), readText_held (get "crate_id"),
    reward, readInt_int (get "opened_at"), storedPlayer_render, Except.mapError, bind, Except.bind]
  rfl

theorem historyRow_delivery
    (hn : o.columns.map ColumnInfo.name = ["player_id", "crate_id", "reward_id", "delivered_at"])
    (p : PlayerId) (c r : String) (t : Int) :
    SqlStore.historyRow o .delivery "delivered_at" [heldText p.render, heldText c, heldText r, .int t] =
      .ok ⟨p, c, some r, .delivery, t⟩ := by
  have get := Relation.get_of_names hn [heldText p.render, heldText c, heldText r, .int t]
  simp only [SqlStore.historyRow, readText_held (get "player_id"), readText_held (get "crate_id"),
    readOptText_held (get "reward_id"), readInt_int (get "delivered_at"), storedPlayer_render, Except.mapError, bind, Except.bind]
  rfl

end Rows

namespace Stored

/-- Every player text of the tables a snapshot reads is one the store writes. -/
def Rendered (st : Stored) : Prop :=
  (∀ e ∈ st.cooldowns, PlayerId.IsRender e.1.1) ∧ (∀ e ∈ st.keys, PlayerId.IsRender e.1.1) ∧
    (∀ e ∈ st.opens, PlayerId.IsRender e.1) ∧ (∀ e ∈ st.deliveries, PlayerId.IsRender e.1)

/-- The tables emptied, the ids already given still given. -/
def cleared (st : Stored) : Stored :=
  { st with cooldowns := [], keys := [], locks := [], opens := [], deliveries := [], pending := [] }

theorem foldl_clearTable (st : Stored) :
    Tables.all.foldl (fun st t => st.clearTable t) st = st.cleared := rfl

/-- A cooldown of a snapshot, written. -/
def importCooldown (st : Stored) (r : Cooldown) : Stored :=
  st.setCooldown r.player.render r.crate r.lastUsed

/-- A balance of a snapshot, added. -/
def importBalance (st : Stored) (b : KeyBalance) : Stored :=
  st.addKeys b.player.render b.crate b.amount

/-- A history entry of a snapshot, appended to its table; a delivery without a reward as
the empty reward. -/
def importEntry (st : Stored) (h : HistoryEntry) : Stored :=
  match h.kind with
  | .open => st.logOpen h.player.render h.crate h.reward h.time
  | .delivery => st.logDelivery h.player.render h.crate (h.reward.getD "") h.time

/-- The tables after an import: every cooldown written, every positive balance added, the
history appended, in the snapshot's order. -/
def imported (st : Stored) (snap : Snapshot) : Stored :=
  let st := snap.cooldowns.foldl importCooldown st
  let st := (snap.keyBalances.filter (·.amount > 0)).foldl importBalance st
  snap.history.foldl importEntry st

/-- Every value an import into `st` binds fits its column: the times, the amounts and each
sum of a balance as it is reached. -/
def ImportFits (st : Stored) (snap : Snapshot) : Prop :=
  (∀ r ∈ snap.cooldowns, InI64 r.lastUsed) ∧
    StepsFit (fun b st => InI64 b.amount ∧
        InI64 ((Assoc.get? st.keys (b.player.render, b.crate)).getD 0 + b.amount))
      (fun b st => st.importBalance b) (snap.keyBalances.filter (·.amount > 0))
      (snap.cooldowns.foldl importCooldown st) ∧
    (∀ h ∈ snap.history, InI64 h.time)

/-- The positive balances as a snapshot reads them, clamped. -/
def positiveBalances (st : Stored) : List (SlotKey × Nat) :=
  (st.keys.filter (0 < ·.2)).map fun e => (e.1, clampKeys e.2)

/-- The history as a snapshot reads it: the opens, then the deliveries, each in order. -/
def history (st : Stored) : List (String × String × Option String × Int × HistoryKind) :=
  st.opens.map (fun e => (e.1, e.2.1, e.2.2.1, e.2.2.2, .open)) ++
    st.deliveries.map (fun e => (e.1, e.2.1, some e.2.2.1, e.2.2.2, .delivery))

end Stored

/-- The four results of a snapshot's queries, as the documented rules give them for tables
`st`. -/
structure Dumped (st : Stored) (d : SqlStore.Dump) : Prop where
  cooldownNames : d.cooldowns.columns.map ColumnInfo.name = ["player_id", "crate_id", "last_used"]
  cooldownRows : d.cooldowns.rows.Perm
    (st.cooldowns.map fun (k, t) => [heldText k.1, heldText k.2, .int t])
  keyNames : d.keys.columns.map ColumnInfo.name = ["player_id", "crate_id", "amount"]
  keyRows : d.keys.rows.Perm
    ((st.keys.filter (0 < ·.2)).map fun (k, a) => [heldText k.1, heldText k.2, .int a])
  openNames : d.opens.columns.map ColumnInfo.name =
    ["player_id", "crate_id", "reward_id", "opened_at"]
  openRows : d.opens.rows =
    st.opens.map fun (p, c, r, t) => [heldText p, heldText c, (r.map heldText).getD .null, .int t]
  deliveryNames : d.deliveries.columns.map ColumnInfo.name =
    ["player_id", "crate_id", "reward_id", "delivered_at"]
  deliveryRows : d.deliveries.rows =
    st.deliveries.map fun (p, c, r, t) => [heldText p, heldText c, heldText r, .int t]

/-- **A snapshot decodes what the store wrote.** From the results of its queries on tables
whose player texts the store wrote, the snapshot lists the cooldowns and the clamped
positive balances in some order, and the history in order. -/
theorem Dumped.decode {st : Stored} {d : SqlStore.Dump} (hd : Dumped st d) (hr : st.Rendered) :
    ∃ snap, d.decode = .ok snap ∧ (snap.cooldowns.map Cooldown.keyed).Perm st.cooldowns ∧
      (snap.keyBalances.map KeyBalance.keyed).Perm st.positiveBalances ∧
      snap.history.map HistoryEntry.stored = st.history := by
  obtain ⟨hc, hk, ho, hdl⟩ := hr
  obtain ⟨cs, hcs, pcs⟩ := mapM_perm_ok hd.cooldownRows (f := SqlStore.cooldownRow d.cooldowns)
    (k := Cooldown.keyed) (g := id) fun e he => by
      obtain ⟨p, hp⟩ := hc e he
      obtain ⟨⟨pt, c⟩, t⟩ := e
      subst hp
      exact ⟨_, cooldownRow_written hd.cooldownNames p c t, rfl⟩
  obtain ⟨ks, hks, pks⟩ := mapM_perm_ok hd.keyRows (f := SqlStore.balanceRow d.keys)
    (k := KeyBalance.keyed) (g := fun e => (e.1, clampKeys e.2)) fun e he => by
      obtain ⟨p, hp⟩ := hk e (List.mem_filter.mp he).1
      obtain ⟨⟨pt, c⟩, a⟩ := e
      subst hp
      exact ⟨_, balanceRow_written hd.keyNames p c a, rfl⟩
  obtain ⟨os, hos, mos⟩ := mapM_map_ok hd.openRows
    (f := SqlStore.historyRow d.opens .open "opened_at") (k := HistoryEntry.stored)
    (g := fun e => (e.1, e.2.1, e.2.2.1, e.2.2.2, .open)) fun e he => by
      obtain ⟨p, hp⟩ := ho e he
      obtain ⟨pt, c, r, t⟩ := e
      subst hp
      exact ⟨⟨p, c, r, .open, t⟩, historyRow_open hd.openNames p c r t, rfl⟩
  obtain ⟨ds, hds, mds⟩ := mapM_map_ok hd.deliveryRows
    (f := SqlStore.historyRow d.deliveries .delivery "delivered_at") (k := HistoryEntry.stored)
    (g := fun e => (e.1, e.2.1, some e.2.2.1, e.2.2.2, .delivery)) fun e he => by
      obtain ⟨p, hp⟩ := hdl e he
      obtain ⟨pt, c, r, t⟩ := e
      subst hp
      exact ⟨⟨p, c, some r, .delivery, t⟩, historyRow_delivery hd.deliveryNames p c r t, rfl⟩
  refine ⟨⟨cs, ks, os ++ ds⟩, ?_, by simpa using pcs, pks, ?_⟩
  · simp only [SqlStore.Dump.decode, hcs, hks, hos, hds]
    rfl
  · rw [List.map_append, mos, mds]
    rfl

namespace Stored

/-- What taking a key does to the tables, with its answer: a decrement that changed a row
is kept, with the delete of a balance it took to zero or below. -/
def consume (st : Stored) (p c : String) : Bool × Stored :=
  if (st.takeKey p c).2 = 0 then (false, st) else (true, ((st.takeKey p c).1.dropEmpty p c).1)

/-- What marking a reward delivered does to the tables, with its answer: the first waiting
match is flipped and a delivery logged, if the flip changed a row. -/
def deliver (st : Stored) (p c r : String) (t : Int) : Bool × Stored :=
  match st.pending.find? (matching p c r) with
  | none => (false, st)
  | some row =>
    if (st.markRow row.id).2 = 0 then (false, st)
    else (true, (st.markRow row.id).1.logDelivery p c r t)

end Stored

/-! ### The answer of each call -/

namespace SqlModel

variable {σ α : Type} (run : Command → Conn σ (Relation × Nat)) (view : σ → DbView)

/-- From every store that gets connections and whose database the view shows as `V`, the
call answers and leaves a view that `post` accepts. -/
def Answers (now : Int) (c : Call) (V : DbView) (post : Reply c → DbView → Prop) : Prop :=
  ∀ s : SqlModel σ, s.blocked = none → view s.db = V →
    post (s.step run now c).1 (view (s.step run now c).2.db)

variable {run view}

@[simp] theorem blocked_use (s : SqlModel σ) (work : Conn σ α) :
    (s.use work).2.blocked = s.blocked := by
  unfold use
  split <;> rfl

theorem blocked_step (s : SqlModel σ) (now : Int) (c : Call) :
    (s.step run now c).2.blocked = s.blocked := by
  cases c <;> simp only [step, SqlStore.stepVia]
  case addKeys =>
    split
    · rfl
    · exact blocked_use s _
  all_goals exact blocked_use s _

theorem use_of_open {s : SqlModel σ} (hb : s.blocked = none) (work : Conn σ α) :
    s.use work = (((ExceptT.run work).run s.db).1.mapError storeError,
      { s with db := ((ExceptT.run work).run s.db).2 }) := by
  unfold use
  rw [hb]
  rfl

/-- A call whose step is some work run on the store answers as the work does, with errors
mapped to store errors. -/
theorem answers_of_triple {now : Int} {c : Call} {V : DbView} {post : Reply c → DbView → Prop}
    {work : Conn σ c.Answer} {Q : Except DriverError c.Answer → DbView → Prop}
    (hstep : ∀ s : SqlModel σ, s.step run now c = s.use work) (h : Conn.Triple view V work Q)
    (hq : ∀ r V', Q r V' → post (r.mapError storeError) V') :
    Answers run view now c V post := by
  intro s hb hv
  rw [hstep s, use_of_open hb]
  exact hq _ _ (h s.db hv)

theorem Answers.mono {now : Int} {c : Call} {V : DbView} {post post' : Reply c → DbView → Prop}
    (h : Answers run view now c V post) (weaker : ∀ r V', post r V' → post' r V') :
    Answers run view now c V post' :=
  fun s hb hv => weaker _ _ (h s hb hv)

theorem answers_addKeys_zero (now : Int) (p : PlayerId) (c : String) (V : DbView) :
    Answers run view now (.addKeys p c 0) V fun r V' =>
      r = .error (.invalidInput "key amount must be positive") ∧ V' = V :=
  fun _ _ hv => ⟨rfl, hv⟩

theorem triple_write {c : Command} {V : DbView} {st' : Stored} {n : Nat}
    (h : Writes run view c V st' n) :
    Conn.Triple view V (do let _ ← Conn.exec run c) fun r V' =>
      r = .ok () ∧ V' = { V with stored := st' } :=
  h.bind (Conn.triple_pure ⟨rfl, rfl⟩)

variable (hd : Documented run view) (now : Int)
include hd

theorem answers_getCooldown (p : PlayerId) (c : String) (V : DbView) :
    Answers run view now (.getCooldown p c) V fun r V' =>
      r = .ok (Assoc.get? V.stored.cooldowns (p.render, c)) ∧ V' = V := by
  refine answers_of_triple (fun _ => rfl) ((hd.getCooldown V p.render c).bind ?_) (fun r V' h => h)
  intro o hn hrows
  dsimp only [Call.Answer]
  cases ht : Assoc.get? V.stored.cooldowns (p.render, c) with
  | none =>
    simp only [ht, Option.map_none, Option.toList_none] at hrows
    simp only [hrows, List.head?_nil]
    exact Conn.triple_pure ⟨rfl, rfl⟩
  | some t =>
    simp only [ht, Option.map_some, Option.toList_some] at hrows
    simp only [hrows, List.head?_cons, readInt_single hn, Conn.decoded_ok]
    exact Conn.triple_map (Conn.triple_pure ⟨rfl, rfl⟩)

theorem answers_setCooldown (p : PlayerId) (c : String) (t : Int) (ht : InI64 t) (V : DbView) :
    Answers run view now (.setCooldown p c t) V fun r V' =>
      r = .ok () ∧ V' = { V with stored := V.stored.setCooldown p.render c t } := by
  refine answers_of_triple (fun _ => rfl) (triple_write (hd.setCooldown V p.render c t ht)) ?_
  rintro r V' ⟨rfl, rfl⟩
  exact ⟨rfl, rfl⟩

theorem answers_keyCount (p : PlayerId) (c : String) (V : DbView) :
    Answers run view now (.keyCount p c) V fun r V' =>
      r = .ok (((Assoc.get? V.stored.keys (p.render, c)).map clampKeys).getD 0) ∧ V' = V := by
  refine answers_of_triple (fun _ => rfl) ((hd.keyCount V p.render c).bind ?_) (fun r V' h => h)
  intro o hn hrows
  dsimp only [Call.Answer]
  cases ha : Assoc.get? V.stored.keys (p.render, c) with
  | none =>
    simp only [ha, Option.map_none, Option.toList_none] at hrows
    simp only [hrows, List.head?_nil]
    exact Conn.triple_pure ⟨rfl, rfl⟩
  | some a =>
    simp only [ha, Option.map_some, Option.toList_some] at hrows
    simp only [hrows, List.head?_cons, readInt_single hn, Conn.decoded_ok]
    exact Conn.triple_map (Conn.triple_pure ⟨rfl, rfl⟩)

/-- Adding a positive amount whose sum fits 64 bits adds it to the stored balance. -/
theorem answers_addKeys (p : PlayerId) (c : String) {n : Nat} (hn : 0 < n) (hfit : InI64 n)
    (V : DbView) (hsum : InI64 ((Assoc.get? V.stored.keys (p.render, c)).getD 0 + n)) :
    Answers run view now (.addKeys p c n) V fun r V' =>
      r = .ok () ∧ V' = { V with stored := V.stored.addKeys p.render c n } := by
  refine answers_of_triple (fun s => ?_) (triple_write (hd.addKeys V p.render c n hfit hsum)) ?_
  · simp only [step, SqlStore.stepVia, Nat.pos_iff_ne_zero.mp hn, if_false]
  · rintro r V' ⟨rfl, rfl⟩
    exact ⟨rfl, rfl⟩

/-- A lock nobody holds is taken, stamped with the time of the call. -/
theorem answers_acquireLock_free (hnow : InI64 now) (p : PlayerId) (c : String) (V : DbView)
    (hfree : Assoc.get? V.stored.locks (p.render, c) = none) :
    Answers run view now (.acquireLock p c) V fun r V' =>
      r = .ok true ∧ V' = { V with stored := V.stored.takeLock p.render c now } := by
  have took : Conn.Triple view V
      (do let _ ← Conn.exec run (Tables.takeLock p.render c now); pure true) fun r V' =>
        r = .ok true ∧ V' = { V with stored := V.stored.takeLock p.render c now } :=
    (hd.takeLock V p.render c now hnow hfree).bind (Conn.triple_pure ⟨rfl, rfl⟩)
  refine answers_of_triple (fun _ => rfl)
    (Conn.triple_tryCatch took (fun a V' h => h) ?_ : Conn.Triple view V _ fun r V' =>
      r = .ok true ∧ V' = { V with stored := V.stored.takeLock p.render c now }) ?_
  · rintro e V' ⟨he, -⟩
    cases he
  · rintro r V' ⟨rfl, rfl⟩
    exact ⟨rfl, rfl⟩

/-- A lock somebody holds is refused by its key: the answer is `false` and nothing changes. -/
theorem answers_acquireLock_held (p : PlayerId) (c : String) (V : DbView)
    (hheld : (Assoc.get? V.stored.locks (p.render, c)).isSome) :
    Answers run view now (.acquireLock p c) V fun r V' => r = .ok false ∧ V' = V := by
  have refusedRun : Conn.Triple view V
      (do let _ ← Conn.exec run (Tables.takeLock p.render c now); pure true) fun r V' =>
        V' = V ∧ ∃ e : SqlError, r = .error (.database e) ∧ (e.code = 1555 ∨ e.code = 2067) := by
    refine Conn.triple_bind (triple_exec (hd.lockTaken V p.render c now hheld)) ?_ ?_
    · rintro n V' ⟨r₀, ⟨-, e, rfl, -⟩, hr⟩
      cases hr
    · rintro e V' ⟨r₀, ⟨hV, err, rfl, hcode⟩, hr⟩
      cases hr
      exact ⟨hV, err, rfl, hcode⟩
  refine answers_of_triple (fun _ => rfl)
    (Conn.triple_tryCatch refusedRun ?_ ?_ :
      Conn.Triple view V _ fun r V' => r = .ok false ∧ V' = V) ?_
  · rintro a V' ⟨-, e, he, -⟩
    cases he
  · rintro e V' ⟨rfl, err, he, hcode⟩
    cases he
    have refused : (err.code = 1555 || err.code = 2067) = true := by
      rcases hcode with h | h <;> simp [h]
    simp only [refused, if_true]
    exact Conn.triple_pure ⟨rfl, rfl⟩
  · rintro r V' ⟨rfl, rfl⟩
    exact ⟨rfl, rfl⟩

theorem answers_releaseLock (p : PlayerId) (c : String) (V : DbView) :
    Answers run view now (.releaseLock p c) V fun r V' =>
      r = .ok () ∧ V' = { V with stored := V.stored.giveLock p.render c } := by
  obtain ⟨n, h⟩ := hd.giveLock V p.render c
  refine answers_of_triple (fun _ => rfl) (triple_write h) ?_
  rintro r V' ⟨rfl, rfl⟩
  exact ⟨rfl, rfl⟩

theorem answers_logOpen (p : PlayerId) (c : String) (r : Option String) (t : Int) (ht : InI64 t)
    (V : DbView) :
    Answers run view now (.logOpen p c r t) V fun a V' =>
      a = .ok () ∧ V' = { V with stored := V.stored.logOpen p.render c r t } := by
  intro s hb hv
  obtain ⟨hr, hV⟩ := triple_write (hd.logOpen V p.render c r t ht) s.db hv
  simp only [step, SqlStore.stepVia, use_of_open hb]
  rw [hr]
  exact ⟨rfl, hV⟩

theorem answers_recordDelivery (p : PlayerId) (c r : String) (t : Int) (ht : InI64 t)
    (V : DbView) :
    Answers run view now (.recordDelivery p c r t) V fun a V' =>
      a = .ok () ∧ V' = { V with stored := V.stored.logDelivery p.render c r t } := by
  intro s hb hv
  obtain ⟨hr, hV⟩ := triple_write (hd.logDelivery V p.render c r t ht) s.db hv
  simp only [step, SqlStore.stepVia, use_of_open hb]
  rw [hr]
  exact ⟨rfl, hV⟩

/-- A queued reward takes the next id and waits, stamped with the time of the call. -/
theorem answers_queueReward (hnow : InI64 now) (p : PlayerId) (c r : String) (V : DbView)
    (hid : InI64 (V.stored.lastPending + 1)) :
    Answers run view now (.queueReward p c r) V fun r' V' =>
      r' = .ok () ∧ V' = { V with stored := V.stored.queue p.render c r now } := by
  refine answers_of_triple (fun _ => rfl) (triple_write (hd.queue V p.render c r now hnow hid)) ?_
  rintro r' V' ⟨rfl, rfl⟩
  exact ⟨rfl, rfl⟩

/-- **Taking a key.** A positive balance is decremented, and then removed if that took it
to zero or below, in one transaction that answers `true`; any other balance is left as it
is and the answer is `false`. -/
theorem answers_consumeKey (p : PlayerId) (c : String) (st : Stored) :
    Answers run view now (.consumeKey p c) ⟨st, none⟩ fun r V' =>
      r = .ok (st.consume p.render c).1 ∧ V' = ⟨(st.consume p.render c).2, none⟩ := by
  refine answers_of_triple (fun _ => rfl)
    (triple_transaction hd ?_ : Conn.Triple view ⟨st, none⟩ _ fun r V' =>
      r = .ok (st.consume p.render c).1 ∧ V' = ⟨(st.consume p.render c).2, none⟩) ?_
  · refine (hd.takeKey ⟨st, some st⟩ p.render c).bind ?_
    by_cases hk : (st.takeKey p.render c).2 = 0
    · simp only [hk, if_true]
      exact Conn.triple_pure ⟨_, rfl, by simp [Stored.consume, hk]⟩
    · simp only [hk, if_false]
      exact (hd.dropEmpty ⟨_, some st⟩ p.render c).bind
        (Conn.triple_pure ⟨_, rfl, by simp [Stored.consume, hk]⟩)
  · rintro r V' ⟨rfl, rfl⟩
    exact ⟨rfl, rfl⟩

/-- **The waiting rewards** of a player are its waiting rows, in the order of their ids. -/
theorem answers_pendingRewards (p : PlayerId) (V : DbView) :
    Answers run view now (.pendingRewards p) V fun r V' =>
      r = .ok ((V.stored.pending.filter (Stored.waitingFor p.render)).map PendingRow.reward?) ∧
        V' = V := by
  refine answers_of_triple (fun _ => rfl) ((hd.waiting V p.render).bind ?_) (fun r V' h => h)
  intro o hn hrows
  dsimp only [Call.Answer]
  rw [hrows, mapM_map_of_pure]
  · exact Conn.triple_pure ⟨rfl, rfl⟩
  · intro row _
    have get := Relation.get_of_names hn
      [heldText row.crate, heldText row.reward, heldText row.status, .int row.createdAt]
    have status := readText_held (get "status")
    have crate := readText_held (get "crate_id")
    have reward := readText_held (get "reward_id")
    have createdAt := readInt_int (get "created_at")
    simp only [status, crate, reward, createdAt, Conn.decoded_ok, pure_bind]
    rfl

/-- **Marking a reward delivered** flips the first waiting row of the player, crate and
reward, and logs a delivery stamped with the time of the call, in one transaction that
answers `true`; with no such row, or none flipped, nothing changes and the answer is
`false`. -/
theorem answers_markDelivered (hnow : InI64 now) (p : PlayerId) (c r : String) (st : Stored) :
    Answers run view now (.markDelivered p c r) ⟨st, none⟩ fun a V' =>
      a = .ok (st.deliver p.render c r now).1 ∧ V' = ⟨(st.deliver p.render c r now).2, none⟩ := by
  refine answers_of_triple (fun _ => rfl)
    (triple_transaction hd ?_ : Conn.Triple view ⟨st, none⟩ _ fun a V' =>
      a = .ok (st.deliver p.render c r now).1 ∧ V' = ⟨(st.deliver p.render c r now).2, none⟩) ?_
  · refine (hd.firstWaiting ⟨st, some st⟩ p.render c r).bind ?_
    intro o hn hrows
    dsimp only [Call.Answer]
    cases hf : st.pending.find? (Stored.matching p.render c r) with
    | none =>
      simp only [hf, Option.map_none, Option.toList_none] at hrows
      simp only [hrows, List.head?_nil]
      exact Conn.triple_pure ⟨st, rfl, by simp [Stored.deliver, hf]⟩
    | some row =>
      simp only [hf, Option.map_some, Option.toList_some] at hrows
      simp only [hrows, List.head?_cons, readInt_single hn, Conn.decoded_ok, pure_bind]
      refine (hd.markRow ⟨st, some st⟩ row.id).bind ?_
      by_cases hk : (st.markRow row.id).2 = 0
      · simp only [hk, if_true]
        exact Conn.triple_pure ⟨_, rfl, by simp [Stored.deliver, hf, hk]⟩
      · simp only [hk, if_false]
        exact (hd.logDelivery ⟨_, some st⟩ p.render c r now hnow).bind
          (Conn.triple_pure ⟨_, rfl, by simp [Stored.deliver, hf, hk]⟩)
  · rintro a V' ⟨rfl, rfl⟩
    exact ⟨rfl, rfl⟩

theorem triple_dump (st : Stored) :
    Conn.Triple view ⟨st, none⟩ (Conn.dump run) fun r V' =>
      V' = ⟨st, none⟩ ∧ ∃ d, r = .ok d ∧ Dumped st d := by
  refine triple_atomically hd ?_
  refine (hd.allCooldowns _).bind fun cs cn cr => ?_
  refine (hd.positiveKeys _).bind fun ks kn kr => ?_
  refine (hd.allOpens _).bind fun os on or => ?_
  refine (hd.allDeliveries _).bind fun ds dn dr => ?_
  exact Conn.triple_pure ⟨_, st, rfl, rfl, rfl, _, rfl, ⟨cn, cr, kn, kr, on, or, dn, dr⟩⟩

/-- **A snapshot** of tables whose player texts the store wrote changes nothing and lists
the cooldowns and the clamped positive balances in some order, and the history in order. -/
theorem answers_snapshot (st : Stored) (hr : st.Rendered) :
    Answers run view now .snapshot ⟨st, none⟩ fun r V' => V' = ⟨st, none⟩ ∧ ∃ snap,
      r = .ok snap ∧ (snap.cooldowns.map Cooldown.keyed).Perm st.cooldowns ∧
      (snap.keyBalances.map KeyBalance.keyed).Perm st.positiveBalances ∧
      snap.history.map HistoryEntry.stored = st.history := by
  intro s hb hv
  obtain ⟨hV, d, hres, hdumped⟩ := triple_dump hd st s.db hv
  obtain ⟨snap, hdec, cooldowns, balances, history⟩ := hdumped.decode hr
  simp only [step, SqlStore.stepVia, use_of_open hb]
  rw [hres]
  exact ⟨hV, snap, hdec, cooldowns, balances, history⟩

/-- **A clear** empties the six tables in one transaction. -/
theorem answers_clear (st : Stored) :
    Answers run view now .clear ⟨st, none⟩ fun r V' => r = .ok () ∧ V' = ⟨st.cleared, none⟩ := by
  refine answers_of_triple (fun _ => rfl) (triple_atomically hd ?_ :
    Conn.Triple view ⟨st, none⟩ _ fun r V' => r = .ok () ∧ V' = ⟨st.cleared, none⟩) ?_
  · refine Conn.triple_bind_of_ok (triple_forIn (fun t st => st.clearTable t)
      (fun t _ => t ∈ Tables.all) ?_ Tables.all st ?_) ?_
    · intro t st' ht
      obtain ⟨n, hn⟩ := hd.clearTable ⟨st', some st⟩ t ht
      exact hn.bind (Conn.triple_pure ⟨rfl, rfl⟩)
    · exact stepsFit_of_forall (fun t ht _ => ht) st
    · rw [Stored.foldl_clearTable]
      exact Conn.triple_pure ⟨_, _, rfl, rfl, rfl, rfl⟩
  · rintro r V' ⟨rfl, rfl⟩
    exact ⟨rfl, rfl⟩

/-- **An import** writes the snapshot in one transaction: the cooldowns, the positive
balances, the history, and answers how many of each it wrote. -/
theorem answers_import (st : Stored) (snap : Snapshot) (hfit : st.ImportFits snap) :
    Answers run view now (.import snap) ⟨st, none⟩ fun r V' =>
      r = .ok { cooldowns := snap.cooldowns.length,
                keyBalances := (snap.keyBalances.filter (·.amount > 0)).length,
                history := snap.history.length } ∧
        V' = ⟨st.imported snap, none⟩ := by
  obtain ⟨hcool, hbal, hhist⟩ := hfit
  refine answers_of_triple (fun _ => rfl) (?_ : Conn.Triple view ⟨st, none⟩
    (Conn.importAll run snap) fun r V' =>
      r = .ok { cooldowns := snap.cooldowns.length,
                keyBalances := (snap.keyBalances.filter (·.amount > 0)).length,
                history := snap.history.length } ∧
        V' = ⟨st.imported snap, none⟩) ?_
  · unfold Conn.importAll
    refine triple_atomically hd ?_
    refine Conn.triple_bind_of_ok (triple_forIn (fun r st => st.importCooldown r)
      (fun r _ => InI64 r.lastUsed) ?_ snap.cooldowns st (stepsFit_of_forall
        (fun r hr _ => hcool r hr) st)) ?_
    · intro r st' ht
      exact (hd.setCooldown _ _ _ _ ht).bind (Conn.triple_pure ⟨rfl, rfl⟩)
    refine Conn.triple_bind_of_ok (triple_forIn (fun b st => st.importBalance b) _ ?_ _ _ hbal) ?_
    · intro b st' ⟨hn, hsum⟩
      exact (hd.addKeys _ _ _ _ hn hsum).bind (Conn.triple_pure ⟨rfl, rfl⟩)
    refine Conn.triple_bind_of_ok (triple_forIn (fun h st => st.importEntry h)
      (fun h _ => InI64 h.time) ?_ snap.history _ (stepsFit_of_forall (fun h hh _ => hhist h hh) _)) ?_
    · intro h st' ht
      cases hk : h.kind with
      | «open» =>
        refine (hd.logOpen _ _ _ _ _ ht).bind (Conn.triple_pure ⟨rfl, ?_⟩)
        simp only [Stored.importEntry, hk]
      | delivery =>
        refine (hd.logDelivery _ _ _ _ _ ht).bind (Conn.triple_pure ⟨rfl, ?_⟩)
        simp only [Stored.importEntry, hk]
    exact Conn.triple_pure ⟨_, _, rfl, rfl, rfl, rfl⟩
  · rintro r V' ⟨rfl, rfl⟩
    exact ⟨rfl, rfl⟩

end SqlModel

end CrateState
