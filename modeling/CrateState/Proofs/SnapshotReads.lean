import CrateState.Proofs.SoundStores
import CrateState.Proofs.MirrorCalls
import CrateState.Proofs.MemoryDatabase

/-!
# Snapshots agree with the point reads

A snapshot agrees with the point reads (`Snapshot.Agrees`) of every store built from
(`snapshot_agrees_with_point_reads`)

* in-memory stores with one entry per slot and no zero balance, as every reachable one is
  (`LocalStore.Listable`);
* SQL stores, outside a transaction, on tables keeping their primary keys, whatever amounts
  and times the rows hold: the count clamps the amount, and the snapshot leaves out amounts
  of zero or below and clamps the others alike (`Stored.Listable`);
* breakers over such stores, for a read leaving each breaker on the store it served from
  (`Backend.Steady`): a snapshot never trips one, so read and snapshot are answered by the
  same store (`Backend.active`).

Rows other writers put in the tables may break the agreement: the snapshot reads a player
id in any spelling the identifier reader takes, a point read only in the store's own
(lowercase, hyphenated). So `Stored.Listable` asks that each id that reads as an identifier
be in that spelling: a cooldown stored under an id's 32 digits without hyphens is listed
by the snapshot and not found by the cooldown read
(`snapshot_lists_unhyphenated_cooldown`). An id that reads as no identifier makes the
snapshot fail.
-/

namespace CrateState

open Relational

/-! ### What a snapshot agrees with -/

/-- A snapshot agrees with point reads of cooldowns and key counts, given per slot: it lists
a cooldown exactly when the read finds it, a balance exactly when the count answers it and
it is positive, and no slot twice in either list. -/
structure Snapshot.Agrees (snap : Snapshot) (cooldown : PlayerId → String → Except StoreError (Option Int))
    (count : PlayerId → String → Except StoreError Nat) : Prop where
  cooldowns : ∀ p c t, ⟨p, c, t⟩ ∈ snap.cooldowns ↔ cooldown p c = .ok (some t)
  balances : ∀ p c n, ⟨p, c, n⟩ ∈ snap.keyBalances ↔ count p c = .ok n ∧ 0 < n
  cooldownSlots : (snap.cooldowns.map fun r => (⟨r.player, r.crate⟩ : Slot)).Nodup
  balanceSlots : (snap.keyBalances.map fun b => (⟨b.player, b.crate⟩ : Slot)).Nodup

/-! ### The in-memory store -/

/-- An in-memory store whose snapshot the point reads agree with: one entry per slot, and no
balance of zero. -/
structure LocalStore.Listable (L : LocalStore) : Prop where
  cooldownSlots : (L.cooldowns.map Prod.fst).Nodup
  keySlots : (L.keys.map Prod.fst).Nodup
  positive : ∀ e ∈ L.keys, 0 < e.2

theorem LocalStore.Sound.listable {L : LocalStore} (h : L.Sound) : L.Listable :=
  ⟨h.cooldownSlots, h.keySlots, fun e he => (h.wf e he).1⟩

namespace LocalStore.Listable

variable {L : LocalStore}

/-- The count of a slot is positive exactly when the slot has an entry, and then it is the
entry. -/
theorem count_pos_iff (h : L.Listable) (s : Slot) (n : Nat) :
    (Assoc.get? L.keys s).getD 0 = n ∧ 0 < n ↔ (s, n) ∈ L.keys := by
  rw [← Assoc.get?_eq_some_iff h.keySlots]
  cases hs : Assoc.get? L.keys s with
  | none => simp only [Option.getD_none, reduceCtorEq, iff_false, not_and]; omega
  | some m =>
    have pos := h.positive _ (Assoc.mem_of_get? hs)
    simp only [Option.getD_some, Option.some.injEq]
    constructor
    · exact fun ⟨same, _⟩ => same
    · rintro rfl
      exact ⟨rfl, pos⟩

/-- **The in-memory store's snapshot agrees with its point reads.** It lists its entries
as they are, so a cooldown is listed exactly when it is read, and a balance, never zero,
exactly when it is counted. -/
theorem snapshot_agrees (h : L.Listable) (now later : Int) {snap : Snapshot}
    (hs : (L.handle now .snapshot).1 = .ok snap) :
    snap.Agrees (fun p c => (L.handle later (.getCooldown p c)).1)
      (fun p c => (L.handle later (.keyCount p c)).1) := by
  simp only [show L.handle now .snapshot = L.step now .snapshot from rfl, LocalStore.step] at hs
  cases hs
  refine ⟨fun p c t => ?_, fun p c n => ?_, ?_, ?_⟩
  · show _ ↔ Except.ok (Assoc.get? L.cooldowns ⟨p, c⟩) = _
    rw [Except.ok.injEq, Assoc.get?_eq_some_iff h.cooldownSlots, List.mem_map]
    constructor
    · rintro ⟨⟨⟨p', c'⟩, t'⟩, he, same⟩
      cases same
      exact he
    · exact fun he => ⟨_, he, rfl⟩
  · show _ ↔ Except.ok ((Assoc.get? L.keys ⟨p, c⟩).getD 0) = _ ∧ _
    rw [Except.ok.injEq, h.count_pos_iff, List.mem_map]
    constructor
    · rintro ⟨⟨⟨p', c'⟩, n'⟩, he, same⟩
      cases same
      exact he
    · exact fun he => ⟨_, he, rfl⟩
  · simpa [List.map_map, Function.comp_def] using h.cooldownSlots
  · simpa [List.map_map, Function.comp_def] using h.keySlots

end LocalStore.Listable

/-! ### Decoding what the tables hold -/

theorem Except.bind_eq_ok {ε α β : Type} {x : Except ε α} {f : α → Except ε β} {b : β}
    (h : x >>= f = .ok b) : ∃ a, x = .ok a ∧ f a = .ok b := by
  cases x with
  | error e => cases h
  | ok a => exact ⟨a, rfl, h⟩

theorem Except.map_eq_ok {ε α β : Type} {x : Except ε α} {f : α → β} {b : β}
    (h : x.map f = .ok b) : ∃ a, x = .ok a ∧ f a = b := by
  cases x with
  | error e => cases h
  | ok a =>
    cases h
    exact ⟨a, rfl, rfl⟩

theorem mapM_ok_each {ε ρ β : Type} {l : List ρ} {f : ρ → Except ε β} {out : List β}
    (h : l.mapM f = .ok out) : ∀ r ∈ l, ∃ b, f r = .ok b := by
  induction l generalizing out with
  | nil => simp
  | cons r l ih =>
    rw [List.mapM_cons] at h
    obtain ⟨b, hb, rest⟩ := Except.bind_eq_ok h
    obtain ⟨bs, hbs, -⟩ := Except.bind_eq_ok rest
    intro r' hr'
    rcases List.mem_cons.mp hr' with rfl | hr'
    · exact ⟨b, hb⟩
    · exact ih hbs r' hr'

/-- Rows listed in some order and decoded as a whole: when each row decodes to something
that `k` takes to what `g` takes its entry to, the decoded list lists the entries in some
order. -/
theorem mapM_perm_of_ok {ε α ρ β γ : Type} {L : List α} {R : List ρ} {toRow : α → ρ}
    (hR : R.Perm (L.map toRow)) {f : ρ → Except ε β} {out : List β} (hout : R.mapM f = .ok out)
    {k : β → γ} {g : α → γ} (hf : ∀ a ∈ L, ∀ b, f (toRow a) = .ok b → k b = g a) :
    (out.map k).Perm (L.map g) := by
  have each := mapM_ok_each hout
  obtain ⟨out', hout', perm⟩ := mapM_perm_ok hR (f := f) (k := k) (g := g) fun a ha => by
    obtain ⟨b, hb⟩ := each _ (hR.symm.subset (List.mem_map_of_mem ha))
    exact ⟨b, hb, hf a ha b hb⟩
  rw [hout] at hout'
  cases hout'
  exact perm

/-- A stored player id written as the store writes it, if it reads as an identifier at
all. -/
def PlayerId.Canonical (s : String) : Prop := ∀ p : PlayerId, PlayerId.parse s = .ok p → p.render = s

theorem PlayerId.IsRender.canonical {s : String} (h : PlayerId.IsRender s) : PlayerId.Canonical s := by
  obtain ⟨p, rfl⟩ := h
  intro q hq
  rw [PlayerId.parse_render] at hq
  cases hq
  rfl

/-- A stored player id that reads as an identifier and is written as the store writes it
is that identifier's text. -/
theorem storedPlayer_canonical {s : String} (h : PlayerId.Canonical s) {p : PlayerId}
    (hp : storedPlayer s = .ok p) : p.render = s := by
  unfold storedPlayer at hp
  split at hp
  · cases hp
    exact h _ ‹_›
  · cases hp

section Rows

variable {o : Relation}

/-- A cooldown row decodes to its crate and time, under the identifier its player text
reads as. -/
theorem cooldownRow_held (hn : o.columns.map ColumnInfo.name = ["player_id", "crate_id", "last_used"])
    (pt c : String) (t : Int) :
    SqlStore.cooldownRow o [heldText pt, heldText c, .int t] =
      (storedPlayer pt).map fun p => ⟨p, c, t⟩ := by
  have get := Relation.get_of_names hn [heldText pt, heldText c, .int t]
  simp only [SqlStore.cooldownRow, readText_held (get "player_id"), readText_held (get "crate_id"),
    readInt_int (get "last_used"), Except.mapError, bind, Except.bind]
  cases storedPlayer pt <;> rfl

/-- A balance row decodes to its crate and clamped amount, under the identifier its player
text reads as. -/
theorem balanceRow_held (hn : o.columns.map ColumnInfo.name = ["player_id", "crate_id", "amount"])
    (pt c : String) (a : Int) :
    SqlStore.balanceRow o [heldText pt, heldText c, .int a] =
      (storedPlayer pt).map fun p => ⟨p, c, clampKeys a⟩ := by
  have get := Relation.get_of_names hn [heldText pt, heldText c, .int a]
  simp only [SqlStore.balanceRow, readText_held (get "player_id"), readText_held (get "crate_id"),
    readInt_int (get "amount"), Except.mapError, bind, Except.bind]
  cases storedPlayer pt <;> rfl

end Rows

/-! ### The SQL store -/

/-- Tables whose snapshot the point reads agree with: one row per slot among the cooldowns
and among the balances, as the primary keys keep them, and each player id of those rows
written as the store writes it, if it reads as an identifier. Amounts and times are any. -/
structure Stored.Listable (st : Stored) : Prop where
  cooldownKeys : (st.cooldowns.map Prod.fst).Nodup
  balanceKeys : (st.keys.map Prod.fst).Nodup
  cooldownPlayers : ∀ e ∈ st.cooldowns, PlayerId.Canonical e.1.1
  balancePlayers : ∀ e ∈ st.keys, PlayerId.Canonical e.1.1

theorem Stored.Sound.listable {st : Stored} (h : st.Sound) : st.Listable :=
  ⟨h.cooldownKeys, h.balanceKeys, fun e he => (h.rendered.1 e he).canonical,
    fun e he => (h.rendered.2.1 e he).canonical⟩

theorem SqlStore.Dump.decode_ok {d : SqlStore.Dump} {snap : Snapshot} (h : d.decode = .ok snap) :
    d.cooldowns.rows.mapM (SqlStore.cooldownRow d.cooldowns) = .ok snap.cooldowns ∧
      d.keys.rows.mapM (SqlStore.balanceRow d.keys) = .ok snap.keyBalances := by
  obtain ⟨cs, hcs, h⟩ := Except.bind_eq_ok h
  obtain ⟨ks, hks, h⟩ := Except.bind_eq_ok h
  obtain ⟨os, -, h⟩ := Except.bind_eq_ok h
  obtain ⟨ds, -, h⟩ := Except.bind_eq_ok h
  cases h
  exact ⟨hcs, hks⟩

/-- **A snapshot of listable tables lists their rows.** The decoded cooldowns are the
table's rows in some order, and the decoded balances its positive rows, clamped: each row's
player text is the text of the identifier it decodes to. -/
theorem Dumped.keyed_of_listable {st : Stored} {d : SqlStore.Dump} (hd : Dumped st d)
    (hl : st.Listable) {snap : Snapshot} (hs : d.decode = .ok snap) :
    (snap.cooldowns.map Cooldown.keyed).Perm st.cooldowns ∧
      (snap.keyBalances.map KeyBalance.keyed).Perm st.positiveBalances := by
  obtain ⟨hcs, hks⟩ := SqlStore.Dump.decode_ok hs
  constructor
  · rw [← List.map_id st.cooldowns]
    refine mapM_perm_of_ok hd.cooldownRows hcs fun e he b hb => ?_
    obtain ⟨⟨pt, c⟩, t⟩ := e
    rw [cooldownRow_held hd.cooldownNames] at hb
    obtain ⟨p, hp, rfl⟩ := Except.map_eq_ok hb
    simp [Cooldown.keyed, storedPlayer_canonical (hl.cooldownPlayers _ he) hp]
  · refine mapM_perm_of_ok hd.keyRows hks fun e he b hb => ?_
    obtain ⟨⟨pt, c⟩, a⟩ := e
    rw [balanceRow_held hd.keyNames] at hb
    obtain ⟨p, hp, rfl⟩ := Except.map_eq_ok hb
    simp [KeyBalance.keyed, storedPlayer_canonical (hl.balancePlayers _ (List.mem_filter.mp he).1) hp]

theorem clampKeys_pos_iff {a : Int} : 0 < clampKeys a ↔ 0 < a := by
  constructor
  · intro pos
    by_contra low
    have : clampKeys a = 0 := by
      unfold clampKeys
      split
      · rfl
      · omega
    omega
  · exact fun pos => (clampKeys_of_pos pos).1

/-- The clamped count of a slot is positive exactly when the tables hold a positive amount
for it, and then it is that amount clamped. -/
theorem Stored.Listable.count_pos_iff {st : Stored} (hl : st.Listable) (k : SlotKey) (n : Nat) :
    ((Assoc.get? st.keys k).map clampKeys).getD 0 = n ∧ 0 < n ↔ (k, n) ∈ st.positiveBalances := by
  unfold Stored.positiveBalances
  rw [List.mem_map]
  cases hk : Assoc.get? st.keys k with
  | none =>
    simp only [Option.map_none, Option.getD_none]
    constructor
    · rintro ⟨rfl, h⟩
      exact absurd h (Nat.lt_irrefl 0)
    · rintro ⟨e, he, same⟩
      have listed : k ∈ st.keys.map Prod.fst :=
        List.mem_map.mpr ⟨e, (List.mem_filter.mp he).1, congrArg Prod.fst same⟩
      exact absurd listed (Assoc.get?_eq_none_iff.mp hk)
  | some a =>
    simp only [Option.map_some, Option.getD_some]
    constructor
    · rintro ⟨rfl, pos⟩
      exact ⟨(k, a), List.mem_filter.mpr ⟨Assoc.mem_of_get? hk, by simpa using clampKeys_pos_iff.mp pos⟩, rfl⟩
    · rintro ⟨⟨k', a'⟩, he, same⟩
      simp only [Prod.mk.injEq] at same
      obtain ⟨rfl, rfl⟩ := same
      obtain ⟨mem, pos⟩ := List.mem_filter.mp he
      -- the row found is the slot's only row
      have found := Assoc.get?_of_mem hl.balanceKeys mem
      rw [hk, Option.some.injEq] at found
      subst found
      exact ⟨rfl, clampKeys_pos_iff.mpr (by simpa using pos)⟩

theorem nodup_slots_of_perm {β ν : Type} {l : List β} {rows : List (SlotKey × ν)} (slot : β → Slot)
    (keyed : β → SlotKey × ν) (hkey : ∀ b, (keyed b).1 = (slot b).key) (hp : (l.map keyed).Perm rows)
    (hn : (rows.map Prod.fst).Nodup) : (l.map slot).Nodup := by
  refine List.Nodup.of_map Slot.key ?_
  have keys : l.map (Slot.key ∘ slot) = l.map (Prod.fst ∘ keyed) :=
    List.map_congr_left fun b _ => (hkey b).symm
  rw [List.map_map, keys, ← List.map_map]
  exact (hp.map Prod.fst).nodup_iff.mpr hn

theorem Stored.Listable.positiveKeys {st : Stored} (hl : st.Listable) :
    (st.positiveBalances.map Prod.fst).Nodup := by
  unfold Stored.positiveBalances
  rw [List.map_map]
  exact hl.balanceKeys.sublist (List.filter_sublist.map _)

namespace SqlModel

variable {σ : Type} {run : Command → Conn σ (Relation × Nat)} {view : σ → DbView}

theorem snapshot_of_blocked {s : SqlModel σ} {e : DriverError} (hb : s.blocked = some e) (now : Int) :
    (s.step run now .snapshot).1 = .error (storeError e) := by
  simp only [step, SqlStore.stepVia, use, hb]
  rfl

variable (hd : Documented run view)
include hd

theorem snapshot_decode {s : SqlModel σ} {st : Stored} (hb : s.blocked = none)
    (hv : view s.db = ⟨st, none⟩) (now : Int) :
    ∃ d, Dumped st d ∧ (s.step run now .snapshot).1 = d.decode := by
  obtain ⟨-, d, hres, hdumped⟩ := triple_dump hd st s.db hv
  refine ⟨d, hdumped, ?_⟩
  simp only [step, SqlStore.stepVia, use_of_open hb]
  rw [hres]
  rfl

/-- **The SQL store's snapshot agrees with its point reads**, on listable tables outside a
transaction: the snapshot and the reads see the same rows, the snapshot under the
identifiers their player texts read as, the reads under the texts of the identifiers. -/
theorem snapshot_agrees {s : SqlModel σ} {st : Stored} (hv : view s.db = ⟨st, none⟩)
    (hl : st.Listable) (now later : Int) {snap : Snapshot}
    (hs : (s.step run now .snapshot).1 = .ok snap) :
    snap.Agrees (fun p c => (s.step run later (.getCooldown p c)).1)
      (fun p c => (s.step run later (.keyCount p c)).1) := by
  cases hb : s.blocked with
  | some e =>
    rw [snapshot_of_blocked hb] at hs
    cases hs
  | none =>
    obtain ⟨d, hdumped, decoded⟩ := snapshot_decode hd hb hv now
    rw [decoded] at hs
    obtain ⟨cooldowns, balances⟩ := hdumped.keyed_of_listable hl hs
    refine ⟨fun p c t => ?_, fun p c n => ?_, ?_, ?_⟩
    · have read : (s.step run later (.getCooldown p c)).1 =
          (.ok (Assoc.get? st.cooldowns (p.render, c)) : Except StoreError (Option Int)) :=
        ((answers_getCooldown hd later p c _) s hb hv).1
      rw [read, Except.ok.injEq, Assoc.get?_eq_some_iff hl.cooldownKeys, ← cooldowns.mem_iff]
      exact (List.mem_map_of_injective Cooldown.keyed_injective).symm
    · have read : (s.step run later (.keyCount p c)).1 =
          (.ok (((Assoc.get? st.keys (p.render, c)).map clampKeys).getD 0) : Except StoreError Nat) :=
        ((answers_keyCount hd later p c _) s hb hv).1
      rw [read, Except.ok.injEq, hl.count_pos_iff, ← balances.mem_iff]
      exact (List.mem_map_of_injective KeyBalance.keyed_injective).symm
    · exact nodup_slots_of_perm _ Cooldown.keyed (fun _ => rfl) cooldowns hl.cooldownKeys
    · exact nodup_slots_of_perm _ KeyBalance.keyed (fun _ => rfl) balances hl.positiveKeys

end SqlModel

/-! ### Stores built from stores -/

theorem Breaker.absorb_of_not_bookkeeping {c : Call} (hc : c.isBookkeeping = false) (r : Reply c) :
    Breaker.absorb c r = r := by
  cases c <;> simp [Call.isBookkeeping, Breaker.absorb] at hc ⊢

namespace Backend

variable {σ : Type} {run : Command → Conn σ (Relation × Nat)} {view : σ → DbView}

/-- The stores whose snapshots the point reads agree with: listable in-memory stores, SQL
stores on listable tables outside a transaction, and breakers over such stores. -/
def Listable (view : σ → DbView) : Backend σ → Prop
  | .memory L => L.Listable
  | .sql s => ∃ st, view s.db = ⟨st, none⟩ ∧ st.Listable
  | .fallback _ p q => p.Listable view ∧ q.Listable view

theorem Sound.listable : ∀ {B : Backend σ}, B.Sound view → B.Listable view
  | .memory _, h => LocalStore.Sound.listable h
  | .sql _, ⟨st, hv, h⟩ => ⟨st, hv, h.listable⟩
  | .fallback _ _ _, ⟨hp, hq⟩ => ⟨Sound.listable hp, Sound.listable hq⟩

/-- The store that serves a store's calls: itself, or the store a breaker serves from. -/
def active : Backend σ → Backend σ
  | .fallback b p q => if b.tripped then q.active else p.active
  | B => B

/-- A call that leaves every breaker it passes on the store the breaker was serving from:
a tripped breaker passes it to the secondary, and a closed one to a primary whose answer
does not trip it. -/
def Steady (run : Command → Conn σ (Relation × Nat)) (now : Int) (c : Call) : Backend σ → Prop
  | .memory _ | .sql _ => True
  | .fallback b p q =>
    if b.tripped then q.Steady run now c
    else Breaker.trips c (p.step run now c).1 = false ∧ p.Steady run now c

theorem Listable.active : ∀ {B : Backend σ}, B.Listable view → B.active.Listable view
  | .memory _, h => h
  | .sql _, h => h
  | .fallback b _ _, ⟨hp, hq⟩ => by
    unfold Backend.active
    split
    · exact Listable.active hq
    · exact Listable.active hp

theorem snapshot_active (now : Int) : ∀ B : Backend σ,
    (B.step run now .snapshot).1 = (B.active.step run now .snapshot).1
  | .memory _ => rfl
  | .sql _ => rfl
  | .fallback b p q => by
    rw [step_snapshot]
    unfold Backend.active
    split
    · exact snapshot_active now q
    · exact snapshot_active now p

theorem steady_active (now : Int) {c : Call} (hc : c.isBookkeeping = false) :
    ∀ {B : Backend σ}, B.Steady run now c → (B.step run now c).1 = (B.active.step run now c).1
  | .memory _, _ => rfl
  | .sql _, _ => rfl
  | .fallback b p q, h => by
    unfold Backend.active
    cases hb : b.tripped
    · simp only [Steady, hb, Bool.false_eq_true, if_false] at h
      rw [step_primary run now hb h.1, Breaker.absorb_of_not_bookkeeping hc]
      exact steady_active now hc h.2
    · simp only [Steady, hb, if_true] at h
      rw [step_tripped run now hb, Breaker.absorb_of_not_bookkeeping hc]
      exact steady_active now hc h

variable (hd : Documented run view)
include hd

theorem Listable.agrees_active (later : Int) : ∀ {B : Backend σ}, B.Listable view →
    ∀ {now : Int} {snap : Snapshot}, (B.active.step run now .snapshot).1 = .ok snap →
      snap.Agrees (fun p c => (B.active.step run later (.getCooldown p c)).1)
        (fun p c => (B.active.step run later (.keyCount p c)).1)
  | .memory _, h, now, _, hs => h.snapshot_agrees now later hs
  | .sql _, ⟨_, hv, h⟩, now, _, hs => SqlModel.snapshot_agrees hd hv h now later hs
  | .fallback b _ _, ⟨hp, hq⟩, _, _, hs => by
    unfold Backend.active at hs ⊢
    split at hs
    · simp only [*, if_true]
      exact Listable.agrees_active later hq hs
    · simp only [*, Bool.false_eq_true, if_false]
      exact Listable.agrees_active later hp hs

end Backend

/-! ### Every store built from listable stores -/

/-- **A snapshot agrees with the point reads.** Over a documented database, take a store
built from listable stores and a snapshot it answers at any time. At any later time, for a
read that is steady in the store, the snapshot lists the cooldown `(p, c, t)` exactly when
reading the cooldown of `(p, c)` finds `t`, and the balance `(p, c, n)` exactly when
counting the keys of `(p, c)` answers `n` and `n` is positive; it lists no slot twice. -/
theorem snapshot_agrees_with_point_reads {σ : Type} {run : Command → Conn σ (Relation × Nat)}
    {view : σ → DbView} (hd : Documented run view) {B : Backend σ} (hB : B.Listable view)
    {now : Int} {snap : Snapshot} (hs : (B.step run now .snapshot).1 = .ok snap) (later : Int) :
    (∀ p c (t : Int), B.Steady run later (.getCooldown p c) →
      (⟨p, c, t⟩ ∈ snap.cooldowns ↔ (B.step run later (.getCooldown p c)).1 = .ok (some t))) ∧
    (∀ p c (n : Nat), B.Steady run later (.keyCount p c) →
      (⟨p, c, n⟩ ∈ snap.keyBalances ↔ (B.step run later (.keyCount p c)).1 = .ok n ∧ 0 < n)) ∧
    (snap.cooldowns.map fun r => (⟨r.player, r.crate⟩ : Slot)).Nodup ∧
    (snap.keyBalances.map fun b => (⟨b.player, b.crate⟩ : Slot)).Nodup := by
  rw [Backend.snapshot_active] at hs
  have agrees := Backend.Listable.agrees_active hd later hB hs
  refine ⟨fun p c t steady => ?_, fun p c n steady => ?_, agrees.cooldownSlots, agrees.balanceSlots⟩
  · rw [Backend.steady_active later rfl steady]
    exact agrees.cooldowns p c t
  · rw [Backend.steady_active later rfl steady]
    exact agrees.balances p c n

/-- Over the memory database, on tables holding a cooldown, a balance below zero and one
past `maxKeys`: the snapshot lists the cooldown and the second balance clamped, and the
point reads answer what it lists. -/
theorem snapshot_agrees_on_clamped_rows :
    let st : Stored :=
      { cooldowns := [((PlayerId.nil.render, "c"), 5)],
        keys := [((PlayerId.nil.render, "c"), -3), ((PlayerId.nil.render, "d"), 5000000000)] }
    let B : Backend DbView := .sql ⟨none, ⟨st, none⟩⟩
    B.Listable id ∧
      (B.step MemoryDatabase.run 0 .snapshot).1 =
        .ok { cooldowns := [⟨PlayerId.nil, "c", 5⟩], keyBalances := [⟨PlayerId.nil, "d", maxKeys⟩] } ∧
      (B.step MemoryDatabase.run 1 (.getCooldown PlayerId.nil "c")).1 =
        (.ok (some 5) : Except StoreError (Option Int)) ∧
      (B.step MemoryDatabase.run 1 (.keyCount PlayerId.nil "d")).1 =
        (.ok maxKeys : Except StoreError Nat) := by
  intro st B
  have canonical : PlayerId.Canonical PlayerId.nil.render := PlayerId.IsRender.canonical ⟨_, rfl⟩
  have hl : st.Listable :=
    ⟨by decide, by decide, by simp [st, canonical], by simp [st, canonical]⟩
  -- the snapshot, from the rows its queries read
  have hs : (B.step MemoryDatabase.run 0 .snapshot).1 =
      .ok { cooldowns := [⟨PlayerId.nil, "c", 5⟩], keyBalances := [⟨PlayerId.nil, "d", maxKeys⟩] } := by
    obtain ⟨d, hdumped, decoded⟩ := SqlModel.snapshot_decode MemoryDatabase.documented
      (s := ⟨none, ⟨st, none⟩⟩) rfl rfl 0
    have cooldowns : d.cooldowns.rows = [[heldText PlayerId.nil.render, heldText "c", .int 5]] :=
      List.perm_singleton.mp hdumped.cooldownRows
    have keys : d.keys.rows = [[heldText PlayerId.nil.render, heldText "d", .int 5000000000]] :=
      List.perm_singleton.mp (by simpa [st] using hdumped.keyRows)
    have clamped : clampKeys 5000000000 = maxKeys := by decide
    simp only [B, Backend.step]
    rw [decoded, SqlStore.Dump.decode, cooldowns, keys, hdumped.openRows, hdumped.deliveryRows]
    simp only [List.mapM_cons, List.mapM_nil, cooldownRow_held hdumped.cooldownNames,
      balanceRow_held hdumped.keyNames, storedPlayer_render, clamped]
    rfl
  obtain ⟨reads, counts, -⟩ :=
    snapshot_agrees_with_point_reads MemoryDatabase.documented (B := B) ⟨st, rfl, hl⟩ hs 1
  exact ⟨⟨st, rfl, hl⟩, hs, (reads _ _ _ trivial).mp (List.mem_singleton_self _),
    ((counts _ _ _ trivial).mp (List.mem_singleton_self _)).1⟩

/-- **A cooldown under an id without hyphens.** Over the memory database, on tables holding
one cooldown stored under the 32 digits of the nil identifier: the snapshot lists the
cooldown under that identifier, and reading the identifier's cooldown finds none. -/
theorem snapshot_lists_unhyphenated_cooldown :
    let s : SqlModel DbView :=
      ⟨none, ⟨{ cooldowns := [(("00000000000000000000000000000000", "c"), 5)] }, none⟩⟩
    (s.step MemoryDatabase.run 0 .snapshot).1 = .ok { cooldowns := [⟨PlayerId.nil, "c", 5⟩] } ∧
      (s.step MemoryDatabase.run 0 (.getCooldown PlayerId.nil "c")).1 =
        (.ok none : Except StoreError (Option Int)) := by
  intro s
  constructor
  · obtain ⟨d, hdumped, decoded⟩ := SqlModel.snapshot_decode MemoryDatabase.documented
      (s := s) rfl rfl 0
    have cooldowns : d.cooldowns.rows =
        [[heldText "00000000000000000000000000000000", heldText "c", .int 5]] :=
      List.perm_singleton.mp hdumped.cooldownRows
    have keys : d.keys.rows = [] := List.Perm.eq_nil hdumped.keyRows
    -- the digits read as the nil identifier
    have read : storedPlayer "00000000000000000000000000000000" = .ok PlayerId.nil := by
      decide +kernel
    rw [decoded, SqlStore.Dump.decode, cooldowns, keys, hdumped.openRows, hdumped.deliveryRows]
    simp only [List.mapM_cons, List.mapM_nil, cooldownRow_held hdumped.cooldownNames, read]
    rfl
  · -- the read looks the cooldown up under the hyphenated text, which no row has
    exact @of_decide_eq_true _ ((inferInstance : DecidableEq (Except StoreError (Option Int))) _ _)
      (by decide +kernel)

end CrateState
