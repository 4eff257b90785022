import Mathlib
import CrateState.Storage.Local

/-!
# Keyed lists

`Assoc` keeps a value per key in a list: `get?` reads the first entry of a key, `set`
overwrites every entry of the key in place or appends one, and `erase` drops every entry
of the key. The lemmas here say what a read finds after each write, and where the entries
of a written list come from; they hold whether or not the list has one entry a key.
-/

namespace CrateState

namespace Assoc

variable {κ α : Type} [DecidableEq κ]

theorem set_keys_fst (k : κ) (v : α) (e : κ × α) : (if e.1 = k then (k, v) else e).1 = e.1 := by
  split <;> simp_all

theorem get?_set (xs : List (κ × α)) (k k' : κ) (v : α) :
    get? (set xs k v) k' = if k = k' then some v else get? xs k' := by
  unfold set get?
  split
  next present =>
    rw [List.find?_map]
    have keys : ((fun e : κ × α => decide (e.1 = k')) ∘ fun e : κ × α =>
        if e.1 = k then (k, v) else e) = fun e => decide (e.1 = k') := by
      funext e
      simp only [Function.comp, set_keys_fst]
    rw [keys, Option.map_map]
    by_cases same : k = k'
    · subst same
      have found : (xs.find? fun e => decide (e.1 = k)).isSome :=
        List.find?_isSome.mpr (List.any_eq_true.mp present)
      obtain ⟨e, he⟩ := Option.isSome_iff_exists.mp found
      have hk : e.1 = k := by simpa using List.find?_some he
      rw [he]
      simp [hk]
    · rw [if_neg same]
      cases hf : xs.find? (fun e => decide (e.1 = k')) with
      | none => rfl
      | some e =>
        have hk : e.1 = k' := by simpa using List.find?_some hf
        have : e.1 ≠ k := fun h => same (h ▸ hk)
        simp [this]
  next absent =>
    rw [List.find?_append]
    by_cases same : k = k'
    · subst same
      have none : xs.find? (fun e => decide (e.1 = k)) = none := by
        rw [List.find?_eq_none]
        intro e he hek
        exact absent (List.any_eq_true.mpr ⟨e, he, hek⟩)
      simp [none]
    · simp [same]

theorem get?_erase (xs : List (κ × α)) (k k' : κ) :
    get? (erase xs k) k' = if k = k' then none else get? xs k' := by
  unfold get? erase
  rw [List.find?_filter]
  by_cases same : k = k'
  · -- every entry of the key was dropped
    subst same
    simp
  · rw [if_neg same]
    congr 2
    funext e
    by_cases hk : e.1 = k'
    · simp [hk, Ne.symm same]
    · simp [hk]

theorem erase_set_self (xs : List (κ × α)) (k : κ) (v : α) : erase (set xs k v) k = erase xs k := by
  unfold set erase
  split
  · rw [List.filter_map]
    have keys : ((fun e : κ × α => decide (e.1 ≠ k)) ∘ fun e : κ × α =>
        if e.1 = k then (k, v) else e) = fun e => decide (e.1 ≠ k) := by
      funext e
      simp only [Function.comp, set_keys_fst]
    rw [keys]
    conv => rhs; rw [← List.map_id (xs.filter _)]
    apply List.map_congr_left
    intro e he
    have hk : e.1 ≠ k := by simpa using (List.mem_filter.mp he).2
    simp [hk]
  · simp

theorem mem_set {xs : List (κ × α)} {k : κ} {v : α} {e : κ × α} (he : e ∈ set xs k v) :
    e = (k, v) ∨ e ∈ xs := by
  unfold set at he
  split at he
  · obtain ⟨e', he', rfl⟩ := List.mem_map.mp he
    by_cases hk : e'.1 = k
    · exact .inl (by simp [hk])
    · exact .inr (by simpa [hk] using he')
  · rcases List.mem_append.mp he with he | he
    · exact .inr he
    · exact .inl (List.mem_singleton.mp he)

theorem forall_mem_set {P : κ × α → Prop} {xs : List (κ × α)} (h : ∀ e ∈ xs, P e) {k : κ} {v : α}
    (hk : P (k, v)) : ∀ e ∈ set xs k v, P e :=
  fun e he => (mem_set he).elim (fun same => same ▸ hk) (h e)

theorem mem_of_get? {xs : List (κ × α)} {k : κ} {v : α} (h : get? xs k = some v) :
    (k, v) ∈ xs := by
  unfold get? at h
  obtain ⟨e, he, rfl⟩ := Option.map_eq_some_iff.mp h
  have hk : e.1 = k := by simpa using List.find?_some he
  rw [← hk]
  exact List.mem_of_find?_eq_some he

theorem get?_eq_none_iff {xs : List (κ × α)} {k : κ} : get? xs k = none ↔ k ∉ xs.map Prod.fst := by
  unfold get?
  simp only [Option.map_eq_none_iff, List.find?_eq_none, List.mem_map, decide_eq_true_eq,
    not_exists, not_and]

theorem get?_of_mem {xs : List (κ × α)} (h : (xs.map Prod.fst).Nodup) {k : κ} {v : α}
    (he : (k, v) ∈ xs) : get? xs k = some v := by
  cases hk : get? xs k with
  | none => exact absurd (List.mem_map_of_mem he) (get?_eq_none_iff.mp hk)
  | some w =>
    -- two entries of one key are one entry
    have same := List.inj_on_of_nodup_map h (mem_of_get? hk) he rfl
    simp only [Prod.mk.injEq, true_and] at same
    rw [same]

theorem get?_eq_some_iff {xs : List (κ × α)} (h : (xs.map Prod.fst).Nodup) {k : κ} {v : α} :
    get? xs k = some v ↔ (k, v) ∈ xs :=
  ⟨mem_of_get?, get?_of_mem h⟩

theorem mem_erase {xs : List (κ × α)} {k : κ} {e : κ × α} (he : e ∈ erase xs k) : e ∈ xs :=
  (List.mem_filter.mp he).1

theorem map_fst_set (xs : List (κ × α)) (k : κ) (v : α) :
    (set xs k v).map Prod.fst =
      if xs.any (·.1 = k) then xs.map Prod.fst else xs.map Prod.fst ++ [k] := by
  unfold set
  split
  · rw [List.map_map]
    apply List.map_congr_left
    intro e _
    exact set_keys_fst k v e
  · simp

theorem nodup_set {xs : List (κ × α)} (h : (xs.map Prod.fst).Nodup) (k : κ) (v : α) :
    ((set xs k v).map Prod.fst).Nodup := by
  rw [map_fst_set]
  split
  · exact h
  · next absent =>
    refine List.nodup_append.mpr ⟨h, by simp, ?_⟩
    intro a ha b hb same
    obtain ⟨e, he, rfl⟩ := List.mem_map.mp ha
    exact absent (List.any_eq_true.mpr ⟨e, he, by simp_all⟩)

theorem nodup_erase {xs : List (κ × α)} (h : (xs.map Prod.fst).Nodup) (k : κ) :
    ((erase xs k).map Prod.fst).Nodup :=
  h.sublist (List.filter_sublist.map _)

theorem set_of_absent {xs : List (κ × α)} {k : κ} (h : k ∉ xs.map Prod.fst) (v : α) :
    set xs k v = xs ++ [(k, v)] := by
  unfold set
  rw [if_neg]
  intro present
  obtain ⟨e, he, hk⟩ := List.any_eq_true.mp present
  exact h (List.mem_map.mpr ⟨e, he, by simpa using hk⟩)

/-- Writing, one after another, entries with distinct keys that the list does not hold
appends them, whatever value each write computes from the list, as long as it is the
entry's own on a key the list does not hold. -/
theorem foldl_set_fresh (g : List (κ × α) → κ × α → α) {xs init : List (κ × α)}
    (hg : ∀ acc, ∀ e ∈ xs, get? acc e.1 = none → g acc e = e.2)
    (fresh : (init.map Prod.fst ++ xs.map Prod.fst).Nodup) :
    xs.foldl (fun acc e => set acc e.1 (g acc e)) init = init ++ xs := by
  induction xs generalizing init with
  | nil => simp
  | cons e xs ih =>
    have absent : e.1 ∉ init.map Prod.fst :=
      fun mem => (List.nodup_append.mp fresh).2.2 _ mem _ List.mem_cons_self rfl
    have value := hg init e List.mem_cons_self (get?_eq_none_iff.mpr absent)
    rw [List.foldl_cons, value, set_of_absent absent,
      ih (fun acc e' he' => hg acc e' (List.mem_cons_of_mem _ he')) (by simpa using fresh)]
    simp

/-- Writing entries one after another leaves a key with the value of its last entry, or with
the value it had when no entry has it. -/
theorem get?_foldl_set (xs init : List (κ × α)) (k : κ) :
    get? (xs.foldl (fun acc e => set acc e.1 e.2) init) k =
      ((xs.filter (·.1 = k)).getLast?.map Prod.snd).or (get? init k) := by
  induction xs generalizing init with
  | nil => simp
  | cons e xs ih =>
    rw [List.foldl_cons, ih, get?_set]
    by_cases hk : e.1 = k
    · -- the entry's value stands unless a later entry has its key too
      cases hl : (xs.filter (·.1 = k)).getLast? <;> simp [hk, hl, List.getLast?_cons]
    · simp [hk]

/-- Adding entries one after another to what a key holds leaves it with what it held, nothing
counting as zero, plus the sum of its entries; a key no entry has keeps what it held. -/
theorem get?_foldl_add (xs init : List (κ × Int)) (k : κ) :
    get? (xs.foldl (fun acc e => set acc e.1 ((get? acc e.1).getD 0 + e.2)) init) k =
      if xs.any (·.1 = k) then
        some ((get? init k).getD 0 + ((xs.filter (·.1 = k)).map Prod.snd).sum)
      else get? init k := by
  induction xs generalizing init with
  | nil => simp
  | cons e xs ih =>
    rw [List.foldl_cons, ih, get?_set]
    by_cases hk : e.1 = k
    · subst hk
      by_cases later : xs.any (·.1 = e.1)
      · simp [later, Int.add_assoc]
      · -- the entry is the only one of its key
        have none : xs.filter (·.1 = e.1) = [] :=
          List.filter_eq_nil_iff.mpr fun x hx h => later (List.any_eq_true.mpr ⟨x, hx, h⟩)
        simp [later, none]
    · have other : decide (e.1 = k) = false := decide_eq_false hk
      simp only [List.any_cons, List.filter_cons, other, Bool.false_or, Bool.false_eq_true,
        if_false, if_neg hk]

end Assoc

end CrateState
