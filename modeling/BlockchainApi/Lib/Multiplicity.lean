/-
  How often a selection by keys selects an item.

  A list of keys selects the items of a list key by key: for each key the items that match it, one
  after the other.  Nothing keeps a key from being listed twice, or an item from matching two keys,
  so an item may be selected several times.

  1. **Counting.** An item is selected once for each key it matches, times the number of times it is
     there (`count_flatMap_filter`, by induction on the keys).

  2. **The criterion.** Two lists are permutations of each other if every item has the same count in
     both.  So the selection is a filter of the list exactly when each item that the filter keeps
     matches one key, and every other item none (`flatMap_filter_perm_iff`).

  3. **Keys from a table**, an entry `(k, vs)` for the keys `(k, v)`, `v ∈ vs`: if no `k` is met
     twice, a key is listed as often as in its own entry (`count_listed_of_mem`), and a key of no
     entry is not listed.

  Items are compared by equality, which is decided classically.
-/
import Mathlib.Data.List.Count
import Mathlib.Data.List.Perm.Basic

namespace List

variable {κ α K V : Type}

/-! ## Selections: the items of a list, key by key -/

theorem count_filter_eq_ite [BEq α] [LawfulBEq α] (keep : α → Bool) (items : List α) (a : α) :
    (items.filter keep).count a = if keep a then items.count a else 0 := by
  by_cases hkeep : keep a = true
  · rw [if_pos hkeep, count_filter hkeep]
  · rw [if_neg hkeep, count_eq_zero]
    intro ha
    exact hkeep (mem_filter.mp ha).2

/-- An item is selected once for each key it matches, each time as often as it is there.
    Induction on the keys. -/
theorem count_flatMap_filter [BEq α] [LawfulBEq α] (picks : κ → α → Bool) (keys : List κ)
    (items : List α) (a : α) :
    (keys.flatMap fun k => items.filter (picks k)).count a =
      keys.countP (fun k => picks k a) * items.count a := by
  induction keys with
  | nil => simp
  | cons k keys ih =>
    rw [flatMap_cons, count_append, ih, countP_cons, Nat.add_mul, Nat.add_comm,
      count_filter_eq_ite]
    split <;> simp

/-- **A selection is a filter** of the list, up to order, if each item of the list that is kept
    matches one key, and every other item none. From left to right, the counts of an item that is
    there are compared. -/
theorem flatMap_filter_perm_iff (picks : κ → α → Bool) (keep : α → Bool) {keys : List κ}
    {items : List α} :
    (keys.flatMap fun k => items.filter (picks k)).Perm (items.filter keep) ↔
      ∀ a ∈ items, keys.countP (fun k => picks k a) = if keep a then 1 else 0 := by
  classical
  rw [perm_iff_count]
  refine forall_congr' fun a => ?_
  have hfilter : (items.filter keep).count a = (if keep a then 1 else 0) * items.count a := by
    rw [count_filter_eq_ite]
    split <;> simp
  rw [count_flatMap_filter, hfilter]
  by_cases ha : a ∈ items
  · have hne : items.count a ≠ 0 := Nat.pos_iff_ne_zero.mp (count_pos_iff.mpr ha)
    rw [Nat.mul_left_inj hne]
    exact ⟨fun h _ => h, fun h => h ha⟩
  · rw [count_eq_zero_of_not_mem ha, Nat.mul_zero, Nat.mul_zero]
    exact iff_of_true rfl fun h => absurd h ha

/-! ## Tables of keys: several keys under one name -/

/-- The keys of a table. -/
def listed (table : List (K × List V)) : List (K × V) :=
  table.flatMap fun e => e.2.map fun v => (e.1, v)

variable [DecidableEq K] [DecidableEq V]

/-- What is in no entry is not listed. -/
theorem count_listed_of_notMem {table : List (K × List V)} {k : K} (v : V)
    (h : k ∉ table.map Prod.fst) : (listed table).count (k, v) = 0 := by
  rw [count_eq_zero]
  intro hmem
  obtain ⟨e, he, hv⟩ := mem_flatMap.mp hmem
  obtain ⟨_, -, heq⟩ := mem_map.mp hv
  cases heq
  exact h (mem_map_of_mem he)

/-- **A key is listed as often as in its entry**, if it has one entry. -/
theorem count_listed_of_mem {table : List (K × List V)} (hnodup : (table.map Prod.fst).Nodup)
    {k : K} {vs : List V} (h : (k, vs) ∈ table) (v : V) :
    (listed table).count (k, v) = vs.count v := by
  induction table with
  | nil => exact absurd h not_mem_nil
  | cons e table ih =>
    obtain ⟨hnotMem, hnodup⟩ := nodup_cons.mp hnodup
    rw [listed, flatMap_cons, count_append]
    rcases mem_cons.mp h with rfl | hentry
    · have hrest : (listed table).count (k, v) = 0 := count_listed_of_notMem v hnotMem
      have hinjective : Function.Injective fun v : V => (k, v) :=
        fun v v' heq => (Prod.mk.inj heq).2
      rw [show (table.flatMap fun e => e.2.map fun v => (e.1, v)) = listed table from rfl, hrest,
        Nat.add_zero, count_map_of_injective vs _ hinjective]
    · have hne : e.1 ≠ k := by
        intro heq
        exact hnotMem (mem_map.mpr ⟨_, hentry, heq.symm⟩)
      have hfirst : (e.2.map fun v => (e.1, v)).count (k, v) = 0 := by
        rw [count_eq_zero]
        intro hmem
        obtain ⟨_, -, heq⟩ := mem_map.mp hmem
        exact hne (Prod.mk.inj heq).1
      rw [hfirst, Nat.zero_add]
      exact ih hnodup hentry

end List
