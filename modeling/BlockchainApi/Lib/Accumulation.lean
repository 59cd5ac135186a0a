/-
  Maps that are collected in one accumulator.

  A loop writes one slot for each owner.  It keeps the slots in one map over all its rounds and
  gives each owner the map as it is at its round, so an owner also gets the slots that were written
  before.  The state of the loop is therefore a pair: what each owner has, and the accumulator.

  `Exact` is what such a loop may be expected to do: each owner has its own slot, with its value,
  and no other.  `exact_iff` says when that is so all the same: when there is only one slot, and one
  value for each owner.

  * That it is enough: with one slot the accumulator never holds more than the last value
    (`holdsOnly_insert`), by induction on the writes from the end of the list, since the loop
    appends.

  * That it is needed: the last owner gets everything that was written (`Exact.slot_eq_last`), so
    all slots are its slot.

  Nothing depends on what owners, slots and values are; the maps are finite ones with decidable
  keys.
-/
import Mathlib.Data.List.AList
import Mathlib.Data.List.Induction

namespace Accumulation

variable {K A V : Type} [DecidableEq K] [DecidableEq A]

/-- The slot and the value of an owner. -/
structure Write (K A V : Type) where
  owner : K
  slot : A
  value : V

/-- The slots of each owner, and the accumulator. -/
abbrev Accumulated (K A V : Type) : Type :=
  (AList fun _ : K => AList fun _ : A => V) × AList fun _ : A => V

/-- One round: the slot is added to the accumulator, which the owner gets. -/
def step (acc : Accumulated K A V) (w : Write K A V) : Accumulated K A V :=
  let slots := acc.2.insert w.slot w.value
  (acc.1.insert w.owner slots, slots)

/-- The loop, from two empty maps: the first of the pair is its result. -/
def accumulate (writes : List (Write K A V)) : Accumulated K A V := writes.foldl step (∅, ∅)

/-- The map has exactly this entry. -/
def HoldsOnly (slots : AList fun _ : A => V) (slot : A) (value : V) : Prop :=
  ∀ a, slots.lookup a = if a = slot then some value else none

/-- **Each owner has its own slot and no other.** An owner that is written twice has to have the
    last of its values. -/
def Exact (writes : List (Write K A V)) : Prop :=
  ∀ w ∈ writes, ∃ slots, (accumulate writes).1.lookup w.owner = some slots ∧
    HoldsOnly slots w.slot w.value

variable {writes : List (Write K A V)} {w w' : Write K A V}

theorem accumulate_concat :
    accumulate (writes ++ [w]) = step (accumulate writes) w := List.foldl_concat ..

/-- The accumulator has the slots that were written. -/
theorem mem_accumulate_snd {a : A} :
    a ∈ (accumulate writes).2 ↔ ∃ w ∈ writes, w.slot = a := by
  induction writes using List.reverseRecOn with
  | nil => exact iff_of_false (AList.notMem_empty a) fun ⟨_, h, _⟩ => List.not_mem_nil h
  | append_singleton writes w ih =>
    rw [accumulate_concat, step, AList.mem_insert, ih]
    simp only [List.mem_append, List.mem_singleton, or_and_right, exists_or, exists_eq_left]
    rw [or_comm, eq_comm]

/-- A map with exactly one entry has one slot and one value. -/
theorem HoldsOnly.eq {slots : AList fun _ : A => V} {a a' : A} {v v' : V}
    (h : HoldsOnly slots a v) (h' : HoldsOnly slots a' v') : a = a' ∧ v = v' := by
  have hlookup := h' a
  rw [h a, if_pos rfl] at hlookup
  split at hlookup
  · next heq => exact ⟨heq, Option.some.inj hlookup⟩
  · cases hlookup

/-- The last owner has everything that was written: at its round the accumulator is complete. So
    if it has one slot only, every slot is that one. -/
theorem Exact.slot_eq_last (h : Exact (writes ++ [w])) (hw : w' ∈ writes ++ [w]) :
    w'.slot = w.slot := by
  obtain ⟨slots, hslots, honly⟩ := h w (List.mem_append_right _ (List.mem_singleton_self w))
  have hmem : w'.slot ∈ (accumulate (writes ++ [w])).2 := mem_accumulate_snd.mpr ⟨w', hw, rfl⟩
  rw [accumulate_concat] at hslots hmem
  rw [step, AList.lookup_insert] at hslots
  cases hslots
  rw [← AList.lookup_isSome] at hmem
  by_contra hne
  have hnone := honly w'.slot
  rw [if_neg hne] at hnone
  rw [step, hnone] at hmem
  cases hmem

/-- What follows for the writes. -/
theorem Exact.slot_eq (h : Exact writes) : ∀ w ∈ writes, ∀ w' ∈ writes, w.slot = w'.slot := by
  rcases List.eq_nil_or_concat' writes with rfl | ⟨before, last, rfl⟩
  · exact fun _ hw => absurd hw List.not_mem_nil
  · exact fun w hw w' hw' => (h.slot_eq_last hw).trans (h.slot_eq_last hw').symm

theorem Exact.value_eq (h : Exact writes) (hw : w ∈ writes) (hw' : w' ∈ writes)
    (howner : w.owner = w'.owner) : w.value = w'.value := by
  obtain ⟨slots, hslots, honly⟩ := h w hw
  obtain ⟨slots', hslots', honly'⟩ := h w' hw'
  rw [howner, hslots'] at hslots
  cases hslots
  exact (honly.eq honly').2

/-- With one slot, the accumulator never holds more than the last value. -/
theorem holdsOnly_insert (hslot : ∀ w' ∈ writes, w'.slot = w.slot) :
    HoldsOnly ((accumulate writes).2.insert w.slot w.value) w.slot w.value := by
  intro a
  by_cases ha : a = w.slot
  · subst ha
    rw [if_pos rfl, AList.lookup_insert]
  · rw [if_neg ha, AList.lookup_insert_ne ha, AList.lookup_eq_none, mem_accumulate_snd]
    rintro ⟨w', hw', rfl⟩
    exact ha (hslot w' hw')

/-- **When each owner has its own slot and no other**: there is one slot, and one value for each
    owner. Nothing is asked of the number of owners. -/
theorem exact_iff :
    Exact writes ↔ (∀ w ∈ writes, ∀ w' ∈ writes, w.slot = w'.slot) ∧
      ∀ w ∈ writes, ∀ w' ∈ writes, w.owner = w'.owner → w.value = w'.value := by
  refine ⟨fun h => ⟨h.slot_eq, fun w hw w' hw' => h.value_eq hw hw'⟩, ?_⟩
  induction writes using List.reverseRecOn with
  | nil => exact fun _ w hw => absurd hw List.not_mem_nil
  | append_singleton writes last ih =>
    rintro ⟨hslot, hvalue⟩ w hw
    have hbefore : ∀ w ∈ writes, w ∈ writes ++ [last] := fun w hw => List.mem_append_left _ hw
    have hlast : last ∈ writes ++ [last] :=
      List.mem_append_right _ (List.mem_singleton_self last)
    rw [accumulate_concat]
    by_cases howner : w.owner = last.owner
    · -- the map of the last round
      rw [howner]
      refine ⟨_, AList.lookup_insert _, ?_⟩
      rw [hslot w hw last hlast, hvalue w hw last hlast howner]
      exact holdsOnly_insert fun w' hw' => hslot w' (hbefore w' hw') last hlast
    · have hwrites : w ∈ writes := by
        rcases List.mem_append.mp hw with h | h
        · exact h
        · exact absurd (congrArg Write.owner (List.mem_singleton.mp h)) howner
      obtain ⟨slots, hslots, honly⟩ := ih
        ⟨fun w hw w' hw' => hslot w (hbefore w hw) w' (hbefore w' hw'),
          fun w hw w' hw' => hvalue w (hbefore w hw) w' (hbefore w' hw')⟩ w hwrites
      exact ⟨slots, (AList.lookup_insert_ne howner).trans hslots, honly⟩

end Accumulation
