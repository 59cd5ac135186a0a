/-
  Stores whose entries expire.

  A store is a function from keys to values with a time at which they expire, so a key has one entry
  at most and a later `put` replaces an earlier one.  An entry is found (`find`) until its time is
  up; nothing removes it then, it is just not found any more.  A store may also give an entry up
  before its time (`evict`), as caches of a bounded size do.

  `Holds P` is the invariant of such a store: every entry has a value that is right for its key,
  expired or not.  It holds of the empty store, is kept by what is put in if that is right, and then
  whatever is found is right (`Holds.find`).  Speaking of all entries, and not only of those that
  are found, makes the invariant independent of the clock, so that the clock may move without a
  proof.

  The last lemmas say what is stored after a put or an eviction in terms of what was stored before:
  `eq_or_eq_of_put` and `eq_of_evict`.
-/
import Mathlib.Logic.Function.Basic

namespace Expiring

variable {K V : Type}

/-- Values by key, each with the time at which it expires. -/
abbrev Store (K V : Type) := K → Option (V × Nat)

namespace Store

/-- Nothing stored. -/
def empty : Store K V := fun _ => none

/-- The value under a key, if it has not expired. At the very time at which it expires it is not
    found any more. -/
def find (store : Store K V) (now : Nat) (k : K) : Option V :=
  (store k).bind fun entry => if now < entry.2 then some entry.1 else none

/-- Put a value under a key until some time. -/
def put [DecidableEq K] (store : Store K V) (k : K) (v : V) (expires : Nat) : Store K V :=
  Function.update store k (some (v, expires))

/-- Give up what is stored under a key. -/
def evict [DecidableEq K] (store : Store K V) (k : K) : Store K V := Function.update store k none

/-- Every entry is right for its key, whether it can still be found or not. -/
def Holds (P : K → V → Prop) (store : Store K V) : Prop :=
  ∀ k v expires, store k = some (v, expires) → P k v

variable {P Q : K → V → Prop} {store : Store K V} {k : K} {v : V} {now expires : Nat}

theorem find_empty : (empty : Store K V).find now k = none := rfl

theorem find_put_self [DecidableEq K] (h : now < expires) :
    (store.put k v expires).find now k = some v := by
  rw [find, put, Function.update_self, Option.bind_some, if_pos h]

theorem holds_empty : (empty : Store K V).Holds P := fun _ _ _ h => (by cases h)

theorem Holds.imp (h : store.Holds P) (himp : ∀ k v, P k v → Q k v) : store.Holds Q :=
  fun k v expires hv => himp k v (h k v expires hv)

theorem Holds.put [DecidableEq K] (h : store.Holds P) (hv : P k v) :
    (store.put k v expires).Holds P := by
  intro k' v' expires' hentry
  rw [Store.put] at hentry
  by_cases hk : k' = k
  · rw [hk, Function.update_self] at hentry
    cases hentry
    exact hk ▸ hv
  · rw [Function.update_of_ne hk] at hentry
    exact h k' v' expires' hentry

/-- **What is found is right**, and its time is not up: a lookup shows no entry whose time has
    passed. -/
theorem Holds.find (h : store.Holds P) (hfind : store.find now k = some v) : P k v := by
  obtain ⟨entry, hentry, hlive⟩ := Option.bind_eq_some_iff.mp hfind
  split at hlive
  · cases hlive
    exact h k entry.1 entry.2 hentry
  · cases hlive

/-- Found: stored, and its time is not up. -/
theorem find_eq_some_iff :
    store.find now k = some v ↔ ∃ expires, store k = some (v, expires) ∧ now < expires := by
  constructor
  · intro hfind
    obtain ⟨entry, hentry, hlive⟩ := Option.bind_eq_some_iff.mp hfind
    split at hlive
    · next hnow =>
      cases hlive
      exact ⟨entry.2, hentry, hnow⟩
    · cases hlive
  · rintro ⟨expires, hentry, hnow⟩
    rw [find, hentry, Option.bind_some, if_pos hnow]

/-- What is stored after a put is what was put, or was there before. -/
theorem eq_or_eq_of_put [DecidableEq K] {k' : K} {entry : V × Nat}
    (h : store.put k v expires k' = some entry) :
    k' = k ∧ entry = (v, expires) ∨ store k' = some entry := by
  rw [put] at h
  by_cases hk : k' = k
  · rw [hk, Function.update_self] at h
    exact .inl ⟨hk, (Option.some.inj h).symm⟩
  · rw [Function.update_of_ne hk] at h
    exact .inr h

/-- What is stored after an eviction was there before. -/
theorem eq_of_evict [DecidableEq K] {k' : K} {entry : V × Nat}
    (h : store.evict k k' = some entry) : store k' = some entry := by
  rw [evict] at h
  by_cases hk : k' = k
  · rw [hk, Function.update_self] at h
    cases h
  · rwa [Function.update_of_ne hk] at h

end Store

end Expiring
