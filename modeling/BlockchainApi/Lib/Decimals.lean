/-
  Whole numbers of smallest units as exact decimal quantities.

  An amount with `m` decimals stands for the rational number `amount / 10 ^ m` (`quantity`).
  Everything is stated in terms of that number, and proved by multiplying out powers of ten.

  1. **Comparing.** Amounts with different decimals are compared by bringing the one with fewer
     decimals to the other's, which is exact (`quantity_le_iff_of_le`, `cmp_quantity_of_le`,
     `cmp_quantity_of_ge`).

  2. **Converting.** Bringing an amount to other decimals (`rescale`) multiplies, or divides and
     rounds down.  So it never adds (`quantity_rescale_le`), and nothing is lost exactly if the
     power of ten divides the amount (`quantity_rescale_eq_iff`).  It is monotone
     (`rescale_le_rescale`), and is one division of unbounded integers whichever way it goes
     (`rescale_eq_div`).

  3. **Adding.** A sum of amounts of different decimals is one of the second decimals exactly if
     nothing of the first is cut off (`quantity_add_eq_iff`).
-/
import Mathlib.Data.Rat.Defs
import Mathlib.Algebra.Order.Field.Rat
import Mathlib.Order.Compare
import Mathlib.Tactic.FieldSimp
import Mathlib.Tactic.Positivity

namespace Decimals

/-- The quantity an amount of smallest units stands for. -/
def quantity (amount decimals : Nat) : ℚ := amount / 10 ^ decimals

variable {a b m n : Nat}

/-- One amount brought to the decimals of the other. -/
theorem quantity_eq_of_le (h : m ≤ n) : quantity a m = quantity (a * 10 ^ (n - m)) n := by
  have hpow : (10 : ℚ) ^ n = 10 ^ (n - m) * 10 ^ m := by
    rw [← pow_add, Nat.sub_add_cancel h]
  rw [quantity, quantity, hpow]
  push_cast
  field_simp

theorem quantity_le_quantity : quantity a n ≤ quantity b n ↔ a ≤ b := by
  rw [quantity, quantity, div_le_div_iff_of_pos_right (by positivity), Nat.cast_le]

theorem quantity_lt_quantity : quantity a n < quantity b n ↔ a < b := by
  rw [quantity, quantity, div_lt_div_iff_of_pos_right (by positivity), Nat.cast_lt]

theorem quantity_inj : quantity a n = quantity b n ↔ a = b := by
  constructor
  · intro h
    exact Nat.le_antisymm (quantity_le_quantity.mp h.le) (quantity_le_quantity.mp h.ge)
  · rintro rfl
    rfl

/-- **Comparing amounts** whose first decimals are not more than the second. -/
theorem cmp_quantity_of_le (h : m ≤ n) :
    cmp (quantity a m) (quantity b n) = cmp (a * 10 ^ (n - m)) b := by
  have hmono : StrictMono fun a => quantity a n := fun _ _ hlt => quantity_lt_quantity.mpr hlt
  rw [quantity_eq_of_le h]
  exact hmono.cmp_map_eq _ _

/-- **Comparing amounts** whose first decimals are not fewer than the second. -/
theorem cmp_quantity_of_ge (h : n ≤ m) :
    cmp (quantity a m) (quantity b n) = cmp a (b * 10 ^ (m - n)) := by
  rw [← cmp_swap, cmp_quantity_of_le h, cmp_swap]

theorem quantity_le_iff_of_le (h : m ≤ n) :
    quantity a m ≤ quantity b n ↔ a * 10 ^ (n - m) ≤ b := by
  rw [quantity_eq_of_le h, quantity_le_quantity]

/-! ## Other decimals -/

/-- The amount with `n` decimals for an amount with `m`: towards more decimals it is multiplied,
    and towards fewer the fractions are cut off. -/
def rescale (a m n : Nat) : Nat := if n < m then a / 10 ^ (m - n) else a * 10 ^ (n - m)

theorem rescale_of_le (h : m ≤ n) : rescale a m n = a * 10 ^ (n - m) := by
  rw [rescale, if_neg (by omega)]

theorem rescale_of_lt (h : n < m) : rescale a m n = a / 10 ^ (m - n) := by
  rw [rescale, if_pos h]

/-- Rescaling never adds. -/
theorem quantity_rescale_le : quantity (rescale a m n) n ≤ quantity a m := by
  rcases Nat.lt_or_ge n m with h | h
  · rw [rescale_of_lt h, quantity_le_iff_of_le h.le]
    exact Nat.div_mul_le_self a _
  · rw [rescale_of_le h, quantity_eq_of_le h]

/-- **When nothing is cut off**: towards more decimals always, and towards fewer if the amount is
    a multiple of the power of ten between them. -/
theorem quantity_rescale_eq_iff :
    quantity (rescale a m n) n = quantity a m ↔ m ≤ n ∨ 10 ^ (m - n) ∣ a := by
  rcases Nat.lt_or_ge n m with h | h
  · rw [rescale_of_lt h, quantity_eq_of_le h.le, quantity_inj]
    constructor
    · exact fun heq => Or.inr (Dvd.intro_left _ heq)
    · rintro (hle | hdvd)
      · omega
      · exact Nat.div_mul_cancel hdvd
  · rw [rescale_of_le h, ← quantity_eq_of_le h]
    exact iff_of_true rfl (Or.inl h)

/-- **What is not cut off bounds what is compared after rescaling.** Rounding down may make a
    larger amount look equal, so one of the two sides has to be exact. -/
theorem le_of_rescale_le (hexact : m ≤ n ∨ 10 ^ (m - n) ∣ a) (h : rescale a m n ≤ rescale b m n) :
    a ≤ b := by
  have hquantity : quantity a m ≤ quantity b m :=
    calc quantity a m = quantity (rescale a m n) n := (quantity_rescale_eq_iff.mpr hexact).symm
      _ ≤ quantity (rescale b m n) n := quantity_le_quantity.mpr h
      _ ≤ quantity b m := quantity_rescale_le
  exact quantity_le_quantity.mp hquantity

/-- Rescaling a multiple of the power gives back the factor. -/
theorem rescale_mul_of_lt (h : n < m) : rescale (a * 10 ^ (m - n)) m n = a := by
  rw [rescale_of_lt h, Nat.mul_div_cancel _ (by positivity)]

/-- Rescaling is one division of unbounded integers. -/
theorem rescale_eq_div : rescale a m n = a * 10 ^ n / 10 ^ m := by
  rcases Nat.lt_or_ge n m with h | h
  · have hpow : 10 ^ m = 10 ^ (m - n) * 10 ^ n := by rw [← pow_add, Nat.sub_add_cancel h.le]
    rw [rescale_of_lt h, hpow, Nat.mul_div_mul_right _ _ (by positivity)]
  · have hpow : 10 ^ n = 10 ^ (n - m) * 10 ^ m := by rw [← pow_add, Nat.sub_add_cancel h]
    rw [rescale_of_le h, hpow, ← Nat.mul_assoc, Nat.mul_div_cancel _ (by positivity)]

theorem rescale_le_rescale (h : a ≤ b) : rescale a m n ≤ rescale b m n := by
  rw [rescale_eq_div, rescale_eq_div]
  exact Nat.div_le_div_right (Nat.mul_le_mul_right _ h)

/-- Towards more decimals and back nothing is lost, whatever the amount. -/
theorem rescale_rescale_of_le (h : m ≤ n) : rescale (rescale a m n) n m = a := by
  rcases Nat.eq_or_lt_of_le h with rfl | hlt
  · rw [rescale_of_le h, rescale_of_le h, Nat.sub_self, pow_zero, Nat.mul_one, Nat.mul_one]
  · rw [rescale_of_le h, rescale_mul_of_lt hlt]

/-- Other decimals mean another number, except for nothing. -/
theorem rescale_eq_self_iff (ha : 0 < a) : rescale a m n = a ↔ m = n := by
  rcases Nat.lt_trichotomy n m with h | rfl | h
  · rw [rescale_of_lt h]
    have hlt : a / 10 ^ (m - n) < a :=
      Nat.div_lt_self ha (Nat.one_lt_pow (Nat.sub_ne_zero_of_lt h) (by decide))
    exact iff_of_false hlt.ne h.ne'
  · rw [rescale_of_le (Nat.le_refl _), Nat.sub_self, pow_zero, Nat.mul_one]
    exact iff_of_true rfl rfl
  · rw [rescale_of_le h.le]
    have hlt : a < a * 10 ^ (n - m) :=
      lt_mul_of_one_lt_right ha (Nat.one_lt_pow (Nat.sub_ne_zero_of_lt h) (by decide))
    exact iff_of_false hlt.ne' h.ne

/-- **The same quantity** with other decimals is the rescaled amount, and nothing is cut off. -/
theorem quantity_eq_iff {c : Nat} :
    quantity a m = quantity c n ↔ (m ≤ n ∨ 10 ^ (m - n) ∣ a) ∧ rescale a m n = c := by
  constructor
  · intro h
    have hexact : m ≤ n ∨ 10 ^ (m - n) ∣ a := by
      rcases Nat.lt_or_ge n m with hlt | hle
      · rw [quantity_eq_of_le hlt.le, quantity_inj] at h
        exact Or.inr (h ▸ Dvd.intro_left _ rfl)
      · exact Or.inl hle
    rw [← quantity_rescale_eq_iff.mpr hexact, quantity_inj] at h
    exact ⟨hexact, h⟩
  · rintro ⟨hexact, rfl⟩
    exact (quantity_rescale_eq_iff.mpr hexact).symm

theorem quantity_mul_pow_eq_iff {c : Nat} :
    quantity a m * 10 ^ n = c ↔ quantity a m = quantity c n := by
  rw [quantity, quantity, eq_div_iff (by positivity)]

theorem quantity_nonneg : 0 ≤ quantity a n := by
  rw [quantity]
  positivity

theorem quantity_add_quantity : quantity a n + quantity b n = quantity (a + b) n := by
  rw [quantity, quantity, quantity, ← add_div, Nat.cast_add]

/-- **A sum of amounts of different decimals** is one of the second decimals exactly if nothing of
    the first is cut off. -/
theorem quantity_add_eq_iff {c : Nat} :
    quantity a m + quantity b n = quantity c n ↔
      (m ≤ n ∨ 10 ^ (m - n) ∣ a) ∧ rescale a m n + b = c := by
  constructor
  · intro h
    have hle : b ≤ c :=
      quantity_le_quantity.mp (h ▸ le_add_of_nonneg_left quantity_nonneg)
    -- the first amount is the difference
    have hdifference : quantity a m = quantity (c - b) n := by
      rw [← Nat.sub_add_cancel hle, ← quantity_add_quantity] at h
      exact add_right_cancel h
    obtain ⟨hexact, hrescale⟩ := quantity_eq_iff.mp hdifference
    exact ⟨hexact, by omega⟩
  · rintro ⟨hexact, rfl⟩
    rw [quantity_eq_iff.mpr ⟨hexact, rfl⟩, quantity_add_quantity]

end Decimals
