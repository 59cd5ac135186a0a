/-
  Rounding to floating point numbers, over the rationals.

  A format has a number of bits of precision and a least exponent.  The numbers of a format are the
  `m * 2 ^ e` with `m` of that many bits (`IsFloat`); there is no largest one here.  `nearest`
  rounds a number that is not negative to the nearest one of the format, and to the even one of two:
  it divides by a unit in the last place, rounds that to an integer, and multiplies again.

  1. **Errors.** Rounding moves a number by half a unit in the last place at most
     (`abs_nearest_sub_le`), and by the 2^-p-th part of it unless it is very small
     (`abs_nearest_sub_le_div`).

  2. **Fixed points.** What was rounded is a number of the format (`isFloat_nearest`), and those are
     not moved (`nearest_of_isFloat`).  The only care is for a number that is rounded up to the next
     power of two, whose last place is another one.

  3. **Two roundings.** `abs_nearest_nearest_mul_sub_le`: of a factor and of a product, as a program
     does that reads a number and multiplies it.
-/
import Mathlib.Algebra.Order.Floor.Ring
import Mathlib.Data.Int.Log
import Mathlib.Data.Rat.Floor
import Mathlib.Tactic.Linarith
import Mathlib.Tactic.NormNum
import Mathlib.Tactic.Positivity
import Mathlib.Tactic.Ring

/-- The nearest integer, and the even one of two. -/
def roundHalfEven (x : ℚ) : ℤ :=
  if Int.fract x < 1 / 2 then ⌊x⌋
  else if 1 / 2 < Int.fract x then ⌊x⌋ + 1
  else if ⌊x⌋ % 2 = 0 then ⌊x⌋
  else ⌊x⌋ + 1

theorem roundHalfEven_intCast (n : ℤ) : roundHalfEven n = n := by
  rw [roundHalfEven, Int.fract_intCast, if_pos (by norm_num), Int.floor_intCast]

/-- It is the integer below or the one above. -/
theorem roundHalfEven_cases (x : ℚ) :
    roundHalfEven x = ⌊x⌋ ∧ Int.fract x ≤ 1 / 2 ∨
      roundHalfEven x = ⌊x⌋ + 1 ∧ 1 / 2 ≤ Int.fract x := by
  rw [roundHalfEven]
  split
  · exact .inl ⟨rfl, by linarith⟩
  · split
    · exact .inr ⟨rfl, by linarith⟩
    · split
      · exact .inl ⟨rfl, by linarith⟩
      · exact .inr ⟨rfl, by linarith⟩

theorem abs_roundHalfEven_sub_le (x : ℚ) : |(roundHalfEven x : ℚ) - x| ≤ 1 / 2 := by
  have hfract := Int.floor_add_fract x
  have hnonneg := Int.fract_nonneg x
  have hlt := Int.fract_lt_one x
  rcases roundHalfEven_cases x with ⟨heq, hle⟩ | ⟨heq, hle⟩
  · rw [heq, abs_le]
    constructor <;> linarith
  · rw [heq, abs_le, Int.cast_add, Int.cast_one]
    constructor <;> linarith

theorem roundHalfEven_nonneg {x : ℚ} (h : 0 ≤ x) : 0 ≤ roundHalfEven x := by
  have hfloor := Int.floor_nonneg.mpr h
  rcases roundHalfEven_cases x with ⟨heq, -⟩ | ⟨heq, -⟩ <;> omega

/-- Rounding does not pass an integer. -/
theorem roundHalfEven_le {x : ℚ} {n : ℤ} (h : x < n) : roundHalfEven x ≤ n := by
  have hfloor := Int.floor_lt.mpr h
  rcases roundHalfEven_cases x with ⟨heq, -⟩ | ⟨heq, -⟩ <;> omega

/-- Rounding at most doubles. -/
theorem roundHalfEven_le_two_mul {x : ℚ} (h : 0 ≤ x) : (roundHalfEven x : ℚ) ≤ 2 * x := by
  have hfract := Int.floor_add_fract x
  have hfloor : (0 : ℚ) ≤ ⌊x⌋ := by exact_mod_cast Int.floor_nonneg.mpr h
  rcases roundHalfEven_cases x with ⟨heq, -⟩ | ⟨heq, hle⟩
  · rw [heq]
    linarith [Int.fract_nonneg x]
  · rw [heq, Int.cast_add, Int.cast_one]
    linarith

/-- A format: its precision in bits, and the exponent of its smallest number. -/
structure FloatFormat where
  precision : ℕ
  minExponent : ℤ
  precision_pos : 0 < precision

namespace FloatFormat

/-- `binary64`. -/
def binary64 : FloatFormat := ⟨53, -1074, by norm_num⟩

variable (fmt : FloatFormat)

/-- The exponent of the last place of a number. -/
def lastPlace (x : ℚ) : ℤ := max (Int.log 2 x + 1 - fmt.precision) fmt.minExponent

/-- A unit in the last place. -/
def ulp (x : ℚ) : ℚ := 2 ^ fmt.lastPlace x

/-- **Rounding to nearest, ties to even**: a whole number of units in the last place. -/
def nearest (x : ℚ) : ℚ := roundHalfEven (x / fmt.ulp x) * fmt.ulp x

/-- The numbers of a format. -/
def IsFloat (x : ℚ) : Prop :=
  ∃ (m : ℕ) (e : ℤ), m ≤ 2 ^ fmt.precision ∧ fmt.minExponent ≤ e ∧ x = m * 2 ^ e

variable {fmt} {x y : ℚ}

theorem ulp_pos : 0 < fmt.ulp x := zpow_pos (by norm_num) _

theorem nearest_nonneg (h : 0 ≤ x) : 0 ≤ fmt.nearest x :=
  mul_nonneg (Int.cast_nonneg (roundHalfEven_nonneg (div_nonneg h ulp_pos.le))) ulp_pos.le

theorem nearest_le_two_mul (h : 0 ≤ x) : fmt.nearest x ≤ 2 * x := by
  have hround := roundHalfEven_le_two_mul (div_nonneg h (@ulp_pos fmt x).le)
  calc fmt.nearest x ≤ 2 * (x / fmt.ulp x) * fmt.ulp x :=
        mul_le_mul_of_nonneg_right hround ulp_pos.le
    _ = 2 * x := by rw [mul_assoc, div_mul_cancel₀ _ ulp_pos.ne']

/-- **Half a unit in the last place** is the most that a number is moved. -/
theorem abs_nearest_sub_le : |fmt.nearest x - x| ≤ fmt.ulp x / 2 := by
  have hulp : 0 < fmt.ulp x := ulp_pos
  have hround := abs_roundHalfEven_sub_le (x / fmt.ulp x)
  have hscale : fmt.nearest x - x =
      (roundHalfEven (x / fmt.ulp x) - x / fmt.ulp x) * fmt.ulp x := by
    rw [sub_mul, div_mul_cancel₀ _ hulp.ne', nearest]
  rw [hscale, abs_mul, abs_of_pos hulp]
  calc |(roundHalfEven (x / fmt.ulp x) : ℚ) - x / fmt.ulp x| * fmt.ulp x
      ≤ 1 / 2 * fmt.ulp x := mul_le_mul_of_nonneg_right hround hulp.le
    _ = fmt.ulp x / 2 := by ring

/-- A number that is not too small has the full precision. -/
theorem ulp_le_div (h : 2 ^ (fmt.minExponent + fmt.precision - 1) ≤ x) :
    fmt.ulp x ≤ x * 2 / 2 ^ fmt.precision := by
  have hpos : 0 < x := lt_of_lt_of_le (zpow_pos (by norm_num) _) h
  have hlog : fmt.minExponent + fmt.precision - 1 ≤ Int.log 2 x :=
    (Int.zpow_le_iff_le_log (by norm_num) hpos).mp (by exact_mod_cast h)
  have hplace : fmt.lastPlace x = Int.log 2 x + 1 - fmt.precision := max_eq_left (by omega)
  have hself : (2 : ℚ) ^ Int.log 2 x ≤ x := by
    exact_mod_cast Int.zpow_log_le_self (b := 2) (by norm_num) hpos
  rw [ulp, hplace, zpow_sub₀ (by norm_num), zpow_add₀ (by norm_num), zpow_one, zpow_natCast]
  exact div_le_div_of_nonneg_right (by linarith) (by positivity)

/-- **The relative error of one rounding.** -/
theorem abs_nearest_sub_le_div (h : 2 ^ (fmt.minExponent + fmt.precision - 1) ≤ x) :
    |fmt.nearest x - x| ≤ x / 2 ^ fmt.precision := by
  calc |fmt.nearest x - x| ≤ fmt.ulp x / 2 := abs_nearest_sub_le
    _ ≤ x * 2 / 2 ^ fmt.precision / 2 := div_le_div_of_nonneg_right (ulp_le_div h) (by norm_num)
    _ = x / 2 ^ fmt.precision := by ring

/-- A number is below `2 ^ p` units in its last place. -/
theorem div_ulp_lt : x / fmt.ulp x < 2 ^ fmt.precision := by
  rw [div_lt_iff₀ ulp_pos, ulp, ← zpow_natCast, ← zpow_add₀ (by norm_num)]
  calc x < (2 : ℚ) ^ (Int.log 2 x + 1) := by
        exact_mod_cast Int.lt_zpow_succ_log_self (b := 2) (by norm_num) x
    _ ≤ 2 ^ ((fmt.precision : ℤ) + fmt.lastPlace x) := by
        refine zpow_le_zpow_right₀ (by norm_num) ?_
        have := le_max_left (Int.log 2 x + 1 - fmt.precision) fmt.minExponent
        rw [lastPlace]
        omega

/-- **What was rounded is a number of the format.** Below `2 ^ p` units it has few enough bits;
    at `2 ^ p` it is a power of two. -/
theorem isFloat_nearest (h : 0 ≤ x) : fmt.IsFloat (fmt.nearest x) := by
  have hnonneg : 0 ≤ roundHalfEven (x / fmt.ulp x) :=
    roundHalfEven_nonneg (div_nonneg h ulp_pos.le)
  refine ⟨(roundHalfEven (x / fmt.ulp x)).toNat, fmt.lastPlace x, ?_, le_max_right _ _, ?_⟩
  · have hle : roundHalfEven (x / fmt.ulp x) ≤ 2 ^ fmt.precision :=
      roundHalfEven_le (by exact_mod_cast div_ulp_lt)
    zify
    rw [Int.toNat_of_nonneg hnonneg]
    exact hle
  · rw [nearest, ulp]
    congr 1
    exact_mod_cast (Int.toNat_of_nonneg hnonneg).symm

/-- A number that is a whole number of units in its last place is not moved. -/
theorem nearest_of_lastPlace_le {m : ℕ} {e : ℤ} (h : x = m * 2 ^ e)
    (hplace : fmt.lastPlace x ≤ e) : fmt.nearest x = x := by
  obtain ⟨k, hk⟩ := Int.le.dest hplace
  have hunits : x / fmt.ulp x = ((m * 2 ^ k : ℤ) : ℚ) := by
    rw [div_eq_iff ulp_pos.ne', ulp]
    conv_lhs => rw [h, ← hk, zpow_add₀ (by norm_num), zpow_natCast]
    push_cast
    ring
  rw [nearest, hunits, roundHalfEven_intCast, ← hunits, div_mul_cancel₀ _ ulp_pos.ne']

theorem lastPlace_le {e : ℤ} (hpos : 0 < x) (hlt : x < 2 ^ (fmt.precision + e))
    (he : fmt.minExponent ≤ e) : fmt.lastPlace x ≤ e := by
  have hlog : Int.log 2 x < fmt.precision + e :=
    (Int.lt_zpow_iff_log_lt (by norm_num) hpos).mp (by exact_mod_cast hlt)
  exact max_le (by omega) he

theorem nearest_zero : fmt.nearest 0 = 0 := by
  rw [nearest, zero_div, show (0 : ℚ) = (0 : ℤ) from rfl, roundHalfEven_intCast, Int.cast_zero,
    zero_mul]

/-- **The numbers of the format are not moved.** Each is a whole number of units in its last
    place. -/
theorem nearest_of_isFloat (h : fmt.IsFloat x) : fmt.nearest x = x := by
  obtain ⟨m, e, hm, he, hx⟩ := h
  rcases Nat.eq_zero_or_pos m with rfl | hm0
  · rw [Nat.cast_zero, zero_mul] at hx
    rw [hx, nearest_zero]
  · have hpos : 0 < x := hx ▸ mul_pos (Nat.cast_pos.mpr hm0) (zpow_pos (by norm_num) e)
    have hle : x ≤ 2 ^ (fmt.precision + e) := by
      rw [hx, zpow_add₀ (by norm_num), zpow_natCast]
      exact mul_le_mul_of_nonneg_right (by exact_mod_cast hm) (zpow_nonneg (by norm_num) e)
    rcases hle.lt_or_eq with hlt | heq
    · exact nearest_of_lastPlace_le hx (lastPlace_le hpos hlt he)
    · -- `2 ^ p` units are `2 ^ (p - 1)` of the next place
      have hprecision := fmt.precision_pos
      refine nearest_of_lastPlace_le (m := 2 ^ (fmt.precision - 1)) (e := e + 1) ?_
        (lastPlace_le hpos ?_ (by omega))
      · rw [heq]
        push_cast
        rw [← zpow_natCast, ← zpow_add₀ (by norm_num)]
        congr 1
        omega
      · rw [heq]
        exact zpow_lt_zpow_right₀ (by norm_num) (by omega)

theorem nearest_nearest (h : 0 ≤ x) : fmt.nearest (fmt.nearest x) = fmt.nearest x :=
  nearest_of_isFloat (isFloat_nearest h)

/-- Whole numbers of at most `p` bits are numbers of the format. -/
theorem isFloat_natCast_mul (hmin : fmt.minExponent ≤ 0) {m k : ℕ} (hm : m ≤ 2 ^ fmt.precision) :
    fmt.IsFloat ((m * 2 ^ k : ℕ) : ℚ) :=
  ⟨m, k, hm, by omega, by push_cast; rw [zpow_natCast]⟩

/-- **A whole number near a large number of the format is one itself.** -/
theorem exists_eq_of_isFloat {n : ℕ} (h : fmt.IsFloat y) (hlow : (n : ℚ) - 1 / 2 ≤ y)
    (hhigh : y < n + 1 / 2) (hlarge : 2 ^ fmt.precision < n) :
    ∃ m k : ℕ, m ≤ 2 ^ fmt.precision ∧ n = m * 2 ^ k := by
  obtain ⟨m, e, hm, -, hy⟩ := h
  have hlarge : (2 : ℚ) ^ fmt.precision + 1 ≤ n := by exact_mod_cast hlarge
  rcases Int.lt_or_le e 0 with he | he
  · -- with a negative exponent the number is at most `2 ^ p`
    have hle : y ≤ 2 ^ fmt.precision := by
      rw [hy]
      calc (m : ℚ) * 2 ^ e ≤ 2 ^ fmt.precision * 1 :=
            mul_le_mul (by exact_mod_cast hm) (zpow_le_one_of_nonpos₀ (by norm_num) he.le)
              (zpow_nonneg (by norm_num) e) (by positivity)
        _ = 2 ^ fmt.precision := mul_one _
    linarith
  · obtain ⟨k, rfl⟩ := Int.eq_ofNat_of_zero_le he
    refine ⟨m, k, hm, ?_⟩
    have hwhole : y = ((m * 2 ^ k : ℕ) : ℚ) := by
      rw [hy, zpow_natCast]
      push_cast
      rfl
    rw [hwhole] at hlow hhigh
    have hlow' : (n : ℚ) < (m * 2 ^ k : ℕ) + 1 := by linarith
    have hhigh' : ((m * 2 ^ k : ℕ) : ℚ) < n + 1 := by linarith
    have h1 : n < m * 2 ^ k + 1 := by exact_mod_cast hlow'
    have h2 : m * 2 ^ k < n + 1 := by exact_mod_cast hhigh'
    omega

/-! ## Two roundings -/

/-- A factor is rounded, and then the product with an exact number. -/
theorem abs_nearest_nearest_mul_sub_le {a : ℚ} (hx : 2 ^ (fmt.minExponent + fmt.precision - 1) ≤ x)
    (ha : 0 ≤ a) (hproduct : 2 ^ (fmt.minExponent + fmt.precision - 1) ≤ fmt.nearest x * a) :
    |fmt.nearest (fmt.nearest x * a) - x * a| ≤
      x * a / 2 ^ fmt.precision * (2 + 1 / 2 ^ fmt.precision) := by
  have hfactor := abs_nearest_sub_le_div hx
  have hsecond := abs_nearest_sub_le_div hproduct
  have hfirst : |fmt.nearest x * a - x * a| ≤ x * a / 2 ^ fmt.precision := by
    rw [← sub_mul, abs_mul, abs_of_nonneg ha]
    calc |fmt.nearest x - x| * a ≤ x / 2 ^ fmt.precision * a :=
          mul_le_mul_of_nonneg_right hfactor ha
      _ = x * a / 2 ^ fmt.precision := by ring
  have hpow : (0 : ℚ) < 2 ^ fmt.precision := by positivity
  have hbound : fmt.nearest x * a ≤ x * a + x * a / 2 ^ fmt.precision := by
    have := (abs_le.mp hfirst).2
    linarith
  calc |fmt.nearest (fmt.nearest x * a) - x * a|
      ≤ |fmt.nearest (fmt.nearest x * a) - fmt.nearest x * a| + |fmt.nearest x * a - x * a| :=
        abs_sub_le _ _ _
    _ ≤ fmt.nearest x * a / 2 ^ fmt.precision + x * a / 2 ^ fmt.precision :=
        add_le_add hsecond hfirst
    _ ≤ (x * a + x * a / 2 ^ fmt.precision) / 2 ^ fmt.precision + x * a / 2 ^ fmt.precision :=
        add_le_add_left (div_le_div_of_nonneg_right hbound hpow.le) _
    _ = x * a / 2 ^ fmt.precision * (2 + 1 / 2 ^ fmt.precision) := by
        field_simp
        ring

end FloatFormat
