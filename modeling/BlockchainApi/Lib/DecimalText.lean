/-
  Decimal numbers as texts.

  A text such as `-12.50` is a sign, digits, and digits of a fraction; one of the two lists of
  digits may be empty, but not both.  `DecimalText` holds these parts, with the digits as a field of
  their own, so that a list with another character in it cannot be built.  `read` reads such a text
  and refuses every other one.

  What the text stands for is an exact number (`value`).  With a number of decimals, a text also
  stands for a whole number of smallest units; fractions of those are cut off (`scaled`).

  * `exists_read_toString`: a printed natural number is read, and stands for itself.
  * `value_nonneg_iff`: a text with a minus sign is not negative if its digits are zeros.
  * `value_mul_pow_eq_iff`: when a whole number of units is exactly what the text says, that is,
    when no digit is cut off.

  The lemmas on reading are about lists of characters, and a text is split once at its point.
-/
import BlockchainApi.Lib.Decimals
import BlockchainApi.Lib.Delimited

open Decimals Delimited

/-- A sign, digits, and digits of a fraction. At least one of the two lists has a digit in it. -/
structure DecimalText where
  negative : Bool
  whole : List Char
  fraction : List Char
  ne_nil : whole ++ fraction ≠ []
  isDigit : (whole ++ fraction).all Char.isDigit = true
  deriving DecidableEq

namespace DecimalText

/-- The parts of a text, if they are digits. -/
def ofParts (negative : Bool) (whole fraction : List Char) : Option DecimalText :=
  if h : whole ++ fraction ≠ [] ∧ (whole ++ fraction).all Char.isDigit = true then
    some ⟨negative, whole, fraction, h.1, h.2⟩
  else none

/-- The digits behind the sign. -/
def readDigits (negative : Bool) (body : List Char) : Option DecimalText :=
  match body.splitOn '.' with
  | [whole] => ofParts negative whole []
  | [whole, fraction] => ofParts negative whole fraction
  | _ => none

/-- Read a text. -/
def read : List Char → Option DecimalText
  | '-' :: body => readDigits true body
  | body => readDigits false body

/-- All digits as one number. -/
def digits (t : DecimalText) : Nat := Nat.ofDigitChars 10 (t.whole ++ t.fraction) 0

/-- The number without its sign. -/
def magnitude (t : DecimalText) : ℚ := quantity t.digits t.fraction.length

/-- **What the text stands for.** -/
def value (t : DecimalText) : ℚ := if t.negative then -t.magnitude else t.magnitude

/-- The whole number of units, without the sign: so many digits of the fraction are taken as
    there are decimals, and further ones are cut off. -/
def scaled (t : DecimalText) (decimals : Nat) : Nat :=
  rescale t.digits t.fraction.length decimals

variable {t : DecimalText} {decimals n : Nat}

theorem magnitude_nonneg : 0 ≤ t.magnitude := by
  rw [magnitude, quantity]
  positivity

theorem magnitude_eq_zero_iff : t.magnitude = 0 ↔ t.digits = 0 := by
  rw [magnitude, quantity, div_eq_zero_iff, Nat.cast_eq_zero, or_iff_left (by positivity)]

/-- A minus sign makes a number negative unless all digits are zeros. -/
theorem value_nonneg_iff : 0 ≤ t.value ↔ t.negative = false ∨ t.digits = 0 := by
  rw [value]
  cases hsign : t.negative with
  | false =>
    rw [if_neg Bool.false_ne_true]
    exact iff_of_true magnitude_nonneg (Or.inl rfl)
  | true =>
    rw [if_pos rfl, neg_nonneg, ← magnitude_eq_zero_iff]
    constructor
    · exact fun h => Or.inr (le_antisymm h magnitude_nonneg)
    · rintro (h | h)
      · cases h
      · exact h.le

theorem value_eq_magnitude (h : 0 ≤ t.value) : t.value = t.magnitude := by
  rw [value]
  rcases value_nonneg_iff.mp h with hsign | hzero
  · rw [hsign, if_neg Bool.false_ne_true]
  · rw [magnitude_eq_zero_iff.mpr hzero, neg_zero, ite_self]

/-- **When a whole number of units is what the text says**: every digit that is cut off is zero,
    and the digits before make the number. -/
theorem value_mul_pow_eq_iff (h : 0 ≤ t.value) :
    t.value * 10 ^ decimals = n ↔
      (t.fraction.length ≤ decimals ∨ 10 ^ (t.fraction.length - decimals) ∣ t.digits) ∧
        t.scaled decimals = n := by
  rw [value_eq_magnitude h, magnitude, quantity_mul_pow_eq_iff, quantity_eq_iff]
  rfl

/-- No digit is a sign or a point. -/
theorem notMem_of_all_isDigit {s : List Char} (hall : s.all Char.isDigit = true) {c : Char}
    (hc : c.isDigit = false) : c ∉ s := by
  intro hmem
  rw [List.all_eq_true.mp hall c hmem] at hc
  cases hc

/-- **Digits on both sides of a point** are read as they stand there. -/
theorem read_point {whole fraction : List Char} (hne : whole ≠ [])
    (hall : (whole ++ fraction).all Char.isDigit = true) :
    read (whole ++ '.' :: fraction) =
      some ⟨false, whole, fraction, List.append_ne_nil_of_left_ne_nil hne fraction, hall⟩ := by
  have hsign : read (whole ++ '.' :: fraction) = readDigits false (whole ++ '.' :: fraction) := by
    cases whole with
    | nil => exact absurd rfl hne
    | cons c whole =>
      have hc : c ≠ '-' := by
        rintro rfl
        exact notMem_of_all_isDigit hall (by decide) (List.mem_cons_self ..)
      simp [read, hc]
  have hpoint : '.' ∉ whole ++ fraction := notMem_of_all_isDigit hall (by decide)
  rw [List.mem_append, not_or] at hpoint
  rw [hsign, readDigits, splitOn_eq_pair_iff.mpr ⟨hpoint.1, hpoint.2, rfl⟩]
  exact dif_pos ⟨List.append_ne_nil_of_left_ne_nil hne fraction, hall⟩

/-- The digits of a printed number. -/
theorem toList_toString (n : Nat) : (toString n).toList = Nat.toDigits 10 n := by
  rw [Nat.toString_eq_repr, Nat.toList_repr]

theorem all_isDigit_toDigits (n : Nat) : (Nat.toDigits 10 n).all Char.isDigit = true :=
  List.all_eq_true.mpr fun _ hc => Nat.isDigit_of_mem_toDigits (by omega) (by omega) hc

/-- **A printed number is read**, and stands for itself: it has no sign and no fraction. -/
theorem exists_read_toString (n : Nat) :
    ∃ t, read (toString n).toList = some t ∧ t.value = n := by
  have hall := all_isDigit_toDigits n
  have hnotMem : ∀ c : Char, c.isDigit = false → c ∉ Nat.toDigits 10 n := fun _ =>
    notMem_of_all_isDigit hall
  have hread : read (Nat.toDigits 10 n) = ofParts false (Nat.toDigits 10 n) [] := by
    have hsign : read (Nat.toDigits 10 n) = readDigits false (Nat.toDigits 10 n) := by
      unfold read
      split
      · next body heq =>
        exact absurd (heq ▸ List.mem_cons_self ..) (hnotMem '-' (by decide))
      · rfl
    rw [hsign, readDigits, List.splitOn_eq_singleton (hnotMem '.' (by decide))]
  have hparts : Nat.toDigits 10 n ++ [] ≠ [] ∧
      (Nat.toDigits 10 n ++ []).all Char.isDigit = true := by
    rw [List.append_nil]
    exact ⟨Nat.toDigits_ne_nil, hall⟩
  refine ⟨_, by rw [toList_toString, hread, ofParts, dif_pos hparts], ?_⟩
  show quantity (Nat.ofDigitChars 10 (Nat.toDigits 10 n ++ []) 0) 0 = n
  rw [List.append_nil, Nat.ofDigitChars_ten_toDigits, quantity, pow_zero, div_one]

/-- Zeros stay zeros. -/
theorem scaled_eq_zero (h : t.digits = 0) : t.scaled decimals = 0 := by
  rw [scaled, h, rescale_eq_div, Nat.zero_mul, Nat.zero_div]

end DecimalText
