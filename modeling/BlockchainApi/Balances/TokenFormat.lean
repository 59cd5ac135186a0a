/-
  What `format_token_amount` (`src/utils/crypto.rs`) prints.

  The digits of the amount get a point in front of the last so many of them.  If there are not more
  than that, zeros are put before them, and one more in front of the point.

  1. **The two parts** (`wholePart`, `fractionPart`).  Behind the point stand exactly as many digits
     as the token has decimals, and in front of it at least one.
  2. **The digits** (`parts_eq`).  Either way the digits without the point are those of the amount,
     possibly behind zeros, and zeros in front do not change a number.  So the text stands for the
     amount over the power of ten, exactly.
  3.  `formatTokenAmount_exact` adds that no two amounts have one text: with fixed decimals the
     value determines the amount.

  The text is read back by the reader of decimal numbers of `Lib.FloatText`, so what it stands for
  is what a client makes of it.
-/
import BlockchainApi.Balances.Handler
import BlockchainApi.Lib.DecimalText

namespace BlockchainApi

open DecimalText Decimals

/-- What stands in front of the point. -/
def wholePart (digits : List Char) (decimals : Nat) : List Char :=
  if digits.length ≤ decimals then ['0'] else digits.take (digits.length - decimals)

/-- What stands behind it. -/
def fractionPart (digits : List Char) (decimals : Nat) : List Char :=
  List.replicate (decimals - digits.length) '0' ++ digits.drop (digits.length - decimals)

variable {digits : List Char} {decimals : Nat}

theorem toList_formatTokenAmount (amount : U256) (decimals : UInt8) :
    (formatTokenAmount amount decimals).toList =
      wholePart (Nat.toDigits 10 amount.toNat) decimals.toNat ++
        '.' :: fractionPart (Nat.toDigits 10 amount.toNat) decimals.toNat := by
  rw [formatTokenAmount, toList_toString, wholePart, fractionPart]
  dsimp only
  split
  · next hle =>
    rw [String.toList_ofList, Nat.sub_eq_zero_of_le hle, List.drop_zero]
    rfl
  · next hlt =>
    rw [String.toList_ofList, Nat.sub_eq_zero_of_le (Nat.le_of_not_le hlt), List.replicate_zero,
      List.nil_append]

theorem wholePart_ne_nil : wholePart digits decimals ≠ [] := by
  rw [wholePart]
  split
  · exact List.cons_ne_nil _ _
  · next hlt =>
    intro h
    have hlength := congrArg List.length h
    rw [List.length_take, List.length_nil] at hlength
    omega

/-- There are exactly so many digits behind the point. -/
theorem length_fractionPart : (fractionPart digits decimals).length = decimals := by
  rw [fractionPart, List.length_append, List.length_replicate, List.length_drop]
  omega

/-- Both parts, without the point, are the digits behind zeros. -/
theorem parts_eq : ∃ zeros,
    wholePart digits decimals ++ fractionPart digits decimals =
      List.replicate zeros '0' ++ digits := by
  rw [wholePart, fractionPart]
  split
  · next hle =>
    refine ⟨decimals - digits.length + 1, ?_⟩
    rw [Nat.sub_eq_zero_of_le hle, List.drop_zero, List.replicate_succ]
    rfl
  · next hlt =>
    refine ⟨0, ?_⟩
    rw [Nat.sub_eq_zero_of_le (Nat.le_of_not_le hlt), List.replicate_zero, List.nil_append,
      List.nil_append, List.take_append_drop]

theorem all_isDigit_parts (h : digits.all Char.isDigit = true) :
    (wholePart digits decimals ++ fractionPart digits decimals).all Char.isDigit = true := by
  obtain ⟨zeros, hparts⟩ := @parts_eq digits decimals
  rw [hparts, List.all_append, h, Bool.and_true, List.all_replicate]
  simp

/-- The number in the digits of both parts. -/
theorem ofDigitChars_parts :
    Nat.ofDigitChars 10 (wholePart digits decimals ++ fractionPart digits decimals) 0 =
      Nat.ofDigitChars 10 digits 0 := by
  obtain ⟨zeros, hparts⟩ := @parts_eq digits decimals
  rw [hparts, Nat.ofDigitChars_append, Nat.ofDigitChars_replicate_zero, Nat.mul_zero]

/-- The text as a decimal number: digits, a point, and so many digits of a fraction. -/
theorem read_formatTokenAmount (amount : U256) (decimals : UInt8) :
    ∃ t, read (formatTokenAmount amount decimals).toList = some t ∧
      t.whole = wholePart (Nat.toDigits 10 amount.toNat) decimals.toNat ∧
      t.fraction = fractionPart (Nat.toDigits 10 amount.toNat) decimals.toNat ∧
      t.value = quantity amount.toNat decimals.toNat := by
  have hall := @all_isDigit_parts _ decimals.toNat (all_isDigit_toDigits amount.toNat)
  refine ⟨_, by rw [toList_formatTokenAmount, read_point wholePart_ne_nil hall], rfl, rfl, ?_⟩
  show quantity (Nat.ofDigitChars 10 (_ ++ _) 0) _ = _
  rw [ofDigitChars_parts, Nat.ofDigitChars_ten_toDigits, length_fractionPart]

/-- **Decimal formatting is exact.**  The text is an integer part, a point and exactly so many
    digits of a fraction; it stands for the amount over the power of ten, and an amount with at most
    so many digits is padded with zeros.  With fixed decimals no two amounts have one text. -/
theorem formatTokenAmount_exact (amount : U256) (decimals : UInt8) :
    (∃ t, read (formatTokenAmount amount decimals).toList = some t ∧
      (formatTokenAmount amount decimals).toList = t.whole ++ '.' :: t.fraction ∧
      t.whole ≠ [] ∧ t.fraction.length = decimals.toNat ∧
      t.value = amount.toNat / 10 ^ decimals.toNat ∧
      ((toString amount.toNat).length ≤ decimals.toNat → t.whole = ['0'] ∧
        t.fraction = List.replicate (decimals.toNat - (toString amount.toNat).length) '0' ++
          (toString amount.toNat).toList)) ∧
      ∀ amount', formatTokenAmount amount' decimals = formatTokenAmount amount decimals ↔
        amount' = amount := by
  constructor
  · obtain ⟨t, hread, hwhole, hfraction, hvalue⟩ := read_formatTokenAmount amount decimals
    refine ⟨t, hread, ?_, hwhole ▸ wholePart_ne_nil, hfraction ▸ length_fractionPart, hvalue, ?_⟩
    · rw [toList_formatTokenAmount, hwhole, hfraction]
    · rw [← String.length_toList, toList_toString, hwhole, hfraction]
      intro hle
      rw [wholePart, if_pos hle, fractionPart, Nat.sub_eq_zero_of_le hle, List.drop_zero]
      exact ⟨rfl, rfl⟩
  · -- one text is read as one value, and the value determines the amount
    intro amount'
    constructor
    · intro h
      obtain ⟨t, hread, -, -, hvalue⟩ := read_formatTokenAmount amount decimals
      obtain ⟨t', hread', -, -, hvalue'⟩ := read_formatTokenAmount amount' decimals
      rw [h, hread] at hread'
      cases hread'
      exact BitVec.eq_of_toNat_eq (quantity_inj.mp (hvalue'.symm.trans hvalue))
    · rintro rfl
      rfl

example : formatTokenAmount 959694527317077690 18 = "0.959694527317077690" := by decide
example : formatTokenAmount 125320550 6 = "125.320550" := by decide
example : formatTokenAmount 5 0 = "5." := by decide

end BlockchainApi
