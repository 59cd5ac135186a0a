/-
  Token amounts of different decimals (`src/utils/token_amount.rs`, and `convert_amount` of
  `src/handlers/chain_agnostic/mod.rs`).

  An amount with decimals stands for the decimal quantity of `Lib.Decimals`, and both functions are
  compared with exact arithmetic on it.

  1. **The comparison.** It brings the amount with fewer decimals to the other's by a checked
     product.  Where that overflows, the amount is larger than any 256-bit number, and the source
     decides so without the product.  `compareAmounts_eq`: up to 77 decimals the comparison is the
     exact one.

  2. **The order.** So the amounts of up to 77 decimals are totally preordered, and equal amounts of
     three different decimals are equal to each other (`compareAmounts_exact`).  `Ranks` is what is
     asked of such an order; comparing by a number always ranks.

  3. **The conversion.** It rounds down towards fewer decimals (`toNat_convertAmount_of_lt`), and
     towards more decimals it multiplies modulo 2^256 (`toNat_convertAmount_of_le`).
     `convertsExactly_iff`: it is the rounded down quotient, is monotone and is undone by the
     conversion back exactly where the product fits.
-/
import BlockchainApi.Lib.Decimals
import BlockchainApi.Lib.Outcome
import BlockchainApi.Primitives
import Mathlib.Tactic.NormNum

namespace BlockchainApi

open Decimals

/-- `checked_pow` of a 256-bit number. -/
def checkedPow (base exp : Nat) : Option U256 :=
  if base ^ exp < 2 ^ 256 then some (BitVec.ofNat 256 (base ^ exp)) else none

/-- `checked_mul`. -/
def checkedMul (a b : U256) : Option U256 :=
  if a.toNat * b.toNat < 2 ^ 256 then some (a * b) else none

/-- `Ord::cmp` of 256-bit numbers. -/
def cmpU256 (a b : U256) : Ordering := cmp a.toNat b.toNat

/-- `compare_amounts`. -/
def compareAmounts {ε : Type} (aAmount bAmount : U256) (aDecimals bDecimals : UInt8) :
    Outcome ε Ordering := do
  Outcome.assert (aDecimals ≤ 77)
  Outcome.assert (bDecimals ≤ 77)
  match cmp aDecimals.toNat bDecimals.toNat with
  | .eq => return cmpU256 aAmount bAmount
  | .gt =>
    match checkedPow 10 (aDecimals - bDecimals).toNat with
    | some factor =>
      match checkedMul bAmount factor with
      | some bAmountAdjusted => return cmpU256 aAmount bAmountAdjusted
      | none => return .lt
    | none => return .lt
  | .lt =>
    match checkedPow 10 (bDecimals - aDecimals).toNat with
    | some factor =>
      match checkedMul aAmount factor with
      | some aAmountAdjusted => return cmpU256 aAmountAdjusted bAmount
      | none => return .gt
    | none => return .gt

/-- `TokenAmount`. -/
structure TokenAmount where
  amount : U256
  decimals : UInt8
  deriving DecidableEq

namespace TokenAmount

/-- `>=`. -/
def ge {ε : Type} (a b : TokenAmount) : Outcome ε Bool := do
  let ordering ← compareAmounts a.amount b.amount a.decimals b.decimals
  return ordering != .lt

/-- `<=`. -/
def le {ε : Type} (a b : TokenAmount) : Outcome ε Bool := do
  let ordering ← compareAmounts a.amount b.amount a.decimals b.decimals
  return ordering != .gt

/-- `partial_cmp`. -/
def partialCmp {ε : Type} (a b : TokenAmount) : Outcome ε (Option Ordering) := do
  let ordering ← compareAmounts a.amount b.amount a.decimals b.decimals
  return some ordering

/-- `==`. -/
def eq {ε : Type} (a b : TokenAmount) : Outcome ε Bool := do
  let ordering ← a.partialCmp b
  return ordering == some .eq

/-- The decimal quantity. -/
def value (a : TokenAmount) : ℚ := quantity a.amount.toNat a.decimals.toNat

end TokenAmount

/-- `convert_amount`. -/
def convertAmount (amount : U256) (fromDecimals toDecimals : UInt8) : U256 :=
  match cmp fromDecimals.toNat toDecimals.toNat with
  | .eq => amount
  | .gt => amount / BitVec.ofNat 256 (10 ^ (fromDecimals - toDecimals).toNat)
  | .lt => amount * BitVec.ofNat 256 (10 ^ (toDecimals - fromDecimals).toNat)

/-! ## The comparison is exact, overflow included -/

theorem toNat_sub_of_le {a b : UInt8} (h : b ≤ a) : (a - b).toNat = a.toNat - b.toNat :=
  UInt8.toNat_sub_of_le a b h

theorem pow_ten_lt {n : Nat} (h : n ≤ 77) : 10 ^ n < 2 ^ 256 :=
  lt_of_le_of_lt (Nat.pow_le_pow_right (by decide) h) (by decide)

theorem checkedPow_ten {n : Nat} (h : n ≤ 77) :
    checkedPow 10 n = some (BitVec.ofNat 256 (10 ^ n)) := by
  rw [checkedPow, if_pos (pow_ten_lt h)]

/-- The comparison with the product, which is larger than any 256-bit number where it does not
    fit. -/
theorem cmp_checkedMul (a b : U256) {n : Nat} (h : n ≤ 77) :
    (match checkedMul b (BitVec.ofNat 256 (10 ^ n)) with
      | some adjusted => cmpU256 a adjusted
      | none => .lt) = cmp a.toNat (b.toNat * 10 ^ n) := by
  have hfactor : (BitVec.ofNat 256 (10 ^ n)).toNat = 10 ^ n := by
    rw [BitVec.toNat_ofNat, Nat.mod_eq_of_lt (pow_ten_lt h)]
  cases hmul : checkedMul b (BitVec.ofNat 256 (10 ^ n)) with
  | some adjusted =>
    show cmpU256 a adjusted = _
    rw [checkedMul, hfactor] at hmul
    split at hmul
    · next hfits =>
      cases hmul
      rw [cmpU256, BitVec.toNat_mul, hfactor, Nat.mod_eq_of_lt hfits]
    · cases hmul
  | none =>
    show Ordering.lt = _
    rw [checkedMul, hfactor] at hmul
    split at hmul
    · cases hmul
    · next hbig =>
      have ha := a.isLt
      exact ((cmp_eq_lt_iff _ _).mpr (by omega)).symm

/-- **The comparison of amounts is the comparison of decimal quantities.** Three cases: equal
    decimals, fewer on the left, fewer on the right; in the last two the product fits or does
    not. -/
theorem compareAmounts_eq {ε : Type} {a b : U256} {m n : UInt8} (hm : m ≤ 77) (hn : n ≤ 77) :
    (compareAmounts a b m n : Outcome ε Ordering) =
      .ok (cmp (quantity a.toNat m.toNat) (quantity b.toNat n.toNat)) := by
  have hm' : m.toNat ≤ 77 := UInt8.le_iff_toNat_le.mp hm
  have hn' : n.toNat ≤ 77 := UInt8.le_iff_toNat_le.mp hn
  rw [compareAmounts, Outcome.assert, if_pos hm, Outcome.ok_bind, Outcome.assert, if_pos hn,
    Outcome.ok_bind]
  cases hcmp : cmp m.toNat n.toNat with
  | eq =>
    -- equal decimals: the amounts themselves are compared
    have heq : m.toNat = n.toNat := (cmp_eq_eq_iff _ _).mp hcmp
    dsimp only
    rw [heq, cmp_quantity_of_le (Nat.le_refl _), Nat.sub_self, pow_zero, Nat.mul_one]
    rfl
  | gt =>
    -- the second amount is scaled up; if that overflows, it is the larger one
    have hle' : n.toNat ≤ m.toNat := le_of_lt ((cmp_eq_gt_iff _ _).mp hcmp)
    dsimp only
    rw [toNat_sub_of_le (UInt8.le_iff_toNat_le.mpr hle'), checkedPow_ten (by omega),
      cmp_quantity_of_ge hle', ← cmp_checkedMul a b (by omega : m.toNat - n.toNat ≤ 77)]
    dsimp only
    split <;> rfl
  | lt =>
    -- the first amount is scaled up
    have hle' : m.toNat ≤ n.toNat := le_of_lt ((cmp_eq_lt_iff _ _).mp hcmp)
    dsimp only
    rw [toNat_sub_of_le (UInt8.le_iff_toNat_le.mpr hle'), checkedPow_ten (by omega),
      cmp_quantity_of_le hle', ← cmp_swap, ← cmp_checkedMul b a (by omega : n.toNat - m.toNat ≤ 77)]
    dsimp only
    split
    · rw [cmpU256, cmpU256, cmp_swap]
      rfl
    · rfl

theorem TokenAmount.ge_eq {ε : Type} {a b : TokenAmount} (ha : a.decimals ≤ 77)
    (hb : b.decimals ≤ 77) : (a.ge b : Outcome ε Bool) = .ok (decide (b.value ≤ a.value)) := by
  rw [ge, compareAmounts_eq ha hb, Outcome.ok_bind]
  show Outcome.ok (cmp a.value b.value != .lt) = _
  congr 1
  rw [Bool.eq_iff_iff, decide_eq_true_iff, bne_iff_ne, ne_eq, cmp_eq_lt_iff, not_lt]

theorem TokenAmount.le_eq {ε : Type} {a b : TokenAmount} (ha : a.decimals ≤ 77)
    (hb : b.decimals ≤ 77) : (a.le b : Outcome ε Bool) = .ok (decide (a.value ≤ b.value)) := by
  rw [le, compareAmounts_eq ha hb, Outcome.ok_bind]
  show Outcome.ok (cmp a.value b.value != .gt) = _
  congr 1
  rw [Bool.eq_iff_iff, decide_eq_true_iff, bne_iff_ne, ne_eq, cmp_eq_gt_iff, not_lt]

theorem TokenAmount.eq_eq {ε : Type} {a b : TokenAmount} (ha : a.decimals ≤ 77)
    (hb : b.decimals ≤ 77) : (a.eq b : Outcome ε Bool) = .ok (decide (a.value = b.value)) := by
  rw [eq, partialCmp, compareAmounts_eq ha hb]
  show Outcome.ok (some (cmp a.value b.value) == some .eq) = _
  congr 1
  rw [Bool.eq_iff_iff, decide_eq_true_iff, beq_iff_eq, Option.some_inj, cmp_eq_eq_iff]

/-- An order and an equality that agree: whatever is compared is ranked, transitively and without
    gaps. -/
structure Ranks {α : Type} (le eq : α → α → Prop) : Prop where
  refl : ∀ a, le a a
  trans : ∀ a b c, le a b → le b c → le a c
  total : ∀ a b, le a b ∨ le b a
  eq_iff : ∀ a b, eq a b ↔ le a b ∧ le b a
  eq_refl : ∀ a, eq a a
  eq_symm : ∀ a b, eq a b → eq b a
  eq_trans : ∀ a b c, eq a b → eq b c → eq a c

/-- Comparing by a number ranks. -/
theorem Ranks.of_value {α : Type} (value : α → ℚ) :
    Ranks (fun a b => value a ≤ value b) (fun a b => value a = value b) where
  refl a := le_refl (value a)
  trans _ _ _ hab hbc := le_trans hab hbc
  total a b := le_total (value a) (value b)
  eq_iff _ _ := le_antisymm_iff
  eq_refl _ := rfl
  eq_symm _ _ h := h.symm
  eq_trans _ _ _ hab hbc := hab.trans hbc

/-- The token amounts that can be compared: with up to 77 decimals. -/
abbrev Comparable := { amount : TokenAmount // amount.decimals ≤ 77 }

/-- **The comparison is that of the rational numbers, and it ranks the token amounts.** -/
theorem compareAmounts_exact (ε : Type) :
    (∀ (a b : U256) (m n : UInt8), m ≤ 77 → n ≤ 77 →
      (compareAmounts a b m n : Outcome ε Ordering) =
        .ok (cmp ((a.toNat : ℚ) / 10 ^ m.toNat) ((b.toNat : ℚ) / 10 ^ n.toNat))) ∧
    Ranks (fun a b : Comparable => (a.val.le b.val : Outcome ε Bool) = .ok true)
      (fun a b : Comparable => (a.val.eq b.val : Outcome ε Bool) = .ok true) := by
  constructor
  · intro a b m n hm hn
    exact compareAmounts_eq hm hn
  · have hle : (fun a b : Comparable => (a.val.le b.val : Outcome ε Bool) = .ok true) =
        fun a b => a.val.value ≤ b.val.value := by
      funext a b
      rw [TokenAmount.le_eq a.property b.property, Outcome.ok.injEq, decide_eq_true_iff]
    have heq : (fun a b : Comparable => (a.val.eq b.val : Outcome ε Bool) = .ok true) =
        fun a b => a.val.value = b.val.value := by
      funext a b
      rw [TokenAmount.eq_eq a.property b.property, Outcome.ok.injEq, decide_eq_true_iff]
    rw [hle, heq]
    exact Ranks.of_value fun a : Comparable => a.val.value

/-- The largest amount without decimals is larger than any amount with 77, although its product with
    the power of ten does not fit. -/
theorem compareAmounts_exact_max :
    (compareAmounts (BitVec.ofNat 256 (2 ^ 256 - 1)) 1 0 77 : Outcome Unit Ordering) = .ok .gt := by
  rw [(compareAmounts_exact Unit).1 _ _ 0 77 (by decide) (by decide)]
  congr 1
  rw [cmp_eq_gt_iff]
  show ((1 : Nat) : ℚ) / 10 ^ 77 < ((2 ^ 256 - 1 : Nat) : ℚ) / 10 ^ 0
  norm_num

/-! ## The conversion: exact as long as the product fits -/

/-- Towards fewer decimals the conversion rounds down. -/
theorem toNat_convertAmount_of_lt {a : U256} {m n : UInt8} (hm : m ≤ 77) (h : n < m) :
    (convertAmount a m n).toNat = rescale a.toNat m.toNat n.toNat := by
  have hm' : m.toNat ≤ 77 := UInt8.le_iff_toNat_le.mp hm
  have h' : n.toNat < m.toNat := UInt8.lt_iff_toNat_lt.mp h
  have hcmp : cmp m.toNat n.toNat = .gt := (cmp_eq_gt_iff _ _).mpr h'
  have hle : n ≤ m := UInt8.le_iff_toNat_le.mpr h'.le
  rw [convertAmount, hcmp]
  dsimp only
  rw [BitVec.toNat_udiv, BitVec.toNat_ofNat, toNat_sub_of_le hle,
    Nat.mod_eq_of_lt (pow_ten_lt (by omega)), rescale_of_lt h']

/-- Towards more decimals it multiplies, modulo 2^256. -/
theorem toNat_convertAmount_of_le {a : U256} {m n : UInt8} (h : m ≤ n) :
    (convertAmount a m n).toNat = rescale a.toNat m.toNat n.toNat % 2 ^ 256 := by
  have h' : m.toNat ≤ n.toNat := UInt8.le_iff_toNat_le.mp h
  rw [rescale_of_le h']
  rcases Nat.eq_or_lt_of_le h' with heq | hlt
  · have hcmp : cmp m.toNat n.toNat = .eq := (cmp_eq_eq_iff _ _).mpr heq
    rw [convertAmount, hcmp, heq, Nat.sub_self, pow_zero, Nat.mul_one, Nat.mod_eq_of_lt a.isLt]
  · have hcmp : cmp m.toNat n.toNat = .lt := (cmp_eq_lt_iff _ _).mpr hlt
    rw [convertAmount, hcmp]
    dsimp only
    rw [BitVec.toNat_mul, BitVec.toNat_ofNat, toNat_sub_of_le h, Nat.mul_mod_mod]

/-- What is expected of a conversion: the quotient of unbounded integers, no less for a larger
    amount, and nothing lost on the way to more decimals and back. -/
def ConvertsExactly (amount : U256) (fromDecimals toDecimals : UInt8) : Prop :=
  (convertAmount amount fromDecimals toDecimals).toNat =
      amount.toNat * 10 ^ toDecimals.toNat / 10 ^ fromDecimals.toNat ∧
    (∀ smaller : U256, smaller ≤ amount →
      convertAmount smaller fromDecimals toDecimals ≤
        convertAmount amount fromDecimals toDecimals) ∧
    (fromDecimals ≤ toDecimals →
      convertAmount (convertAmount amount fromDecimals toDecimals) toDecimals fromDecimals =
        amount)

/-- The conversion is the rescaling exactly if that is a 256-bit number. -/
theorem toNat_convertAmount_eq_iff {a : U256} {m n : UInt8} (hm : m ≤ 77) :
    (convertAmount a m n).toNat = rescale a.toNat m.toNat n.toNat ↔
      n ≤ m ∨ a.toNat * 10 ^ (n.toNat - m.toNat) < 2 ^ 256 := by
  rcases Nat.lt_or_ge n.toNat m.toNat with h' | h'
  · have h : n < m := UInt8.lt_iff_toNat_lt.mpr h'
    exact iff_of_true (toNat_convertAmount_of_lt hm h) (Or.inl (UInt8.le_iff_toNat_le.mpr h'.le))
  · have h : m ≤ n := UInt8.le_iff_toNat_le.mpr h'
    rw [toNat_convertAmount_of_le h, rescale_of_le h']
    constructor
    · intro heq
      exact Or.inr (heq ▸ Nat.mod_lt _ (by positivity))
    · rintro (hle | hfits)
      · have heq : m.toNat = n.toNat := Nat.le_antisymm h' (UInt8.le_iff_toNat_le.mp hle)
        rw [heq, Nat.sub_self, pow_zero, Nat.mul_one, Nat.mod_eq_of_lt a.isLt]
      · exact Nat.mod_eq_of_lt hfits

/-- **The conversion is exact exactly if the product fits.** Towards fewer decimals it always
    does. -/
theorem convertsExactly_iff {a : U256} {m n : UInt8} (hm : m ≤ 77) (hn : n ≤ 77) :
    ConvertsExactly a m n ↔ n ≤ m ∨ a.toNat * 10 ^ (n.toNat - m.toNat) < 2 ^ 256 := by
  rw [← toNat_convertAmount_eq_iff hm]
  constructor
  · rintro ⟨hfloor, -, -⟩
    rw [hfloor, rescale_eq_div]
  · intro heq
    refine ⟨by rw [heq, rescale_eq_div], ?_, ?_⟩
    · intro smaller hsmaller
      have hle : smaller.toNat ≤ a.toNat := hsmaller
      -- what is smaller fits as well
      have hfits := (toNat_convertAmount_eq_iff hm).mp heq
      have hfitsSmaller : n ≤ m ∨ smaller.toNat * 10 ^ (n.toNat - m.toNat) < 2 ^ 256 :=
        hfits.imp_right (lt_of_le_of_lt (Nat.mul_le_mul_right _ hle))
      show (convertAmount smaller m n).toNat ≤ (convertAmount a m n).toNat
      rw [heq, (toNat_convertAmount_eq_iff hm).mpr hfitsSmaller]
      exact rescale_le_rescale hle
    · intro h
      have h' : m.toNat ≤ n.toNat := UInt8.le_iff_toNat_le.mp h
      apply BitVec.eq_of_toNat_eq
      rw [(toNat_convertAmount_eq_iff hn).mpr (Or.inl h), heq, rescale_rescale_of_le h']

theorem convertsExactly_iff_usdc : ConvertsExactly 5000000 6 18 :=
  (convertsExactly_iff (by decide) (by decide)).mpr (Or.inr (by decide))

/-- 2^250 smallest units of six decimals are more than a 256-bit number of eighteen decimals
    holds. -/
theorem not_convertsExactly : ¬ ConvertsExactly (BitVec.ofNat 256 (2 ^ 250)) 6 18 := by
  rintro ⟨hfloor, -, -⟩
  revert hfloor
  decide

end BlockchainApi
