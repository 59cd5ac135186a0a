/-
  What `wallet_getAssets` shows of an amount.

  The amount of an item is a decimal text.  It is read as a floating point number, multiplied by a
  power of ten, rounded, and cast to 64 bits before it is widened to 256; a token of the groups USDC
  and USDT has the largest amount elsewhere added first, and the sum is printed and read again.  So
  between the text and the number that is shown stand up to six operations that round.

  1. **Numbers.** `IsBinary64` says what these operations are in exact numbers: each rounds the
     exact result to the nearest double, printing and reading back loses nothing, and the cast
     saturates.  Everything after it is about rational numbers.

  2. **The amount that is converted.** `real_largest` is the loop over the other items of the group,
     by induction on the items; `exists_converted` follows an item through grouping, filling and
     aggregation to the amount that reaches the conversion.  What is filled in has no amount and
     does not count (`foldl_filledIn`).

  3. **The conversion.** `toNat_convertBalanceToHex`: one formula, the floor of the rounded number
     of units plus one half, cut to 64 bits.

  4. **When it is exact.** `ShowsExactly` is the condition on the numbers alone.
     `assetBalance_exact_iff` says that what is shown is the number of smallest units if and only if
     it holds, and gives its three clear regions: below 2^51 the two rounding errors stay under half
     a unit (`error_lt_half`); a number of more than 53 bits is no double, so something else is
     shown (`not_showsExactly_of_bits`); and from 2^64 on the cast shows `2^64 - 1`.

  The demonstrations are one ether, which is shown as it is, and twenty, which are more than 2^64
  units and are not.
-/
import BlockchainApi.Lib.DecimalText
import BlockchainApi.Lib.FloatRounding
import BlockchainApi.Wallet.AssetListing
import Mathlib.Data.Rat.Encodable

namespace BlockchainApi

open FloatFormat HashMap

variable {F : Type} {env : AssetsEnv F}

/-! ## Floating point numbers as exact numbers

The floating point type stays abstract. A finite number of it stands for a rational number, and
all that is assumed of an operation is which rational number its result stands for. -/

/-- The floating point numbers are those of `binary64`: a finite one stands for a number (`real`),
    and each operation rounds the exact result, as long as it is not negative and not too large.
    How precise a power of ten is, depends on the platform (`powTen`). -/
structure IsBinary64 (floats : AssetFloats F) (real : F → Option ℚ) (powTen : ℕ → ℚ) : Prop where
  parse : ∀ {text t}, DecimalText.read text.toList = some t → 0 ≤ t.value → t.value < 2 ^ 1023 →
    ∃ x, floats.parse text = some x ∧ real x = some (binary64.nearest t.value)
  zero : real floats.zero = some 0
  add : ∀ {x y a b}, real x = some a → real y = some b → 0 ≤ a → 0 ≤ b → a + b < 2 ^ 1023 →
    real (floats.add x y) = some (binary64.nearest (a + b))
  mul : ∀ {x y a b}, real x = some a → real y = some b → 0 ≤ a → 0 ≤ b → a * b < 2 ^ 1023 →
    real (floats.mul x y) = some (binary64.nearest (a * b))
  max : ∀ {x y a b}, real x = some a → real y = some b →
    real (floats.max x y) = some (Max.max a b)
  powTen_eq : ∀ {x} {d : ℕ}, d < 256 → real x = some (d : ℚ) →
    real (floats.powTen x) = some (powTen d)
  powTen_nonneg : ∀ d < 256, 0 ≤ powTen d
  powTen_le : ∀ d < 256, powTen d ≤ 2 * 10 ^ d
  /-- What is printed is read back. -/
  display : ∀ {x a}, real x = some a →
    ∃ y, floats.parse (floats.display x) = some y ∧ real y = some a
  /-- Halves are rounded up, and the cast saturates. -/
  asU64_round : ∀ {x a}, real x = some a → 0 ≤ a →
    (floats.asU64 (floats.round x)).toNat = min ⌊a + 1 / 2⌋₊ (2 ^ 64 - 1)

/-- The amount of an item, exactly. -/
def quantityOf (b : BalanceItem F) : ℚ :=
  ((DecimalText.read b.quantity.numeric.toList).map DecimalText.value).getD 0

/-- The amount of an item is a decimal number, and with these decimals it fits into 256 bits.
    That is what a provider answers of a balance that a chain can hold. -/
def HasAmount (b : BalanceItem F) (decimals : ℕ) : Prop :=
  ∃ t, DecimalText.read b.quantity.numeric.toList = some t ∧ 0 ≤ t.value ∧
    t.value * 10 ^ decimals < 2 ^ 256

/-- The larger of what was found so far and of the amount of one more item. -/
def largerAmount (h : ℚ) (b : BalanceItem F) : ℚ := max (binary64.nearest (quantityOf b)) h

/-- The largest amount among other items of the same group. -/
def elsewhere (env : AssetsEnv F) (item : BalanceItem F) (others : List (BalanceItem F)) : ℚ :=
  (others.filter fun b => (keyOf env item).isSome ∧ keyOf env b = keyOf env item).foldl
    largerAmount 0

/-- The number of units before it is cast: the amount and what is added to it are rounded, and so
    are their sum and its product with a power of ten. The order is that of the source. -/
def unitsBeforeCast (powTen : ℕ → ℚ) (q h : ℚ) (decimals : ℕ) : ℚ :=
  binary64.nearest (binary64.nearest (binary64.nearest q + h) * powTen decimals)

/-- **When `n` units are shown as `n`**: they fit into 64 bits, and the rounding errors move them
    by less than half a unit up, or half a unit down.  The largest number of 64 bits is shown for
    every larger one, too. -/
def ShowsExactly (powTen : ℕ → ℚ) (q h : ℚ) (decimals n : ℕ) : Prop :=
  n < 2 ^ 64 ∧ (n : ℚ) - 1 / 2 ≤ unitsBeforeCast powTen q h decimals ∧
    (unitsBeforeCast powTen q h decimals < n + 1 / 2 ∨ n = 2 ^ 64 - 1)

variable {real : F → Option ℚ} {powTen : ℕ → ℚ} {d : ℕ}

theorem HasAmount.quantity_nonneg {b : BalanceItem F} (h : HasAmount b d) : 0 ≤ quantityOf b := by
  obtain ⟨t, ht, hnonneg, -⟩ := h
  rw [quantityOf, ht]
  exact hnonneg

theorem HasAmount.quantity_mul_lt {b : BalanceItem F} (h : HasAmount b d) :
    quantityOf b * 10 ^ d < 2 ^ 256 := by
  obtain ⟨t, ht, -, hlt⟩ := h
  rw [quantityOf, ht]
  exact hlt

theorem HasAmount.quantity_lt {b : BalanceItem F} (h : HasAmount b d) : quantityOf b < 2 ^ 256 := by
  have hone : (1 : ℚ) ≤ 10 ^ d := one_le_pow₀ (by norm_num)
  calc quantityOf b = quantityOf b * 1 := (mul_one _).symm
    _ ≤ quantityOf b * 10 ^ d := mul_le_mul_of_nonneg_left hone h.quantity_nonneg
    _ < 2 ^ 256 := h.quantity_mul_lt

/-! ## Amounts: what is read of a text, and the largest one of a group -/

/-- What is read of an amount. -/
theorem real_amountOf (hfloats : IsBinary64 env.floats real powTen) {b : BalanceItem F}
    (h : HasAmount b d) :
    env.floats.parse b.quantity.numeric = some (amountOf env b) ∧
      real (amountOf env b) = some (binary64.nearest (quantityOf b)) := by
  have hlt := h.quantity_lt
  obtain ⟨t, ht, hnonneg, -⟩ := h
  have hquantity : quantityOf b = t.value := by rw [quantityOf, ht]; rfl
  obtain ⟨x, hx, hreal⟩ := hfloats.parse ht hnonneg
    (hquantity ▸ hlt.trans (pow_lt_pow_right₀ (by norm_num) (by norm_num)))
  have hamount : amountOf env b = x := by rw [amountOf, hx]; rfl
  rw [hamount, hquantity]
  exact ⟨hx, hreal⟩

theorem foldl_largerAmount_nonneg (items : List (BalanceItem F)) {a : ℚ} (ha : 0 ≤ a) :
    0 ≤ items.foldl largerAmount a := by
  induction items generalizing a with
  | nil => exact ha
  | cons b items ih => exact ih (ha.trans (le_max_right _ _))

theorem elsewhere_nonneg {item : BalanceItem F} {others : List (BalanceItem F)} :
    0 ≤ elsewhere env item others := foldl_largerAmount_nonneg _ le_rfl

/-- A fold over indexed items that leaves no index out. -/
theorem foldl_zipIdx_of_ne {α : Type} {f : α → BalanceItem F → α} {i : ℕ}
    (items : List (BalanceItem F × ℕ)) (h : ∀ b ∈ items, b.2 ≠ i) (a : α) :
    items.foldl (fun a b => if b.2 ≠ i then f a b.1 else a) a =
      (items.map Prod.fst).foldl f a := by
  induction items generalizing a with
  | nil => rfl
  | cons b items ih =>
    obtain ⟨hb, hitems⟩ := List.forall_mem_cons.mp h
    rw [List.foldl_cons, if_pos hb, ih hitems]
    rfl

/-- The other indices are those of the items before and after. -/
theorem largestOther_append (before after : List (BalanceItem F)) (item : BalanceItem F) :
    largestOther env before.length (before ++ item :: after).zipIdx =
      (before ++ after).foldl (fun highest b => env.floats.max (amountOf env b) highest)
        env.floats.zero := by
  have hbefore : ∀ b ∈ before.zipIdx, b.2 ≠ before.length := fun b hb =>
    (List.snd_lt_of_mem_zipIdx hb).ne
  have hafter : ∀ b ∈ after.zipIdx (before.length + 1), b.2 ≠ before.length := fun b hb =>
    (Nat.lt_of_succ_le (List.le_snd_of_mem_zipIdx hb)).ne'
  have hfold := fun items hitems x => @foldl_zipIdx_of_ne F F
    (fun highest b => env.floats.max (amountOf env b) highest) before.length items hitems x
  rw [largestOther, List.zipIdx_append, List.zipIdx_cons, List.foldl_append, List.foldl_cons,
    Nat.zero_add, if_neg (by simp), hfold _ hbefore, hfold _ hafter, List.zipIdx_map_fst,
    List.zipIdx_map_fst, List.foldl_append]

/-- **The largest amount elsewhere**, in exact numbers. The loop keeps the larger of two doubles,
    and rounding is monotone, so the loop computes the rounded maximum. -/
theorem real_largest (hfloats : IsBinary64 env.floats real powTen) (items : List (BalanceItem F))
    (h : ∀ b ∈ items, HasAmount b d) {x : F} {a : ℚ} (hx : real x = some a) :
    real (items.foldl (fun highest b => env.floats.max (amountOf env b) highest) x) =
      some (items.foldl largerAmount a) := by
  induction items generalizing x a with
  | nil => exact hx
  | cons b items ih =>
    obtain ⟨hb, hitems⟩ := List.forall_mem_cons.mp h
    exact ih hitems (hfloats.max (real_amountOf hfloats hb).2 hx)

/-! ## The conversion: from an amount to a 256-bit word -/

/-- What the cast makes of a rounded number: it is `n` if the floor is, or if both are at the end
    of 64 bits. -/
theorem cast_eq_iff {r : ℚ} (hr : 0 ≤ r) {n : ℕ} :
    min ⌊r + 1 / 2⌋₊ (2 ^ 64 - 1) = n ↔
      n < 2 ^ 64 ∧ (n : ℚ) - 1 / 2 ≤ r ∧ (r < n + 1 / 2 ∨ n = 2 ^ 64 - 1) := by
  have hfloor : (⌊r + 1 / 2⌋₊ : ℚ) ≤ r + 1 / 2 := Nat.floor_le (by linarith)
  have hlt : r + 1 / 2 < ⌊r + 1 / 2⌋₊ + 1 := Nat.lt_floor_add_one _
  constructor
  · intro h
    have hle : n ≤ ⌊r + 1 / 2⌋₊ := h ▸ min_le_left _ _
    have hle' : (n : ℚ) ≤ ⌊r + 1 / 2⌋₊ := by exact_mod_cast hle
    refine ⟨by omega, by linarith, ?_⟩
    by_cases hmax : n = 2 ^ 64 - 1
    · exact .inr hmax
    · have heq : ⌊r + 1 / 2⌋₊ = n := by omega
      rw [heq] at hlt
      exact .inl (by linarith)
  · rintro ⟨hn, hlow, hhigh⟩
    have hle : n ≤ ⌊r + 1 / 2⌋₊ := Nat.le_floor (by linarith)
    rcases hhigh with hhigh | hmax
    · have hlt' : ⌊r + 1 / 2⌋₊ < n + 1 := by
        rw [Nat.floor_lt (by linarith)]
        push_cast
        linarith
      omega
    · omega

/-- Decimals are read as they are. -/
theorem real_decimals (hfloats : IsBinary64 env.floats real powTen) (d : UInt8) :
    ∃ x, env.floats.parse (toString d.toNat) = some x ∧ real x = some (d.toNat : ℚ) := by
  have hd := d.toNat_lt
  obtain ⟨t, ht, hvalue⟩ := DecimalText.exists_read_toString d.toNat
  have hlt : t.value < 2 ^ 1023 := by
    rw [hvalue]
    exact_mod_cast lt_of_lt_of_le hd (Nat.pow_le_pow_right (by norm_num) (by norm_num))
  obtain ⟨x, hx, hreal⟩ := hfloats.parse ht (hvalue ▸ Nat.cast_nonneg _) hlt
  have hfloat : binary64.IsFloat (d.toNat : ℚ) := by
    have hwhole : binary64.IsFloat ((d.toNat * 2 ^ 0 : ℕ) : ℚ) :=
      isFloat_natCast_mul (by decide) (hd.le.trans (by decide))
    rwa [pow_zero, mul_one] at hwhole
  refine ⟨x, hx, ?_⟩
  rw [hreal, hvalue, nearest_of_isFloat hfloat]

/-- **The conversion**, in exact numbers. -/
theorem toNat_convertBalanceToHex {ε : Type} (hfloats : IsBinary64 env.floats real powTen)
    {quantity : BalanceQuantity} {balance : U256} {y : F} {a : ℚ} {d : UInt8}
    (hparse : env.floats.parse quantity.numeric = some y) (hreal : real y = some a) (ha : 0 ≤ a)
    (hlt : a * (2 * 10 ^ d.toNat) < 2 ^ 1023) (hdecimals : quantity.decimals = toString d.toNat)
    (h : (convertBalanceToHex env quantity : Outcome ε U256) = .ok balance) :
    balance.toNat =
      min ⌊binary64.nearest (a * powTen d.toNat) + 1 / 2⌋₊ (2 ^ 64 - 1) := by
  have hd : d.toNat < 256 := d.toNat_lt
  obtain ⟨x, hx, hrealx⟩ := real_decimals hfloats d
  rw [convertBalanceToHex, hparse, hdecimals, hx] at h
  cases h
  have hpow := hfloats.powTen_nonneg d.toNat hd
  have hproduct : a * powTen d.toNat < 2 ^ 1023 :=
    lt_of_le_of_lt (mul_le_mul_of_nonneg_left (hfloats.powTen_le d.toNat hd) ha) hlt
  have hmul := hfloats.mul hreal (hfloats.powTen_eq hd hrealx) ha hpow hproduct
  rw [BitVec.toNat_setWidth, hfloats.asU64_round hmul (nearest_nonneg (mul_nonneg ha hpow))]
  exact Nat.mod_eq_of_lt (lt_of_le_of_lt (min_le_right _ _) (by norm_num))

/-! ## Rounding errors

Two roundings stand between an exact number of units and the number before the cast: that of the
amount and that of its product with the power of ten. Each is off by at most one part in 2^53. -/

/-- A unit of any token is not too small for the full precision. -/
theorem threshold_mul_le {d : ℕ} (hd : d < 256) :
    (2 : ℚ) ^ (binary64.minExponent + binary64.precision - 1) * 10 ^ d ≤ 1 := by
  have hten : (10 : ℚ) ^ d ≤ 2 ^ (4 * d : ℤ) := by
    rw [zpow_mul, zpow_natCast]
    exact pow_le_pow_left₀ (by norm_num) (by norm_num) d
  calc (2 : ℚ) ^ (binary64.minExponent + binary64.precision - 1) * 10 ^ d
      ≤ 2 ^ (binary64.minExponent + binary64.precision - 1) * 2 ^ (4 * d : ℤ) :=
        mul_le_mul_of_nonneg_left hten (zpow_nonneg (by norm_num) _)
    _ = 2 ^ (binary64.minExponent + binary64.precision - 1 + 4 * d) :=
        (zpow_add₀ (by norm_num) _ _).symm
    _ ≤ 1 := zpow_le_one_of_nonpos₀ (by norm_num) (by simp only [binary64]; omega)

/-- Neither is the amount of at least one unit, nor what its rounding leaves of the units. -/
theorem threshold_le_amount {q : ℚ} {d n : ℕ} (hd : d < 256) (hn : q * 10 ^ d = n) (hpos : 0 < n) :
    (2 : ℚ) ^ (binary64.minExponent + binary64.precision - 1) ≤ q ∧
      (2 : ℚ) ^ (binary64.minExponent + binary64.precision - 1) ≤
        binary64.nearest q * 10 ^ d := by
  have hten : (0 : ℚ) < 10 ^ d := by positivity
  have hone : (1 : ℚ) ≤ q * 10 ^ d := by
    rw [hn]
    exact_mod_cast hpos
  have hthreshold : (2 : ℚ) ^ (binary64.minExponent + binary64.precision - 1) ≤ q :=
    le_of_mul_le_mul_right ((threshold_mul_le hd).trans hone) hten
  refine ⟨hthreshold, ?_⟩
  have hq : 0 ≤ q := (zpow_nonneg (by norm_num) _).trans hthreshold
  have herror := (abs_le.mp (abs_nearest_sub_le_div hthreshold)).1
  have hhalf : q / 2 ^ binary64.precision ≤ q / 2 :=
    div_le_div_of_nonneg_left hq (by norm_num) (by norm_num [binary64])
  calc (2 : ℚ) ^ (binary64.minExponent + binary64.precision - 1)
      ≤ 1 / 2 := (zpow_le_zpow_right₀ (n := -1) (by norm_num) (by decide)).trans (by norm_num)
    _ ≤ q / 2 * 10 ^ d := by linarith
    _ ≤ binary64.nearest q * 10 ^ d := mul_le_mul_of_nonneg_right (by linarith) hten.le

/-- The error of two roundings, for less than 2^51 units: two parts in 2^53 of the units are less
    than one half. -/
theorem error_lt_half {n : ℕ} (hlt : n < 2 ^ 51) :
    (n : ℚ) / 2 ^ binary64.precision * (2 + 1 / 2 ^ binary64.precision) < 1 / 2 := by
  have hle : (n : ℚ) ≤ 2 ^ 51 - 1 := by
    have : (n : ℚ) + 1 ≤ 2 ^ 51 := by exact_mod_cast hlt
    linarith
  show (n : ℚ) / 2 ^ 53 * (2 + 1 / 2 ^ 53) < 1 / 2
  calc (n : ℚ) / 2 ^ 53 * (2 + 1 / 2 ^ 53) ≤ (2 ^ 51 - 1) / 2 ^ 53 * (2 + 1 / 2 ^ 53) := by
        gcongr
    _ < 1 / 2 := by norm_num

/-- **Below 2^51 the errors are too small to show.** Zero units are zero whatever the decimals;
    any other number of units is at least one, and then nothing is so small that precision is
    lost. -/
theorem showsExactly_of_lt {q : ℚ} {d n : ℕ} (hq : 0 ≤ q) (hd : d < 256)
    (hpow : powTen d = 10 ^ d) (hn : q * 10 ^ d = n) (hlt : n < 2 ^ 51) :
    ShowsExactly powTen q 0 d n := by
  have hten : (0 : ℚ) < 10 ^ d := by positivity
  have hunits : unitsBeforeCast powTen q 0 d =
      binary64.nearest (binary64.nearest q * 10 ^ d) := by
    rw [unitsBeforeCast, add_zero, nearest_nearest hq, hpow]
  refine ⟨hlt.trans (by norm_num), ?_⟩
  rw [hunits]
  -- zero is not of full precision, and is shown exactly for another reason
  rcases Nat.eq_zero_or_pos n with rfl | hpos
  · have hzero : q = 0 := (mul_eq_zero_iff_right hten.ne').mp (hn.trans Nat.cast_zero)
    rw [hzero, nearest_zero, zero_mul, nearest_zero]
    norm_num
  · obtain ⟨hthreshold, hproduct⟩ := threshold_le_amount hd hn hpos
    have herror := abs_nearest_nearest_mul_sub_le hthreshold hten.le hproduct
    rw [hn] at herror
    have hsmall := error_lt_half hlt
    have hbounds := abs_le.mp herror
    exact ⟨by linarith, .inl (by linarith)⟩

/-- **More than 53 bits are not exact.** What stands before the cast is a double, and above 2^53
    a double is an integer with at most 53 significant bits; rounding it to a whole number
    changes nothing. -/
theorem not_showsExactly_of_bits {q h : ℚ} {d n : ℕ} (hq : 0 ≤ q) (hh : 0 ≤ h)
    (hpow : 0 ≤ powTen d) (hlarge : 2 ^ 53 < n) (hlt : n < 2 ^ 64 - 1)
    (hbits : ∀ m k : ℕ, m ≤ 2 ^ 53 → n ≠ m * 2 ^ k) : ¬ ShowsExactly powTen q h d n := by
  rintro ⟨-, hlow, hhigh⟩
  have hfloat : binary64.IsFloat (unitsBeforeCast powTen q h d) :=
    isFloat_nearest (mul_nonneg (nearest_nonneg (add_nonneg (nearest_nonneg hq) hh)) hpow)
  obtain ⟨m, k, hm, hn⟩ :=
    exists_eq_of_isFloat hfloat hlow (hhigh.resolve_right (by omega)) hlarge
  exact hbits m k hm hn

/-! ## What is shown

An item is followed through the passes: it is in the completed group of its key, aggregated with
the rest of that group, kept by the filters and listed under its chain. -/

theorem sixteen_mul_lt : (16 : ℚ) * 2 ^ 256 < 2 ^ 1023 := by
  have hpow : (16 : ℚ) * 2 ^ 256 = 2 ^ (4 + 256) := by
    rw [pow_add]
    norm_num
  rw [hpow]
  exact pow_lt_pow_right₀ (by norm_num) (by norm_num)

/-- The largest amount elsewhere is one of the amounts. -/
theorem foldl_largerAmount_mul_le (items : List (BalanceItem F)) (h : ∀ b ∈ items, HasAmount b d)
    {a : ℚ} (ha : a * 10 ^ d ≤ 2 * 2 ^ 256) :
    items.foldl largerAmount a * 10 ^ d ≤ 2 * 2 ^ 256 := by
  induction items generalizing a with
  | nil => exact ha
  | cons b items ih =>
    obtain ⟨hb, hitems⟩ := List.forall_mem_cons.mp h
    refine ih hitems ?_
    have hten : (0 : ℚ) < 10 ^ d := by positivity
    have hdouble : binary64.nearest (quantityOf b) * 10 ^ d ≤ 2 * 2 ^ 256 :=
      calc binary64.nearest (quantityOf b) * 10 ^ d ≤ 2 * quantityOf b * 10 ^ d :=
            mul_le_mul_of_nonneg_right (nearest_le_two_mul hb.quantity_nonneg) hten.le
        _ ≤ 2 * 2 ^ 256 := by linarith [hb.quantity_mul_lt]
    rw [largerAmount, max_mul_of_nonneg _ _ hten.le]
    exact max_le hdouble ha

theorem elsewhere_mul_le {item : BalanceItem F} {others : List (BalanceItem F)}
    (h : ∀ b ∈ others, (keyOf env item).isSome → keyOf env b = keyOf env item → HasAmount b d) :
    elsewhere env item others * 10 ^ d ≤ 2 * 2 ^ 256 := by
  refine foldl_largerAmount_mul_le _ (fun b hb => ?_) (by norm_num)
  obtain ⟨hmem, hgroup⟩ := List.mem_filter.mp hb
  obtain ⟨hsome, hkey⟩ := of_decide_eq_true hgroup
  exact h b hmem hsome hkey

/-- An item that was filled in has no amount. -/
theorem read_filledIn {key : TokenKey} {items : List (BalanceItem F)} {b : BalanceItem F}
    (h : b ∈ filledIn env key items) :
    ∃ t, DecimalText.read b.quantity.numeric.toList = some t ∧ t.value = 0 := by
  obtain ⟨chain, -, contract, -, template, -, rfl⟩ := of_mem_filledIn h
  obtain ⟨t, ht, hvalue⟩ := DecimalText.exists_read_toString 0
  exact ⟨t, ht, hvalue.trans Nat.cast_zero⟩

theorem hasAmount_filledIn {key : TokenKey} {items : List (BalanceItem F)} {b : BalanceItem F}
    (h : b ∈ filledIn env key items) : HasAmount b d := by
  obtain ⟨t, ht, hvalue⟩ := read_filledIn h
  refine ⟨t, ht, hvalue.ge, ?_⟩
  rw [hvalue, zero_mul]
  norm_num

theorem foldl_filledIn {key : TokenKey} {items : List (BalanceItem F)} :
    ∀ (filled : List (BalanceItem F)), filled ⊆ filledIn env key items → ∀ {a : ℚ}, 0 ≤ a →
      filled.foldl largerAmount a = a := by
  intro filled
  induction filled with
  | nil => exact fun _ _ _ => rfl
  | cons b filled ih =>
    intro hsub a ha
    obtain ⟨hb, hrest⟩ := List.cons_subset.mp hsub
    obtain ⟨t, ht, hvalue⟩ := read_filledIn hb
    have hquantity : quantityOf b = 0 := by
      rw [quantityOf, ht, Option.map_some, Option.getD_some, hvalue]
    rw [List.foldl_cons, largerAmount, hquantity, nearest_zero, max_eq_right ha]
    exact ih hrest ha

theorem data_listedAsset (b : BalanceItem F) (balance : U256) (decimals : UInt8) :
    (listedAsset env b balance decimals).data.address = addressOf env b ∧
      (listedAsset env b balance decimals).data.balance = balance ∧
        (listedAsset env b balance decimals).data.metadata.symbol = b.symbol := by
  rw [listedAsset]
  cases b.address <;> exact ⟨rfl, rfl, rfl⟩

section

variable {before after : List (BalanceItem F)} {item : BalanceItem F} {key : TokenKey}

/-- A group is what stands before and after an item of it, and what is filled in. -/
theorem completed_split (hkey : keyOf env item = some key) :
    completed env (before ++ item :: after) key =
      groupOf env before key ++ item :: (groupOf env after key ++
        filledIn env key (groupOf env (before ++ item :: after) key)) := by
  have hsplit : groupOf env (before ++ item :: after) key =
      groupOf env before key ++ item :: groupOf env after key := by
    rw [groupOf, List.filter_append, List.filter_cons_of_pos (by simp [hkey])]
    rfl
  rw [completed, hsplit, List.append_assoc, List.cons_append]

/-- Elsewhere is the rest of the group. -/
theorem elsewhere_of_keyOf_eq_some (hkey : keyOf env item = some key) :
    elsewhere env item (before ++ after) =
      (groupOf env before key ++ (groupOf env after key ++
        filledIn env key (groupOf env (before ++ item :: after) key))).foldl largerAmount 0 := by
  have hothers : (before ++ after).filter
      (fun b => (keyOf env item).isSome ∧ keyOf env b = keyOf env item) =
      groupOf env before key ++ groupOf env after key := by
    rw [List.filter_append, hkey]
    simp [groupOf]
  rw [elsewhere, hothers, ← List.append_assoc,
    @List.foldl_append _ _ largerAmount 0 _ (filledIn ..),
    foldl_filledIn _ (fun _ hb => hb) (foldl_largerAmount_nonneg _ le_rfl)]

theorem elsewhere_of_keyOf_eq_none (hkey : keyOf env item = none) :
    elsewhere env item (before ++ after) = 0 := by
  rw [elsewhere, hkey, List.filter_eq_nil_iff.mpr (by simp)]
  rfl

/-- The amount and what is added to it are far from the largest number, so no operation
    overflows. -/
theorem amount_add_elsewhere_lt (hamount : HasAmount item d)
    (hothers : ∀ b ∈ before ++ after, (keyOf env item).isSome → keyOf env b = keyOf env item →
      HasAmount b d) :
    binary64.nearest (quantityOf item) + elsewhere env item (before ++ after) < 2 ^ 1023 := by
  have hone : (1 : ℚ) ≤ 10 ^ d := one_le_pow₀ (by norm_num)
  have hle : elsewhere env item (before ++ after) ≤ 2 * 2 ^ 256 :=
    (le_mul_of_one_le_right elsewhere_nonneg hone).trans (elsewhere_mul_le hothers)
  have hnearest : binary64.nearest (quantityOf item) ≤ 2 * quantityOf item :=
    nearest_le_two_mul hamount.quantity_nonneg
  refine lt_of_le_of_lt ?_ sixteen_mul_lt
  linarith [hamount.quantity_lt]

/-- The amount that is converted for an item: its own, or with the largest one elsewhere. An item
    of no group goes to the filters as it is; an item of a group goes there with the aggregated
    amount. -/
theorem exists_converted (hfloats : IsBinary64 env.floats real powTen)
    (hamount : HasAmount item d)
    (hothers : ∀ b ∈ before ++ after, (keyOf env item).isSome → keyOf env b = keyOf env item →
      HasAmount b d) :
    ∃ c y, ToFilter env (before ++ item :: after) c ∧
      (∃ quantity value, c = { item with quantity := quantity, value := value } ∧
        quantity.decimals = item.quantity.decimals) ∧
      env.floats.parse c.quantity.numeric = some y ∧
        real y = some (binary64.nearest
          (binary64.nearest (quantityOf item) + elsewhere env item (before ++ after))) := by
  obtain ⟨hparse, hreal⟩ := real_amountOf hfloats hamount
  have hq := hamount.quantity_nonneg
  cases hkey : keyOf env item with
  | none =>
    -- no group: the item is filtered as it is
    refine ⟨item, _, .inr (List.mem_filter.mpr ⟨by simp, by simp [hkey]⟩), ⟨_, _, rfl, rfl⟩,
      hparse, ?_⟩
    rw [elsewhere_of_keyOf_eq_none hkey, add_zero, nearest_nearest hq, hreal]
  | some key =>
    -- all amounts of the completed group fit, so the sum with the largest one does
    have hmem : ∀ b ∈ before ++ after, keyOf env b = some key → HasAmount b d := fun b hb hk =>
      hothers b hb (by rw [hkey]; rfl) (hk.trans hkey.symm)
    have hitems : ∀ b ∈ groupOf env before key ++ (groupOf env after key ++
        filledIn env key (groupOf env (before ++ item :: after) key)), HasAmount b d := by
      intro b hb
      rcases List.mem_append.mp hb with hb | hb
      · exact hmem b (List.mem_append_left _ (mem_groupOf.mp hb).1) (mem_groupOf.mp hb).2
      · rcases List.mem_append.mp hb with hb | hb
        · exact hmem b (List.mem_append_right _ (mem_groupOf.mp hb).1) (mem_groupOf.mp hb).2
        · exact hasAmount_filledIn hb
    have hlargest := real_largest hfloats _ hitems hfloats.zero
    rw [← elsewhere_of_keyOf_eq_some hkey] at hlargest
    have hadd := hfloats.add hreal hlargest (nearest_nonneg hq) elsewhere_nonneg
      (amount_add_elsewhere_lt hamount hothers)
    obtain ⟨y, hy, hrealy⟩ := hfloats.display hadd
    refine ⟨withAggregatedValue env item _, y, .inl ⟨key, ?_⟩, ⟨_, _, rfl, rfl⟩, hy, hrealy⟩
    rw [completed_split hkey, aggregated, List.mem_map]
    refine ⟨(item, (groupOf env before key).length), ?_, ?_⟩
    · rw [List.mk_mem_zipIdx_iff_getElem?]
      simp
    · rw [largestOther_append]

end

/-- **What is shown for an item**: the number of units before the cast, rounded and cut to 64
    bits. The run is taken apart pass by pass, from the listed asset back to the item. -/
theorem exists_shown (henv : env.Lawful) (hfloats : IsBinary64 env.floats real powTen)
    {body : BalanceResponseBody F} {filters : GetAssetsFilters} {result : GetAssetsResult F}
    (hrun : getAssets env body filters = .ok result) {before after : List (BalanceItem F)}
    {item : BalanceItem F} (hbody : body.balances = before ++ item :: after)
    (hkeeps : filters.Keeps item.chainId (addressOf env item)) {decimals : UInt8}
    (hdecimals : item.quantity.decimals = toString decimals.toNat)
    (hamount : HasAmount item decimals.toNat)
    (hothers : ∀ b ∈ before ++ after, (keyOf env item).isSome → keyOf env b = keyOf env item →
      HasAmount b decimals.toNat) :
    ∃ chain asset, (responseKey env item : Outcome GetAssetsError U64) = .ok chain ∧
      asset ∈ (result.lookup chain).getD [] ∧ asset.data.address = addressOf env item ∧
      asset.data.metadata.symbol = item.symbol ∧
      asset.data.balance.toNat = min ⌊unitsBeforeCast powTen (quantityOf item)
        (elsewhere env item (before ++ after)) decimals.toNat + 1 / 2⌋₊ (2 ^ 64 - 1) := by
  obtain ⟨_, y, hfilter, ⟨quantity, value, rfl, hsame⟩, hparse, hreal⟩ :=
    exists_converted hfloats hamount hothers
  rw [← hbody] at hfilter
  obtain ⟨chain, asset, hentry, hasset⟩ := exists_asset henv hrun hfilter hkeeps
  obtain ⟨_, hchain, hentry⟩ := Outcome.bind_eq_ok.mp hentry
  obtain ⟨_, hof, hentry⟩ := Outcome.bind_eq_ok.mp hentry
  cases hentry
  obtain ⟨-, balance, byte, hbalance, -, rfl⟩ := assetOf_eq_ok_iff.mp hof
  obtain ⟨haddress, hshown, hsymbol⟩ := @data_listedAsset F env
    { item with quantity := quantity, value := value } balance byte
  refine ⟨chain, _, hchain, hasset, haddress, hsymbol, ?_⟩
  have hq := hamount.quantity_nonneg
  have hnonneg : 0 ≤ binary64.nearest (quantityOf item) + elsewhere env item (before ++ after) :=
    add_nonneg (nearest_nonneg hq) elsewhere_nonneg
  rw [hshown, unitsBeforeCast]
  refine toNat_convertBalanceToHex hfloats hparse hreal (nearest_nonneg hnonneg) ?_
    (hsame.trans hdecimals) hbalance
  -- two roundings at most double a number each, which leaves the product below 2^1023
  have hten : (0 : ℚ) < 10 ^ decimals.toNat := by positivity
  have hamountUnits := hamount.quantity_mul_lt
  have helsewhereUnits := elsewhere_mul_le hothers
  refine lt_of_le_of_lt ?_ sixteen_mul_lt
  calc binary64.nearest
        (binary64.nearest (quantityOf item) + elsewhere env item (before ++ after)) *
          (2 * 10 ^ decimals.toNat)
      ≤ 2 * (2 * quantityOf item + elsewhere env item (before ++ after)) *
          (2 * 10 ^ decimals.toNat) := by
        refine mul_le_mul_of_nonneg_right ((nearest_le_two_mul hnonneg).trans ?_) (by positivity)
        linarith [(nearest_le_two_mul hq : binary64.nearest (quantityOf item) ≤ _)]
    _ = 8 * (quantityOf item * 10 ^ decimals.toNat) +
          4 * (elsewhere env item (before ++ after) * 10 ^ decimals.toNat) := by ring
    _ ≤ 16 * 2 ^ 256 := by linarith

/-- **The amount of an item is shown exactly if and only if its number of units has 64 bits and the
    rounding errors stay below half a unit.**  They do for less than 2^51 units, where nothing
    is added from elsewhere and the power of ten is exact; they do not for a number of more than 53
    bits, and no amount of 2^64 units or more is shown exactly. -/
theorem assetBalance_exact_iff (henv : env.Lawful) (hfloats : IsBinary64 env.floats real powTen)
    {body : BalanceResponseBody F} {filters : GetAssetsFilters} {result : GetAssetsResult F}
    (hrun : getAssets env body filters = .ok result) {before after : List (BalanceItem F)}
    {item : BalanceItem F} (hbody : body.balances = before ++ item :: after)
    (hkeeps : filters.Keeps item.chainId (addressOf env item)) {decimals : UInt8}
    (hdecimals : item.quantity.decimals = toString decimals.toNat)
    (hamount : HasAmount item decimals.toNat)
    (hothers : ∀ b ∈ before ++ after, (keyOf env item).isSome → keyOf env b = keyOf env item →
      HasAmount b decimals.toNat) {n : ℕ} (hn : quantityOf item * 10 ^ decimals.toNat = n) :
    (∃ chain asset, (responseKey env item : Outcome GetAssetsError U64) = .ok chain ∧
      asset ∈ (result.lookup chain).getD [] ∧ asset.data.address = addressOf env item ∧
      asset.data.metadata.symbol = item.symbol ∧
      (asset.data.balance.toNat = n ↔ ShowsExactly powTen (quantityOf item)
        (elsewhere env item (before ++ after)) decimals.toNat n)) ∧
    (elsewhere env item (before ++ after) = 0 → powTen decimals.toNat = 10 ^ decimals.toNat →
      n < 2 ^ 51 → ShowsExactly powTen (quantityOf item)
        (elsewhere env item (before ++ after)) decimals.toNat n) ∧
    (2 ^ 53 < n → n < 2 ^ 64 - 1 → (∀ m k : ℕ, m ≤ 2 ^ 53 → n ≠ m * 2 ^ k) →
      ¬ ShowsExactly powTen (quantityOf item)
        (elsewhere env item (before ++ after)) decimals.toNat n) ∧
    (2 ^ 64 ≤ n → ¬ ShowsExactly powTen (quantityOf item)
        (elsewhere env item (before ++ after)) decimals.toNat n) := by
  have hq := hamount.quantity_nonneg
  have hd : decimals.toNat < 256 := decimals.toNat_lt
  have hpow := hfloats.powTen_nonneg _ hd
  refine ⟨?_, fun hzero hexact hlt => ?_, fun hlarge hlt hbits => ?_, fun hle h => ?_⟩
  · -- what is shown is the cast of a rounded product, which is the amount only if the product is
    -- near to it
    obtain ⟨chain, asset, hchain, hasset, haddress, hsymbol, hshown⟩ :=
      exists_shown henv hfloats hrun hbody hkeeps hdecimals hamount hothers
    refine ⟨chain, asset, hchain, hasset, haddress, hsymbol, ?_⟩
    rw [hshown]
    exact cast_eq_iff (nearest_nonneg (mul_nonneg (nearest_nonneg
      (add_nonneg (nearest_nonneg hq) elsewhere_nonneg)) hpow))
  · -- small amounts alone in their group are shown exactly
    rw [hzero]
    exact showsExactly_of_lt hq hd hexact hn hlt
  · -- an amount with too many bits is no double
    exact not_showsExactly_of_bits hq elsewhere_nonneg hpow hlarge hlt hbits
  · exact absurd h.1 (by omega)

/-- **No balance of 2^64 or more is ever shown**, whatever the floating point numbers do: the
    cast to 64 bits stands in front of the widening. -/
theorem balance_lt_of_getAssets (henv : env.Lawful) {body : BalanceResponseBody F}
    {filters : GetAssetsFilters} {result : GetAssetsResult F}
    (hrun : getAssets env body filters = .ok result) {chain : U64} {asset : Asset F}
    (h : asset ∈ (result.lookup chain).getD []) : asset.data.balance.toNat < 2 ^ 64 := by
  obtain ⟨-, -, kept, -, hresponse⟩ := of_getAssets_eq_ok henv hrun
  obtain ⟨-, rfl⟩ := createResponse_eq_ok_iff.mp hresponse
  obtain ⟨c, -, hentry⟩ := List.mem_filterMap.mp (mem_group.mp h)
  obtain ⟨_, -, hentry⟩ := Outcome.bind_eq_ok.mp (Outcome.toOption_eq_some.mp hentry)
  obtain ⟨_, hof, hentry⟩ := Outcome.bind_eq_ok.mp hentry
  cases hentry
  obtain ⟨-, balance, byte, hbalance, -, rfl⟩ := assetOf_eq_ok_iff.mp hof
  obtain ⟨x, -, hbalance⟩ := Outcome.bind_eq_ok.mp hbalance
  obtain ⟨y, -, hbalance⟩ := Outcome.bind_eq_ok.mp hbalance
  cases hbalance
  rw [(data_listedAsset c _ byte).2.1, BitVec.toNat_setWidth]
  exact lt_of_le_of_lt (Nat.mod_le _ _) (BitVec.isLt _)

/-! ## One ether and twenty

Exact numbers, rounded as doubles are, satisfy `IsBinary64`; the numbers themselves are printed
by their place in an enumeration, which is all that reading back asks for. -/

/-- A number is printed by its place in a list of all rational numbers. -/
def demoDisplay (x : ℚ) : List Char := '#' :: Nat.toDigits 10 (Encodable.encode x)

/-- And read so, unless the text is a decimal number. -/
def demoReadFloat (text : List Char) : Option ℚ :=
  match DecimalText.read text with
  | some t => some (binary64.nearest t.value)
  | none =>
    match text with
    | '#' :: digits => Encodable.decode (Nat.ofDigitChars 10 digits 0)
    | _ => none

theorem demoReadFloat_demoDisplay (x : ℚ) : demoReadFloat (demoDisplay x) = some x := by
  have hparts : ∀ whole fraction : List Char,
      DecimalText.ofParts false ('#' :: whole) fraction = none := by
    intro whole fraction
    refine dif_neg fun h => ?_
    simp at h
  have hread : DecimalText.read (demoDisplay x) = none := by
    show DecimalText.readDigits false (demoDisplay x) = none
    have hsplit : (demoDisplay x).splitOn '.' = [demoDisplay x] := by
      refine List.splitOn_eq_singleton fun hmem => ?_
      rcases List.mem_cons.mp hmem with h | h
      · cases h
      · exact absurd (Nat.isDigit_of_mem_toDigits (by omega) (by omega) h) (by decide)
    rw [DecimalText.readDigits, hsplit]
    exact hparts _ _
  rw [demoReadFloat.eq_def, hread]
  show Encodable.decode (Nat.ofDigitChars 10 (Nat.toDigits 10 (Encodable.encode x)) 0) = some x
  rw [Nat.ofDigitChars_ten_toDigits, Encodable.encodek]

/-- Exact numbers, rounded as `binary64` rounds them. -/
def demoExactFloats : AssetFloats ℚ where
  parse text := demoReadFloat text.toList
  display x := String.ofList (demoDisplay x)
  zero := 0
  add x y := binary64.nearest (x + y)
  mul x y := binary64.nearest (x * y)
  max x y := max x y
  powTen x := binary64.nearest (10 ^ ⌊x⌋₊)
  round x := (⌊x + 1 / 2⌋₊ : ℚ)
  asU64 x := BitVec.ofNat 64 (min ⌊x⌋₊ (2 ^ 64 - 1))
  totalCmp x y := cmp x y

theorem demoReadFloat_of_read {text : List Char} {t : DecimalText}
    (h : DecimalText.read text = some t) :
    demoReadFloat text = some (binary64.nearest t.value) := by
  rw [demoReadFloat.eq_def, h]

theorem demoExactFloats_parse_display (x : ℚ) :
    demoExactFloats.parse (demoExactFloats.display x) = some x := by
  show demoReadFloat (String.ofList (demoDisplay x)).toList = some x
  rw [String.toList_ofList, demoReadFloat_demoDisplay]

/-- They are those of `binary64`. -/
theorem isBinary64_demoExactFloats :
    IsBinary64 demoExactFloats some fun d => binary64.nearest (10 ^ d) where
  parse ht _ _ := ⟨_, demoReadFloat_of_read ht, rfl⟩
  zero := rfl
  add hx hy _ _ _ := by
    cases hx
    cases hy
    rfl
  mul hx hy _ _ _ := by
    cases hx
    cases hy
    rfl
  max hx hy := by
    cases hx
    cases hy
    rfl
  powTen_eq _ hx := by
    cases hx
    show some (binary64.nearest (10 ^ ⌊((_ : ℕ) : ℚ)⌋₊)) = _
    rw [Nat.floor_natCast]
  powTen_nonneg _ _ := nearest_nonneg (by positivity)
  powTen_le _ _ := nearest_le_two_mul (by positivity)
  display hx := ⟨_, demoExactFloats_parse_display _, hx⟩
  asU64_round hx _ := by
    cases hx
    show (BitVec.ofNat 64 (min ⌊((⌊_ + 1 / 2⌋₊ : ℕ) : ℚ)⌋₊ (2 ^ 64 - 1))).toNat = _
    rw [Nat.floor_natCast, BitVec.toNat_ofNat]
    exact Nat.mod_eq_of_lt (lt_of_le_of_lt (min_le_right _ _) (by norm_num))

theorem demoExactFloats_parse_toString (n : ℕ) :
    (demoExactFloats.parse (toString n)).isSome := by
  obtain ⟨t, ht, -⟩ := DecimalText.exists_read_toString n
  show (demoReadFloat (toString n).toList).isSome
  rw [demoReadFloat_of_read ht]
  rfl

theorem demoExactFloats_lawful : (demoAssetsEnv demoExactFloats).Lawful := by
  refine demoAssetsEnv_lawful (fun x => ?_) (demoExactFloats_parse_toString 0)
  rw [demoExactFloats_parse_display]
  rfl

/-- Ether on Optimism. -/
def demoEther (ether : ℕ) : BalanceItem ℚ where
  name := "Ethereum"
  symbol := "ETH"
  chainId := some "eip155:10"
  address := none
  value := none
  price := 3000
  quantity := ⟨toString (18 : ℕ), toString ether⟩
  iconUrl := ""

theorem quantityOf_demoEther (ether : ℕ) : quantityOf (demoEther ether) = ether := by
  obtain ⟨t, ht, hvalue⟩ := DecimalText.exists_read_toString ether
  show ((DecimalText.read (toString ether).toList).map DecimalText.value).getD 0 = ether
  rw [ht]
  exact hvalue

theorem units_demoEther (ether : ℕ) :
    quantityOf (demoEther ether) * 10 ^ UInt8.toNat 18 = (ether * 10 ^ 18 : ℕ) := by
  rw [quantityOf_demoEther, show UInt8.toNat 18 = 18 from rfl]
  push_cast
  rfl

theorem listable_demoEther (ether : ℕ) :
    Listable (demoAssetsEnv demoExactFloats) ⟨[demoEther ether]⟩ noFilters := by
  have hbyte : (parseUnsigned (2 ^ 8) (toString (18 : ℕ)).toList).isSome := by
    rw [parseUnsigned_toString (by norm_num)]
    rfl
  refine listable_of_ungrouped (List.forall_mem_singleton.mpr rfl)
    (List.forall_mem_singleton.mpr fun a ha => by cases ha) (List.forall_mem_singleton.mpr rfl)
    (List.forall_mem_singleton.mpr ?_)
  exact ⟨rfl, demoExactFloats_parse_toString ether, demoExactFloats_parse_toString 18, hbyte⟩

theorem hasAmount_demoEther {ether : ℕ} (h : ether ≤ 20) : HasAmount (demoEther ether) 18 := by
  obtain ⟨t, ht, hvalue⟩ := DecimalText.exists_read_toString ether
  have hle : (ether : ℚ) ≤ 20 := by exact_mod_cast h
  refine ⟨t, ht, ?_, ?_⟩
  · rw [hvalue]
    exact Nat.cast_nonneg _
  · rw [hvalue]
    linarith

/-- All numbers on the way from one ether to its units have at most 53 bits. -/
theorem showsExactly_demoEther :
    ShowsExactly (fun d => binary64.nearest (10 ^ d)) 1 0 18 (10 ^ 18) := by
  have hten : binary64.IsFloat (10 ^ 18) := by
    have hwhole : binary64.IsFloat ((5 ^ 18 * 2 ^ 18 : ℕ) : ℚ) :=
      isFloat_natCast_mul (by decide) (by decide)
    norm_num at hwhole ⊢
    exact hwhole
  have hone : binary64.IsFloat 1 := ⟨1, 0, by decide, by decide, by norm_num⟩
  have hunits : unitsBeforeCast (fun d => binary64.nearest (10 ^ d)) 1 0 18 = 10 ^ 18 := by
    rw [unitsBeforeCast, add_zero, nearest_of_isFloat hone, nearest_of_isFloat hone,
      nearest_of_isFloat hten, one_mul, nearest_of_isFloat hten]
  refine ⟨by norm_num, ?_, .inl ?_⟩ <;> rw [hunits] <;> norm_num

/-- One ether is shown as it is. -/
theorem assetBalance_exact_iff_ether :
    ∃ result, getAssets (demoAssetsEnv demoExactFloats) ⟨[demoEther 1]⟩ noFilters = .ok result ∧
      ∃ chain asset, asset ∈ (result.lookup chain).getD [] ∧
        asset.data.metadata.symbol = "ETH" ∧ asset.data.balance.toNat = 10 ^ 18 := by
  obtain ⟨result, hrun⟩ := getAssets_of_listable demoExactFloats_lawful (listable_demoEther 1)
  obtain ⟨⟨chain, asset, -, hasset, -, hsymbol, hexact⟩, -⟩ :=
    @assetBalance_exact_iff ℚ _ _ _ demoExactFloats_lawful isBinary64_demoExactFloats _ noFilters
      _ hrun [] [] (demoEther 1) rfl ⟨nofun, nofun⟩ 18 rfl (hasAmount_demoEther (by norm_num))
      (fun b hb => absurd hb List.not_mem_nil) (1 * 10 ^ 18) (units_demoEther 1)
  refine ⟨result, hrun, chain, asset, hasset, hsymbol, hexact.mpr ?_⟩
  rw [quantityOf_demoEther]
  exact_mod_cast showsExactly_demoEther

/-- **Twenty ether are not shown as they are**: 2^64 units or more are cut. -/
theorem not_assetBalance_exact :
    ¬ ∀ (body : BalanceResponseBody ℚ) (filters : GetAssetsFilters) (result : GetAssetsResult ℚ)
      (before after : List (BalanceItem ℚ)) (item : BalanceItem ℚ) (decimals : UInt8) (n : ℕ),
      getAssets (demoAssetsEnv demoExactFloats) body filters = .ok result →
      body.balances = before ++ item :: after →
      filters.Keeps item.chainId (addressOf (demoAssetsEnv demoExactFloats) item) →
      item.quantity.decimals = toString decimals.toNat → HasAmount item decimals.toNat →
      quantityOf item * 10 ^ decimals.toNat = n →
        ∃ chain asset, asset ∈ (result.lookup chain).getD [] ∧
          asset.data.metadata.symbol = item.symbol ∧ asset.data.balance.toNat = n := by
  intro h
  obtain ⟨result, hrun⟩ := getAssets_of_listable demoExactFloats_lawful (listable_demoEther 20)
  obtain ⟨chain, asset, hasset, -, hbalance⟩ := h ⟨[demoEther 20]⟩ noFilters result [] []
    (demoEther 20) 18 (20 * 10 ^ 18) hrun rfl ⟨nofun, nofun⟩ rfl (hasAmount_demoEther le_rfl)
    (units_demoEther 20)
  have hlt := balance_lt_of_getAssets demoExactFloats_lawful hrun hasset
  rw [hbalance] at hlt
  exact absurd hlt (by norm_num)

end BlockchainApi
