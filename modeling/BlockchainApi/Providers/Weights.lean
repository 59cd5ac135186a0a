/-
  How weights follow the availability of providers (`src/providers/weights.rs`).

  The weight of a provider on a chain is the product of two ratios of successful calls, where failed
  calls count by their square.  A square that does not fit into 64 bits makes the weight zero; but
  the successful calls are added to a square without a check.

  1. **The weight** (`calculateChainWeight`), of two availabilities, in a build that checks
     additions, or in one that wraps them.  Ratios are rational numbers, so that products and
     comparisons are exact.
  2. **Exact weights** (`exactRate`): where no addition overflows (`Availability.Fits`), the weight
     is that of two ratios between zero and one, each of which grows with successful calls and falls
     with failed ones (`weights_right_iff`).  A square that does not fit makes its ratio zero, which
     is monotone as well: more failed calls leave it at zero.
  3. **Where an addition overflows**, a build that checks it panics, and one that wraps it divides
     by a total that is too small.  `not_weights_right` has a total of one.
  4. **Updates** (`updateValues`): where no addition overflows, they keep the weights in the bounds
     that the selection relies on (`updateValues_known`).
-/
import BlockchainApi.Lib.Outcome
import BlockchainApi.Providers.Selection
import Mathlib.Algebra.Order.Field.Basic
import Mathlib.Algebra.Order.Floor.Semiring
import Mathlib.Data.Rat.Floor

namespace BlockchainApi

/-! ## The weight -/

/-- `Availability`. -/
structure Availability where
  success : UInt64
  failure : UInt64
  deriving DecidableEq, Repr

/-- What additions do where the sum does not fit. -/
inductive Build where
  | checked
  | wrapping
  deriving DecidableEq, Repr

/-- An addition. -/
def Build.add (build : Build) (a b : UInt64) : Outcome Empty UInt64 :=
  if build = .checked ∧ 2 ^ 64 ≤ a.toNat + b.toNat then .panic else .ok (a + b)

/-- `checked_mul`, in 64 bits. -/
def checkedMulU64 (a b : UInt64) : Option UInt64 :=
  if a.toNat * b.toNat < 2 ^ 64 then some (a * b) else none

/-- `PERFECT_RATIO`. -/
def perfectRatio : ℚ := 1

/-- The ratio of successful calls. -/
def successRate (success total : UInt64) : ℚ :=
  if total = 0 then perfectRatio else success.toNat / total.toNat

/-- The cast of a number to 64 bits. -/
def castU64 (weight : ℚ) : UInt64 := UInt64.ofNat (min ⌊weight⌋₊ (2 ^ 64 - 1))

/-- `calculate_chain_weight`. -/
def calculateChainWeight (build : Build) (providerAvailability chainAvailability : Availability) :
    Outcome Empty UInt64 :=
  match checkedMulU64 providerAvailability.failure providerAvailability.failure with
  | none => .ok 0
  | some providerFailuresSquared =>
    build.add providerAvailability.success providerFailuresSquared >>= fun providerTotal =>
      match checkedMulU64 chainAvailability.failure chainAvailability.failure with
      | none => .ok 0
      | some chainFailuresSquared =>
        build.add chainAvailability.success chainFailuresSquared >>= fun chainTotal =>
          let providerSuccessRate := successRate providerAvailability.success providerTotal
          let chainSuccessRate := successRate chainAvailability.success chainTotal
          .ok (castU64 (providerSuccessRate * chainSuccessRate * 10000))

/-! ## Updates of a repository -/

/-- `WEIGHT_RECALCULATION_EXCLUDED_PROVIDERS`. -/
def weightRecalculationExcludedProviders : List ProviderKind := [.pokt]

/-- `ParsedWeights`, in the order in which the maps are gone through. -/
abbrev ParsedWeights := List (ProviderKind × List (String × Availability) × Availability)

/-- One chain of `update_values`. -/
def updateChain (build : Build) (provider : ProviderKind) (providerAvailability : Availability)
    (s : ProviderRepository) (chain : String × Availability) : Outcome Empty ProviderRepository :=
  -- the chain is in the place of the provider
  calculateChainWeight build chain.2 providerAvailability >>= fun chainWeight =>
    .ok (updateChainWeight s chain.1 provider chainWeight.toNat)

/-- One provider of `update_values`. -/
def updateProvider (build : Build) (s : ProviderRepository)
    (parsed : ProviderKind × List (String × Availability) × Availability) :
    Outcome Empty ProviderRepository :=
  if parsed.1 ∈ weightRecalculationExcludedProviders then .ok s
  else parsed.2.1.foldlM (updateChain build parsed.1 parsed.2.2) s

/-- `update_values`. -/
def updateValues (build : Build) (s : ProviderRepository) (parsedWeights : ParsedWeights) :
    Outcome Empty ProviderRepository :=
  parsedWeights.foldlM (updateProvider build) s

/-! ## Ratios: monotone in both arguments -/

/-- The ratio of `s` to `s + q`, and one if there is neither. -/
def ratio (s q : ℕ) : ℚ := if s + q = 0 then 1 else s / (s + q : ℕ)

theorem ratio_nonneg (s q : ℕ) : 0 ≤ ratio s q := by
  unfold ratio
  split
  · exact zero_le_one
  · exact div_nonneg (Nat.cast_nonneg _) (Nat.cast_nonneg _)

theorem ratio_le_one (s q : ℕ) : ratio s q ≤ 1 := by
  unfold ratio
  split
  · exact le_rfl
  · exact div_le_one_of_le₀ (Nat.cast_le.mpr (Nat.le_add_right _ _)) (Nat.cast_nonneg _)

/-- **A ratio** grows with the first number, and falls with the second. Where both are zero it is
    one, which is the largest. -/
theorem ratio_mono {s s' q q' : ℕ} (hs : s ≤ s') (hq : q' ≤ q) : ratio s q ≤ ratio s' q' := by
  by_cases hzero' : s' + q' = 0
  · rw [ratio.eq_def s', if_pos hzero']
    exact ratio_le_one s q
  · rw [ratio.eq_def s', if_neg hzero']
    by_cases hzero : s + q = 0
    · -- there is nothing but `s'`
      have hq' : q' = 0 := by omega
      subst hq'
      rw [ratio, if_pos hzero, Nat.add_zero]
      exact (div_self (Nat.cast_ne_zero.mpr hzero')).ge
    · have hcross : s * (s' + q') ≤ s' * (s + q) := by
        rw [Nat.mul_add, Nat.mul_add, Nat.mul_comm s' s]
        exact Nat.add_le_add_left (Nat.mul_le_mul hs hq) _
      rw [ratio, if_neg hzero, div_le_div_iff₀ (Nat.cast_pos.mpr (Nat.pos_of_ne_zero hzero))
        (Nat.cast_pos.mpr (Nat.pos_of_ne_zero hzero'))]
      exact_mod_cast hcross

/-! ## Exact weights: no addition overflows -/

namespace Availability

/-- The square of the failed calls fits into 64 bits. -/
abbrev SquareFits (a : Availability) : Prop := a.failure.toNat * a.failure.toNat < 2 ^ 64

/-- **No addition overflows**: if the square of the failed calls fits, the total does. -/
def Fits (a : Availability) : Prop :=
  a.SquareFits → a.success.toNat + a.failure.toNat * a.failure.toNat < 2 ^ 64

/-- The ratio of an availability. -/
def exactRate (a : Availability) : ℚ :=
  if a.SquareFits then ratio a.success.toNat (a.failure.toNat * a.failure.toNat) else 0

/-- One counter is better. -/
inductive Improves : Availability → Availability → Prop where
  | success {s s' f : UInt64} (h : s ≤ s') : Improves ⟨s, f⟩ ⟨s', f⟩
  | failure {s f f' : UInt64} (h : f' ≤ f) : Improves ⟨s, f⟩ ⟨s, f'⟩

variable {a a' : Availability}

theorem exactRate_nonneg (a : Availability) : 0 ≤ a.exactRate := by
  unfold exactRate
  split
  · exact ratio_nonneg _ _
  · exact le_rfl

theorem exactRate_le_one (a : Availability) : a.exactRate ≤ 1 := by
  unfold exactRate
  split
  · exact ratio_le_one _ _
  · exact zero_le_one

theorem Improves.counters (h : a.Improves a') :
    a.success.toNat ≤ a'.success.toNat ∧ a'.failure.toNat ≤ a.failure.toNat := by
  cases h with
  | success h => exact ⟨UInt64.le_iff_toNat_le.mp h, le_rfl⟩
  | failure h => exact ⟨le_rfl, UInt64.le_iff_toNat_le.mp h⟩

/-- **A better counter, a better ratio.** -/
theorem Improves.exactRate_le (h : a.Improves a') : a.exactRate ≤ a'.exactRate := by
  obtain ⟨hsuccess, hfailure⟩ := h.counters
  have hsquares := Nat.mul_le_mul hfailure hfailure
  by_cases hfits : a.SquareFits
  · have hfits' : a'.SquareFits := hsquares.trans_lt hfits
    rw [exactRate, if_pos hfits, exactRate, if_pos hfits']
    exact ratio_mono hsuccess hsquares
  · rw [exactRate, if_neg hfits]
    exact exactRate_nonneg a'

end Availability

/-! ## Where weights are exact, and where the total wraps -/

variable {build : Build} {p c p' c' : Availability} {w w' : UInt64}

theorem checkedMulU64_of_fits (h : p.SquareFits) :
    ∃ square, checkedMulU64 p.failure p.failure = some square ∧
      square.toNat = p.failure.toNat * p.failure.toNat := by
  refine ⟨_, if_pos h, ?_⟩
  rw [UInt64.toNat_mul, Nat.mod_eq_of_lt h]

theorem checkedMulU64_of_not_fits (h : ¬ p.SquareFits) : checkedMulU64 p.failure p.failure = none :=
  if_neg h

/-- A total that fits, and its ratio. -/
theorem add_of_fits {square : UInt64} (hfits : p.Fits) (h : p.SquareFits)
    (hsquare : square.toNat = p.failure.toNat * p.failure.toNat) :
    ∃ total, build.add p.success square = .ok total ∧
      successRate p.success total = p.exactRate := by
  have hlt := hfits h
  rw [← hsquare] at hlt
  have htotal : (p.success + square).toNat = p.success.toNat + square.toNat := by
    rw [UInt64.toNat_add, Nat.mod_eq_of_lt hlt]
  have hzero : p.success + square = 0 ↔ p.success.toNat + square.toNat = 0 := by
    rw [← UInt64.toNat_inj, htotal]
    rfl
  refine ⟨p.success + square, if_neg fun h => absurd h.2 (by omega), ?_⟩
  rw [Availability.exactRate, if_pos h, ratio, ← hsquare, successRate, htotal]
  exact if_congr hzero rfl rfl

/-- **An exact weight.** -/
theorem calculateChainWeight_of_fits (hp : p.Fits) (hc : c.Fits) :
    calculateChainWeight build p c = .ok (castU64 (p.exactRate * c.exactRate * 10000)) := by
  have hzero : castU64 0 = 0 := by
    rw [castU64, Nat.floor_zero]
    rfl
  unfold calculateChainWeight
  by_cases hpsquare : p.SquareFits
  · obtain ⟨psquare, hpmul, hpsquare'⟩ := checkedMulU64_of_fits hpsquare
    obtain ⟨ptotal, hpadd, hprate⟩ := @add_of_fits build p psquare hp hpsquare hpsquare'
    rw [hpmul]
    dsimp only
    rw [hpadd, Outcome.ok_bind]
    by_cases hcsquare : c.SquareFits
    · obtain ⟨csquare, hcmul, hcsquare'⟩ := checkedMulU64_of_fits hcsquare
      obtain ⟨ctotal, hcadd, hcrate⟩ := @add_of_fits build c csquare hc hcsquare hcsquare'
      rw [hcmul]
      dsimp only
      rw [hcadd, Outcome.ok_bind, hprate, hcrate]
    · rw [checkedMulU64_of_not_fits hcsquare, Availability.exactRate.eq_def c, if_neg hcsquare,
        mul_zero, zero_mul, hzero]
  · rw [checkedMulU64_of_not_fits hpsquare, Availability.exactRate, if_neg hpsquare, zero_mul,
      zero_mul, hzero]

/-- A total that does not fit is an overflow. -/
theorem calculateChainWeight_of_not_fits (hp : ¬ p.Fits) :
    calculateChainWeight .checked p c = .panic := by
  obtain ⟨hsquare, hlarge⟩ := Classical.not_imp.mp hp
  obtain ⟨square, hmul, hsquare'⟩ := checkedMulU64_of_fits hsquare
  have hadd : Build.add .checked p.success square = .panic := if_pos ⟨rfl, by omega⟩
  rw [calculateChainWeight, hmul]
  dsimp only
  rw [hadd, Outcome.panic_bind]

theorem toNat_castU64 {weight : ℚ} (h : weight ≤ 10000) : (castU64 weight).toNat = ⌊weight⌋₊ := by
  have hfloor : ⌊weight⌋₊ ≤ 10000 := Nat.floor_le_of_le h
  rw [castU64, UInt64.toNat_ofNat', Nat.min_eq_left (by omega), Nat.mod_eq_of_lt (by omega)]

theorem exactWeight_le (p c : Availability) : p.exactRate * c.exactRate * 10000 ≤ 10000 := by
  have hproduct : p.exactRate * c.exactRate ≤ 1 :=
    mul_le_one₀ p.exactRate_le_one c.exactRate_nonneg c.exactRate_le_one
  linarith

/-- A weight of at most 10000 is stored in bounds. -/
theorem updateValue_of_le {value : Nat} (weight : Weight) (h : value ≤ 10000) :
    value * weight.priority.1 < 2 ^ 64 ∧ (weight.updateValue value).value ≤ weightBound := by
  have hproduct : value * weight.priority.1 ≤ 10000 * maxPriority :=
    Nat.mul_le_mul h weight.priority.2
  have hlt : value * weight.priority.1 < 2 ^ 64 := hproduct.trans_lt (by decide)
  refine ⟨hlt, ?_⟩
  rw [Weight.updateValue]
  dsimp only
  rw [Nat.mod_eq_of_lt hlt]
  exact Nat.div_le_of_le_mul (hproduct.trans (by decide))

/-- **A weight is right**: it is computed without an overflow, in bounds, the same with the two
    arguments exchanged, and stored in bounds. -/
structure WeightRight (p c : Availability) : Prop where
  no_overflow : calculateChainWeight .checked p c ≠ .panic
  le : ∀ build w, calculateChainWeight build p c = .ok w → w ≤ 10000
  symmetric : ∀ build, calculateChainWeight build p c = calculateChainWeight build c p
  stored : ∀ build w, calculateChainWeight build p c = .ok w → ∀ weight : Weight,
    w.toNat * weight.priority.1 < 2 ^ 64 ∧ (weight.updateValue w.toNat).value ≤ weightBound

theorem weightRight_iff : WeightRight p c ↔ p.Fits ∧ c.Fits := by
  constructor
  · intro h
    constructor
    · by_contra hp
      exact h.no_overflow (calculateChainWeight_of_not_fits hp)
    · by_contra hc
      exact h.no_overflow ((h.symmetric .checked).trans (calculateChainWeight_of_not_fits hc))
  · rintro ⟨hp, hc⟩
    have hexact := fun build => @calculateChainWeight_of_fits build p c hp hc
    have hle : ∀ build w, calculateChainWeight build p c = .ok w → w.toNat ≤ 10000 := by
      intro build w hw
      cases (hexact build).symm.trans hw
      rw [toNat_castU64 (exactWeight_le p c)]
      exact Nat.floor_le_of_le (exactWeight_le p c)
    constructor
    · rw [hexact]
      exact Outcome.ok_ne_panic
    · exact fun build w hw => UInt64.le_iff_toNat_le.mpr (hle build w hw)
    · intro build
      rw [hexact, calculateChainWeight_of_fits hc hp, mul_comm p.exactRate]
    · exact fun build w hw weight => updateValue_of_le weight (hle build w hw)

/-- One of the two counters of the provider or of the chain is better. -/
inductive OneImproves : Availability → Availability → Availability → Availability → Prop where
  | provider {p p' : Availability} (c : Availability) (h : p.Improves p') : OneImproves p c p' c
  | chain {c c' : Availability} (p : Availability) (h : c.Improves c') : OneImproves p c p c'

/-- A better counter, no smaller product. -/
theorem OneImproves.exactWeight_le (h : OneImproves p c p' c') :
    p.exactRate * c.exactRate * 10000 ≤ p'.exactRate * c'.exactRate * 10000 := by
  refine mul_le_mul_of_nonneg_right ?_ (by norm_num)
  cases h with
  | provider c h => exact mul_le_mul_of_nonneg_right h.exactRate_le c.exactRate_nonneg
  | chain p h => exact mul_le_mul_of_nonneg_left h.exactRate_le p.exactRate_nonneg

/-- **Two weights are right**: each is, and the second one is not smaller if it is that of a better
    counter. -/
structure WeightsRight (p c p' c' : Availability) : Prop where
  first : WeightRight p c
  second : WeightRight p' c'
  monotone : OneImproves p c p' c' → ∀ build w w', calculateChainWeight build p c = .ok w →
    calculateChainWeight build p' c' = .ok w' → w ≤ w'

/-- **Weights are right** if and only if none of their additions overflows. -/
theorem weights_right_iff (p c p' c' : Availability) :
    WeightsRight p c p' c' ↔ (p.Fits ∧ c.Fits) ∧ p'.Fits ∧ c'.Fits := by
  constructor
  · exact fun h => ⟨weightRight_iff.mp h.first, weightRight_iff.mp h.second⟩
  · rintro ⟨hfirst, hsecond⟩
    refine ⟨weightRight_iff.mpr hfirst, weightRight_iff.mpr hsecond, ?_⟩
    intro hbetter build w w' hw hw'
    cases (calculateChainWeight_of_fits hfirst.1 hfirst.2).symm.trans hw
    cases (calculateChainWeight_of_fits hsecond.1 hsecond.2).symm.trans hw'
    rw [UInt64.le_iff_toNat_le, toNat_castU64 (BlockchainApi.exactWeight_le p c),
      toNat_castU64 (BlockchainApi.exactWeight_le p' c')]
    exact Nat.floor_mono hbetter.exactWeight_le

/-- 2 ^ 33 successful calls and 2 ^ 32 - 1 failed ones are a total of one. -/
theorem not_weights_right : ¬ ∀ p c p' c', WeightsRight p c p' c' := by
  intro h
  have hbusy := h ⟨8589934592, 4294967295⟩ ⟨0, 0⟩ ⟨0, 0⟩ ⟨0, 0⟩
  exact hbusy.first.no_overflow (by decide)

example : calculateChainWeight .wrapping ⟨8589934592, 4294967295⟩ ⟨0, 0⟩ = .ok 85899345920000 := by
  decide +kernel

/-! ## Updates keep the bounds -/

/-- No addition of an update overflows. -/
def ParsedWeights.Fit (parsedWeights : ParsedWeights) : Prop :=
  ∀ parsed ∈ parsedWeights, parsed.2.2.Fits ∧ ∀ chain ∈ parsed.2.1, chain.2.Fits

variable {s : ProviderRepository} {parsedWeights : ParsedWeights}

theorem updateChain_known {provider : ProviderKind} {chain : String × Availability} (hs : s.Known)
    (hp : p.Fits) (hchain : chain.2.Fits) :
    ∃ s', updateChain build provider p s chain = .ok s' ∧ s'.Known := by
  have hexact := @calculateChainWeight_of_fits build chain.2 p hchain hp
  have hstored := (weightRight_iff.mpr ⟨hchain, hp⟩).stored build _ hexact
  refine ⟨_, by rw [updateChain, hexact, Outcome.ok_bind], known_updateChainWeight hs ?_⟩
  exact fun _ weight _ _ => (hstored weight).2

/-- **Updates keep the invariant of the repository**, if no addition overflows: weights stay in the
    bounds that the selection relies on. -/
theorem updateValues_known (hs : s.Known) (hfit : parsedWeights.Fit) :
    ∃ s', updateValues build s parsedWeights = .ok s' ∧ s'.Known := by
  refine Outcome.exists_foldlM_eq_ok (fun s parsed hparsed hs => ?_) hs
  obtain ⟨hprovider, hchains⟩ := hfit parsed hparsed
  rw [updateProvider]
  split
  · exact ⟨s, rfl, hs⟩
  · exact Outcome.exists_foldlM_eq_ok
      (fun s chain hchain hs => updateChain_known hs hprovider (hchains chain hchain)) hs

end BlockchainApi
