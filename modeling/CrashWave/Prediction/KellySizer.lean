import Mathlib.Algebra.Order.Field.Basic
import Mathlib.Algebra.Order.Floor.Ring
import Mathlib.Data.Rat.Floor
import Mathlib.Tactic.FieldSimp
import Mathlib.Tactic.Linarith
import Mathlib.Tactic.NormNum
import Mathlib.Tactic.Positivity

/-! The fractional Kelly stake. Numbers are those of an ordered field; the text of the reason is
left out.
-/

namespace CrashWave.Kelly

variable {K : Type*} [Field K] [LinearOrder K]

structure KellyInput (K : Type*) where
  calibratedProbability : K
  target : K
  bankroll : K
  sampleConfidence : K
  calibrationConfidence : K
  evidenceQuality : K
  modelAgreement : K
  drawdownPressure : K
  fraction : Option K := none
  maxBankrollFraction : Option K := none
  deriving DecidableEq

structure KellyResult (K : Type*) where
  stake : K
  kellyFull : K
  kellyFractional : K
  appliedFraction : K
  deriving DecidableEq

def clamp (x : K) : K := max 0 (min 1 x)

namespace KellyInput

variable (input : KellyInput K)

/-- `maxFrac`. -/
def maxFrac : K := input.maxBankrollFraction.getD 0.05

/-- `p`. -/
def probability : K := min 0.99 (max 0.01 input.calibratedProbability)

/-- `b`, the net odds. -/
def odds : K := max 0.01 (input.target - 1)

def kellyFull : K := (input.odds * input.probability - (1 - input.probability)) / input.odds

def quality : K :=
  clamp input.sampleConfidence
  * clamp input.calibrationConfidence
  * clamp input.evidenceQuality
  * clamp input.modelAgreement
  * (1 - 0.7 * clamp input.drawdownPressure)

end KellyInput

/-- `Math.max(0, Math.floor(bankroll * capped))`. -/
def wholeStake [FloorRing K] (bankroll capped : K) : K := max 0 ⌊bankroll * capped⌋

def fractionalKellyStake [FloorRing K] (input : KellyInput K) : KellyResult K :=
  let kellyFull := input.kellyFull
  if kellyFull ≤ 0 then
    { stake := 0, kellyFull, kellyFractional := 0, appliedFraction := 0 }
  else
    let applied := input.fraction.getD 0.25 * input.quality
    let kellyFractional := kellyFull * applied
    let capped := min kellyFractional input.maxFrac
    {
      stake := wholeStake input.bankroll capped
      kellyFull
      kellyFractional
      appliedFraction := capped
    }

variable [IsStrictOrderedRing K]

-----------------------------------------------------------------------------------------
-- The factors
-----------------------------------------------------------------------------------------

omit [IsStrictOrderedRing K] in
theorem clamp_mono {x y : K} (le : x ≤ y) : clamp x ≤ clamp y :=
  max_le_max_left 0 (min_le_min_left 1 le)

omit [IsStrictOrderedRing K] in
theorem clamp_nonneg (x : K) : 0 ≤ clamp x := le_max_left _ _

theorem clamp_le_one (x : K) : clamp x ≤ 1 := max_le zero_le_one (min_le_left _ _)

variable {input other : KellyInput K}

theorem odds_pos (input : KellyInput K) : 0 < input.odds :=
  lt_of_lt_of_le (by norm_num) (le_max_left _ _)

theorem kellyFull_eq (input : KellyInput K)
    : input.kellyFull = input.probability - (1 - input.probability) / input.odds := by
  have some := (odds_pos input).ne'
  rw [KellyInput.kellyFull]
  field_simp

/-- The full fraction is positive exactly where the payout of the clamped chance is above the stake.
-/
theorem kellyFull_nonpos_iff : input.kellyFull ≤ 0 ↔ input.probability * (input.odds + 1) ≤ 1 := by
  rw [KellyInput.kellyFull, div_le_iff₀ (odds_pos input), zero_mul]
  constructor <;> intro bound <;> linarith

/-- The inputs that the stake depends on are no worse, for the same target and bankroll and the same
policy.
-/
structure NoWorse (input other : KellyInput K) : Prop where
  calibratedProbability : input.calibratedProbability ≤ other.calibratedProbability
  sampleConfidence : input.sampleConfidence ≤ other.sampleConfidence
  calibrationConfidence : input.calibrationConfidence ≤ other.calibrationConfidence
  evidenceQuality : input.evidenceQuality ≤ other.evidenceQuality
  modelAgreement : input.modelAgreement ≤ other.modelAgreement
  drawdownPressure : other.drawdownPressure ≤ input.drawdownPressure
  target : other.target = input.target
  bankroll : other.bankroll = input.bankroll
  fraction : other.fraction = input.fraction
  maxBankrollFraction : other.maxBankrollFraction = input.maxBankrollFraction

theorem NoWorse.kellyFull (noWorse : NoWorse input other) : input.kellyFull ≤ other.kellyFull := by
  have chance : input.probability ≤ other.probability :=
    min_le_min_left _ (max_le_max_left _ noWorse.calibratedProbability)
  have odds : other.odds = input.odds := by
    rw [KellyInput.odds, noWorse.target, KellyInput.odds]
  have lost := div_le_div_of_nonneg_right (sub_le_sub_left chance 1) (odds_pos input).le
  rw [kellyFull_eq, kellyFull_eq, odds]
  exact sub_le_sub chance lost

theorem pressure_pos (pressure : K) : 0 < 1 - 0.7 * clamp pressure := by
  have most := clamp_le_one pressure
  have share : (0.7 : K) * clamp pressure ≤ 0.7 * 1 :=
    mul_le_mul_of_nonneg_left most (by norm_num)
  have below : (0.7 : K) * 1 < 1 := by norm_num
  linarith

theorem quality_nonneg (input : KellyInput K) : 0 ≤ input.quality := by
  have := clamp_nonneg input.sampleConfidence
  have := clamp_nonneg input.calibrationConfidence
  have := clamp_nonneg input.evidenceQuality
  have := clamp_nonneg input.modelAgreement
  have := pressure_pos input.drawdownPressure
  rw [KellyInput.quality]
  positivity

theorem NoWorse.quality (noWorse : NoWorse input other) : input.quality ≤ other.quality := by
  have sample := clamp_mono noWorse.sampleConfidence
  have calibration := clamp_mono noWorse.calibrationConfidence
  have evidence := clamp_mono noWorse.evidenceQuality
  have agreement := clamp_mono noWorse.modelAgreement
  have pressure : 1 - 0.7 * clamp input.drawdownPressure ≤ 1 - 0.7 * clamp other.drawdownPressure :=
    sub_le_sub_left
      (mul_le_mul_of_nonneg_left (clamp_mono noWorse.drawdownPressure) (by norm_num)) 1
  have := clamp_nonneg input.sampleConfidence
  have := clamp_nonneg input.calibrationConfidence
  have := clamp_nonneg input.evidenceQuality
  have := clamp_nonneg input.modelAgreement
  have := pressure_pos input.drawdownPressure
  have := clamp_nonneg other.sampleConfidence
  have := clamp_nonneg other.calibrationConfidence
  have := clamp_nonneg other.evidenceQuality
  have := clamp_nonneg other.modelAgreement
  rw [KellyInput.quality, KellyInput.quality]
  gcongr

-----------------------------------------------------------------------------------------
-- The stake
-----------------------------------------------------------------------------------------

section Stake

variable [FloorRing K] {bankroll capped capped' fraction maxFrac : K}

omit [IsStrictOrderedRing K] in
theorem wholeStake_nonneg (bankroll capped : K) : 0 ≤ wholeStake bankroll capped := le_max_left _ _

theorem wholeStake_le (more : bankroll * capped ≤ bankroll * capped')
    : wholeStake bankroll capped ≤ wholeStake bankroll capped' :=
  max_le_max_left 0 (Int.cast_le.mpr (Int.floor_le_floor more))

theorem wholeStake_eq_zero (none : bankroll * capped ≤ 0) : wholeStake bankroll capped = 0 := by
  refine max_eq_left ?_
  have floor := (Int.floor_le_floor none).trans_eq Int.floor_zero
  exact_mod_cast floor

/-- What the fraction is taken of is never worth less when it grows, whatever the signs of the
bankroll, the fraction and the cap are.
-/
theorem wholeStake_mono {x y : K} (nonneg : 0 ≤ x) (le : x ≤ y)
    : wholeStake bankroll (min (x * fraction) maxFrac)
      ≤ wholeStake bankroll (min (y * fraction) maxFrac) := by
  rcases le_total 0 bankroll with funded | overdrawn
  · rcases le_total 0 fraction with forward | reversed
    · have taken := mul_le_mul_of_nonneg_right le forward
      exact wholeStake_le (mul_le_mul_of_nonneg_left (min_le_min_right _ taken) funded)
    · have taken : min (x * fraction) maxFrac ≤ 0 :=
        (min_le_left _ _).trans (mul_nonpos_of_nonneg_of_nonpos nonneg reversed)
      rw [wholeStake_eq_zero (mul_nonpos_of_nonneg_of_nonpos funded taken)]
      exact wholeStake_nonneg _ _
  · rcases le_total 0 fraction with forward | reversed
    · rcases le_total 0 maxFrac with room | none
      · have taken : 0 ≤ min (x * fraction) maxFrac := le_min (mul_nonneg nonneg forward) room
        rw [wholeStake_eq_zero (mul_nonpos_of_nonpos_of_nonneg overdrawn taken)]
        exact wholeStake_nonneg _ _
      · have capped : ∀ z, 0 ≤ z → min (z * fraction) maxFrac = maxFrac :=
          fun z some => min_eq_right (none.trans (mul_nonneg some forward))
        rw [capped x nonneg, capped y (nonneg.trans le)]
    · have taken := mul_le_mul_of_nonpos_right le reversed
      exact wholeStake_le (mul_le_mul_of_nonpos_left (min_le_min_right _ taken) overdrawn)

omit [IsStrictOrderedRing K] in
theorem stake_eq_of_nonpos (none : input.kellyFull ≤ 0)
    : (fractionalKellyStake input).stake = 0 := by
  rw [fractionalKellyStake, if_pos none]

omit [IsStrictOrderedRing K] in
theorem stake_eq_of_pos (some : 0 < input.kellyFull)
    : (fractionalKellyStake input).stake
      = wholeStake input.bankroll
          (min (input.kellyFull * input.quality * input.fraction.getD 0.25) input.maxFrac) := by
  rw [fractionalKellyStake, if_neg some.not_ge, mul_assoc, mul_comm input.quality]

omit [IsStrictOrderedRing K] in
theorem stake_nonneg (input : KellyInput K) : 0 ≤ (fractionalKellyStake input).stake := by
  rcases le_or_gt input.kellyFull 0 with none | some
  · exact (stake_eq_of_nonpos none).ge
  · rw [stake_eq_of_pos some]
    exact wholeStake_nonneg _ _

/-- The stake stays within the cap of what there is. -/
theorem stake_le_cap (funded : 0 ≤ input.bankroll)
    : (fractionalKellyStake input).stake ≤ max 0 (input.maxFrac * input.bankroll) := by
  rcases le_or_gt input.kellyFull 0 with none | some
  · rw [stake_eq_of_nonpos none]
    exact le_max_left _ _
  · rw [stake_eq_of_pos some]
    refine max_le_max_left 0 ((Int.floor_le _).trans ?_)
    rw [mul_comm input.maxFrac]
    exact mul_le_mul_of_nonneg_left (min_le_right _ _) funded

theorem NoWorse.stake (noWorse : NoWorse input other)
    : (fractionalKellyStake input).stake ≤ (fractionalKellyStake other).stake := by
  rcases le_or_gt input.kellyFull 0 with none | some
  · rw [stake_eq_of_nonpos none]
    exact stake_nonneg other
  · have edge := noWorse.kellyFull
    have grown : input.kellyFull * input.quality ≤ other.kellyFull * other.quality :=
      mul_le_mul edge noWorse.quality (quality_nonneg input) (some.le.trans edge)
    have cap : other.maxFrac = input.maxFrac := by
      rw [KellyInput.maxFrac, noWorse.maxBankrollFraction, KellyInput.maxFrac]
    rw [stake_eq_of_pos some, stake_eq_of_pos (some.trans_le edge), noWorse.bankroll,
      noWorse.fraction, cap]
    exact wholeStake_mono (mul_nonneg some.le (quality_nonneg input)) grown

/-- A payout that is not expected to exceed the stake leaves the clamped chance without an edge,
unless the chance is below the lower clamp.
-/
theorem kellyFull_nonpos_of_no_edge (likely : 0.01 ≤ input.calibratedProbability)
    (noEdge : input.calibratedProbability * input.target ≤ 1)
    : input.kellyFull ≤ 0 := by
  rw [kellyFull_nonpos_iff]
  have chance : input.probability ≤ input.calibratedProbability := by
    rw [KellyInput.probability, max_eq_right likely]
    exact min_le_right _ _
  rcases le_total 0.01 (input.target - 1) with paying | low
  · have odds : input.odds + 1 = input.target := by
      rw [KellyInput.odds, max_eq_right paying, sub_add_cancel]
    have positive : 0 ≤ input.target := by
      have least : (0 : K) < 0.01 := by norm_num
      linarith
    rw [odds]
    exact (mul_le_mul_of_nonneg_right chance positive).trans noEdge
  · have odds : input.odds = 0.01 := max_eq_left low
    have most : input.probability ≤ 0.99 := min_le_left _ _
    rw [odds]
    calc input.probability * (0.01 + 1)
      _ ≤ 0.99 * (0.01 + 1) := mul_le_mul_of_nonneg_right most (by norm_num)
      _ ≤ 1 := by norm_num

/-- The stake is not negative, and within the cap of a bankroll that is not; it is nothing without
an edge at the clamped values, which is so wherever the chance is not below its clamp; and it is
never less for inputs that are no worse.
-/
theorem stake_law (input : KellyInput K)
    : let stake := (fractionalKellyStake input).stake
      0 ≤ stake
        ∧ (0 ≤ input.bankroll → stake ≤ max 0 (input.maxFrac * input.bankroll))
        ∧ (input.probability * (input.odds + 1) ≤ 1 → stake = 0)
        ∧ (0.01 ≤ input.calibratedProbability → input.calibratedProbability * input.target ≤ 1
          → stake = 0)
        ∧ ∀ other, NoWorse input other → stake ≤ (fractionalKellyStake other).stake :=
  ⟨stake_nonneg input, stake_le_cap,
    fun noEdge => stake_eq_of_nonpos (kellyFull_nonpos_iff.mpr noEdge),
    fun likely noEdge => stake_eq_of_nonpos (kellyFull_nonpos_of_no_edge likely noEdge),
    fun _ noWorse => noWorse.stake⟩

end Stake

/-- A chance of nine in ten at odds of 0.3. -/
theorem stake_of_likely
    : let likely : KellyInput ℚ := ⟨0.9, 1.3, 10000, 1, 1, 1, 1, 0, none, none⟩
      0 ≤ (fractionalKellyStake likely).stake
        ∧ (fractionalKellyStake likely).stake ≤ max 0 (likely.maxFrac * likely.bankroll) := by
  intro likely
  obtain ⟨nonneg, cap, -⟩ := stake_law likely
  exact ⟨nonneg, cap (by decide +kernel)⟩

/-- A negative bankroll has nothing staked, which is more than its cap; and a chance below the clamp
is staked on without an edge.
-/
theorem stake_unbounded
    : let overdrawn : KellyInput ℚ := ⟨0.9, 1.3, -100, 1, 1, 1, 1, 0, none, none⟩
      let unlikely : KellyInput ℚ := ⟨0.005, 150, 10000, 1, 1, 1, 1, 0, none, none⟩
      (fractionalKellyStake overdrawn).stake = 0
        ∧ overdrawn.maxFrac * overdrawn.bankroll = -5
        ∧ (fractionalKellyStake unlikely).stake = 8
        ∧ unlikely.calibratedProbability * unlikely.target < 1 := by
  decide +kernel

end CrashWave.Kelly
