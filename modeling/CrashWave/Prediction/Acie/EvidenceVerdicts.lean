import Mathlib.Algebra.Order.BigOperators.Group.List
import Mathlib.Analysis.Real.Sqrt
import Mathlib.Analysis.SpecialFunctions.Log.Basic
import CrashWave.Prediction.Acie.Evidence

/-! What the evidence engine says of convincing records: the improvement that it tests is that of a
frequency over itself, so that no records are supported.
-/

namespace CrashWave.Acie

open JavaScript

namespace EvidenceEngine

open SelfAdaptiveForecastingEngine

variable {K : Type} [Field K] [LinearOrder K] [FloorRing K]

/-- Enough records, whose estimates beat the baseline by the margin that is asked for, are well
calibrated, show no drift and are not systematically bad.
-/
structure Convincing (sqrt : K → K) (records : List (ScoredRecord K)) : Prop where
  enough : 500 ≤ records.length
  margin : 0.02 < (generateCalibrationReport sqrt records).overallBrierSkillScore
  calibrated : (evaluate sqrt records).calibrationStatus ≠ .poor
  steady : (evaluate sqrt records).driftDetected = false
  sound : systematicallyBad records (generateCalibrationReport sqrt records) = false

variable [IsStrictOrderedRing K]

omit [IsStrictOrderedRing K] in
/-- What the report says of records, if there are any. -/
theorem generateCalibrationReport_fields (sqrt : K → K) {records : List (ScoredRecord K)}
    (filled : ¬ records.length = 0)
    : let report := generateCalibrationReport sqrt records
      report.overallBrierScore = brierScore records
      ∧ report.overallBrierSkillScore
        = (if baselineBrier records > 1e-9 then
            1 - brierScore records / baselineBrier records else 0)
      ∧ report.bins = (List.range 10).filterMap (bin records)
      ∧ report.rollingCalibration = rollingCalibration records 100
      ∧ report.baselineComparison.naiveFrequency = actualFrequency records := by
  intro report
  have same : report = _ := if_neg filled
  rw [same]
  exact ⟨rfl, rfl, rfl, rfl, rfl⟩

omit [IsStrictOrderedRing K] in
/-- The improvement over the baseline is zero. -/
theorem psiImprovement_eq_zero (sqrt : K → K) (records : List (ScoredRecord K))
    : (generateCalibrationReport sqrt records).baselineComparison.psiImprovement = 0 := by
  unfold generateCalibrationReport
  split
  · rfl
  · exact sub_self _

/-- So it is never significant. -/
theorem isSignificant_eq_false {sqrt : K → K} (nonneg : ∀ x, 0 ≤ sqrt x)
    (records : List (ScoredRecord K))
    : (generateCalibrationReport sqrt records).baselineComparison.isSignificant = false := by
  unfold generateCalibrationReport
  split
  · rfl
  · have none : ¬ |actualFrequency records - actualFrequency records| > 1.96 * sqrt
        (actualFrequency records * (1 - actualFrequency records)
          / (max records.length 1 : Nat)) := by
      rw [sub_self, abs_zero]
      exact not_lt.mpr (mul_nonneg (by norm_num) (nonneg _))
    simp only [baselineComparison, decide_eq_false none, Bool.false_and]

theorem status_ne_supported {sqrt : K → K} (nonneg : ∀ x, 0 ≤ sqrt x)
    (records : List (ScoredRecord K))
    : (evaluate sqrt records).status ≠ .supported := by
  have insignificant := isSignificant_eq_false nonneg records
  simp only [evaluate, insignificant, Bool.and_false, Bool.false_and, Bool.false_eq_true, if_false]
  split
  · simp
  · split
    · simp
    · split <;> simp

/-- Convincing records are weak evidence. -/
theorem Convincing.status {sqrt : K → K} (nonneg : ∀ x, 0 ≤ sqrt x)
    {records : List (ScoredRecord K)} (convincing : Convincing sqrt records)
    : (evaluate sqrt records).status = .weak := by
  have insignificant := isSignificant_eq_false nonneg records
  have enough := convincing.enough
  have skill : (generateCalibrationReport sqrt records).overallBrierSkillScore > 0 :=
    lt_trans (by norm_num) convincing.margin
  simp only [evaluate, insignificant, convincing.sound, Bool.and_false, Bool.false_and,
    Bool.false_eq_true, if_false]
  rw [if_neg (by omega), if_pos (.inl skill)]

-----------------------------------------------------------------------------------------
-- Records with sharp estimates
-----------------------------------------------------------------------------------------

/-- The outcome of a record as a number. -/
def outcomeOf (record : ScoredRecord K) : K := if record.actualResult then 1 else 0

/-- The estimate is off from the outcome by a hundredth at most, and its square error is known. -/
structure Sharp (record : ScoredRecord K) : Prop where
  squared : record.squaredError = 1 / 10000
  low : outcomeOf record - 1 / 100 ≤ record.psiProbability
  high : record.psiProbability ≤ outcomeOf record + 1 / 100

omit [LinearOrder K] [FloorRing K] [IsStrictOrderedRing K] in
theorem countP_eq_sum (records : List (ScoredRecord K))
    : (records.countP (·.actualResult) : K) = (records.map outcomeOf).sum := by
  induction records with
  | nil => simp
  | cons record rest ih =>
      rw [List.map_cons, List.sum_cons, ← ih, List.countP_cons]
      cases hit : record.actualResult <;> simp [outcomeOf, hit, add_comm]

omit [FloorRing K] in
/-- The mean of numbers that are all the same. -/
theorem mean_const {α : Type} {number : α → K} {value : K} {items : List α} (some : items ≠ [])
    (same : ∀ item ∈ items, number item = value)
    : (items.map number).sum / items.length = value := by
  have positive : (0 : K) < items.length := Nat.cast_pos.mpr (List.length_pos_iff.mpr some)
  rw [List.map_congr_left same, List.map_const', List.sum_replicate, nsmul_eq_mul,
    mul_div_cancel_left₀ _ positive.ne']

omit [FloorRing K] in
/-- The mean estimate of sharp records is near the frequency of their outcomes. -/
theorem calibrationError_le {records : List (ScoredRecord K)} (some : records ≠ [])
    (sharp : ∀ record ∈ records, Sharp record)
    : |meanOf (·.psiProbability) records - actualFrequency records| ≤ 1 / 100 := by
  have positive : (0 : K) < records.length := Nat.cast_pos.mpr (List.length_pos_iff.mpr some)
  have shifted (shift : K) : (records.map fun record => outcomeOf record + shift).sum
      = (records.map outcomeOf).sum + records.length * shift := by
    rw [List.sum_map_add, List.map_const', List.sum_replicate, nsmul_eq_mul]
  have low : (records.map fun record => outcomeOf record + -(1 / 100)).sum
      ≤ (records.map (·.psiProbability)).sum :=
    List.sum_le_sum fun record among => (sub_eq_add_neg _ _).symm.trans_le (sharp record among).low
  have high : (records.map (·.psiProbability)).sum
      ≤ (records.map fun record => outcomeOf record + 1 / 100).sum :=
    List.sum_le_sum fun record among => (sharp record among).high
  rw [shifted] at low high
  rw [meanOf, actualFrequency, countP_eq_sum, ← sub_div, abs_le]
  constructor
  · rw [le_div_iff₀ positive]
    linarith
  · rw [div_le_iff₀ positive]
    linarith

omit [FloorRing K] in
theorem brierScore_sharp {records : List (ScoredRecord K)} (some : records ≠ [])
    (sharp : ∀ record ∈ records, Sharp record)
    : brierScore records = 1 / 10000 := by
  rw [brierScore, if_neg (by simpa using some)]
  exact mean_const some fun record among => (sharp record among).squared

omit [FloorRing K] in
/-- The windows of sharp records score the same, and their errors are small. -/
theorem rollingCalibration_sharp {records : List (ScoredRecord K)}
    (sharp : ∀ record ∈ records, Sharp record)
    : ∀ window ∈ rollingCalibration records 100,
        window.brierScore = 1 / 10000 ∧ 0 ≤ window.calibrationError
        ∧ window.calibrationError ≤ 1 / 100 := by
  intro window among
  unfold rollingCalibration at among
  split at among
  · cases among
  · next many =>
      obtain ⟨turn, before, rfl⟩ := List.mem_map.mp among
      have turns := List.mem_range.mp before
      have inside : turn * 50 ≤ records.length - 100 := by
        have bound : turn ≤ (records.length - 100) / 50 := Nat.le_of_lt_succ turns
        exact (Nat.mul_le_mul_right 50 bound).trans (Nat.div_mul_le_self _ _)
      have some : (records.drop (100 + turn * max 1 (100 / 2) - 100)).take 100 ≠ [] := by
        rw [← List.length_pos_iff, List.length_take, List.length_drop]
        norm_num
        omega
      have part : ∀ record ∈ (records.drop (100 + turn * max 1 (100 / 2) - 100)).take 100,
          Sharp record :=
        fun record member => sharp record (List.mem_of_mem_drop (List.mem_of_mem_take member))
      exact ⟨brierScore_sharp some part, abs_nonneg _, calibrationError_le some part⟩

omit [FloorRing K] in
/-- Windows that score the same are no trend. -/
theorem trendFromRolling_const {rolling : List (RollingWindow K)} {score : K} (nonneg : 0 ≤ score)
    (same : ∀ window ∈ rolling, window.brierScore = score)
    : trendFromRolling rolling ≠ .degrading := by
  have average {windows : List (RollingWindow K)} (some : windows ≠ [])
      (within : ∀ window ∈ windows, window ∈ rolling)
      : (windows.map (·.brierScore)).sum / windows.length = score :=
    mean_const some fun window member => same window (within window member)
  unfold trendFromRolling
  split
  · simp
  · next many =>
      have third : 0 < rolling.length / 3 := Nat.div_pos (not_lt.mp many) (by decide)
      have first : rolling.take (rolling.length / 3) ≠ [] := by
        rw [← List.length_pos_iff, List.length_take]
        omega
      have last : rolling.drop (rolling.length - rolling.length / 3) ≠ [] := by
        rw [← List.length_pos_iff, List.length_drop]
        omega
      dsimp only
      split
      · simp
      · split
        · next worse =>
            rw [average first fun _ => List.mem_of_mem_take,
              average last fun _ => List.mem_of_mem_drop] at worse
            exact absurd worse (not_lt.mpr (by linarith))
        · simp

/-- Sharp records show no drift. -/
theorem driftDetected_sharp {records : List (ScoredRecord K)}
    (sharp : ∀ record ∈ records, Sharp record)
    : driftDetected (rollingCalibration records 100) = false := by
  have windows := rollingCalibration_sharp sharp
  have steady : trendFromRolling (rollingCalibration records 100) ≠ .degrading :=
    trendFromRolling_const (by norm_num) fun window among => (windows window among).1
  unfold driftDetected
  rw [Bool.or_eq_false_iff]
  refine ⟨by simpa using steady, ?_⟩
  split
  · next first last head tail =>
      have low := (windows first (List.mem_of_head? head)).2.1
      have high := (windows last (List.mem_of_getLast? tail)).2.2
      have below : ¬ last.calibrationError > first.calibrationError + 0.05 := by
        refine not_lt.mpr (high.trans ?_)
        norm_num
        linarith
      rw [decide_eq_false below, Bool.and_false]
  · rfl

/-- The errors of the bins of sharp records are small, and no bin is empty. -/
theorem bin_sharp {records : List (ScoredRecord K)} (sharp : ∀ record ∈ records, Sharp record)
    {index : Nat} {found : CalibrationBin K} (held : bin records index = some found)
    : found.calibrationError ≤ 1 / 100 ∧ 0 < found.sampleSize := by
  have part : ∀ record ∈ binRecords records index, Sharp record :=
    fun record among => sharp record (List.mem_filter.mp among).1
  by_cases few : (binRecords records index).length < 5
  · have none : bin records index = none := if_pos few
    rw [none] at held
    cases held
  · have kept : bin records index = some _ := if_neg few
    obtain rfl := Option.some.inj (kept.symm.trans held)
    refine ⟨calibrationError_le ?_ part, by dsimp only; omega⟩
    intro empty
    exact few (by simp [empty])

/-- With a bin of sharp records, the mean error of the bins is small. -/
theorem meanAbsoluteCalibrationError_sharp {sqrt : K → K} {records : List (ScoredRecord K)}
    (sharp : ∀ record ∈ records, Sharp record) {index : Nat} (within : index < 10)
    {found : CalibrationBin K} (held : bin records index = some found)
    : meanAbsoluteCalibrationError (generateCalibrationReport sqrt records) ≤ 1 / 100 := by
  have some : records ≠ [] := by
    rintro rfl
    cases held
  have report := (generateCalibrationReport_fields sqrt (by simpa using some)).2.2.1
  have among : found ∈ (List.range 10).filterMap (bin records) :=
    List.mem_filterMap.mpr ⟨index, List.mem_range.mpr within, held⟩
  have each : ∀ b ∈ (List.range 10).filterMap (bin records),
      b.calibrationError ≤ 1 / 100 ∧ 0 < b.sampleSize := by
    intro b member
    obtain ⟨at_, -, held⟩ := List.mem_filterMap.mp member
    exact bin_sharp sharp held
  unfold meanAbsoluteCalibrationError
  rw [report]
  generalize (List.range 10).filterMap (bin records) = bins at among each
  have filled : bins ≠ [] := List.ne_nil_of_mem among
  have sized : 0 < (bins.map (·.sampleSize)).sum :=
    List.sum_pos _ (by simpa using fun b member => (each b member).2) (by simpa using filled)
  have weighted : (bins.map fun b => b.calibrationError * (b.sampleSize : K)).sum
      ≤ 1 / 100 * ((bins.map (·.sampleSize)).sum : Nat) := by
    calc (bins.map fun b => b.calibrationError * (b.sampleSize : K)).sum
        ≤ (bins.map fun b => 1 / 100 * (b.sampleSize : K)).sum :=
          List.sum_le_sum fun b member =>
            mul_le_mul_of_nonneg_right (each b member).1 (Nat.cast_nonneg _)
      _ = 1 / 100 * (bins.map fun b => (b.sampleSize : K)).sum := List.sum_map_mul_left ..
      _ = 1 / 100 * ((bins.map (·.sampleSize)).sum : Nat) := by
          rw [Nat.cast_list_sum, List.map_map]
          rfl
  rw [if_neg (by simpa using filled), if_pos sized, div_le_iff₀ (Nat.cast_pos.mpr sized)]
  exact weighted

/-- Half of 500 records are hits at 0.99, the other half misses at 0.01. -/
noncomputable def sharpRecord (actualResult : Bool) : ScoredRecord ℝ where
  timestamp := ""
  psiProbability := if actualResult then 0.99 else 0.01
  actualResult
  probabilityResidual := if actualResult then -0.01 else 0.01
  squaredError := 0.0001
  logLoss := -Real.log 0.99

noncomputable def sharpRecords : List (ScoredRecord ℝ) :=
  List.replicate 250 (sharpRecord true) ++ List.replicate 250 (sharpRecord false)

theorem mem_sharpRecords {record : ScoredRecord ℝ} (among : record ∈ sharpRecords)
    : ∃ hit, record = sharpRecord hit := by
  rcases List.mem_append.mp among with hits | misses
  · exact ⟨true, (List.mem_replicate.mp hits).2⟩
  · exact ⟨false, (List.mem_replicate.mp misses).2⟩

theorem sharp_sharpRecords : ∀ record ∈ sharpRecords, Sharp record := by
  intro record among
  obtain ⟨hit, rfl⟩ := mem_sharpRecords among
  cases hit <;> constructor <;> norm_num [sharpRecord, outcomeOf]

theorem length_sharpRecords : sharpRecords.length = 500 := by
  rw [sharpRecords, List.length_append, List.length_replicate, List.length_replicate]

theorem actualFrequency_sharpRecords : actualFrequency sharpRecords = 1 / 2 := by
  have hits : sharpRecords.countP (·.actualResult) = 250 := by
    rw [sharpRecords, List.countP_append, List.countP_replicate, List.countP_replicate]
    rfl
  rw [actualFrequency, hits, length_sharpRecords]
  norm_num

/-- The hits are in the last bin. -/
theorem bin_sharpRecords : ∃ found, bin sharpRecords 9 = some found := by
  have upper : (binRange 9 : ℝ × ℝ) = (0.9, 1) := by
    norm_num [binRange]
  have many : ¬ (binRecords sharpRecords 9).length < 5 := by
    rw [binRecords, upper]
    dsimp only
    rw [← List.countP_eq_length_filter, sharpRecords, List.countP_append, List.countP_replicate,
      if_pos (by norm_num [sharpRecord])]
    omega
  exact ⟨_, if_neg many⟩

theorem convincing_sharpRecords : Convincing Real.sqrt sharpRecords := by
  have some : sharpRecords ≠ [] := by
    rw [← List.length_pos_iff, length_sharpRecords]
    decide
  have score : brierScore sharpRecords = 1 / 10000 := brierScore_sharp some sharp_sharpRecords
  have baseline : baselineBrier sharpRecords = 1 / 4 := by
    refine mean_const some fun record among => ?_
    rw [actualFrequency_sharpRecords]
    split <;> norm_num
  have filled : ¬ sharpRecords.length = 0 := by simpa using some
  have improvement := psiImprovement_eq_zero Real.sqrt sharpRecords
  obtain ⟨brier, skill, -, rolling, naive⟩ := generateCalibrationReport_fields Real.sqrt filled
  rw [score, baseline, if_pos (by norm_num)] at skill
  rw [score] at brier
  rw [actualFrequency_sharpRecords] at naive
  refine ⟨length_sharpRecords.ge, by rw [skill]; norm_num, ?_, ?_, ?_⟩
  · obtain ⟨found, held⟩ := bin_sharpRecords
    have error : meanAbsoluteCalibrationError (generateCalibrationReport Real.sqrt sharpRecords)
        ≤ 1 / 100 :=
      meanAbsoluteCalibrationError_sharp sharp_sharpRecords (by decide) held
    have small : meanAbsoluteCalibrationError (generateCalibrationReport Real.sqrt sharpRecords)
        < 0.03 :=
      error.trans_lt (by norm_num)
    simp [evaluate, calibrationStatus, length_sharpRecords, small]
  · simp only [evaluate, rolling]
    exact driftDetected_sharp sharp_sharpRecords
  · simp only [systematicallyBad, skill, brier, naive, improvement]
    norm_num

/-- No list of records is supported, and a convincing one is weak evidence. -/
theorem never_supported (records : List (ScoredRecord ℝ))
    : (evaluate Real.sqrt records).status ≠ .supported
      ∧ (Convincing Real.sqrt records → (evaluate Real.sqrt records).status = .weak) :=
  ⟨status_ne_supported Real.sqrt_nonneg records, fun convincing =>
    convincing.status Real.sqrt_nonneg⟩

/-- There are convincing records, and they are not supported. -/
theorem convincing_not_supported
    : Convincing Real.sqrt sharpRecords ∧ (evaluate Real.sqrt sharpRecords).status ≠ .supported :=
  ⟨convincing_sharpRecords, status_ne_supported Real.sqrt_nonneg sharpRecords⟩

end EvidenceEngine

end CrashWave.Acie
