import CrashWave.Prediction.Acie.OnlineState

/-! The evidence engine: how well the recorded estimates are calibrated, and what that says about
the edge over the baseline. Numbers are those of an ordered field; the square root is the caller's.
-/

namespace CrashWave.Acie

open JavaScript

/-- What of a record is evaluated. -/
structure ScoredRecord (K : Type) where
  timestamp : String
  psiProbability : K
  actualResult : Bool
  probabilityResidual : K
  squaredError : K
  logLoss : K

structure CalibrationBin (K : Type) where
  predictedRange : K × K
  predictedProbability : K
  actualFrequency : K
  calibrationError : K
  sampleSize : Nat

structure IllustrativeBin (K : Type) where
  range : K × K
  predicted : K
  actual : K
  error : K
  isWellCalibrated : Bool

structure RollingWindow (K : Type) where
  windowStart : String
  windowEnd : String
  brierScore : K
  calibrationError : K
  sampleSize : Nat

structure BaselineComparison (K : Type) where
  naiveFrequency : K
  psiMeanProbability : K
  psiActualFrequency : K
  psiImprovement : K
  isSignificant : Bool

structure CalibrationReport (K : Type) where
  overallBrierScore : K
  overallBrierSkillScore : K
  overallLogLoss : K
  bins : List (CalibrationBin K)
  illustrativeBinCalibration : IllustrativeBin K
  rollingCalibration : List (RollingWindow K)
  baselineComparison : BaselineComparison K

inductive EvidenceStatus where
  | supported
  | weak
  | insufficient
  | degraded
  deriving DecidableEq

inductive CalibrationStatus where
  | excellent
  | good
  | poor
  | unknown
  deriving DecidableEq

inductive PerformanceTrend where
  | improving
  | stable
  | degrading
  deriving DecidableEq

inductive RecommendedMode where
  | active
  | cautious
  | observation
  deriving DecidableEq

/-- The reasons of a report, with the values that their texts show. -/
inductive EvidenceReasoning (K : Type) where
  | belowThreshold (sampleSize : Nat)
  | underperforms (skill improvement residual : K)
  | improves (improvement skill : K) (calibration : CalibrationStatus)
  | notYetRobust (skill : K) (sampleSize : Nat) (significant : Bool)
  | noEdge (baseline : K)

structure EvidenceReport (K : Type) where
  status : EvidenceStatus
  baselineProbability : K
  conditionalImprovement : K
  improvementSignificant : Bool
  calibrationStatus : CalibrationStatus
  meanCalibrationError : K
  performanceTrend : PerformanceTrend
  driftDetected : Bool
  sampleSize : Nat
  sampleAdequate : Bool
  recommendedMode : RecommendedMode
  reasoning : EvidenceReasoning K
  calibration : CalibrationReport K

variable {K : Type} [Field K] [LinearOrder K] [FloorRing K]

/-- The mean of a number of the records. -/
def meanOf (number : ScoredRecord K → K) (records : List (ScoredRecord K)) : K :=
  (records.map number).sum / records.length

/-- How many of the records reached the target. -/
def actualFrequency (records : List (ScoredRecord K)) : K :=
  (records.countP (·.actualResult) : K) / records.length

namespace SelfAdaptiveForecastingEngine

def brierScore (records : List (ScoredRecord K)) : K :=
  if records.length = 0 then 1 else meanOf (·.squaredError) records

/-- The bounds of a bin of the loop. -/
def binRange (index : Nat) : K × K := (index * 0.1, min 1 (index * 0.1 + 0.1))

/-- The records of a bin, the last of which has its upper bound, too. -/
def binRecords (records : List (ScoredRecord K)) (index : Nat) : List (ScoredRecord K) :=
  let (lower, upper) := binRange index
  records.filter fun r =>
    if upper ≥ 1 then decide (r.psiProbability ≥ lower ∧ r.psiProbability ≤ upper)
    else decide (r.psiProbability ≥ lower ∧ r.psiProbability < upper)

/-- A bin of the loop, unless there are too few records in it. -/
def bin (records : List (ScoredRecord K)) (index : Nat) : Option (CalibrationBin K) :=
  let (lower, upper) := binRange index
  let binRecords := binRecords records index
  if binRecords.length < 5 then none
  else
    let predicted := meanOf (·.psiProbability) binRecords
    let actual := actualFrequency binRecords
    some
      {
        predictedRange := (lower, toFixed 2 upper)
        predictedProbability := predicted
        actualFrequency := actual
        calibrationError := |predicted - actual|
        sampleSize := binRecords.length
      }

/-- The middle band: that from 0.6 to 0.7, or else the first near it. -/
def illustrative (bins : List (CalibrationBin K)) : IllustrativeBin K :=
  let preferred := bins.find? fun b =>
    decide (b.predictedRange.1 = 0.6 ∧ b.predictedRange.2 = 0.7)
  let nearest := bins.find? fun b =>
    decide (b.predictedRange.1 ≥ 0.5 ∧ b.predictedRange.2 ≤ 0.8)
  match preferred.or nearest with
  | some mid =>
      {
        range := mid.predictedRange
        predicted := mid.predictedProbability
        actual := mid.actualFrequency
        error := mid.calibrationError
        isWellCalibrated := decide (mid.calibrationError < 0.05)
      }
  | none =>
      { range := (0.6, 0.7), predicted := 0, actual := 0, error := 1, isWellCalibrated := false }

/-- The window of the records before an index. -/
def rollingWindow (records : List (ScoredRecord K)) (window i : Nat) : RollingWindow K :=
  let slice := (records.drop (i - window)).take window
  {
    windowStart := (slice.head?.map (·.timestamp)).getD ""
    windowEnd := (slice.getLast?.map (·.timestamp)).getD ""
    brierScore := brierScore slice
    calibrationError := |meanOf (·.psiProbability) slice - actualFrequency slice|
    sampleSize := slice.length
  }

def rollingCalibration (records : List (ScoredRecord K)) (window : Nat)
    : List (RollingWindow K) :=
  if records.length < window then []
  else
    let step := max 1 (window / 2)
    (List.range ((records.length - window) / step + 1)).map fun turn =>
      rollingWindow records window (window + turn * step)

def emptyReport : CalibrationReport K where
  overallBrierScore := 1
  overallBrierSkillScore := 0
  overallLogLoss := 1
  bins := []
  illustrativeBinCalibration := illustrative []
  rollingCalibration := []
  baselineComparison :=
    {
      naiveFrequency := 0
      psiMeanProbability := 0
      psiActualFrequency := 0
      psiImprovement := 0
      isSignificant := false
    }

/-- The comparison with the baseline. The improvement is that of the outcomes over the baseline
frequency, which is the frequency of the same outcomes.
-/
def baselineComparison (sqrt : K → K) (records : List (ScoredRecord K)) : BaselineComparison K :=
  let baselineFreq := actualFrequency records
  let psiMean := meanOf (·.psiProbability) records
  let psiActual := actualFrequency records
  let improvement := psiActual - baselineFreq
  let se := sqrt (baselineFreq * (1 - baselineFreq) / (max records.length 1 : Nat))
  {
    naiveFrequency := baselineFreq
    psiMeanProbability := psiMean
    psiActualFrequency := psiActual
    psiImprovement := improvement
    isSignificant := decide (|improvement| > 1.96 * se) && decide (records.length ≥ 200)
  }

/-- The score of always predicting the baseline frequency. -/
def baselineBrier (records : List (ScoredRecord K)) : K :=
  meanOf (fun r => (actualFrequency records - if r.actualResult then 1 else 0) ^ 2) records

def generateCalibrationReport (sqrt : K → K) (records : List (ScoredRecord K))
    : CalibrationReport K :=
  if records.length = 0 then emptyReport
  else
    let bins := (List.range 10).filterMap (bin records)
    let overallBrierScore := brierScore records
    let baselineBrier := baselineBrier records
    {
      overallBrierScore
      overallBrierSkillScore :=
        if baselineBrier > 1e-9 then 1 - overallBrierScore / baselineBrier else 0
      overallLogLoss := (records.map (·.logLoss)).sum / (max records.length 1 : Nat)
      bins
      illustrativeBinCalibration := illustrative bins
      rollingCalibration := rollingCalibration records 100
      baselineComparison := baselineComparison sqrt records
    }

def meanAbsoluteCalibrationError (report : CalibrationReport K) : K :=
  if report.bins.length = 0 then 1
  else
    let weighted := (report.bins.map fun b => b.calibrationError * (b.sampleSize : K)).sum
    let n := (report.bins.map (·.sampleSize)).sum
    if n > 0 then weighted / n else 1

end SelfAdaptiveForecastingEngine

namespace EvidenceEngine

open SelfAdaptiveForecastingEngine

/-- `MIN_SAMPLE`. -/
def minSample : Nat := 500

def calibrationStatus (sampleSize : Nat) (meanCalErr : K) : CalibrationStatus :=
  if sampleSize ≥ 100 then
    if meanCalErr < 0.03 then .excellent else if meanCalErr < 0.07 then .good else .poor
  else .unknown

def trendFromRolling (rolling : List (RollingWindow K)) : PerformanceTrend :=
  if rolling.length < 3 then .stable
  else
    let first := rolling.take (rolling.length / 3)
    let last := rolling.drop (rolling.length - rolling.length / 3)
    let avg (xs : List (RollingWindow K)) : K := (xs.map (·.brierScore)).sum / xs.length
    let a := avg first
    let b := avg last
    if b < a * 0.92 then .improving else if b > a * 1.08 then .degrading else .stable

/-- A degrading trend, or a calibration error that went up from the first window to the last. -/
def driftDetected (rolling : List (RollingWindow K)) : Bool :=
  trendFromRolling rolling == .degrading
  || (match rolling.head?, rolling.getLast? with
    | some first, some last =>
        decide (rolling.length ≥ 2)
        && decide (last.calibrationError > first.calibrationError + 0.05)
    | _, _ => false)

def meanResidual (records : List (ScoredRecord K)) : K :=
  if records.length > 0 then meanOf (·.probabilityResidual) records else 0

/-- Systematically over-confident or under-performing against the baseline. -/
def systematicallyBad (records : List (ScoredRecord K)) (calibration : CalibrationReport K)
    : Bool :=
  let sampleSize := records.length
  let skill := calibration.overallBrierSkillScore
  let baseline := calibration.baselineComparison.naiveFrequency
  let improvement := calibration.baselineComparison.psiImprovement
  let meanResidual := meanResidual records
  decide (sampleSize ≥ 150)
  && (decide (skill < -0.02)
    || decide (improvement < -0.02 ∧ sampleSize ≥ minSample)
    || decide (meanResidual > 0.15 ∧ baseline < 0.45)
    || decide (meanResidual < -0.15 ∧ baseline > 0.55)
    || decide (calibration.overallBrierScore > 0.35 ∧ sampleSize ≥ 200))

def evaluate (sqrt : K → K) (records : List (ScoredRecord K)) : EvidenceReport K :=
  let sampleSize := records.length
  let sampleAdequate := decide (sampleSize ≥ minSample)
  let calibration := generateCalibrationReport sqrt records
  let meanCalErr := meanAbsoluteCalibrationError calibration
  let baseline := calibration.baselineComparison.naiveFrequency
  let improvement := calibration.baselineComparison.psiImprovement
  let improvementSignificant := calibration.baselineComparison.isSignificant
  let skill := calibration.overallBrierSkillScore
  let status := calibrationStatus sampleSize meanCalErr
  let drift := driftDetected calibration.rollingCalibration
  let decision : EvidenceStatus × RecommendedMode × EvidenceReasoning K :=
    if sampleSize < 150 then (.insufficient, .observation, .belowThreshold sampleSize)
    else if systematicallyBad records calibration then
      (.degraded, .observation,
        .underperforms (toFixedSigned 3 skill) (toFixedSigned 1 (improvement * 100))
          (toFixedSigned 3 (meanResidual records)))
    else if sampleAdequate && improvementSignificant && decide (skill > 0.02)
        && status != .poor && !drift then
      (.supported, .active,
        .improves (toFixedSigned 1 (improvement * 100)) (toFixedSigned 3 skill) status)
    else if skill > 0 ∨ improvement > 0 then
      (.weak, .cautious, .notYetRobust (toFixedSigned 3 skill) sampleSize improvementSignificant)
    else (.insufficient, .observation, .noEdge (toFixed 1 (baseline * 100)))
  {
    status := decision.1
    baselineProbability := baseline
    conditionalImprovement := improvement
    improvementSignificant
    calibrationStatus := status
    meanCalibrationError := meanCalErr
    performanceTrend := trendFromRolling calibration.rollingCalibration
    driftDetected := drift
    sampleSize
    sampleAdequate
    recommendedMode := decision.2.1
    reasoning := decision.2.2
    calibration
  }

end EvidenceEngine

end CrashWave.Acie
