import CrashWave.Mixtures.Basic
import CrashWave.Prediction.Acie.Engine
import Mathlib.Data.Real.Basic

/-! Temporal pattern learning: the sequence state that is read off the crash points, its regime, and
how often records in a similar state reached the target. Then predictive sequence intelligence:
seven models estimate the probability that the next crash reaches the target, and their estimates
are blended by weights. Numbers are those of an ordered field; the logarithm and the square root are
the caller's.
-/

namespace CrashWave.Acie

inductive VolatilityTrend where
  | increasing
  | decreasing
  | stable
  deriving DecidableEq

structure SequenceState (K : Type) where
  last10Reached130 : Nat
  last10AvgCrash : K
  currentStreakBelow130 : Nat
  currentStreakAbove130 : Nat
  lowClusterActive : Bool
  lowClusterLength : Nat
  lowClusterSeverity : K
  rolling100HitRate : K
  rolling500HitRate : K
  rolling1000HitRate : K
  recentVolatility : K
  volatilityTrend : VolatilityTrend
  deriving DecidableEq

/-- The functions of `Math` that are not computed exactly in every field. -/
structure MathFunctions (K : Type) where
  exp : K → K
  log : K → K
  sqrt : K → K

/-- What `computeConditionalProbability` returns. -/
structure ConditionalProbability (K : Type) where
  conditional : K
  baseline : K
  improvement : K
  matchCount : Nat

variable {K : Type} [Field K] [LinearOrder K]

def stddev (sqrt : K → K) (xs : List K) : K :=
  if xs.length < 2 then 0
  else
    let m := mean xs
    sqrt ((xs.map fun x => (x - m) ^ 2).sum / (xs.length - 1 : Nat))

/-- How many crash points reach the target. -/
def hits (crashPoints : List K) : Nat := crashPoints.countP (acieTarget ≤ ·)

def hitRate (crashPoints : List K) (n : Nat) : K :=
  let slice := lastOf n crashPoints
  if slice.length = 0 then 0 else hits slice / slice.length

/-- The loop for the streaks below and above the target, over the crash points from the last one
backwards; one of the two streaks ends it.
-/
def streaks : (below above : Nat) → List K → Nat × Nat
  | below, above, [] => (below, above)
  | below, above, crashPoint :: older =>
      if crashPoint < acieTarget then
        if above > 0 then (below, above) else streaks (below + 1) above older
      else if below > 0 then (below, above)
      else streaks below (above + 1) older

namespace TemporalPatternLearner

def computeSequenceState (functions : MathFunctions K) (crashPoints : List K) : SequenceState K :=
  let last10 := lastOf 10 crashPoints
  let (currentStreakBelow130, currentStreakAbove130) := streaks 0 0 crashPoints.reverse
  let lowClusterActive := decide (currentStreakBelow130 ≥ 3)
  let lowClusterLength := if lowClusterActive then currentStreakBelow130 else 0
  let clusterSlice := lastOf (max lowClusterLength 1) crashPoints
  let logs := crashPoints.map fun c => functions.log (max c 1.01)
  let last50 := lastOf 50 logs
  let prev50 := (logs.take (logs.length - 50)).drop (logs.length - 100)
  let recentVolatility := stddev functions.sqrt last50
  let prevVol := stddev functions.sqrt prev50
  {
    last10Reached130 := hits last10
    last10AvgCrash := mean last10
    currentStreakBelow130
    currentStreakAbove130
    lowClusterActive
    lowClusterLength
    lowClusterSeverity := if lowClusterActive then mean clusterSlice else 0
    rolling100HitRate := hitRate crashPoints 100
    rolling500HitRate := hitRate crashPoints 500
    rolling1000HitRate := hitRate crashPoints 1000
    recentVolatility
    volatilityTrend :=
      if prev50.length ≥ 10 then
        if recentVolatility > prevVol * 1.15 then .increasing
        else if recentVolatility < prevVol * 0.85 then .decreasing
        else .stable
      else .stable
  }

def detectRegime (state : SequenceState K) : RegimeLabel :=
  if state.recentVolatility > 1.2 ∧ state.volatilityTrend = .increasing then .volatile
  else if state.lowClusterActive ∧ state.lowClusterLength ≥ 5 then .deepLow
  else if state.lowClusterActive then .lowCluster
  else if state.rolling100HitRate > 0.75 then .highActivity
  else if state.rolling100HitRate < 0.45 ∧ state.currentStreakBelow130 ≥ 2 then .deepLow
  else .normal

/-- Two lengths differ by one at most. -/
def near (a b : Nat) : Bool := decide (a ≤ b + 1 ∧ b ≤ a + 1)

def computeConditionalProbability (sequenceState : SequenceState K)
    (history : List (SOLRecord K (SequenceState K))) (minMatches scanLimit : Nat)
    : ConditionalProbability K :=
  if history.length = 0 then
    { conditional := 0.65, baseline := 0.65, improvement := 0, matchCount := 0 }
  else
    let scanned := lastOf scanLimit history
    let softCluster := decide (sequenceState.lowClusterLength ≤ 1)
    let matched := scanned.filter fun r =>
      near r.sequenceState.currentStreakBelow130 sequenceState.currentStreakBelow130
      && near r.sequenceState.lowClusterLength sequenceState.lowClusterLength
      && (softCluster
        || r.sequenceState.lowClusterActive == sequenceState.lowClusterActive)
    let baseline :=
      if scanned.length > 0 then (scanned.countP (·.reached130) : K) / scanned.length else 0.65
    let conditional :=
      if matched.length ≥ minMatches then (matched.countP (·.reached130) : K) / matched.length
      else baseline
    {
      conditional
      baseline
      improvement := conditional - baseline
      matchCount := matched.length
    }

end TemporalPatternLearner

end CrashWave.Acie

-----------------------------------------------------------------------------------------
-- Sequence intelligence
-----------------------------------------------------------------------------------------

namespace CrashWave.Acie

open JavaScript Mixtures

structure ModelEstimate (K : Type) where
  modelName : String
  probability : K

structure EstimateParams (K : Type) where
  crashPoints : List K
  sequenceState : SequenceState K
  regime : RegimeLabel
  history : List (SOLRecord K (SequenceState K))
  ensembleWeights : Option (Map String K) := none
  ewmaHitRate : Option K := none

structure PSIOutput (K : Type) where
  target : K
  estimatedProbability : K
  confidenceInterval : K × K
  sequenceState : SequenceState K
  regime : RegimeLabel
  primaryModel : String
  ensembleWeight : K
  modelUncertainty : K
  dataUncertainty : K

/-- `MATCH_SCAN_LIMIT`. -/
def matchScanLimit : Nat := 600

/-- `STREAK_MIN_MATCHES`. -/
def streakMinMatches : Nat := 20

/-- `COND_MIN_MATCHES`. -/
def condMinMatches : Nat := 40

/-- `SHORT_WINDOW`. -/
def shortWindow : Nat := 30

/-- `x | 0`: the low 32 bits of an integer, as a signed number. -/
def toInt32 (x : Int) : Int := x.bmod (2 ^ 32)

variable {K : Type} [Field K] [LinearOrder K]

def clamp01 (x : K) : K := if x < 0.01 then 0.01 else if x > 0.99 then 0.99 else x

def varianceInPlace (xs : List K) : K :=
  if xs.length < 2 then 0
  else
    let m := xs.sum / xs.length
    (xs.map fun x => (x - m) * (x - m)).sum / (xs.length - 1 : Nat)

/-- What `shortWindowStats` returns. -/
structure ShortWindowStats (K : Type) where
  count : Nat
  hits : Nat
  variance : K

namespace PredictiveSequenceIntelligence

def shortWindowStats (crashPoints : List K) : ShortWindowStats K :=
  let short := lastOf shortWindow crashPoints
  { count := short.length, hits := Acie.hits short, variance := varianceInPlace short }

def fastStreakAware (baseline : K) (sequenceState : SequenceState K)
    (history : List (SOLRecord K (SequenceState K))) : K :=
  if history.length < 40 then baseline
  else
    let matched := (lastOf matchScanLimit history).filter fun r =>
      TemporalPatternLearner.near r.sequenceState.currentStreakBelow130
        sequenceState.currentStreakBelow130
    if matched.length < streakMinMatches then baseline
    else (matched.countP (·.reached130) : K) / matched.length

/-- The rate that the models start from. -/
def baseline (params : EstimateParams K) : K :=
  let ewmaHitRate := params.ewmaHitRate.getD 0
  if ewmaHitRate > 0 then ewmaHitRate
  else if params.crashPoints.length = 0 then 0.65
  else if params.sequenceState.rolling100HitRate > 0 then params.sequenceState.rolling100HitRate
  else 0.65

def regimeAdjusted (baseline improvement : K) (regime : RegimeLabel) : K :=
  match regime with
  | .lowCluster | .deepLow =>
      clamp01 (baseline + if improvement > 0.02 then improvement * 0.55 else 0.02)
  | .volatile => clamp01 (baseline * 0.97)
  | .highActivity => clamp01 (baseline + 0.025)
  | .normal | .anomalous | .unknown => baseline

def momentum (baseline : K) (sequenceState : SequenceState K) : K :=
  let streakBelow := toInt32 sequenceState.currentStreakBelow130
  let streakAbove := toInt32 sequenceState.currentStreakAbove130
  if streakBelow ≥ 1 then
    let bump := (streakBelow : K) * 0.015
    clamp01 (baseline + if bump > 0.12 then 0.12 else bump)
  else if streakAbove ≥ 4 then clamp01 (baseline - 0.03)
  else baseline

def volatilityAdjusted (sqrt : K → K) (baseline : K) (short : ShortWindowStats K) : K :=
  if short.count ≥ 10 then
    let vol := sqrt short.variance
    if vol > 8 then clamp01 (baseline - 0.04)
    else if vol < 2.5 ∧ baseline ≥ 0.6 then clamp01 (baseline + 0.02)
    else baseline
  else baseline

/-- `runModelsInto`: the estimates in the order of the model names. -/
def runModels (sqrt : K → K) (params : EstimateParams K) : List (ModelEstimate K) :=
  let baseline := baseline params
  let cond := TemporalPatternLearner.computeConditionalProbability params.sequenceState
    params.history condMinMatches matchScanLimit
  let short := shortWindowStats params.crashPoints
  let priorA : K := 8
  let priorB : K := 4
  modelNames.zipWith (fun modelName probability => { modelName, probability })
    [
      clamp01 baseline,
      clamp01 cond.conditional,
      clamp01 (regimeAdjusted baseline cond.improvement params.regime),
      clamp01 (fastStreakAware baseline params.sequenceState params.history),
      clamp01 (momentum baseline params.sequenceState),
      clamp01 ((priorA + short.hits) / (priorA + priorB + short.count)),
      clamp01 (volatilityAdjusted sqrt baseline short)
    ]

/-- Weights times the inverse of their sum, if that is positive. -/
def scaled (weights : List K) : List K :=
  let sum := weights.sum
  let inv := if sum > 0 then 1 / sum else 1 / weights.length
  weights.map (· * inv)

/-- The weights that a model has online, with the equal one for a model that is not found. -/
def lookedUp (models : List (ModelEstimate K)) (online : Map String K) : List K :=
  models.map fun model => (online.get model.modelName).getD (1 / models.length)

/-- The static weights, in the order of the model names. -/
def staticWeights (sampleSize : Nat) : List K :=
  if sampleSize ≥ 200 then [0.12, 0.22, 0.14, 0.16, 0.14, 0.12, 0.1]
  else [0.28, 0.18, 0.12, 0.14, 0.12, 0.1, 0.06]

/-- `resolveWeightsInto`. -/
def resolveWeights (models : List (ModelEstimate K)) (sampleSize : Nat)
    (online : Option (Map String K)) : List K :=
  match online with
  | some online =>
      if online.entries.length > 0 then scaled (lookedUp models online)
      else scaled (staticWeights sampleSize)
  | none => scaled (staticWeights sampleSize)

/-- The index of the first of the largest weights, from zero on. -/
def primaryIndex (weights : List K) : Nat :=
  (weights.zipIdx.foldl
    (fun (maxW, primaryIdx) (weight, i) =>
      if weight > maxW then (weight, i) else (maxW, primaryIdx))
    ((-1 : K), 0)).2

def parametricUncertaintyInterval (mean modelUnc : K) : K × K :=
  let spread := if modelUnc > 0.03 then modelUnc else 0.03
  (clamp01 (mean - 1.64 * spread), clamp01 (mean + 1.64 * spread))

/-- The sum of the estimates by their weights, before it is clamped. -/
def blend (models : List (ModelEstimate K)) (weights : List K) : K :=
  mix (models.map (·.probability)) weights

/-- `estimateWithModels`; `estimate` is its first part. -/
def estimateWithModels (sqrt : K → K) (params : EstimateParams K)
    : PSIOutput K × List (ModelEstimate K) :=
  let models := runModels sqrt params
  let weights := resolveWeights models params.history.length params.ensembleWeights
  let primaryIdx := primaryIndex weights
  let estimatedProbability := clamp01 (blend models weights)
  let modelUncertainty := sqrt (varianceInPlace (models.map (·.probability)))
  let dataN := max params.history.length params.crashPoints.length
  let psi :=
    {
      target := acieTarget
      estimatedProbability
      confidenceInterval := parametricUncertaintyInterval estimatedProbability modelUncertainty
      sequenceState := params.sequenceState
      regime := params.regime
      primaryModel := (models[primaryIdx]?.map (·.modelName)).getD "FrequencyModel"
      ensembleWeight := weights[primaryIdx]?.getD 1
      modelUncertainty
      dataUncertainty := 1 / sqrt (if dataN > 0 then dataN else 1 : Nat)
    }
  (psi, models)

def estimate (sqrt : K → K) (params : EstimateParams K) : PSIOutput K :=
  (estimateWithModels sqrt params).1

end PredictiveSequenceIntelligence

/-- The estimates that an engine is constructed with. -/
def acieModels (functions : MathFunctions ℚ) : AcieModels (SequenceState ℚ) where
  computeSequenceState := TemporalPatternLearner.computeSequenceState functions
  detectRegime := TemporalPatternLearner.detectRegime
  estimateWithModels input :=
    let (psi, models) := PredictiveSequenceIntelligence.estimateWithModels functions.sqrt
      {
        crashPoints := input.crashPoints
        sequenceState := input.sequenceState
        regime := input.regime
        history := input.history
        ensembleWeights := some input.ensembleWeights
        ewmaHitRate := some input.ewmaHitRate
      }
    (psi.estimatedProbability,
      models.foldl (fun byName model => byName.set model.modelName model.probability) ∅)
  exp := functions.exp

end CrashWave.Acie
