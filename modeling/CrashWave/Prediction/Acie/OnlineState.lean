import CrashWave.JavaScript.FixedPoint
import CrashWave.JavaScript.Map
import CrashWave.JavaScript.Number

/-! The online state of the adaptive engine and its update at every crash. Numbers are those of an
ordered field, and exact; the exponential, and the sequence states with their logarithms, are the
caller's.
-/

namespace CrashWave.Acie

open JavaScript

inductive RegimeLabel where
  | normal
  | lowCluster
  | volatile
  | highActivity
  | deepLow
  | anomalous
  | unknown
  deriving DecidableEq

/-- `ACIE_TARGET`. -/
def acieTarget {K : Type} [Field K] : K := 1.3

structure OnlineCalibrationBucket (K : Type) [Zero K] where
  sumPredicted : K := 0
  sumActual : K := 0
  count : Nat := 0
  deriving DecidableEq

/-- The reasons of a drift snapshot, with the numbers that their texts show. -/
inductive DriftReason (K : Type) where
  | insufficientData
  | warmingUp
  | residualBias (bias : K)
  | shortBrier (short long : K)
  | stable
  deriving DecidableEq

structure DriftSnapshot (K : Type) [Zero K] where
  detected : Bool := false
  brierShort : K := 0
  brierLong : K := 0
  residualBias : K := 0
  reason : DriftReason K := .insufficientData
  deriving DecidableEq

/-- `MODEL_NAMES`. -/
def modelNames : List String :=
  ["FrequencyModel", "ConditionalFrequencyModel", "RegimeAdjustedModel", "StreakAwareModel",
    "MomentumReversionModel", "ShortWindowBayesianModel", "VolatilityAdjustedModel"]

def equalWeight {K : Type} [Field K] : K := 1 / modelNames.length

/-- Every model with its weight. -/
def weighted {K : Type} (weight : String → K) : Map String K :=
  modelNames.foldl (fun weights name => weights.set name (weight name)) ∅

/-- The online state, over the type of numbers and that of sequence states. -/
structure OnlineAdaptiveState (K σ : Type) [Field K] where
  observationCount : Nat := 0
  ewmaHitRate : K := 0.65
  ewmaBrier : K := 0.25
  ewmaResidual : K := 0
  ensembleWeights : Map String K := weighted fun _ => equalWeight
  calibrationBuckets : List (OnlineCalibrationBucket K) := List.replicate 10 {}
  recentSquaredErrors : List K := []
  longSquaredErrors : List K := []
  lastDrift : DriftSnapshot K := {}
  lastRegime : RegimeLabel := .unknown
  regimeDuration : Nat := 0
  consecutiveBelow : Nat := 0
  consecutiveAbove : Nat := 0
  sequenceState : Option σ := none
  lastPsiProbability : K := 0.65
  sinceHeavyValidation : Nat := 0
  lastHeavyValidationAt : Nat := 0

/-- What is known of a crash when the online state learns it. -/
structure OnlineUpdate (K σ : Type) where
  crashPoint : K
  psiProbability : K
  modelProbabilities : Map String K
  sequenceState : σ
  regime : RegimeLabel
  alpha : K
  shortWindow : Number := 50
  longWindow : Number := 200

def mean {K : Type} [Field K] (xs : List K) : K := if xs.length = 0 then 0 else xs.sum / xs.length

/-- A window with a new value, without its oldest one if it was full. -/
def pushWindow {α : Type} (window : List α) (size : Number) (value : α) : List α :=
  let window := window ++ [value]
  if size < .finite window.length then window.drop 1 else window

namespace OnlineAdaptiveState

variable {K σ : Type} [Field K] [LinearOrder K] [FloorRing K]

def computeDrift (state : OnlineAdaptiveState K σ) : DriftSnapshot K :=
  let brierShort := mean state.recentSquaredErrors
  let brierLong := mean state.longSquaredErrors
  let residualBias := state.ewmaResidual
  if state.recentSquaredErrors.length < 20 ∨ state.longSquaredErrors.length < 40 then
    { brierShort, brierLong, residualBias, reason := .warmingUp }
  else
    let ratio := if brierLong > 1 / 1000000 then brierShort / brierLong else 1
    let biasBad := decide (|residualBias| > 0.12)
    let brierBad := decide (ratio > 1.25 ∧ brierShort > 0.22)
    let reason :=
      if biasBad then .residualBias (toFixedSigned 3 residualBias)
      else if brierBad then .shortBrier (toFixed 3 brierShort) (toFixed 3 brierLong)
      else .stable
    { detected := biasBad || brierBad, brierShort, brierLong, residualBias, reason }

/-- The weights after an outcome: models closer to it gain, and all are scaled to sum to one. -/
def reweighted (exp : K → K) (state : OnlineAdaptiveState K σ) (modelProbabilities : Map String K)
    (p actual : K) : Map String K :=
  let raw (name : String) : K :=
    let residual := (modelProbabilities.get name).getD p - actual
    let score := exp (-3 * (residual * residual))
    (state.ensembleWeights.get name).getD equalWeight * (0.9 + 0.1 * score)
  let weightSum := (modelNames.map raw).sum
  modelNames.foldl
    (fun weights name =>
      weights.set name (if weightSum > 0 then raw name / weightSum else raw name))
    state.ensembleWeights

/-- The buckets with a prediction and its outcome. -/
def bucketed (buckets : List (OnlineCalibrationBucket K)) (p actual : K)
    : List (OnlineCalibrationBucket K) :=
  buckets.modify (min 9 ⌊p * (10 : ℕ)⌋.toNat) fun bucket =>
    {
      sumPredicted := bucket.sumPredicted + p
      sumActual := bucket.sumActual + actual
      count := bucket.count + 1
    }

/-- `applyOnlineUpdate`. -/
def applyOnlineUpdate (exp : K → K) (state : OnlineAdaptiveState K σ) (params : OnlineUpdate K σ)
    : OnlineAdaptiveState K σ :=
  let alpha := params.alpha
  let reached := decide (acieTarget ≤ params.crashPoint)
  let actual : K := if reached then 1 else 0
  let p := max 0.01 (min 0.99 params.psiProbability)
  let residual := p - actual
  let sq := residual * residual
  let next : OnlineAdaptiveState K σ :=
    {
      observationCount := state.observationCount + 1
      ewmaHitRate := alpha * actual + (1 - alpha) * state.ewmaHitRate
      ewmaBrier := alpha * sq + (1 - alpha) * state.ewmaBrier
      ewmaResidual := alpha * residual + (1 - alpha) * state.ewmaResidual
      ensembleWeights := state.reweighted exp params.modelProbabilities p actual
      calibrationBuckets := bucketed state.calibrationBuckets p actual
      recentSquaredErrors := pushWindow state.recentSquaredErrors params.shortWindow sq
      longSquaredErrors := pushWindow state.longSquaredErrors params.longWindow sq
      lastDrift := state.lastDrift
      lastRegime := params.regime
      regimeDuration :=
        if params.regime = state.lastRegime then state.regimeDuration + 1 else 1
      consecutiveBelow := if reached then 0 else state.consecutiveBelow + 1
      consecutiveAbove := if reached then state.consecutiveAbove + 1 else 0
      sequenceState := some params.sequenceState
      lastPsiProbability := p
      sinceHeavyValidation := state.sinceHeavyValidation
      lastHeavyValidationAt := state.lastHeavyValidationAt
    }
  { next with
    lastDrift := next.computeDrift
    sinceHeavyValidation := state.sinceHeavyValidation + 1 }

@[simp] theorem applyOnlineUpdate_sinceHeavyValidation (exp : K → K)
    (state : OnlineAdaptiveState K σ) (params : OnlineUpdate K σ)
    : (state.applyOnlineUpdate exp params).sinceHeavyValidation
      = state.sinceHeavyValidation + 1 :=
  rfl

@[simp] theorem applyOnlineUpdate_lastHeavyValidationAt (exp : K → K)
    (state : OnlineAdaptiveState K σ) (params : OnlineUpdate K σ)
    : (state.applyOnlineUpdate exp params).lastHeavyValidationAt = state.lastHeavyValidationAt :=
  rfl

@[simp] theorem applyOnlineUpdate_observationCount (exp : K → K)
    (state : OnlineAdaptiveState K σ) (params : OnlineUpdate K σ)
    : (state.applyOnlineUpdate exp params).observationCount = state.observationCount + 1 :=
  rfl

end OnlineAdaptiveState

end CrashWave.Acie
