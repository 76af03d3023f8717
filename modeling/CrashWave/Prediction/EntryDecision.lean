import CrashWave.Betting.RiskEngine

/-! `EntryDecisionService.evaluateEntry`. What the other components answer during one call
is an environment; `none` is a promise that rejects.
-/

namespace CrashWave.Prediction

open JavaScript CrashWave.Betting

/-- A prediction signal, with the fields that decisions read. -/
structure PredictionSignal where
  predictionId : String
  timestamp : DateText
  modelVersion : String
  featureVersion : String
  target : Number
  score : Number
  probability : Number
  confidence : Number
  dataQuality : Number
  expiresAt : DateText
  deriving DecidableEq

/-- What the risk engine is shown of a signal. -/
def PredictionSignal.forRisk (signal : PredictionSignal) : RiskSignal where
  predictionId := signal.predictionId
  probability := signal.probability
  confidence := signal.confidence
  target := signal.target
  expiresAt := signal.expiresAt
  dataQuality := signal.dataQuality

/-- `FEATURE_VERSION_V2`. -/
def featureVersionV2 : String := "fv-2.0.0"

/-- Whether `assertFeatureVersionMatch` passes; an empty version is not checked. -/
def featureVersionMatches (stored : String) : Bool :=
  stored = "" ∨ stored = featureVersionV2

/-- The context of a decision. -/
structure EntryDecisionContext where
  decisionTimestamp : DateText
  riskInput : RiskEvaluationInput
  target : Option Number := none
  historyLimit : Option Number := none
  minHistory : Option Number := none

/-- The evaluation of the adaptive engine, with the fields that decisions read. `signal`
says whether its strategy offers an entry.
-/
structure AcieEvaluation where
  modelUncertainty : Number
  signal : Bool

/-- What the pipeline recommends. -/
inductive PipelineAction where
  | entry
  | reducedEntry
  | skip
  deriving DecidableEq

/-- The result of the prediction pipeline: what decisions read of it, and what its own
recommendation is derived from.
-/
structure PipelineResult where
  predictionId : String
  target : Number
  calibratedProbability : Number
  opportunityConfidence : Number
  opportunityScore : Number
  threshold : Number
  entriesAllowed : Bool

/-- The recommendation at the end of `runPredictionPipeline`. -/
def PipelineResult.action (pipeline : PipelineResult) : PipelineAction :=
  if !pipeline.entriesAllowed then .skip
  else if pipeline.calibratedProbability < pipeline.threshold then .skip
  else if pipeline.opportunityScore ≤ 0 then .skip
  else if pipeline.threshold + .finite (5 / 100) ≤ pipeline.calibratedProbability then .entry
  else .reducedEntry

/-- The configuration of the service. -/
structure EntryDecisionService where
  preferAcie : Bool := true
  usePipeline : Bool := true

/-- What the other components answer during one decision. -/
structure DecisionEnvironment where
  /-- `isReadyForLive()`. -/
  readyForLive : Bool
  /-- Whether the history buffer is warmed. -/
  historyWarmed : Bool
  /-- The number of prior rounds found under a limit. -/
  recentRounds : Number → Nat
  /-- `acie.historySize()`, after seeding. -/
  acieHistorySize : Nat
  /-- `acie.evaluateNext(..)`. -/
  acieEvaluation : AcieEvaluation
  /-- The calibrated probability of the adaptive engine. -/
  calibratedProbability : Number
  /-- The model and feature versions of the state snapshot. -/
  snapshotModelVersion : String
  snapshotFeatureVersion : String
  /-- `randomUUID()`. -/
  newPredictionId : String
  /-- The legacy prediction, if its engine does not throw. -/
  legacyPrediction : Option PredictionSignal
  /-- `runPredictionPipeline(..)`. -/
  pipeline : PipelineResult
  /-- Whether `assertPredictionWarmForLive` passes for a history length. -/
  predictionWarm : Nat → Bool
  /-- `globalProductionController.status().entriesAllowed`. -/
  productionEntriesAllowed : Bool
  /-- `sheathMode?.isPredictionEntriesBlocked()`. -/
  sheathBlocked : Bool
  /-- Whether the financial circuit breaker is open. -/
  circuitOpen : Bool
  /-- `Date.now()` in the risk engine. -/
  riskTime : Number

/-- The result of a decision, with the input that the risk engine was given. -/
structure EntryDecisionResult where
  signal : Option PredictionSignal
  riskResult : RiskEvaluationResult
  evaluatedInput : RiskEvaluationInput

variable (service : EntryDecisionService) (env : DecisionEnvironment)
  (ctx : EntryDecisionContext)

/-- The mode of the risk input is live. -/
def EntryDecisionContext.isLive : Bool := ctx.riskInput.mode = .live

/-- `prior.length`. -/
def priorLength : Nat := env.recentRounds (ctx.historyLimit.getD 100)

/-- Whether there is enough history for a prediction. -/
def enoughHistory : Bool :=
  let minHistory := ctx.minHistory.getD 20
  minHistory ≤ .finite (priorLength env ctx) ∨ minHistory ≤ .finite env.acieHistorySize

/-- The signal of the adaptive engine; its expiry cannot be written for an invalid
decision time.
-/
def acieSignal : Option PredictionSignal :=
  (ctx.decisionTimestamp.shifted 45000).map fun expires =>
    { predictionId := env.newPredictionId
      timestamp := ctx.decisionTimestamp
      modelVersion := env.snapshotModelVersion
      featureVersion := env.snapshotFeatureVersion
      target := ctx.target.getD (.finite (13 / 10))
      score := env.calibratedProbability
      probability := env.calibratedProbability
      confidence :=
        Number.max 0 (Number.min 1 (1 - env.acieEvaluation.modelUncertainty))
      dataQuality := Number.min 1 (.finite (env.acieHistorySize / 200))
      expiresAt := expires }

/-- `applyPipelineToSignal`. The recommended action is not among what it copies. -/
def applyPipelineToSignal (pipeline : PipelineResult) (signal : PredictionSignal)
    : PredictionSignal :=
  { signal with
    predictionId :=
      if pipeline.predictionId ≠ "" then pipeline.predictionId else signal.predictionId
    target := pipeline.target
    score := pipeline.calibratedProbability
    probability := pipeline.calibratedProbability
    confidence := pipeline.opportunityConfidence }

/-- The pipeline, when the service uses it. -/
def throughPipeline (signal : PredictionSignal) : PredictionSignal :=
  if service.usePipeline then applyPipelineToSignal env.pipeline signal else signal

/-- The legacy prediction, made only when the adaptive engine is not preferred and the
rounds suffice on their own.
-/
def legacySignal : Option PredictionSignal :=
  if !service.preferAcie ∧ ctx.minHistory.getD 20 ≤ .finite (priorLength env ctx) then
    env.legacyPrediction
  else
    none

/-- The signal before it is checked: nothing where the promise rejects. -/
def candidateSignal : Option (Option PredictionSignal) :=
  if service.preferAcie then
    (acieSignal env ctx).map fun signal => some (throughPipeline service env signal)
  else
    some ((legacySignal service env ctx).map (throughPipeline service env))

/-- `value` is a finite number of the unit interval. -/
def inUnitInterval (value : Number) : Bool :=
  !(!value.isFinite ∨ value < 0 ∨ 1 < value)

/-- `isSignalFresh(signal, 60_000, now)`. -/
def isSignalFresh (signal : PredictionSignal) (now : DateText) : Bool :=
  if signal.expiresAt.getTime ≤ now.getTime then false
  else now.getTime - signal.timestamp.getTime ≤ 60000

/-- The checks a signal passes to be kept. -/
def keepsSignal (signal : PredictionSignal) : Bool :=
  inUnitInterval signal.probability ∧ inUnitInterval signal.confidence
  ∧ isSignalFresh signal ctx.decisionTimestamp

/-- A kept signal is labelled by assigning to its fields, which throws on the frozen
signals of the legacy engine; the pipeline returns a fresh object.
-/
def labelSignal (signal : PredictionSignal) : Option PredictionSignal :=
  if !service.preferAcie ∧ !service.usePipeline then none
  else some { signal with modelVersion := "acie-v3" }

/-- The signal of a warmed service: a candidate that is kept and labelled. -/
def decidedSignal : Option (Option PredictionSignal) :=
  if !enoughHistory env ctx then some none
  else
    match candidateSignal service env ctx with
    | none => none
    | some none => some none
    | some (some signal) =>
        if keepsSignal ctx signal then (labelSignal service signal).map some else some none

/-- The adaptive engine was asked and its strategy offers no entry. -/
def acieDeclines : Bool := enoughHistory env ctx ∧ env.acieEvaluation.signal = false

/-- In live mode the feature version of a signal does not match. -/
def versionMismatch (signal : Option PredictionSignal) : Bool :=
  ctx.isLive ∧ signal.any fun signal => !featureVersionMatches signal.featureVersion

/-- In live mode the incremental state is cold. -/
def stackCold : Bool := ctx.isLive ∧ env.predictionWarm 40 = false

/-- The production controller or the sheath blocks entries. -/
def entriesBlocked : Bool := env.productionEntriesAllowed = false ∨ env.sheathBlocked

/-- The signal that the risk engine gets, which is the caller's own where there is none and
nothing where a gate removes it. The version check does not reach it.
-/
def presentedSignal (signal : Option PredictionSignal) : Option RiskSignal :=
  if acieDeclines env ctx ∧ service.preferAcie ∨ stackCold env ctx ∨ entriesBlocked env then
    none
  else
    match signal with
    | some signal => some signal.forRisk
    | none => ctx.riskInput.predictionSignal

/-- The signal that is returned. -/
def returnedSignal (signal : Option PredictionSignal) : Option PredictionSignal :=
  if versionMismatch ctx signal ∨ stackCold env ctx then none else signal

/-- The verdict of the risk engine on the context with the given signal. -/
def judge (signal : Option PredictionSignal) (presented : Option RiskSignal)
    : EntryDecisionResult :=
  let riskInput := { ctx.riskInput with predictionSignal := presented }
  { signal
    riskResult := evaluateRisk env.circuitOpen env.riskTime riskInput
    evaluatedInput := riskInput }

/-- `evaluateEntry`. -/
def evaluateEntry : Option EntryDecisionResult :=
  if ctx.isLive ∧ !env.readyForLive then
    let riskResult := evaluateRisk env.circuitOpen env.riskTime ctx.riskInput
    some
      { signal := none
        riskResult :=
          { riskResult with
            approved := false
            rejectionReason := some "PREDICTION_NOT_READY"
            firstFailure := some "prediction_not_ready" }
        evaluatedInput := ctx.riskInput }
  else if !env.historyWarmed then
    some (judge env ctx none none)
  else
    (decidedSignal service env ctx).map fun signal =>
      judge env ctx (returnedSignal env ctx signal) (presentedSignal service env ctx signal)

end CrashWave.Prediction
