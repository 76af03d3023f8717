import CrashWave.Prediction.EntryDecision
import CrashWave.Prediction.RollingHistory

/-! `PredictionEngine`: one forecast from the rounds before it, by a registered model. Each call has
a moment of its own; only the name of a signal and its times may come from there.
-/

namespace CrashWave.Prediction

open JavaScript CrashWave.History

structure FeatureVector where
  roundId : Option String
  timestamp : String
  featureVersion : String
  values : String → Option Number
  sampleSize : Nat
  dataQualityScore : Number
  missingFeatureCount : Nat

/-- A regime, with the fields that models read. -/
structure Regime where
  name : String
  anomalyState : Bool
  confidence : Number

/-- What a forecast reads of the world: `randomUUID()` and `new Date()`. -/
structure Moment where
  uuid : String
  now : Int

structure ModelIdentity where
  name : String
  version : String
  featureVersion : String

def ModelIdentity.key (identity : ModelIdentity) : String :=
  identity.name ++ "@" ++ identity.version

structure PredictionOutput where
  predictionId : String
  model : ModelIdentity
  target : Number
  score : Number
  probability : Number
  confidence : Number
  dataQuality : Number
  timestamp : DateText
  expiresAt : DateText

structure PredictiveModel where
  identity : ModelIdentity
  predict : Moment → FeatureVector → Number → Option Regime → PredictionOutput

-----------------------------------------------------------------------------------------
-- The baseline
-----------------------------------------------------------------------------------------

namespace BaselineStatisticalModel

def identity : ModelIdentity where
  name := "baseline-statistical"
  version := "1.0.0"
  featureVersion := featureVersionV2

def targetKey (target : Number) : String :=
  if target = .finite 1.3 then "1_30"
  else if target = 2 then "2_00"
  else if target = 5 then "5_00"
  else "10_00"

/-- The probability before it is clamped. -/
def baseProb (features : FeatureVector) (target : Number) (regime : Option Regime) : Number :=
  let key := targetKey target
  let recent := (features.values ("hit_" ++ key ++ "_50")).getD (.finite 0.3)
  let longProb := (features.values ("hit_" ++ key ++ "_100")).getD recent
  let blended := .finite 0.7 * recent + .finite 0.3 * longProb
  let since := (features.values ("since_" ++ key)).getD 0
  let expectedGap := 1 / Number.max blended (.finite 0.05)
  let overdue :=
    if expectedGap * .finite 1.5 < since then
      Number.min (.finite 0.95) (blended * .finite 1.15)
    else blended
  let consecKey := if target ≤ .finite 1.3 then "consec_below_1_30" else "consec_below_2_00"
  let streaky :=
    if 8 ≤ (features.values consecKey).getD 0 then
      Number.min (.finite 0.95) (overdue * .finite 1.1)
    else overdue
  if regime.any (·.anomalyState) then streaky * .finite 0.7 else streaky

def confidence (features : FeatureVector) (regime : Option Regime) : Number :=
  let sampleFactor := Number.min 1 ((features.values "sample_size").getD 0 / 50)
  Number.max 0 (Number.min 1
    (.finite 0.4 * sampleFactor + .finite 0.4 * features.dataQualityScore
      + .finite 0.2 * (regime.map (·.confidence)).getD (.finite 0.5)))

def predict (moment : Moment) (features : FeatureVector) (target : Number)
    (regime : Option Regime) : PredictionOutput :=
  let probability := Number.max 0 (Number.min 1 (baseProb features target regime))
  {
    predictionId := moment.uuid
    model := identity
    target
    score := probability
    probability
    confidence := confidence features regime
    dataQuality := features.dataQualityScore
    timestamp := .iso moment.now
    expiresAt := .iso (moment.now + 60000)
  }

end BaselineStatisticalModel

/-- `new BaselineStatisticalModel()`. -/
def baselineStatisticalModel : PredictiveModel where
  identity := BaselineStatisticalModel.identity
  predict := BaselineStatisticalModel.predict

-----------------------------------------------------------------------------------------
-- The registry and the engine
-----------------------------------------------------------------------------------------

/-- `ModelRegistry`; its map keeps the order in which the keys were first set. -/
structure PredictiveRegistry where
  models : List (String × PredictiveModel)
  defaultKey : String

namespace PredictiveRegistry

/-- `new ModelRegistry()`. -/
def create : PredictiveRegistry where
  models := [(baselineStatisticalModel.identity.key, baselineStatisticalModel)]
  defaultKey := baselineStatisticalModel.identity.key

variable (registry : PredictiveRegistry)

def get (name : String) (version : Option String) : Option PredictiveModel :=
  if truthy version then registry.models.lookup (name ++ "@" ++ version.getD "")
  else ((registry.models.filter fun entry => entry.1.startsWith (name ++ "@")).getLast?).map (·.2)

def getDefault : Except String PredictiveModel :=
  match registry.models.lookup registry.defaultKey with
  | none => .error "No default model registered"
  | some model => .ok model

end PredictiveRegistry

structure PredictRequest where
  priorRounds : List HistoricalRound
  targetRoundId : Option String
  timestamp : String
  target : Option Number
  modelName : Option String
  modelVersion : Option String

/-- The engine with the features and regimes of its components. -/
structure PredictionEngine where
  buildVector : List HistoricalRound → Option String → String → FeatureVector
  detect : List HistoricalRound → String → Regime
  registry : PredictiveRegistry := .create

def toSignal (output : PredictionOutput) : PredictionSignal where
  predictionId := output.predictionId
  timestamp := output.timestamp
  modelVersion := output.model.key
  featureVersion := output.model.featureVersion
  target := output.target
  score := output.score
  probability := output.probability
  confidence := output.confidence
  dataQuality := output.dataQuality
  expiresAt := output.expiresAt

namespace PredictionEngine

variable (engine : PredictionEngine)

def model (req : PredictRequest) : Except String PredictiveModel :=
  if truthy req.modelName then
    match engine.registry.get (req.modelName.getD "") req.modelVersion with
    | some model => .ok model
    | none => engine.registry.getDefault
  else engine.registry.getDefault

/-- The moments are those of this call and the later ones. -/
def predict (moments : Nat → Moment) (req : PredictRequest)
    : Except String ((Nat → Moment) × PredictionSignal) := do
  let target := req.target.getD (.finite 1.3)
  let features := engine.buildVector req.priorRounds req.targetRoundId req.timestamp
  let regime := engine.detect req.priorRounds req.timestamp
  let model ← engine.model req
  return (fun call => moments (call + 1),
    toSignal (model.predict (moments 0) features target (some regime)))

end PredictionEngine

-----------------------------------------------------------------------------------------
-- The default engine
-----------------------------------------------------------------------------------------

/-- Whatever is asked for, a new registry has the baseline. -/
theorem model_of_create {engine : PredictionEngine} (fresh : engine.registry = .create)
    (req : PredictRequest)
    : engine.model req = .ok baselineStatisticalModel := by
  have fallback : PredictiveRegistry.create.getDefault = .ok baselineStatisticalModel := by
    rw [PredictiveRegistry.getDefault, PredictiveRegistry.create, List.lookup_cons_self]
  have only {name version found} (got : PredictiveRegistry.create.get name version = some found)
      : found = baselineStatisticalModel := by
    unfold PredictiveRegistry.get PredictiveRegistry.create at got
    split at got
    · rw [List.lookup_cons] at got
      split at got
      · exact (Option.some_inj.mp got).symm
      · cases got
    · obtain ⟨entry, last, rfl⟩ := Option.map_eq_some_iff.mp got
      have listed := List.mem_of_mem_filter (List.mem_of_getLast? last)
      rw [List.mem_singleton.mp listed]
  rw [PredictionEngine.model, fresh]
  split
  · split
    · next found got => rw [only got]
    · exact fallback
  · exact fallback

/-- The signal of the default engine: the moment gives its name and its times and nothing else. -/
theorem predict_of_create {engine : PredictionEngine} (fresh : engine.registry = .create)
    (moments : Nat → Moment) (req : PredictRequest)
    : engine.predict moments req
      = .ok (fun call => moments (call + 1),
          toSignal (BaselineStatisticalModel.predict (moments 0)
            (engine.buildVector req.priorRounds req.targetRoundId req.timestamp)
            (req.target.getD (.finite 1.3))
            (some (engine.detect req.priorRounds req.timestamp)))) := by
  rw [PredictionEngine.predict, model_of_create fresh]
  rfl

end CrashWave.Prediction
