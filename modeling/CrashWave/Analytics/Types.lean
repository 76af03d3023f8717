import CrashWave.JavaScript.Number

/-! The records of the analytics. Amounts of the drawdown are over any numbers, the others are
JavaScript's.
-/

namespace CrashWave.Analytics

open JavaScript

inductive WindowType where
  | last10
  | last50
  | last100
  | last500
  | session
  | day
  | week
  | month
  | all
  deriving DecidableEq

/-- How a bet ended. -/
inductive BetOutcome where
  | win
  | loss
  | failed
  | unknown
  deriving DecidableEq

structure BetOutcomeRecord (K : Type*) where
  betId : String
  roundId : String
  dailyKey : String
  timestamp : DateText
  outcome : BetOutcome
  pnl : K
  stake : K
  target : K
  cashOutMultiplier : Option K
  latencyMs : Option K
  cashOutSuccess : Option Bool
  failureReason : Option String

-----------------------------------------------------------------------------------------
-- Metrics
-----------------------------------------------------------------------------------------

structure ConfidenceInterval where
  confidenceLevel : Number
  lower : Number
  upper : Number
  margin : Number
  sampleSize : Number
  isValid : Bool

structure WilsonScoreInterval extends ConfidenceInterval where
  center : Number
  zScore : Number

inductive StatisticalSignificance where
  | significantAbove
  | significantBelow
  | inconclusive
  | insufficientData
  deriving DecidableEq

structure HitRateMetrics where
  observedRate : Number
  breakEvenRate : Number
  confidenceInterval : WilsonScoreInterval
  sampleSize : Number
  isAboveBreakEven : Bool
  breakEvenWithinCI : Bool
  statisticalSignificance : StatisticalSignificance

inductive DrawdownSeverity where
  | none
  | mild
  | moderate
  | severe
  | critical
  deriving DecidableEq

structure DrawdownMetrics (K : Type*) where
  maxDrawdown : K
  currentDrawdown : K
  peakEquity : K
  currentEquity : K
  underwaterDuration : Nat
  maxUnderwaterDuration : Nat
  recoveryCount : Nat
  isUnderwater : Bool
  drawdownSeverity : DrawdownSeverity
  deriving DecidableEq

structure DrawdownPoint (K : Type*) where
  timestamp : DateText
  equity : K
  peakEquity : K
  drawdown : K
  isUnderwater : Bool
  durationUnderwater : Nat
  deriving DecidableEq

inductive StreakType where
  | win
  | loss
  | none
  deriving DecidableEq

structure StreakDistribution where
  length : Number
  count : Number
  frequency : Number

structure StreakMetrics where
  currentWinStreak : Number
  currentLossStreak : Number
  maxWinStreak : Number
  maxLossStreak : Number
  currentStreakType : StreakType
  winStreakDistribution : List StreakDistribution
  lossStreakDistribution : List StreakDistribution
  expectedMaxWinStreak : Number
  expectedMaxLossStreak : Number
  streakAnomalyScore : Number

structure ExpectedValueMetrics where
  theoreticalEvPerEntry : Number
  realizedEvPerEntry : Number
  cumulativeExpectedPnl : Number
  cumulativeRealizedPnl : Number
  evVariance : Number
  evStandardError : Number
  evConfidenceInterval : ConfidenceInterval
  evAccuracy : Number

inductive LatencyType where
  | observation
  | execution
  | cashout
  deriving DecidableEq

structure LatencySample where
  timestamp : DateText
  type : LatencyType
  latencyMs : Number
  roundId : Option String
  betId : Option String

inductive DegradationTrend where
  | improving
  | stable
  | degrading
  | critical
  deriving DecidableEq

structure LatencyMetrics where
  observationLatencyMs : Number
  executionLatencyMs : Number
  cashoutLatencyMs : Number
  p50 : Number
  p95 : Number
  p99 : Number
  max : Number
  min : Number
  sampleCount : Number
  degradationTrend : DegradationTrend

inductive TrendDirection where
  | improving
  | stable
  | worsening
  deriving DecidableEq

structure CashOutSuccessMetrics where
  successRate : Number
  failureRate : Number
  totalAttempts : Number
  successfulCashouts : Number
  failedCashouts : Number
  timeoutCount : Number
  prematureCrashCount : Number
  errorCount : Number
  trendDirection : TrendDirection
  failureModeBreakdown : List (String × Number)

inductive ObservationConfidence where
  | high
  | medium
  | low
  deriving DecidableEq

-----------------------------------------------------------------------------------------
-- Recommendations
-----------------------------------------------------------------------------------------

inductive RecommendationType where
  | continue
  | pause
  | dryRun
  | stop
  | review
  | reduceExposure
  deriving DecidableEq

structure Recommendation where
  type : RecommendationType
  priority : Number
  message : String
  rationale : String
  triggeredBy : List String
  confidence : Number
  triggeredAt : DateText
  window : WindowType

-----------------------------------------------------------------------------------------
-- Anomalies
-----------------------------------------------------------------------------------------

inductive AnomalySeverity where
  | minor
  | moderate
  | critical
  deriving DecidableEq

inductive AnomalyCategory where
  | hitRateDrop
  | cashoutFailureSpike
  | latencySpike
  | balanceMismatch
  | losingStreak
  | failedEntrySpike
  | observationDegradation
  | reconnectLoop
  | unknownOutcomeSpike
  | drawdownSpike
  deriving DecidableEq

/-- The parts that an anomaly's id is put together from. -/
structure AnomalyId where
  category : AnomalyCategory
  timestamp : DateText
  random : String

/-- An anomaly flag without its id. -/
structure AnomalyParams where
  category : AnomalyCategory
  severity : AnomalySeverity
  message : String
  metricName : String
  observedValue : Number
  expectedValue : Number
  deviationSigma : Number
  threshold : Number
  timestamp : DateText
  window : WindowType
  recommendedAction : String

structure AnomalyFlag extends AnomalyParams where
  id : AnomalyId

/-- The settings of a category, any of which may be missing. -/
structure CategoryConfig where
  enabled : Bool
  thresholdSigma : Option Number
  minSamples : Option Number
  cooldownMs : Option Number

structure AnomalyConfig where
  enabled : Bool
  categories : AnomalyCategory → Option CategoryConfig

structure MetricSnapshot where
  timestamp : DateText
  window : WindowType
  hitRate : HitRateMetrics
  drawdown : DrawdownMetrics Number
  streaks : StreakMetrics
  expectedValue : ExpectedValueMetrics
  latency : LatencyMetrics
  cashOutSuccess : CashOutSuccessMetrics
  recommendations : List Recommendation
  anomalies : List AnomalyFlag

end CrashWave.Analytics
