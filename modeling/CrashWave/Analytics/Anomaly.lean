import CrashWave.Analytics.Types
import CrashWave.Cooldowns.Basic
import CrashWave.JavaScript.Map

/-! The detection of anomalies: ten checks, each of which may raise its category, and the map of
the cooldowns that hold a raised flag back.
-/

namespace CrashWave.Analytics

open JavaScript Cooldowns

/-- What the checks need of numbers beyond the arithmetic: roots, logarithms and texts. -/
structure MathFunctions where
  sqrt : Number → Number
  log : Number → Number
  toFixed : Number → Nat → String
  toString : Number → String

structure BalanceMismatch where
  observed : Number
  expected : Number
  difference : Number

structure AnomalyInput where
  outcomes : List (BetOutcomeRecord Number)
  hitRate : HitRateMetrics
  drawdown : DrawdownMetrics Number
  streaks : StreakMetrics
  latency : LatencyMetrics
  cashOutSuccess : CashOutSuccessMetrics
  window : WindowType
  balanceMismatch : Option BalanceMismatch := none
  reconnectCount : Option Number := none
  observationConfidence : Option ObservationConfidence

-----------------------------------------------------------------------------------------
-- Statistics
-----------------------------------------------------------------------------------------

/-- A whole number of things. -/
def count (n : Nat) : Number := .finite n

namespace MathFunctions

variable (math : MathFunctions)

def computeZScore (observed expected sampleSize : Number) : Number :=
  if sampleSize ≤ 0 then 0
  else
    let se :=
      if 0 < expected ∧ expected ≤ 1 then math.sqrt (expected * (1 - expected) / sampleSize)
      else expected * .finite 0.20 / math.sqrt sampleSize
    if se = 0 ∨ !se.isFinite then 0 else (observed - expected) / se

def computeZScoreForProportion (observedRate expectedRate sampleSize : Number) : Number :=
  if sampleSize ≤ 0 then 0
  else
    let se := math.sqrt (expectedRate * (1 - expectedRate) / sampleSize)
    if se = 0 then 0 else (observedRate - expectedRate) / se

def expectedMaxStreakLength (n p : Number) : Number :=
  if n ≤ 0 ∨ p ≤ 0 ∨ 1 ≤ p then 1
  else
    let eulerMascheroni := .finite 0.5772156649015329
    let logDenom := math.log (1 / p)
    Number.max 1
      (math.log (n * (1 - p)) / logDenom + eulerMascheroni / logDenom - .finite 0.5)

def estimateExpectedMaxDrawdown (n winRate winAmount lossAmount : Number) : Number :=
  if 1 ≤ winRate then 0
  else
    let expectedReturn := winRate * winAmount - (1 - winRate) * lossAmount
    let fromWin := winAmount - expectedReturn
    let fromLoss := lossAmount.neg - expectedReturn
    let variance := winRate * (fromWin * fromWin) + (1 - winRate) * (fromLoss * fromLoss)
    let stdDev := math.sqrt variance
    let driftAdjustment := if 0 ≤ expectedReturn then 1 else 1 + expectedReturn.abs / stdDev
    stdDev * math.sqrt (2 * math.log (n.max 2)) * driftAdjustment

/-- `${(rate * 100).toFixed(1)}%`. -/
def percent (rate : Number) : String := math.toFixed (rate * 100) 1 ++ "%"

end MathFunctions

-----------------------------------------------------------------------------------------
-- The checks
-----------------------------------------------------------------------------------------

/-- A win or a loss. -/
def BetOutcomeRecord.resolved {K : Type*} (record : BetOutcomeRecord K) : Bool :=
  record.outcome = .win ∨ record.outcome = .loss

section

variable (math : MathFunctions) (timestamp : DateText) (input : AnomalyInput)
  (settings : CategoryConfig)

def hitRateDrop : Option AnomalyParams :=
  if settings.minSamples.getD 50 ≤ input.hitRate.sampleSize then
    let expectedHitRate := input.hitRate.breakEvenRate
    let observedHitRate := input.hitRate.observedRate
    let sigma := math.computeZScore observedHitRate expectedHitRate input.hitRate.sampleSize
    let threshold := settings.thresholdSigma.getD (.finite 2.5)
    if sigma < threshold.neg then
      some
        { category := .hitRateDrop
          severity := if sigma < .finite (-3.5) then .critical else .moderate
          message := "Hit rate dropped to " ++ math.percent observedHitRate ++ ", "
            ++ math.toFixed sigma.abs 1 ++ " sigma below break-even "
            ++ math.percent expectedHitRate
          metricName := "hit_rate"
          observedValue := observedHitRate
          expectedValue := expectedHitRate
          deviationSigma := sigma.abs
          threshold
          timestamp
          window := input.window
          recommendedAction := "Switch to dry-run mode and observe more rounds." }
    else none
  else none

def cashoutFailureSpike : Option AnomalyParams :=
  if settings.minSamples.getD 20 ≤ input.cashOutSuccess.totalAttempts then
    let failureRate := input.cashOutSuccess.failureRate
    let expectedFailureRate := .finite 0.02
    let sigma :=
      math.computeZScoreForProportion failureRate expectedFailureRate
        input.cashOutSuccess.totalAttempts
    let threshold := settings.thresholdSigma.getD 2
    if threshold < sigma then
      some
        { category := .cashoutFailureSpike
          severity := if .finite 0.1 < failureRate then .critical else .moderate
          message := "Cash-out failure rate spiked to " ++ math.percent failureRate ++ ", "
            ++ math.toFixed sigma 1 ++ " sigma above baseline"
          metricName := "cashout_failure_rate"
          observedValue := failureRate
          expectedValue := expectedFailureRate
          deviationSigma := sigma
          threshold
          timestamp
          window := input.window
          recommendedAction :=
            "Stop betting immediately and investigate cash-out execution pipeline." }
    else none
  else none

def latencySpike : Option AnomalyParams :=
  if settings.minSamples.getD 30 ≤ input.latency.sampleCount then
    let p95 := input.latency.p95
    let expectedP95 := 500
    let sigma := math.computeZScore p95 expectedP95 input.latency.sampleCount
    let threshold := settings.thresholdSigma.getD 3
    if threshold < sigma then
      some
        { category := .latencySpike
          severity := if 2000 < p95 then .critical else .moderate
          message := "P95 latency spiked to " ++ math.toFixed p95 0 ++ "ms, "
            ++ math.toFixed sigma 1 ++ " sigma above baseline"
          metricName := "latency_p95"
          observedValue := p95
          expectedValue := expectedP95
          deviationSigma := sigma
          threshold
          timestamp
          window := input.window
          recommendedAction := "Pause betting and investigate network/browser performance." }
    else none
  else none

def balanceMismatch : Option AnomalyParams :=
  match input.balanceMismatch with
  | none => none
  | some mismatch =>
      let diff := mismatch.difference.abs
      let tolerance := mismatch.expected * .finite 0.01
      if tolerance < diff then
        some
          { category := .balanceMismatch
            severity := if tolerance * 5 < diff then .critical else .moderate
            message := "Balance mismatch detected: observed "
              ++ math.toFixed mismatch.observed 2 ++ " vs expected "
              ++ math.toFixed mismatch.expected 2 ++ " (diff: "
              ++ math.toFixed mismatch.difference 2 ++ ")"
            metricName := "balance_difference"
            observedValue := diff
            expectedValue := tolerance
            deviationSigma := diff / tolerance
            threshold := settings.thresholdSigma.getD 2
            timestamp
            window := input.window
            recommendedAction := "Stop betting and perform full reconciliation." }
      else none

def losingStreak : Option AnomalyParams :=
  if 3 ≤ input.streaks.currentLossStreak then
    let resolved := input.outcomes.filter BetOutcomeRecord.resolved
    let n := count resolved.length
    let lossRate := count (resolved.countP (·.outcome = .loss)) / n
    let expectedMaxLossStreak := math.expectedMaxStreakLength n lossRate
    let deviation := input.streaks.currentLossStreak - expectedMaxLossStreak
    let sigma := if 0 < deviation then deviation else 0
    let threshold := settings.thresholdSigma.getD (.finite 2.5)
    if threshold < sigma then
      some
        { category := .losingStreak
          severity := if 8 < input.streaks.currentLossStreak then .critical else .moderate
          message := "Losing streak of " ++ math.toString input.streaks.currentLossStreak
            ++ " bets, expected max was " ++ math.toFixed expectedMaxLossStreak 1
          metricName := "loss_streak_length"
          observedValue := input.streaks.currentLossStreak
          expectedValue := expectedMaxLossStreak
          deviationSigma := sigma
          threshold
          timestamp
          window := input.window
          recommendedAction := "Consider switching to dry-run mode until streak ends." }
    else none
  else none

/-- The share of the outcomes that ended so, where it is far above the expected rate. -/
def outcomeSpike (outcome : BetOutcome) (expectedRate : Number)
    (raise : Number → Number → Number → AnomalyParams)
    : Option AnomalyParams :=
  let total := count input.outcomes.length
  if settings.minSamples.getD 10 ≤ total then
    let rate := count (input.outcomes.countP (·.outcome = outcome)) / total
    let sigma := math.computeZScoreForProportion rate expectedRate total
    let threshold := settings.thresholdSigma.getD 2
    if threshold < sigma then some (raise rate sigma threshold) else none
  else none

def failedEntrySpike : Option AnomalyParams :=
  let expectedFailedRate := .finite 0.01
  outcomeSpike math input settings .failed expectedFailedRate fun failedRate sigma threshold =>
    { category := .failedEntrySpike
      severity := if .finite 0.1 < failedRate then .critical else .moderate
      message := "Failed entry rate spiked to " ++ math.percent failedRate ++ ", "
        ++ math.toFixed sigma 1 ++ " sigma above baseline"
      metricName := "failed_entry_rate"
      observedValue := failedRate
      expectedValue := expectedFailedRate
      deviationSigma := sigma
      threshold
      timestamp
      window := input.window
      recommendedAction := "Review bet placement logic and game state detection." }

def observationDegradation : Option AnomalyParams :=
  match input.observationConfidence with
  | none | some .high => none
  | some confidence =>
      some
        { category := .observationDegradation
          severity := if confidence = .low then .critical else .moderate
          message := "Observation confidence degraded to "
            ++ if confidence = .low then "low" else "medium"
          metricName := "observation_confidence"
          observedValue := if confidence = .low then 0 else .finite 0.5
          expectedValue := 1
          deviationSigma := if confidence = .low then 3 else 2
          threshold := settings.thresholdSigma.getD 2
          timestamp
          window := input.window
          recommendedAction := "Switch to observe-only mode until confidence is restored." }

def reconnectLoop : Option AnomalyParams :=
  match input.reconnectCount with
  | none => none
  | some reconnectCount =>
      if 3 ≤ reconnectCount then
        some
          { category := .reconnectLoop
            severity := if 5 < reconnectCount then .critical else .moderate
            message := math.toString reconnectCount
              ++ " reconnections detected in recent window"
            metricName := "reconnect_count"
            observedValue := reconnectCount
            expectedValue := 0
            deviationSigma := reconnectCount
            threshold := settings.thresholdSigma.getD 2
            timestamp
            window := input.window
            recommendedAction :=
              "Investigate network stability and WebSocket connection health." }
      else none

def unknownOutcomeSpike : Option AnomalyParams :=
  let expectedUnknownRate := .finite 0.005
  outcomeSpike math input settings .unknown expectedUnknownRate fun unknownRate sigma threshold =>
    { category := .unknownOutcomeSpike
      severity := if .finite 0.05 < unknownRate then .critical else .moderate
      message := "Unknown outcome rate spiked to " ++ math.percent unknownRate ++ ", "
        ++ math.toFixed sigma 1 ++ " sigma above baseline"
      metricName := "unknown_outcome_rate"
      observedValue := unknownRate
      expectedValue := expectedUnknownRate
      deviationSigma := sigma
      threshold
      timestamp
      window := input.window
      recommendedAction := "Investigate bet state tracking and reconciliation logic." }

def drawdownSpike : Option AnomalyParams :=
  if 0 < input.drawdown.maxDrawdown then
    let resolved := input.outcomes.filter BetOutcomeRecord.resolved
    let n := count resolved.length
    if settings.minSamples.getD 20 ≤ n then
      let winRate := count (resolved.countP (·.outcome = .win)) / n
      let expectedMaxDD := math.estimateExpectedMaxDrawdown n winRate 210 700
      let sigma := input.drawdown.maxDrawdown / expectedMaxDD.max 1
      let threshold := settings.thresholdSigma.getD (.finite 2.5)
      if threshold < sigma then
        some
          { category := .drawdownSpike
            severity :=
              if input.drawdown.drawdownSeverity = .critical then .critical else .moderate
            message := "Max drawdown of " ++ math.toFixed input.drawdown.maxDrawdown 2 ++ " is "
              ++ math.toFixed sigma 1 ++ "x expected max " ++ math.toFixed expectedMaxDD 2
            metricName := "max_drawdown"
            observedValue := input.drawdown.maxDrawdown
            expectedValue := expectedMaxDD
            deviationSigma := sigma
            threshold
            timestamp
            window := input.window
            recommendedAction := "Consider stopping for the day to preserve bankroll." }
      else none
    else none
  else none

/-- The check of a category. -/
def detect : AnomalyCategory → Option AnomalyParams
  | .hitRateDrop => hitRateDrop math timestamp input settings
  | .cashoutFailureSpike => cashoutFailureSpike math timestamp input settings
  | .latencySpike => latencySpike math timestamp input settings
  | .balanceMismatch => balanceMismatch math timestamp input settings
  | .losingStreak => losingStreak math timestamp input settings
  | .failedEntrySpike => failedEntrySpike math timestamp input settings
  | .observationDegradation => observationDegradation timestamp input settings
  | .reconnectLoop => reconnectLoop math timestamp input settings
  | .unknownOutcomeSpike => unknownOutcomeSpike math timestamp input settings
  | .drawdownSpike => drawdownSpike math timestamp input settings

end

-----------------------------------------------------------------------------------------
-- The settings
-----------------------------------------------------------------------------------------

def DEFAULT_ANOMALY_CONFIG : AnomalyConfig where
  enabled := true
  categories category :=
    let settings (thresholdSigma minSamples cooldownMs : Number) : CategoryConfig :=
      { enabled := true
        thresholdSigma := some thresholdSigma
        minSamples := some minSamples
        cooldownMs := some cooldownMs }
    some <| match category with
      | .hitRateDrop => settings (.finite 2.5) 50 300000
      | .cashoutFailureSpike => settings 2 20 180000
      | .latencySpike => settings 3 30 120000
      | .balanceMismatch => settings 2 1 60000
      | .losingStreak => settings (.finite 2.5) 10 300000
      | .failedEntrySpike => settings 2 10 180000
      | .observationDegradation => settings 2 20 120000
      | .reconnectLoop => settings 2 3 60000
      | .unknownOutcomeSpike => settings 2 10 180000
      | .drawdownSpike => settings (.finite 2.5) 20 300000

/-- The cooldown of a category whose settings have none. -/
def defaultCooldownMs : AnomalyCategory → Number
  | .hitRateDrop => 300000
  | .cashoutFailureSpike => 180000
  | .latencySpike => 120000
  | .balanceMismatch => 60000
  | .losingStreak => 300000
  | .failedEntrySpike => 180000
  | .observationDegradation => 120000
  | .reconnectLoop => 60000
  | .unknownOutcomeSpike => 180000
  | .drawdownSpike => 300000

def AnomalyConfig.cooldownMs (config : AnomalyConfig) (category : AnomalyCategory) : Number :=
  ((config.categories category).bind (·.cooldownMs)).getD (defaultCooldownMs category)

-----------------------------------------------------------------------------------------
-- The flags
-----------------------------------------------------------------------------------------

/-- The times of the last flags, which all calls share. -/
abbrev AnomalyTimestamps := Map AnomalyCategory DateText

def createAnomalyFlag (random : AnomalyCategory → String) (params : AnomalyParams)
    : AnomalyFlag where
  toAnomalyParams := params
  id :=
    { category := params.category
      timestamp := params.timestamp
      random := random params.category }

/-- Whether the flag is held back; where it is not, its time is kept. -/
def isInCooldown (timestamps : AnomalyTimestamps) (flag : AnomalyFlag) (cooldownMs : Number)
    : Bool × AnomalyTimestamps :=
  match timestamps.get flag.category with
  | none => (false, timestamps.set flag.category flag.timestamp)
  | some lastTimestamp =>
      if lastTimestamp = .empty then (false, timestamps.set flag.category flag.timestamp)
      else if flag.timestamp.getTime - lastTimestamp.getTime < cooldownMs then (true, timestamps)
      else (false, timestamps.set flag.category flag.timestamp)

/-- The order of the checks. -/
def checkOrder : List AnomalyCategory :=
  [.hitRateDrop, .cashoutFailureSpike, .latencySpike, .balanceMismatch, .losingStreak,
    .failedEntrySpike, .observationDegradation, .reconnectLoop, .unknownOutcomeSpike,
    .drawdownSpike]

section

variable (math : MathFunctions) (random : AnomalyCategory → String) (timestamp : DateText)
  (input : AnomalyInput) (config : AnomalyConfig)

/-- What the check of a category raises, if it is enabled. -/
def check (category : AnomalyCategory) : Option AnomalyParams :=
  match config.categories category with
  | none => none
  | some settings =>
      if settings.enabled then detect math timestamp input settings category else none

/-- All that is raised, whether or not it is held back. -/
def raised : List AnomalyParams :=
  if config.enabled then checkOrder.filterMap (check math timestamp input config) else []

/-- What is raised becomes a flag, which is reported unless it is held back. -/
def report (reported : List AnomalyFlag × AnomalyTimestamps) (params : AnomalyParams)
    : List AnomalyFlag × AnomalyTimestamps :=
  let flag := createAnomalyFlag random params
  let (inCooldown, timestamps) :=
    isInCooldown reported.2 flag (config.cooldownMs params.category)
  (if inCooldown then reported.1 else reported.1 ++ [flag], timestamps)

def detectAnomalies (timestamps : AnomalyTimestamps) : List AnomalyFlag × AnomalyTimestamps :=
  (raised math timestamp input config).foldl (report random config) ([], timestamps)

end

-----------------------------------------------------------------------------------------
-- What is raised
-----------------------------------------------------------------------------------------

/-- A time that is still cooling the category. -/
def AnomalyConfig.cooling (config : AnomalyConfig) (category : AnomalyCategory)
    (since now : DateText)
    : Bool :=
  since ≠ .empty ∧ now.getTime - since.getTime < config.cooldownMs category

theorem isInCooldown_eq (config : AnomalyConfig) (timestamps : AnomalyTimestamps)
    (flag : AnomalyFlag)
    : isInCooldown timestamps flag (config.cooldownMs flag.category)
      = if ready config.cooling timestamps.get flag.timestamp flag.category
        then (false, timestamps.set flag.category flag.timestamp)
        else (true, timestamps) := by
  rw [isInCooldown, ready]
  cases timestamps.get flag.category with
  | none => rfl
  | some lastTimestamp =>
      by_cases empty : lastTimestamp = .empty
      · simp [AnomalyConfig.cooling, empty]
      · by_cases soon
          : flag.timestamp.getTime - lastTimestamp.getTime < config.cooldownMs flag.category
        · simp [AnomalyConfig.cooling, empty, soon]
        · simp [AnomalyConfig.cooling, empty, soon]

section

variable {math : MathFunctions} {timestamp : DateText} {input : AnomalyInput}
  {config : AnomalyConfig}

/-- A check raises its own category, at the time of the call. -/
theorem detect_params {settings : CategoryConfig} {category : AnomalyCategory}
    {params : AnomalyParams} (found : detect math timestamp input settings category = some params)
    : params.category = category ∧ params.timestamp = timestamp := by
  cases category with
  | hitRateDrop =>
      simp only [detect, hitRateDrop, Option.ite_none_right_eq_some, Option.some.injEq] at found
      obtain ⟨-, -, rfl⟩ := found
      exact ⟨rfl, rfl⟩
  | cashoutFailureSpike =>
      simp only [detect, cashoutFailureSpike, Option.ite_none_right_eq_some, Option.some.injEq]
        at found
      obtain ⟨-, -, rfl⟩ := found
      exact ⟨rfl, rfl⟩
  | latencySpike =>
      simp only [detect, latencySpike, Option.ite_none_right_eq_some, Option.some.injEq] at found
      obtain ⟨-, -, rfl⟩ := found
      exact ⟨rfl, rfl⟩
  | balanceMismatch =>
      rw [detect, balanceMismatch] at found
      cases given : input.balanceMismatch with
      | none => simp [given] at found
      | some mismatch =>
          simp only [given, Option.ite_none_right_eq_some, Option.some.injEq] at found
          obtain ⟨-, rfl⟩ := found
          exact ⟨rfl, rfl⟩
  | losingStreak =>
      simp only [detect, losingStreak, Option.ite_none_right_eq_some, Option.some.injEq] at found
      obtain ⟨-, -, rfl⟩ := found
      exact ⟨rfl, rfl⟩
  | failedEntrySpike =>
      simp only [detect, failedEntrySpike, outcomeSpike, Option.ite_none_right_eq_some,
        Option.some.injEq] at found
      obtain ⟨-, -, rfl⟩ := found
      exact ⟨rfl, rfl⟩
  | observationDegradation =>
      rw [detect, observationDegradation] at found
      split at found
      · cases found
      · cases found
      · cases found
        exact ⟨rfl, rfl⟩
  | reconnectLoop =>
      rw [detect, reconnectLoop] at found
      cases given : input.reconnectCount with
      | none => simp [given] at found
      | some reconnectCount =>
          simp only [given, Option.ite_none_right_eq_some, Option.some.injEq] at found
          obtain ⟨-, rfl⟩ := found
          exact ⟨rfl, rfl⟩
  | unknownOutcomeSpike =>
      simp only [detect, unknownOutcomeSpike, outcomeSpike, Option.ite_none_right_eq_some,
        Option.some.injEq] at found
      obtain ⟨-, -, rfl⟩ := found
      exact ⟨rfl, rfl⟩
  | drawdownSpike =>
      simp only [detect, drawdownSpike, Option.ite_none_right_eq_some, Option.some.injEq] at found
      obtain ⟨-, -, -, rfl⟩ := found
      exact ⟨rfl, rfl⟩

theorem check_params {category : AnomalyCategory} {params : AnomalyParams}
    (found : check math timestamp input config category = some params)
    : params.category = category ∧ params.timestamp = timestamp := by
  rw [check] at found
  cases configured : config.categories category with
  | none => simp [configured] at found
  | some settings =>
      simp only [configured, Option.ite_none_right_eq_some] at found
      exact detect_params found.2

/-- The checks raise their categories in their order, each at most once. -/
theorem raised_categories
    : ((raised math timestamp input config).map (·.category)).Sublist checkOrder := by
  have kept (categories : List AnomalyCategory)
      : ((categories.filterMap (check math timestamp input config)).map (·.category)).Sublist
          categories := by
    induction categories with
    | nil => exact List.Sublist.slnil
    | cons category rest ih =>
        cases found : check math timestamp input config category with
        | none =>
            rw [List.filterMap_cons_none found]
            exact ih.cons category
        | some params =>
            rw [List.filterMap_cons_some found, List.map_cons, (check_params found).1]
            exact ih.cons_cons category
  rw [raised]
  split
  · exact kept checkOrder
  · exact List.nil_sublist _

theorem raised_nodup : ((raised math timestamp input config).map (·.category)).Nodup :=
  raised_categories.nodup (by decide)

theorem timestamp_of_mem_raised {params : AnomalyParams}
    (among : params ∈ raised math timestamp input config)
    : params.timestamp = timestamp := by
  rw [raised] at among
  split at among
  · obtain ⟨category, -, found⟩ := List.mem_filterMap.mp among
    exact (check_params found).2
  · cases among

end

-----------------------------------------------------------------------------------------
-- What is reported
-----------------------------------------------------------------------------------------

section

variable {random : AnomalyCategory → String} {timestamp : DateText} {config : AnomalyConfig}

theorem report_eq (reported : List AnomalyFlag × AnomalyTimestamps) {params : AnomalyParams}
    (now : params.timestamp = timestamp)
    : report random config reported params
      = if ready config.cooling reported.2.get timestamp params.category
        then (reported.1 ++ [createAnomalyFlag random params],
          reported.2.set params.category timestamp)
        else reported := by
  have asked := isInCooldown_eq config reported.2 (createAnomalyFlag random params)
  simp only [createAnomalyFlag, now] at asked
  simp only [report, createAnomalyFlag, now, asked]
  split
  · rfl
  · rfl

theorem get_set {κ ν : Type*} [DecidableEq κ] (map : Map κ ν) (key : κ) (value : ν)
    : (map.set key value).get = Function.update map.get key (some value) := by
  funext other
  by_cases same : other = key
  · rw [same, Map.get_set_self, Function.update_self]
  · rw [Map.get_set_of_ne _ _ same, Function.update_of_ne same]

/-- A call reports what has cooled down before it, and keeps its time, by induction on what is
raised: no category comes up twice.
-/
theorem foldl_report (random : AnomalyCategory → String) (config : AnomalyConfig)
    (alarms : List AnomalyParams) (now : ∀ params ∈ alarms, params.timestamp = timestamp)
    (once : (alarms.map (·.category)).Nodup) (reported : List AnomalyFlag × AnomalyTimestamps)
    : (alarms.foldl (report random config) reported).1
        = reported.1 ++ (alarms.filter fun params =>
            ready config.cooling reported.2.get timestamp params.category).map
              (createAnomalyFlag random)
      ∧ (alarms.foldl (report random config) reported).2.get
        = after config.cooling reported.2.get
            { time := timestamp, keys := alarms.map (·.category) } := by
  induction alarms generalizing reported with
  | nil =>
      constructor
      · simp
      · funext key
        simp [after]
  | cons params rest ih =>
      rw [List.map_cons, List.nodup_cons] at once
      have later := ih (fun other among => now other (by simp [among])) once.2
      rw [List.foldl_cons, report_eq reported (now params (by simp))]
      cases cooled : ready config.cooling reported.2.get timestamp params.category with
      | false =>
          obtain ⟨flags, times⟩ := later reported
          rw [if_neg Bool.false_ne_true]
          constructor
          · rw [flags, List.filter_cons_of_neg (by simp [cooled])]
          · rw [times, List.map_cons, ← after_of_not_ready cooled]
      | true =>
          obtain ⟨flags, times⟩ := later
            (reported.1 ++ [createAnomalyFlag random params],
              reported.2.set params.category timestamp)
          rw [if_pos rfl]
          constructor
          · have others
                : rest.filter (fun other =>
                    ready config.cooling (reported.2.set params.category timestamp).get timestamp
                      other.category)
                  = rest.filter fun other =>
                    ready config.cooling reported.2.get timestamp other.category := by
              apply List.filter_congr
              intro other among
              have different : other.category ≠ params.category := by
                intro same
                exact once.1 (List.mem_map.mpr ⟨other, among, same⟩)
              rw [ready, ready, Map.get_set_of_ne _ _ different]
            rw [flags, others, List.filter_cons_of_pos (by simp [cooled])]
            simp
          · rw [times, get_set, after_update once.1 cooled, List.map_cons]

end

section

variable (math : MathFunctions) (random : AnomalyCategory → String) (timestamp : DateText)
  (input : AnomalyInput) (config : AnomalyConfig)

/-- A call as a round: the categories that it raises at its time. -/
def detectionRound : Round AnomalyCategory DateText where
  time := timestamp
  keys := (raised math timestamp input config).map (·.category)

theorem detectAnomalies_flags (timestamps : AnomalyTimestamps)
    : (detectAnomalies math random timestamp input config timestamps).1
      = ((raised math timestamp input config).filter fun params =>
          ready config.cooling timestamps.get timestamp params.category).map
            (createAnomalyFlag random) := by
  rw [detectAnomalies, (foldl_report random config _ (fun _ => timestamp_of_mem_raised)
    raised_nodup _).1, List.nil_append]

theorem detectAnomalies_timestamps (timestamps : AnomalyTimestamps)
    : (detectAnomalies math random timestamp input config timestamps).2.get
      = after config.cooling timestamps.get (detectionRound math timestamp input config) := by
  rw [detectAnomalies, (foldl_report random config _ (fun _ => timestamp_of_mem_raised)
    raised_nodup _).2, detectionRound]

/-- The cooldowns change nothing for a call exactly if all that it raises is ready. -/
theorem detectAnomalies_eq_cleared_iff (timestamps : AnomalyTimestamps)
    : (detectAnomalies math random timestamp input config timestamps).1
        = (detectAnomalies math random timestamp input config ∅).1
      ↔ ∀ category ∈ (detectionRound math timestamp input config).keys,
          ready config.cooling timestamps.get timestamp category := by
  have all
      : (raised math timestamp input config).filter (fun params =>
          ready config.cooling (∅ : AnomalyTimestamps).get timestamp params.category)
        = raised math timestamp input config :=
    List.filter_eq_self.mpr fun _ _ => rfl
  rw [detectAnomalies_flags, detectAnomalies_flags, all]
  constructor
  · intro same category among
    obtain ⟨params, member, rfl⟩ := List.mem_map.mp among
    have lengths := congrArg List.length same
    rw [List.length_map, List.length_map, List.length_filter_eq_length_iff] at lengths
    exact lengths params member
  · intro cooled
    rw [List.filter_eq_self.mpr]
    intro params among
    exact cooled params.category (List.mem_map.mpr ⟨params, among, rfl⟩)

end

end CrashWave.Analytics
