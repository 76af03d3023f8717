import CrashWave.Analytics.Anomaly

/-! The snapshots of the windows: each of them alone, and all of them in one sequence, which share
the cooldowns of the anomalies.
-/

namespace CrashWave.Analytics

open JavaScript Cooldowns

/-- `WindowAggregationInput` without its window; `rounds` is not read. -/
structure WindowAggregationInput where
  outcomes : List (BetOutcomeRecord Number)
  latencySamples : List LatencySample
  currentBalance : Option Number
  observationConfidence : Option ObservationConfidence
  sessionStartTime : Option DateText

structure RecommendationInput where
  hitRate : HitRateMetrics
  drawdown : DrawdownMetrics Number
  streaks : StreakMetrics
  cashOutSuccess : CashOutSuccessMetrics
  expectedValue : ExpectedValueMetrics
  window : WindowType
  currentBalance : Option Number
  observationConfidence : Option ObservationConfidence

/-- The functions of the metrics and of the recommendations, which keep nothing between two calls.
A recommendation is also given its time.
-/
structure Calculators where
  computeHitRateMetrics : List (BetOutcomeRecord Number) → Number → HitRateMetrics
  computeDrawdownFromOutcomes : List (BetOutcomeRecord Number) → DrawdownMetrics Number
  computeStreakMetrics : List (BetOutcomeRecord Number) → Number → StreakMetrics
  computeExpectedValueMetrics
    : List (BetOutcomeRecord Number) → Number → Number → ExpectedValueMetrics
  computeLatencyMetrics : List LatencySample → LatencyMetrics
  computeCashOutSuccessMetrics : List (BetOutcomeRecord Number) → CashOutSuccessMetrics
  generateRecommendations : RecommendationInput → DateText → List Recommendation

/-- What one call of `aggregateWindow` reads of the clock, in milliseconds, and draws at random for
the ids of its anomalies.
-/
structure Readings where
  outcomesNow : Int
  outcomesDay : Int
  latencyNow : Int
  latencyDay : Int
  recommended : Int
  detected : Int
  taken : Int
  random : AnomalyCategory → String

def DEFAULT_STAKE : Number := 700

def DEFAULT_TARGET : Number := .finite 1.30

/-- The windows of `WINDOW_CONFIGS` with their `minSamples`. -/
def WINDOW_CONFIGS : List (WindowType × Nat) :=
  [(.last10, 5), (.last50, 25), (.last100, 50), (.last500, 250), (.session, 10), (.day, 5),
    (.week, 50), (.month, 200), (.all, 100)]

def getMinSamplesForWindow (type : WindowType) : Nat :=
  ((WINDOW_CONFIGS.find? (·.1 = type)).map Prod.snd).getD 10

-----------------------------------------------------------------------------------------
-- The windows
-----------------------------------------------------------------------------------------

/-- `items.slice(-n)`. -/
def lastItems {α : Type*} (n : Nat) (items : List α) : List α := items.drop (items.length - n)

/-- `filterOutcomesByWindow` and `filterLatencyByWindow`: the items of the window, by their times.
The day begins at midnight UTC.
-/
def filterByWindow {α : Type*} (timestamp : α → DateText) (items : List α) (window : WindowType)
    (sessionStartTime : Option DateText) (now day : Int)
    : List α :=
  let since (start : Number) := items.filter fun item => start ≤ (timestamp item).getTime
  match window with
  | .last10 => lastItems 10 items
  | .last50 => lastItems 50 items
  | .last100 => lastItems 100 items
  | .last500 => lastItems 500 items
  | .session =>
      match sessionStartTime with
      | none | some .empty => items
      | some start => since start.getTime
  | .day => since (.finite (day / 86400000 * 86400000 : Int))
  | .week => since (.finite (now - 7 * 24 * 60 * 60 * 1000 : Int))
  | .month => since (.finite (now - 30 * 24 * 60 * 60 * 1000 : Int))
  | .all => items

section

variable (math : MathFunctions) (calculators : Calculators) (readings : Readings)
  (input : WindowAggregationInput) (window : WindowType)

def filterOutcomesByWindow : List (BetOutcomeRecord Number) :=
  filterByWindow (·.timestamp) input.outcomes window input.sessionStartTime readings.outcomesNow
    readings.outcomesDay

def filterLatencyByWindow : List LatencySample :=
  filterByWindow (·.timestamp) input.latencySamples window input.sessionStartTime
    readings.latencyNow readings.latencyDay

/-- The window has too few bets that were won or lost. -/
def insufficient : Bool :=
  ((filterOutcomesByWindow readings input window).filter BetOutcomeRecord.resolved).length
    < getMinSamplesForWindow window

/-- What the window hands to the detection of anomalies. -/
def anomalyInput : AnomalyInput :=
  let windowOutcomes := filterOutcomesByWindow readings input window
  let hitRate := calculators.computeHitRateMetrics windowOutcomes DEFAULT_TARGET
  { outcomes := windowOutcomes
    hitRate
    drawdown := calculators.computeDrawdownFromOutcomes windowOutcomes
    streaks := calculators.computeStreakMetrics windowOutcomes hitRate.observedRate
    latency := calculators.computeLatencyMetrics (filterLatencyByWindow readings input window)
    cashOutSuccess := calculators.computeCashOutSuccessMetrics windowOutcomes
    window
    observationConfidence := input.observationConfidence }

/-- The snapshot of a window with its anomalies. -/
def snapshot (anomalies : List AnomalyFlag) : MetricSnapshot :=
  let windowOutcomes := filterOutcomesByWindow readings input window
  let metrics := anomalyInput calculators readings input window
  let expectedValue :=
    calculators.computeExpectedValueMetrics windowOutcomes DEFAULT_STAKE DEFAULT_TARGET
  { timestamp := .iso readings.taken
    window
    hitRate := metrics.hitRate
    drawdown := metrics.drawdown
    streaks := metrics.streaks
    expectedValue
    latency := metrics.latency
    cashOutSuccess := metrics.cashOutSuccess
    recommendations :=
      calculators.generateRecommendations
        { hitRate := metrics.hitRate
          drawdown := metrics.drawdown
          streaks := metrics.streaks
          cashOutSuccess := metrics.cashOutSuccess
          expectedValue
          window
          currentBalance := input.currentBalance
          observationConfidence := input.observationConfidence }
        (.iso readings.recommended)
    anomalies }

/-- The snapshot of the window, if it has enough bets, and the cooldowns after it. -/
def aggregateWindow (timestamps : AnomalyTimestamps) : Option MetricSnapshot × AnomalyTimestamps :=
  if insufficient readings input window then (none, timestamps)
  else
    let (anomalies, timestamps) :=
      detectAnomalies math readings.random (.iso readings.detected)
        (anomalyInput calculators readings input window) DEFAULT_ANOMALY_CONFIG timestamps
    (some (snapshot calculators readings input window anomalies), timestamps)

end

section

variable (math : MathFunctions) (calculators : Calculators) (readings : WindowType → Readings)
  (input : WindowAggregationInput)

/-- The entries of the windows so far, and the cooldowns. -/
abbrev Aggregation := Map WindowType (Option MetricSnapshot) × AnomalyTimestamps

/-- The loop of `aggregateAllWindows` for one window. -/
def aggregateNext (results : Aggregation) (window : WindowType) : Aggregation :=
  let (entry, timestamps) :=
    aggregateWindow math calculators (readings window) input window results.2
  (results.1.set window entry, timestamps)

/-- The order in which `aggregateAllWindows` takes the windows. -/
def allWindows : List WindowType :=
  [.last10, .last50, .last100, .last500, .session, .day, .week, .month, .all]

theorem allWindows_nodup : allWindows.Nodup := by decide

theorem mem_allWindows (window : WindowType) : window ∈ allWindows := by
  cases window <;> decide

def aggregateAllWindows (timestamps : AnomalyTimestamps) : Aggregation :=
  allWindows.foldl (aggregateNext math calculators readings input) (∅, timestamps)

end

-----------------------------------------------------------------------------------------
-- One window
-----------------------------------------------------------------------------------------

section

variable (math : MathFunctions) (calculators : Calculators) (readings : Readings)
  (input : WindowAggregationInput) (window : WindowType)

/-- The aggregation of a window as a round: the categories that it raises; without enough bets,
none.
-/
def windowRound : Round AnomalyCategory DateText :=
  if insufficient readings input window then { time := .iso readings.detected, keys := [] }
  else
    detectionRound math (.iso readings.detected) (anomalyInput calculators readings input window)
      DEFAULT_ANOMALY_CONFIG

theorem windowRound_time
    : (windowRound math calculators readings input window).time = .iso readings.detected := by
  rw [windowRound]
  split
  · rfl
  · rfl

theorem aggregateWindow_timestamps (timestamps : AnomalyTimestamps)
    : (aggregateWindow math calculators readings input window timestamps).2.get
      = after DEFAULT_ANOMALY_CONFIG.cooling timestamps.get
          (windowRound math calculators readings input window) := by
  rw [aggregateWindow, windowRound]
  split
  · funext category
    rw [after_of_not_mem List.not_mem_nil]
  · exact detectAnomalies_timestamps ..

theorem snapshot_injective {anomalies others : List AnomalyFlag}
    (same : snapshot calculators readings input window anomalies
      = snapshot calculators readings input window others)
    : anomalies = others :=
  congrArg MetricSnapshot.anomalies same

/-- The cooldowns change nothing for a window exactly if all that it raises is ready. -/
theorem aggregateWindow_eq_cleared_iff (timestamps : AnomalyTimestamps)
    : (aggregateWindow math calculators readings input window timestamps).1
        = (aggregateWindow math calculators readings input window ∅).1
      ↔ ∀ category ∈ (windowRound math calculators readings input window).keys,
          ready DEFAULT_ANOMALY_CONFIG.cooling timestamps.get
            (windowRound math calculators readings input window).time category := by
  rw [windowRound_time, windowRound]
  cases few : insufficient readings input window with
  | true => simp [aggregateWindow, few]
  | false =>
      rw [aggregateWindow, aggregateWindow, few, if_neg Bool.false_ne_true,
        if_neg Bool.false_ne_true, if_neg Bool.false_ne_true]
      refine Iff.trans ?_ (detectAnomalies_eq_cleared_iff math readings.random _ _ _ timestamps)
      constructor
      · intro same
        exact snapshot_injective calculators readings input window (Option.some.inj same)
      · intro same
        exact congrArg (fun anomalies =>
          some (snapshot calculators readings input window anomalies)) same

end

-----------------------------------------------------------------------------------------
-- A sequence of windows
-----------------------------------------------------------------------------------------

section

variable {math : MathFunctions} {calculators : Calculators} {readings : WindowType → Readings}
  {input : WindowAggregationInput}

/-- The other windows keep their entries. -/
theorem foldl_aggregateNext_get {window : WindowType} {windows : List WindowType}
    (absent : window ∉ windows) (results : Aggregation)
    : (windows.foldl (aggregateNext math calculators readings input) results).1.get window
      = results.1.get window := by
  induction windows generalizing results with
  | nil => rfl
  | cons next rest ih =>
      rw [List.mem_cons, not_or] at absent
      rw [List.foldl_cons, ih absent.2]
      exact Map.get_set_of_ne _ _ absent.1

variable (math calculators readings input) in
/-- Each window in a sequence of different ones has the entry that it has alone, exactly if in each
of them all that it raises is ready, by induction on the sequence.
-/
theorem entries_eq_cleared_iff {windows : List WindowType} (distinct : windows.Nodup)
    (results : Aggregation)
    : (∀ window ∈ windows,
        (windows.foldl (aggregateNext math calculators readings input) results).1.get window
          = some (aggregateWindow math calculators (readings window) input window ∅).1)
      ↔ AllReady DEFAULT_ANOMALY_CONFIG.cooling results.2.get
          (windows.map fun window =>
            windowRound math calculators (readings window) input window) := by
  induction windows generalizing results with
  | nil => simp [AllReady]
  | cons window rest ih =>
      rw [List.nodup_cons] at distinct
      have next := ih distinct.2 (aggregateNext math calculators readings input results window)
      have entry
          : ((window :: rest).foldl (aggregateNext math calculators readings input)
                results).1.get window
            = some (aggregateWindow math calculators (readings window) input window
                results.2).1 := by
        rw [List.foldl_cons, foldl_aggregateNext_get distinct.1]
        exact Map.get_set_self ..
      have times
          : (aggregateNext math calculators readings input results window).2.get
            = after DEFAULT_ANOMALY_CONFIG.cooling results.2.get
                (windowRound math calculators (readings window) input window) :=
        aggregateWindow_timestamps ..
      rw [times] at next
      rw [List.forall_mem_cons, entry, Option.some_inj, aggregateWindow_eq_cleared_iff,
        List.foldl_cons, next, List.map_cons, AllReady]

end

/-- Every window has in the sequence of all of them the entry that it has alone, exactly if no
category is raised in two of them within its cooldown.
-/
theorem windows_independent_iff (math : MathFunctions) (calculators : Calculators)
    (readings : WindowType → Readings) (input : WindowAggregationInput)
    : (∀ window,
        (aggregateAllWindows math calculators readings input ∅).1.get window
          = some (aggregateWindow math calculators (readings window) input window ∅).1)
      ↔ Apart DEFAULT_ANOMALY_CONFIG.cooling
          (allWindows.map fun window =>
            windowRound math calculators (readings window) input window) := by
  have sequence := entries_eq_cleared_iff math calculators readings input allWindows_nodup (∅, ∅)
  constructor
  · intro same
    exact (allReady_none_iff _).mp (sequence.mp fun window _ => same window)
  · intro apart window
    exact sequence.mpr ((allReady_none_iff _).mpr apart) window (mem_allWindows window)

-----------------------------------------------------------------------------------------
-- A degraded observation
-----------------------------------------------------------------------------------------

/-- A degraded observation is raised in every window that has enough bets. -/
theorem observationDegradation_mem_windowRound (math : MathFunctions) (calculators : Calculators)
    (readings : Readings) {input : WindowAggregationInput} {window : WindowType}
    (enough : insufficient readings input window = false)
    (degraded : input.observationConfidence = some .low)
    : .observationDegradation ∈ (windowRound math calculators readings input window).keys := by
  have confidence
      : (anomalyInput calculators readings input window).observationConfidence = some .low :=
    degraded
  rw [windowRound, enough, if_neg Bool.false_ne_true, detectionRound, raised,
    if_pos (by rfl : DEFAULT_ANOMALY_CONFIG.enabled = true)]
  have found
      : ∃ params,
          check math (.iso readings.detected) (anomalyInput calculators readings input window)
            DEFAULT_ANOMALY_CONFIG .observationDegradation = some params := by
    simp [check, DEFAULT_ANOMALY_CONFIG, detect, observationDegradation, confidence]
  obtain ⟨params, found⟩ := found
  refine List.mem_map.mpr ⟨params, ?_, (check_params found).1⟩
  exact List.mem_filterMap.mpr ⟨.observationDegradation, by decide, found⟩

/-- Ten bets that were won at the instant of the aggregation. -/
def tenWins : WindowAggregationInput where
  outcomes := List.replicate 10
    { betId := "bet"
      roundId := "round"
      dailyKey := "1970-01-01"
      timestamp := .iso 0
      outcome := .win
      pnl := 210
      stake := 700
      target := .finite 1.30
      cashOutMultiplier := some (.finite 1.30)
      latencyMs := none
      cashOutSuccess := some true
      failureReason := none }
  latencySamples := []
  currentBalance := none
  observationConfidence := some .low
  sessionStartTime := none

def atOnce : Readings where
  outcomesNow := 0
  outcomesDay := 0
  latencyNow := 0
  latencyDay := 0
  recommended := 0
  detected := 0
  taken := 0
  random _ := "000000"

/-- Under a low confidence of the observation the session repeats what the last ten bets raise, and
loses it, whatever is computed of the bets.
-/
theorem degraded_not_independent
    : ¬ ∃ math calculators, ∀ window,
        (aggregateAllWindows math calculators (fun _ => atOnce) tenWins ∅).1.get window
          = some (aggregateWindow math calculators atOnce tenWins window ∅).1 := by
  rintro ⟨math, calculators, same⟩
  have sequence := entries_eq_cleared_iff math calculators (fun _ => atOnce) tenWins
    allWindows_nodup (∅, ∅)
  have apart := (allReady_none_iff _).mp (sequence.mp fun window _ => same window)
  have first := observationDegradation_mem_windowRound math calculators atOnce
    (by decide +kernel : insufficient atOnce tenWins .last10 = false) rfl
  have session := observationDegradation_mem_windowRound math calculators atOnce
    (by decide +kernel : insufficient atOnce tenWins .session = false) rfl
  obtain ⟨next, later, cooled⟩ := (apart.1 _ first).exists_cooled
    (List.mem_map.mpr ⟨WindowType.session, by decide, rfl⟩) session
  obtain ⟨window, -, rfl⟩ := List.mem_map.mp later
  rw [windowRound_time, windowRound_time] at cooled
  exact absurd cooled (by decide +kernel)

end CrashWave.Analytics
