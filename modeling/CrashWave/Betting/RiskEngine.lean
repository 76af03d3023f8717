import CrashWave.JavaScript.Number
import CrashWave.Types

/-! `RiskEngine.evaluate`: every entry condition, and the verdict over all of them. `now`
stands for `Date.now()`, and the state of the financial circuit breaker is an argument.
-/

namespace CrashWave.Betting

open JavaScript

/-- The part of a prediction signal that the risk engine sees. -/
structure RiskSignal where
  predictionId : String
  probability : Number
  confidence : Number
  target : Number
  expiresAt : DateText
  dataQuality : Number
  deriving DecidableEq

/-- What an entry is judged on. -/
structure RiskEvaluationInput where
  mode : SystemMode
  operatorAuthorized : Bool
  sessionAuthenticated : Bool
  gameLoaded : Bool
  roundState : Option RoundState
  currentBalance : Option Number
  dailyEntriesConfirmed : Number
  paused : Bool
  killSwitch : Bool
  browserHealthy : Bool
  gameAdapterHealthy : Bool
  openBetExists : Bool
  cooldownElapsed : Bool
  requiredStake : Number
  balanceBuffer : Number
  maxDailyEntries : Number
  consecutiveErrors : Number
  maxConsecutiveErrors : Number
  cashOutFailures : Number
  maxCashOutFailures : Number
  predictionSignal : Option RiskSignal := none
  minPredictionProbability : Option Number := none
  minPredictionConfidence : Option Number := none
  deriving DecidableEq

/-- The outcome of every condition. -/
structure RiskConditionResults where
  modeIsLive : Bool
  operatorAuthorized : Bool
  sessionAuthenticated : Bool
  gameLoaded : Bool
  roundStateValid : Bool
  balanceSufficient : Bool
  dailyEntriesBelowLimit : Bool
  notPaused : Bool
  killSwitchOff : Bool
  browserHealthy : Bool
  gameAdapterHealthy : Bool
  observationConfidenceHigh : Bool
  noOpenBet : Bool
  cooldownElapsed : Bool
  errorThresholdOk : Bool
  cashOutFailureThresholdOk : Bool
  predictionAcceptable : Bool
  deriving DecidableEq

/-- The verdict with its reasons. -/
structure RiskEvaluationResult where
  approved : Bool
  conditions : RiskConditionResults
  rejectionReason : Option String
  firstFailure : Option String
  deriving DecidableEq

/-- Whether both prediction minima are switched off, that is zero, negative or missing. -/
def predictionUnrequired (input : RiskEvaluationInput) : Bool :=
  let minProb := input.minPredictionProbability.getD 0
  let minConf := input.minPredictionConfidence.getD 0
  minProb ≤ 0 ∧ minConf ≤ 0

/-- Whether a signal has not expired and reaches both minima and the data quality. -/
def signalAcceptable (now : Number) (input : RiskEvaluationInput) (signal : RiskSignal)
    : Bool :=
  let minProb := input.minPredictionProbability.getD 0
  let minConf := input.minPredictionConfidence.getD 0
  if signal.expiresAt.getTime ≤ now then false
  else if signal.probability < minProb then false
  else if signal.confidence < minConf then false
  else if signal.dataQuality < .finite (3 / 10) then false
  else true

/-- The prediction condition: nothing is asked of the signal without positive minima. -/
def evaluatePrediction (now : Number) (input : RiskEvaluationInput) : Bool :=
  if predictionUnrequired input then true
  else
    match input.predictionSignal with
    | none => false
    | some signal => signalAcceptable now input signal

/-- Whether there is an identified round that is starting or running. -/
def roundStateValid (input : RiskEvaluationInput) : Bool :=
  match input.roundState with
  | none => false
  | some round =>
      (round.phase = .starting ∨ round.phase = .running) ∧ round.roundId.isSome

/-- Every entry condition. A dry run needs no authentication and no known balance. -/
def evaluateAllConditions (now : Number) (input : RiskEvaluationInput)
    : RiskConditionResults :=
  let confidence := (input.roundState.map (·.confidence)).getD .low
  let balance := input.currentBalance.getD 0
  let required := input.requiredStake + input.balanceBuffer
  let isDryRun : Bool := input.mode = .dryRun
  { modeIsLive := input.mode = .live ∨ isDryRun
    operatorAuthorized := input.operatorAuthorized
    sessionAuthenticated := if isDryRun then true else input.sessionAuthenticated
    gameLoaded := input.gameLoaded
    roundStateValid := roundStateValid input
    balanceSufficient :=
      if isDryRun then input.currentBalance = none ∨ required ≤ balance
      else input.currentBalance ≠ none ∧ required ≤ balance
    dailyEntriesBelowLimit := input.dailyEntriesConfirmed < input.maxDailyEntries
    notPaused := !input.paused
    killSwitchOff := !input.killSwitch
    browserHealthy := input.browserHealthy
    gameAdapterHealthy := input.gameAdapterHealthy
    observationConfidenceHigh := confidence = .high
    noOpenBet := !input.openBetExists
    cooldownElapsed := input.cooldownElapsed
    errorThresholdOk := input.consecutiveErrors < input.maxConsecutiveErrors
    cashOutFailureThresholdOk := input.cashOutFailures < input.maxCashOutFailures
    predictionAcceptable := evaluatePrediction now input }

/-- The conditions with the messages of their failures, in reporting order. -/
def riskChecks (conditions : RiskConditionResults) : List (Bool × String) :=
  [(conditions.modeIsLive, "System mode is not live or dry-run"),
    (conditions.operatorAuthorized, "Operator not authorized"),
    (conditions.sessionAuthenticated, "Session not authenticated"),
    (conditions.gameLoaded, "Game not loaded"),
    (conditions.roundStateValid, "Round state invalid — no active round or wrong phase"),
    (conditions.balanceSufficient, "Insufficient balance for stake plus buffer"),
    (conditions.dailyEntriesBelowLimit, "Daily entry limit reached"),
    (conditions.notPaused, "System is paused"),
    (conditions.killSwitchOff, "Kill switch is engaged"),
    (conditions.browserHealthy, "Browser health check failed"),
    (conditions.gameAdapterHealthy, "Game adapter health check failed"),
    (conditions.observationConfidenceHigh, "Observation confidence is not high"),
    (conditions.noOpenBet, "An open bet already exists"),
    (conditions.cooldownElapsed, "Cooldown period has not elapsed"),
    (conditions.errorThresholdOk, "Consecutive error threshold exceeded"),
    (conditions.cashOutFailureThresholdOk, "Cash-out failure threshold exceeded"),
    (conditions.predictionAcceptable,
      "Prediction signal missing, expired, or below thresholds")]

/-- The messages of the conditions that fail. -/
def collectFailures (conditions : RiskConditionResults) : List String :=
  ((riskChecks conditions).filter fun check => !check.1).map Prod.snd

/-- The rejection message for a nonempty list of failures. -/
def buildRejectionMessage (failures : List String) : String :=
  match failures with
  | [failure] => "Entry rejected: " ++ failure
  | _ =>
      "Entry rejected (" ++ toString failures.length ++ " failures): "
        ++ "; ".intercalate failures

/-- `RiskEngine.evaluate`. -/
def evaluateRisk (circuitOpen : Bool) (now : Number) (input : RiskEvaluationInput)
    : RiskEvaluationResult :=
  let conditions := evaluateAllConditions now input
  if circuitOpen then
    { approved := false
      conditions
      rejectionReason := some "Financial circuit breaker is OPEN — entries suspended"
      firstFailure := some "financial_circuit_open" }
  else
    match collectFailures conditions with
    | [] => { approved := true, conditions, rejectionReason := none, firstFailure := none }
    | firstFailure :: rest =>
        { approved := false
          conditions
          rejectionReason := some (buildRejectionMessage (firstFailure :: rest))
          firstFailure := some firstFailure }

/-- The conditions are reported whatever the verdict. -/
theorem evaluateRisk_conditions (circuitOpen : Bool) (now : Number)
    (input : RiskEvaluationInput)
    : (evaluateRisk circuitOpen now input).conditions = evaluateAllConditions now input := by
  unfold evaluateRisk
  cases circuitOpen with
  | true => rfl
  | false => cases failures : collectFailures (evaluateAllConditions now input) <;> simp [failures]

/-- Every condition other than the prediction holds. -/
def hardConditions (now : Number) (input : RiskEvaluationInput) : Bool :=
  ((riskChecks (evaluateAllConditions now input)).take 16).all Prod.fst

/-- The conditions of a live entry other than the prediction. -/
structure LiveConditions (input : RiskEvaluationInput) : Prop where
  operatorAuthorized : input.operatorAuthorized = true
  sessionAuthenticated : input.sessionAuthenticated = true
  gameLoaded : input.gameLoaded = true
  roundStateValid : roundStateValid input = true
  balanceSufficient
    : input.currentBalance ≠ none
      ∧ input.requiredStake + input.balanceBuffer ≤ input.currentBalance.getD 0
  dailyEntriesBelowLimit : input.dailyEntriesConfirmed < input.maxDailyEntries
  notPaused : input.paused = false
  killSwitchOff : input.killSwitch = false
  browserHealthy : input.browserHealthy = true
  gameAdapterHealthy : input.gameAdapterHealthy = true
  observationConfidenceHigh : (input.roundState.map (·.confidence)).getD .low = .high
  noOpenBet : input.openBetExists = false
  cooldownElapsed : input.cooldownElapsed = true
  errorThresholdOk : input.consecutiveErrors < input.maxConsecutiveErrors
  cashOutFailureThresholdOk : input.cashOutFailures < input.maxCashOutFailures

/-- In live mode these are the hard conditions, one by one. -/
theorem hardConditions_live_iff {now : Number} {input : RiskEvaluationInput}
    (live : input.mode = .live)
    : hardConditions now input = true ↔ LiveConditions input := by
  simp only [hardConditions, riskChecks, List.take, List.all_cons, List.all_nil, Bool.and_true,
    Bool.and_eq_true, evaluateAllConditions, live, reduceCtorEq, decide_false, Bool.false_eq_true,
    if_false, or_false, decide_true, true_and, decide_eq_true_eq, Bool.not_eq_true']
  constructor
  · intro met
    obtain ⟨operator, session, loaded, round, balance, entries, paused, kill, browser, adapter,
      confidence, bet, cooldown, errors, failures⟩ := met
    exact ⟨operator, session, loaded, round, balance, entries, paused, kill, browser, adapter,
      confidence, bet, cooldown, errors, failures⟩
  · intro met
    exact ⟨met.operatorAuthorized, met.sessionAuthenticated, met.gameLoaded,
      met.roundStateValid, met.balanceSufficient, met.dailyEntriesBelowLimit, met.notPaused,
      met.killSwitchOff, met.browserHealthy, met.gameAdapterHealthy,
      met.observationConfidenceHigh, met.noOpenBet, met.cooldownElapsed, met.errorThresholdOk,
      met.cashOutFailureThresholdOk⟩

/-- There are no failures exactly when the hard conditions and the prediction hold. -/
theorem collectFailures_eq_nil {now : Number} {input : RiskEvaluationInput}
    : collectFailures (evaluateAllConditions now input) = []
      ↔ hardConditions now input = true ∧ evaluatePrediction now input = true := by
  have split : riskChecks (evaluateAllConditions now input)
      = (riskChecks (evaluateAllConditions now input)).take 16
        ++ [((evaluateAllConditions now input).predictionAcceptable,
          "Prediction signal missing, expired, or below thresholds")] := rfl
  rw [collectFailures, List.map_eq_nil_iff, List.filter_eq_nil_iff, split]
  simp only [hardConditions, List.forall_mem_append, List.all_eq_true, List.forall_mem_singleton]
  simp [evaluateAllConditions]

/-- An entry is approved exactly when the circuit is closed, every hard condition holds
and the prediction condition does.
-/
theorem evaluateRisk_approved {circuitOpen : Bool} {now : Number}
    {input : RiskEvaluationInput}
    : (evaluateRisk circuitOpen now input).approved = true
      ↔ circuitOpen = false ∧ hardConditions now input = true
        ∧ evaluatePrediction now input = true := by
  unfold evaluateRisk
  cases circuitOpen with
  | true => simp
  | false =>
      rw [← collectFailures_eq_nil]
      cases failures : collectFailures (evaluateAllConditions now input) with
      | nil => simp [failures]
      | cons first rest => simp [failures]

theorem hardConditions_signal (now : Number) (input : RiskEvaluationInput)
    (signal : Option RiskSignal)
    : hardConditions now { input with predictionSignal := signal }
      = hardConditions now input := rfl

end CrashWave.Betting
