import CrashWave.Core.LiveBridge
import CrashWave.Prediction.EntryVerdicts

/-! The risk input that the live bridge builds for a round, a round from its start to the bet it
asks for, and whether the live bridge ever places a bet. Most facts of the risk input are literals
of the bridge. The risk engine asks for an observation of high confidence and the bridge claims a
medium one, so no round does; with a high one in its place, a round in which everything speaks for
the entry places its bet exactly when the feature version of the signal is the current one.
-/

namespace CrashWave.Core

open CrashWave.Betting CrashWave.Prediction JavaScript

/-- The bridge's surroundings with what the risk input reads of them. -/
structure LiveRoundDeps extends LiveBridgeDeps where
  isGameLoaded : Bool
  getBalance : Number
  /-- `liveBetExecutor.isBusy()`. -/
  isBusy : Bool
  /-- `new Date().toISOString()` while the risk input is built. -/
  builtAt : String := ""

/-- `buildRiskInput`. Its `minConfidenceForEntry` of `'medium'` is read by nothing. -/
def buildRiskInput (deps : LiveRoundDeps) (roundId : String) : RiskEvaluationInput :=
  let stake := configNumber deps.config ["betting", "stakePerEntry"] 700
  { mode := .live
    operatorAuthorized := true
    sessionAuthenticated := deps.isAuthenticated
    gameLoaded := deps.isGameLoaded
    roundState := some
      { phase := .starting
        roundId := some roundId
        currentMultiplier := some 1
        crashPoint := none
        startedAt := some deps.builtAt
        lastTickAt := none
        crashedAt := none
        confidence := .medium
        source := "dom" }
    currentBalance := some deps.getBalance
    dailyEntriesConfirmed := 0
    paused := false
    killSwitch := false
    browserHealthy := true
    gameAdapterHealthy := true
    openBetExists := deps.liveBetExecutor && deps.isBusy
    cooldownElapsed := true
    requiredStake := stake
    balanceBuffer := configNumber deps.config ["risk", "balanceBuffer"] stake
    maxDailyEntries := configNumber deps.config ["betting", "maxDailyEntries"] 500
    consecutiveErrors := 0
    maxConsecutiveErrors :=
      configNumber deps.config ["risk", "maxConsecutiveErrorsBeforeStop"] 3
    cashOutFailures := 0
    maxCashOutFailures :=
      configNumber deps.config ["risk", "maxCashOutFailuresBeforeStop"] 2
    minPredictionProbability :=
      some (configNumber deps.config ["risk", "minPredictionProbability"]
        (.finite (35 / 100)))
    minPredictionConfidence :=
      some (configNumber deps.config ["risk", "minPredictionConfidence"]
        (.finite (3 / 10))) }

/-- The context in which the bridge asks for a decision. -/
def LiveRoundDeps.context (deps : LiveRoundDeps) (decidedAt : Int) (roundId : String)
    : EntryDecisionContext where
  decisionTimestamp := .iso decidedAt
  riskInput := buildRiskInput deps roundId
  target := some (configNumber deps.config ["betting", "cashOutTarget"] (.finite (13 / 10)))

/-- A round in which the decision is asked for in the given context: the bet it places. A
decision that rejects its promise places none.
-/
def LiveRoundDeps.enter (deps : LiveRoundDeps) (service : EntryDecisionService)
    (env : DecisionEnvironment) (ctx : EntryDecisionContext) (roundId : String)
    : Option LiveBetRequest :=
  (onRoundStartedForLive deps.toLiveBridgeDeps roundId).bind fun entry =>
    (evaluateEntry service env ctx).bind entry.decided

/-- `onRoundStartedForLive` from the start of the round to `placeLiveBet`. -/
def liveRound (deps : LiveRoundDeps) (service : EntryDecisionService)
    (env : DecisionEnvironment) (decidedAt : Int) (roundId : String)
    : Option LiveBetRequest :=
  deps.enter service env (deps.context decidedAt roundId) roundId

-----------------------------------------------------------------------------------------
-- Whether a bet is placed
-----------------------------------------------------------------------------------------

/-- The context with another confidence of the observed round. -/
def withConfidence (ctx : EntryDecisionContext) (confidence : ObservationConfidence)
    : EntryDecisionContext :=
  { ctx with
    riskInput :=
      { ctx.riskInput with
        roundState := ctx.riskInput.roundState.map ({ · with confidence }) } }

variable (deps : LiveRoundDeps) (service : EntryDecisionService)
  (env : DecisionEnvironment) (decidedAt : Int) (roundId : String)

/-- The session is live, allowed, authenticated, observing and idle, its game is loaded, and
its balance covers the stake and the buffer.
-/
structure SessionReady : Prop where
  liveMode : bridgeMode deps.config "" = "live"
  executionAllowed
    : isRealExecutionAllowed deps.env false (some (bridgeMode deps.config "")) = true
  authenticated : deps.isAuthenticated = true
  observing : deps.isObserving = true
  gameLoaded : deps.isGameLoaded = true
  executorBound : deps.liveBetExecutor = true
  noOpenBet : deps.isBusy = false
  balanceCovers
    : (buildRiskInput deps roundId).requiredStake + (buildRiskInput deps roundId).balanceBuffer
      ≤ deps.getBalance
  limitsPositive
    : 0 < (buildRiskInput deps roundId).maxDailyEntries
      ∧ 0 < (buildRiskInput deps roundId).maxConsecutiveErrors
      ∧ 0 < (buildRiskInput deps roundId).maxCashOutFailures

/-- Nothing halts entries and the prediction stack is warm. -/
structure StackReady : Prop where
  circuitClosed : env.circuitOpen = false
  notHalted : entriesBlocked env = false
  readyForLive : env.readyForLive = true
  historyWarmed : env.historyWarmed = true
  predictionWarm : env.predictionWarm 40 = true
  acieOffers : env.acieEvaluation.signal = true
  pipelineEnters : env.pipeline.action ≠ .skip

/-- Everything speaks for an entry in this round: the session, the stack, and a fresh
signal that reaches every configured threshold.
-/
structure EntryReady (signal : PredictionSignal) : Prop where
  session : SessionReady deps roundId
  stack : StackReady env
  kept : KeptSignal service env (deps.context decidedAt roundId) signal
  acceptable
    : signalAcceptable env.riskTime (buildRiskInput deps roundId) signal.forRisk = true

variable {deps service env decidedAt roundId}

/-- A decision whose risk input fails a hard condition is not approved. -/
theorem not_approved_of_hardRejected {ctx : EntryDecisionContext}
    {result : EntryDecisionResult} (rejected : HardRejected env ctx)
    (returned : evaluateEntry service env ctx = some result)
    : result.riskResult.approved = false := by
  have judged : ∀ signal presented,
      (judge env ctx signal presented).riskResult.approved = false := by
    intro signal presented
    rw [← Bool.not_eq_true, judge_approved]
    exact fun ⟨passes, _⟩ => passes rejected
  unfold evaluateEntry at returned
  split at returned
  · obtain rfl := Option.some.inj returned
    rfl
  · split at returned
    · obtain rfl := Option.some.inj returned
      exact judged _ _
    · obtain ⟨signal, -, rfl⟩ := Option.map_eq_some_iff.mp returned
      exact judged _ _

/-- A round in which a hard condition fails places no bet. -/
theorem enter_eq_none {ctx : EntryDecisionContext} (rejected : HardRejected env ctx)
    : deps.enter service env ctx roundId = none := by
  rw [LiveRoundDeps.enter, Option.bind_eq_none_iff]
  intro entry _
  rw [Option.bind_eq_none_iff]
  intro result returned
  have refused := not_approved_of_hardRejected rejected returned
  unfold LiveEntry.decided
  cases result.signal with
  | none => rfl
  | some signal => simp [refused]

/-- The hard conditions of the bridge's risk input, with the confidence in its place. -/
theorem hardConditions_withConfidence (now : Number) (session : SessionReady deps roundId)
    (confidence : ObservationConfidence)
    : hardConditions now (withConfidence (deps.context decidedAt roundId) confidence).riskInput
      = decide (confidence = .high) := by
  obtain ⟨daily, errors, cashOuts⟩ := session.limitsPositive
  have covers := session.balanceCovers
  simp only [buildRiskInput] at covers daily errors cashOuts
  cases confidence <;>
    simp [hardConditions, riskChecks, evaluateAllConditions, withConfidence, roundStateValid,
      LiveRoundDeps.context, buildRiskInput, session.authenticated, session.gameLoaded,
      session.noOpenBet, covers, daily, errors, cashOuts]

theorem hardConditions_buildRiskInput (now : Number)
    : hardConditions now (buildRiskInput deps roundId) = false := by
  simp [hardConditions, riskChecks, evaluateAllConditions, buildRiskInput]

theorem SessionReady.entry (session : SessionReady deps roundId)
    : ∃ entry, onRoundStartedForLive deps.toLiveBridgeDeps roundId = some entry := by
  have entryOpen : deps.entryOpen = true := by
    simp only [LiveBridgeDeps.entryOpen, session.executionAllowed, session.authenticated,
      session.observing, session.executorBound, Bool.and_true, decide_eq_true_eq]
    exact session.liveMode
  exact ⟨_, if_pos entryOpen⟩

/-- With every gate open, the signal is presented as it was kept. -/
theorem StackReady.decision (stack : StackReady env) {ctx : EntryDecisionContext}
    {signal : PredictionSignal} (kept : KeptSignal service env ctx signal)
    : evaluateEntry service env ctx
      = some (judge env ctx (returnedSignal env ctx (some signal)) (some signal.forRisk)) := by
  have warm : stackCold env ctx = false := by simp [stackCold, stack.predictionWarm]
  have offers : acieDeclines env ctx = false := by simp [acieDeclines, stack.acieOffers]
  have shown : presentedSignal service env ctx (some signal) = some signal.forRisk := by
    simp [presentedSignal, warm, offers, stack.notHalted]
  rw [evaluateEntry, if_neg (by simp [stack.readyForLive]),
    if_neg (by simp [stack.historyWarmed]), kept, Option.map_some, shown]

/-- The returned signal of a warm live decision is kept exactly under a feature version
that matches.
-/
theorem StackReady.returned (stack : StackReady env) {ctx : EntryDecisionContext}
    (live : ctx.isLive = true) (signal : PredictionSignal)
    : returnedSignal env ctx (some signal)
      = if featureVersionMatches signal.featureVersion then some signal else none := by
  have warm : stackCold env ctx = false := by simp [stackCold, stack.predictionWarm]
  cases version : featureVersionMatches signal.featureVersion <;>
    simp [returnedSignal, versionMismatch, warm, live, version]

/-- A warm live decision places its bet exactly when the feature version of the kept signal
matches, the hard conditions hold and the signal is acceptable.
-/
theorem StackReady.places (stack : StackReady env) {ctx : EntryDecisionContext}
    {signal : PredictionSignal} (live : ctx.isLive = true)
    (kept : KeptSignal service env ctx signal)
    (acceptable : signalAcceptable env.riskTime ctx.riskInput signal.forRisk = true)
    (entry : LiveEntry)
    : ((evaluateEntry service env ctx).bind entry.decided).isSome = true
      ↔ hardConditions env.riskTime ctx.riskInput = true
        ∧ featureVersionMatches signal.featureVersion = true := by
  have approved : ∀ returned,
      (judge env ctx returned (some signal.forRisk)).riskResult.approved
        = hardConditions env.riskTime ctx.riskInput := by
    intro returned
    rw [Bool.eq_iff_iff, judge_approved]
    simp [HardRejected, stack.circuitClosed, acceptable]
  have returned : ∀ signal presented, (judge env ctx signal presented).signal = signal :=
    fun _ _ => rfl
  rw [stack.decision kept, Option.bind_some, LiveEntry.decided, returned,
    stack.returned live, approved]
  cases featureVersionMatches signal.featureVersion <;>
    cases hardConditions env.riskTime ctx.riskInput <;> simp

/-- What a ready round would do if the bridge claimed another confidence: it places its bet
exactly when that is a high one and the feature version of the signal matches.
-/
theorem placed_iff_high {signal : PredictionSignal}
    (ready : EntryReady deps service env decidedAt roundId signal)
    (confidence : ObservationConfidence)
    : (deps.enter service env (withConfidence (deps.context decidedAt roundId) confidence)
        roundId).isSome = true
      ↔ confidence = .high ∧ featureVersionMatches signal.featureVersion = true := by
  obtain ⟨entry, opened⟩ := ready.session.entry
  have kept : KeptSignal service env
      (withConfidence (deps.context decidedAt roundId) confidence) signal := ready.kept
  rw [LiveRoundDeps.enter, opened, Option.bind_some,
    ready.stack.places rfl kept ready.acceptable entry,
    hardConditions_withConfidence _ ready.session, decide_eq_true_eq]

/-- The live gate is vacuous: no round places a bet, so a round in which everything speaks
for the entry never does.
-/
theorem liveRound_never_places (deps : LiveRoundDeps) (service : EntryDecisionService)
    (env : DecisionEnvironment) (decidedAt : Int) (roundId : String)
    (signal : PredictionSignal)
    : liveRound deps service env decidedAt roundId = none
      ∧ ((EntryReady deps service env decidedAt roundId signal
          → (liveRound deps service env decidedAt roundId).isSome = true)
        ↔ ¬ EntryReady deps service env decidedAt roundId signal) := by
  have nothing : liveRound deps service env decidedAt roundId = none :=
    enter_eq_none (.inr (hardConditions_buildRiskInput env.riskTime))
  rw [nothing]
  simp

/-- An idle, authenticated live session with a balance of 10000. -/
def idleSession : LiveRoundDeps where
  env := { appSystemMode := some "live", allowRealExecution := some "true" }
  config := .object [("system", .object [("mode", .string "live")])]
  isAuthenticated := true
  isObserving := true
  liveBetExecutor := true
  liveCashOutExecutor := true
  isGameLoaded := true
  getBalance := 10000
  isBusy := false

/-- The signal that a warm system keeps for it. -/
def warmSignal : PredictionSignal where
  predictionId := "p1"
  timestamp := .iso 0
  modelVersion := "acie-v3"
  featureVersion := "acie-online-1"
  target := .finite (13 / 10)
  score := .finite (7 / 10)
  probability := .finite (7 / 10)
  confidence := .finite (9 / 10)
  dataQuality := 1
  expiresAt := .iso 45000

/-- A round of the idle session places no bet, although everything speaks for it. -/
theorem idleSession_never_places
    : EntryReady idleSession {} (warmEnvironment (7 / 10)) 0 "r1" warmSignal
      ∧ liveRound idleSession {} (warmEnvironment (7 / 10)) 0 "r1" = none := by
  refine ⟨⟨?_, ?_, ?_, by decide +kernel⟩, by decide +kernel⟩
  · exact ⟨by decide +kernel, by decide +kernel, rfl, rfl, rfl, rfl, rfl, by decide +kernel,
      by decide +kernel⟩
  · exact ⟨rfl, by decide +kernel, rfl, rfl, rfl, rfl, by decide +kernel⟩
  · unfold KeptSignal
    decide +kernel

end CrashWave.Core
