import CrashWave.Core.StateMachine.Types

/-! The guards of the state machine: pure checks of the context, every rejection with its
reason. `now` stands for `Date.now()`.
-/

namespace CrashWave.StateMachine

open JavaScript

/-- Why a guard rejects, with the values its message quotes. -/
inductive GuardReason where
  | browserUnhealthy
  | gameAdapterUnhealthy
  | confidenceTooLow (confidence required : ObservationConfidence)
  | paused
  | killSwitchEngaged
  | openBetExists
  | cooldownActive (seconds : Number)
  | noRoundState
  | roundIdMissing
  | wrongPhase (phase : RoundPhase)
  | balanceUnknown
  | errorThresholdExceeded (count maximum : Number)
  | cashOutFailureThresholdExceeded (count maximum : Number)
  | needsRoundStarted
  | needsRiskApproved
  | needsPlacementEvent
  | needsCashOutEvent
  | noOpenBet
  | betIdMissing
  | notPaused
  | killSwitchBlocksResume
  | tooManyErrors (count : Number)
  deriving DecidableEq

/-- The `reason` string; `display` prints a number as a template literal does. -/
def GuardReason.text (display : Number → String) : GuardReason → String
  | .browserUnhealthy =>
      "Browser health check failed — betting suspended until browser recovers"
  | .gameAdapterUnhealthy => "Game adapter health check failed — observation data unreliable"
  | .confidenceTooLow confidence required =>
      "Observation confidence is " ++ confidence.text ++ ", but " ++ required.text
        ++ " is required — round data too uncertain for betting"
  | .paused => "System is paused — resume before placing bets"
  | .killSwitchEngaged => "Kill switch is engaged — manual operator intervention required"
  | .openBetExists =>
      "An open bet already exists — cannot place another until current bet resolves"
  | .cooldownActive seconds =>
      "Cooldown active — " ++ display seconds ++ "s remaining before next entry"
  | .noRoundState =>
      "No round state available — observer not initialized or round not detected"
  | .roundIdMissing => "Round ID is missing — cannot associate bet with a specific round"
  | .wrongPhase phase =>
      "Round phase is " ++ phase.text ++ ", but must be starting or running to place a bet"
  | .balanceUnknown => "Current balance is unknown — cannot verify sufficient funds"
  | .errorThresholdExceeded count maximum =>
      "Consecutive error threshold exceeded (" ++ display count ++ "/" ++ display maximum
        ++ ") — halting to prevent cascade failure"
  | .cashOutFailureThresholdExceeded count maximum =>
      "Cash-out failure threshold exceeded (" ++ display count ++ "/" ++ display maximum
        ++ ") — execution path unreliable"
  | .needsRoundStarted => "Entry evaluation requires a ROUND_STARTED event"
  | .needsRiskApproved => "Entry approval requires a RISK_APPROVED event"
  | .needsPlacementEvent =>
      "Bet placement requires ENTRY_CHECKS_PASSED or BET_SUBMITTED event"
  | .needsCashOutEvent =>
      "Cash-out requires MULTIPLIER_REACHED_TARGET or CASH_OUT_TRIGGERED event"
  | .noOpenBet => "No open bet to cash out"
  | .betIdMissing => "Bet ID missing — cannot request cash-out"
  | .notPaused => "System is not paused — no resume needed"
  | .killSwitchBlocksResume => "Cannot resume while kill switch is engaged"
  | .tooManyErrors count =>
      "Too many consecutive errors (" ++ display count ++ ") — manual reset required"

/-- The outcome of a guard. -/
inductive GuardResult where
  | permitted
  | rejected (reason : GuardReason)
  deriving DecidableEq

/-- Rejects while the browser is unhealthy. -/
def guardBrowserHealthy (ctx : StateMachineContext) : GuardResult :=
  if !ctx.browserHealthy then .rejected .browserUnhealthy else .permitted

/-- Rejects while the game adapter is unhealthy. -/
def guardGameAdapterHealthy (ctx : StateMachineContext) : GuardResult :=
  if !ctx.gameAdapterHealthy then .rejected .gameAdapterUnhealthy else .permitted

/-- Rejects an observation below the configured confidence; no round counts as low. -/
def guardObservationConfidence (ctx : StateMachineContext) : GuardResult :=
  let required := ctx.minConfidenceForEntry
  let confidence := (ctx.roundState.map (·.confidence)).getD .low
  if confidence.level < required.level then
    .rejected (.confidenceTooLow confidence required)
  else
    .permitted

/-- Rejects while the system is paused. -/
def guardNotPaused (ctx : StateMachineContext) : GuardResult :=
  if ctx.paused then .rejected .paused else .permitted

/-- Rejects while the kill switch is engaged. -/
def guardKillSwitchOff (ctx : StateMachineContext) : GuardResult :=
  if ctx.killSwitch then .rejected .killSwitchEngaged else .permitted

/-- Rejects while there is an open bet. -/
def guardNoOpenBet (ctx : StateMachineContext) : GuardResult :=
  if ctx.openBetExists then .rejected .openBetExists else .permitted

/-- Rejects until the cooldown since the last recorded result has elapsed. -/
def guardCooldownElapsed (now : Int) (ctx : StateMachineContext) : GuardResult :=
  match ctx.lastBetAt with
  | none | some .empty => .permitted
  | some lastBetAt =>
      let elapsed := .finite now - lastBetAt.getTime
      if elapsed < ctx.cooldownMs then
        .rejected (.cooldownActive (((ctx.cooldownMs - elapsed).divide 1000).ceil))
      else
        .permitted

/-- Rejects without a round that is starting or running. -/
def guardRoundValid (ctx : StateMachineContext) (eventRoundId : Option String)
    : GuardResult :=
  match ctx.roundState with
  | none => .rejected .noRoundState
  | some roundState =>
      if !truthy ctx.currentRoundId && !truthy eventRoundId then
        .rejected .roundIdMissing
      else if roundState.phase ≠ .starting ∧ roundState.phase ≠ .running then
        .rejected (.wrongPhase roundState.phase)
      else
        .permitted

/-- Rejects while the balance is unknown. -/
def guardBalanceKnown (ctx : StateMachineContext) : GuardResult :=
  if ctx.currentBalance.isNone then .rejected .balanceUnknown else .permitted

/-- Rejects once the consecutive errors have reached their maximum. -/
def guardErrorThreshold (ctx : StateMachineContext) : GuardResult :=
  if ctx.maxConsecutiveErrors ≤ ctx.consecutiveErrors then
    .rejected (.errorThresholdExceeded ctx.consecutiveErrors ctx.maxConsecutiveErrors)
  else
    .permitted

/-- Rejects once the cash-out failures have reached their maximum. -/
def guardCashOutFailureThreshold (ctx : StateMachineContext) : GuardResult :=
  if ctx.maxCashOutFailures ≤ ctx.cashOutFailures then
    .rejected
      (.cashOutFailureThresholdExceeded ctx.cashOutFailures ctx.maxCashOutFailures)
  else
    .permitted

/-- The first rejection of a list of guard results. -/
def firstRejection : List GuardResult → GuardResult
  | [] => .permitted
  | .permitted :: rest => firstRejection rest
  | .rejected reason :: _ => .rejected reason

/-- The round id an event brings along. -/
def eventRoundId : StateMachineEvent → Option String
  | .roundStarted roundId _ => some roundId
  | _ => none

/-- The guards that must all pass for a bet to be placed, in the order they run. -/
def entryGuards (now : Int) (ctx : StateMachineContext) (event : StateMachineEvent)
    : List GuardResult :=
  [guardBrowserHealthy ctx, guardGameAdapterHealthy ctx, guardNotPaused ctx,
    guardKillSwitchOff ctx, guardNoOpenBet ctx, guardCooldownElapsed now ctx,
    guardRoundValid ctx (eventRoundId event), guardObservationConfidence ctx,
    guardBalanceKnown ctx, guardErrorThreshold ctx, guardCashOutFailureThreshold ctx]

/-- Every entry guard, reporting the first rejection. -/
def guardAllEntryConditions (now : Int) (ctx : StateMachineContext)
    (event : StateMachineEvent) : GuardResult :=
  firstRejection (entryGuards now ctx event)

/-- Guards `OBSERVING → ENTRY_EVALUATING`. -/
def guardCanEvaluateEntry (now : Int) (ctx : StateMachineContext)
    (event : StateMachineEvent) : GuardResult :=
  match event with
  | .roundStarted roundId _ =>
      match guardRoundValid ctx (some roundId) with
      | .rejected reason => .rejected reason
      | .permitted => guardAllEntryConditions now ctx event
  | _ => .rejected .needsRoundStarted

/-- Guards `ENTRY_EVALUATING → ENTRY_APPROVED`. -/
def guardCanApproveEntry (now : Int) (ctx : StateMachineContext)
    (event : StateMachineEvent) : GuardResult :=
  if event.type ≠ .riskApproved then
    .rejected .needsRiskApproved
  else
    guardAllEntryConditions now ctx event

/-- Guards the transition to `BET_PLACING`. -/
def guardCanPlaceBet (now : Int) (ctx : StateMachineContext)
    (event : StateMachineEvent) : GuardResult :=
  if event.type ≠ .entryChecksPassed ∧ event.type ≠ .betSubmitted then
    .rejected .needsPlacementEvent
  else
    guardAllEntryConditions now ctx event

/-- Guards the cash-out trigger. -/
def guardCanCashOut (ctx : StateMachineContext) (event : StateMachineEvent) : GuardResult :=
  if event.type ≠ .multiplierReachedTarget ∧ event.type ≠ .cashOutTriggered then
    .rejected .needsCashOutEvent
  else if !ctx.openBetExists then
    .rejected .noOpenBet
  else if !truthy ctx.currentBetId then
    .rejected .betIdMissing
  else
    .permitted

/-- Guards resuming from `PAUSED`. -/
def guardCanResume (ctx : StateMachineContext) : GuardResult :=
  if !ctx.paused then
    .rejected .notPaused
  else if ctx.killSwitch then
    .rejected .killSwitchBlocksResume
  else
    .permitted

/-- Guards recovery from `ERROR`. -/
def guardCanRecover (ctx : StateMachineContext) : GuardResult :=
  if ctx.maxConsecutiveErrors ≤ ctx.consecutiveErrors then
    .rejected (.tooManyErrors ctx.consecutiveErrors)
  else
    .permitted

theorem firstRejection_eq_permitted {results : List GuardResult}
    : firstRejection results = .permitted ↔ ∀ result ∈ results, result = .permitted := by
  induction results with
  | nil => simp [firstRejection]
  | cons result rest ih =>
      cases result with
      | permitted => simp [firstRejection, ih]
      | rejected reason => simp [firstRejection]

/-- The conditions of an entry as properties of the context, one field for each guard. -/
structure EntryOpen (now : Int) (ctx : StateMachineContext) (event : StateMachineEvent)
    : Prop where
  browserHealthy : ctx.browserHealthy = true
  gameAdapterHealthy : ctx.gameAdapterHealthy = true
  notPaused : ctx.paused = false
  killSwitchOff : ctx.killSwitch = false
  noOpenBet : ctx.openBetExists = false
  cooldownElapsed : guardCooldownElapsed now ctx = .permitted
  roundValid : guardRoundValid ctx (eventRoundId event) = .permitted
  observationConfidence : guardObservationConfidence ctx = .permitted
  balanceKnown : ctx.currentBalance.isSome = true
  errorThreshold : ¬ ctx.maxConsecutiveErrors ≤ ctx.consecutiveErrors
  cashOutFailureThreshold : ¬ ctx.maxCashOutFailures ≤ ctx.cashOutFailures

/-- The composite guard permits exactly the contexts in which an entry is open, by
reading each guard of the list.
-/
theorem guardAllEntryConditions_eq_permitted {now : Int} {ctx : StateMachineContext}
    {event : StateMachineEvent}
    : guardAllEntryConditions now ctx event = .permitted ↔ EntryOpen now ctx event := by
  unfold guardAllEntryConditions
  rw [firstRejection_eq_permitted]
  constructor
  · intro passed
    simp only [entryGuards, List.forall_mem_cons] at passed
    obtain ⟨browser, adapter, paused, kill, bet, cooldown, round, confidence, balance,
      errors, cashOut, -⟩ := passed
    exact {
      browserHealthy := by simpa [guardBrowserHealthy] using browser
      gameAdapterHealthy := by simpa [guardGameAdapterHealthy] using adapter
      notPaused := by simpa [guardNotPaused] using paused
      killSwitchOff := by simpa [guardKillSwitchOff] using kill
      noOpenBet := by simpa [guardNoOpenBet] using bet
      cooldownElapsed := cooldown
      roundValid := round
      observationConfidence := confidence
      balanceKnown := by simpa [guardBalanceKnown, Option.isSome_iff_ne_none] using balance
      errorThreshold := by simpa [guardErrorThreshold] using errors
      cashOutFailureThreshold := by simpa [guardCashOutFailureThreshold] using cashOut
    }
  · intro entry
    have notEmpty : ctx.currentBalance.isNone = false := by
      simpa using entry.balanceKnown
    simp only [entryGuards, List.forall_mem_cons, List.not_mem_nil, false_implies,
      implies_true, and_true]
    refine ⟨?_, ?_, ?_, ?_, ?_, entry.cooldownElapsed, entry.roundValid,
      entry.observationConfidence, ?_, ?_, ?_⟩
    · simp [guardBrowserHealthy, entry.browserHealthy]
    · simp [guardGameAdapterHealthy, entry.gameAdapterHealthy]
    · simp [guardNotPaused, entry.notPaused]
    · simp [guardKillSwitchOff, entry.killSwitchOff]
    · simp [guardNoOpenBet, entry.noOpenBet]
    · simp [guardBalanceKnown, notEmpty]
    · simp [guardErrorThreshold, entry.errorThreshold]
    · simp [guardCashOutFailureThreshold, entry.cashOutFailureThreshold]

end CrashWave.StateMachine
