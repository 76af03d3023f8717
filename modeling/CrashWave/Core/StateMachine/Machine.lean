import CrashWave.Core.StateMachine.Guards
import CrashWave.Core.StateMachine.Types

/-! The transition table of the state machine, in the order of the source; and the machine itself:
`send`, `updateContext` and `forceState`. Callbacks appear as the list of notifications a call
makes.
-/

namespace CrashWave.StateMachine

open JavaScript

/-- One allowed transition. -/
structure TransitionRule where
  fromState : BettingState
  event : EventType
  toState : BettingState
  requiresGuard : Bool
  description : String

/-- The complete transition matrix; any combination not listed is rejected. -/
def transitionRules : List TransitionRule :=
  [
    -- Initialization
    ⟨.idle, .browserReady, .readyToObserve, false, "Browser launched and responsive"⟩,
    ⟨.readyToObserve, .authenticated, .readyToObserve, false, "Session authenticated"⟩,
    ⟨.readyToObserve, .gameLoaded, .observing, false, "Crash game page loaded"⟩,
    -- Observation → Entry Evaluation
    ⟨.observing, .roundStarted, .entryEvaluating, true,
      "New round started — evaluate entry conditions"⟩,
    ⟨.cooldown, .roundStarted, .entryEvaluating, true,
      "New round after cooldown — evaluate entry"⟩,
    -- Entry Evaluation Outcomes
    ⟨.entryEvaluating, .riskApproved, .entryApproved, true,
      "Risk engine approved entry — all guards pass"⟩,
    ⟨.entryEvaluating, .riskRejected, .observing, false,
      "Risk engine rejected entry — return to observation"⟩,
    ⟨.entryEvaluating, .entryChecksFailed, .observing, false,
      "Entry checks failed — return to observation"⟩,
    -- Entry Approved → Bet Placement
    ⟨.entryApproved, .entryChecksPassed, .betPlacing, true,
      "All entry checks confirmed — place bet"⟩,
    ⟨.entryApproved, .betSubmitted, .betPlacing, true, "Bet submission initiated"⟩,
    -- Bet Placement Outcomes
    ⟨.betPlacing, .betConfirmed, .betActive, false, "Bet confirmed by game"⟩,
    ⟨.betPlacing, .betPlacementFailed, .error, false, "Bet placement failed"⟩,
    ⟨.betPlacing, .betPlacementTimeout, .error, false, "Bet placement timed out"⟩,
    -- Bet Active → Cash-Out or Crash
    ⟨.betActive, .multiplierReachedTarget, .cashOutArmed, false,
      "Target multiplier reached — arm cash-out"⟩,
    ⟨.betActive, .roundCrashed, .roundComplete, false,
      "Round crashed before cash-out — bet lost"⟩,
    -- Cash-Out Armed → Requested
    ⟨.cashOutArmed, .cashOutTriggered, .cashOutRequested, true, "Cash-out action triggered"⟩,
    -- Cash-Out Requested Outcomes
    ⟨.cashOutRequested, .cashOutConfirmed, .roundComplete, false,
      "Cash-out confirmed — bet won"⟩,
    ⟨.cashOutRequested, .cashOutFailed, .error, false, "Cash-out failed"⟩,
    ⟨.cashOutRequested, .cashOutTimeout, .error, false, "Cash-out timed out"⟩,
    ⟨.cashOutRequested, .roundCrashed, .roundComplete, false,
      "Round crashed during cash-out request — bet lost"⟩,
    -- Round Complete → Result Recorded
    ⟨.roundComplete, .outcomeRecorded, .resultRecorded, false, "Outcome persisted to ledger"⟩,
    -- Result Recorded → Cooldown
    ⟨.resultRecorded, .cooldownElapsed, .cooldown, false, "Post-round cooldown period"⟩,
    -- Cooldown → Observation
    ⟨.cooldown, .cooldownElapsed, .observing, false, "Cooldown complete — resume observation"⟩,
    -- Pause / Resume
    ⟨.observing, .pauseRequested, .paused, false, "Operator requested pause"⟩,
    ⟨.entryEvaluating, .pauseRequested, .paused, false, "Operator paused during evaluation"⟩,
    ⟨.entryApproved, .pauseRequested, .paused, false, "Operator paused after approval"⟩,
    ⟨.cooldown, .pauseRequested, .paused, false, "Operator paused during cooldown"⟩,
    ⟨.paused, .resumeRequested, .observing, true, "Operator requested resume"⟩,
    -- Error Handling
    ⟨.observing, .staleMultiplier, .error, false, "Multiplier data stale"⟩,
    ⟨.observing, .healthDegraded, .error, false, "Health degraded during observation"⟩,
    ⟨.entryEvaluating, .healthDegraded, .error, false, "Health degraded during evaluation"⟩,
    ⟨.betPlacing, .healthDegraded, .error, false, "Health degraded during bet placement"⟩,
    ⟨.betActive, .healthDegraded, .error, false, "Health degraded while bet active"⟩,
    ⟨.cashOutRequested, .healthDegraded, .error, false, "Health degraded during cash-out"⟩,
    ⟨.betActive, .criticalError, .error, false, "Critical error while bet active"⟩,
    ⟨.betPlacing, .criticalError, .error, false, "Critical error during bet placement"⟩,
    ⟨.cashOutRequested, .criticalError, .error, false, "Critical error during cash-out"⟩,
    ⟨.observing, .criticalError, .error, false, "Critical error during observation"⟩,
    -- Recovery
    -- Disconnect / Socket Drop → RECONCILING
    ⟨.observing, .reconcile, .reconciling, false, "Socket drop — enter reconciliation"⟩,
    ⟨.entryEvaluating, .reconcile, .reconciling, false, "Socket drop during evaluation"⟩,
    ⟨.betPlacing, .reconcile, .reconciling, false, "Socket drop during bet placement"⟩,
    ⟨.betActive, .reconcile, .reconciling, false, "Socket drop while bet active"⟩,
    ⟨.cashOutArmed, .reconcile, .reconciling, false, "Socket drop while cash-out armed"⟩,
    ⟨.cashOutRequested, .reconcile, .reconciling, false, "Socket drop during cash-out"⟩,
    ⟨.cooldown, .reconcile, .reconciling, false, "Socket drop during cooldown"⟩,
    ⟨.error, .recover, .reconciling, true, "Attempt recovery from error"⟩,
    ⟨.error, .reconcile, .reconciling, false, "Enter reconciliation mode"⟩,
    -- After reconciliation observation always resumes.
    ⟨.reconciling, .reconciliationComplete, .observing, false,
      "Reconciliation finished — resume observation"⟩,
    ⟨.reconciling, .recoveryComplete, .observing, false,
      "Recovery complete — resume observation"⟩,
    -- Halt
    ⟨.error, .halt, .halted, false, "Halt from error state"⟩,
    ⟨.observing, .halt, .halted, false, "Emergency halt from observation"⟩,
    ⟨.paused, .halt, .halted, false, "Emergency halt from paused"⟩,
    ⟨.reconciling, .halt, .halted, false, "Halt during reconciliation"⟩,
    ⟨.betActive, .halt, .halted, false, "Emergency halt with active bet"⟩,
    -- Reset
    ⟨.halted, .reset, .idle, false, "Reset from halted to idle"⟩,
    ⟨.error, .reset, .idle, false, "Reset from error to idle"⟩,
    ⟨.paused, .reset, .idle, false, "Reset from paused to idle"⟩]

/-- All transition rules for a state and an event type, in table order. -/
def findTransitions (fromState : BettingState) (eventType : EventType)
    : List TransitionRule :=
  transitionRules.filter fun rule => rule.fromState = fromState ∧ rule.event = eventType

/-- Whether a transition is defined, whatever its guard says. -/
def isTransitionDefined (fromState : BettingState) (eventType : EventType) : Bool :=
  !(findTransitions fromState eventType).isEmpty

theorem findTransitions_spec {fromState : BettingState} {eventType : EventType}
    {rule : TransitionRule} (found : rule ∈ findTransitions fromState eventType)
    : rule ∈ transitionRules ∧ rule.fromState = fromState ∧ rule.event = eventType := by
  simpa only [findTransitions, List.mem_filter, decide_eq_true_eq] using found

-----------------------------------------------------------------------------------------
-- The machine
-----------------------------------------------------------------------------------------

/-- The private fields of `BettingStateMachine`. -/
structure BettingStateMachine where
  state : BettingState
  context : StateMachineContext
  deriving DecidableEq

/-- `new BettingStateMachine({ sessionId, initialState, contextOverrides })`. -/
def createStateMachine (sessionId : String) (initialState : BettingState := .idle)
    (contextOverrides : ContextOverrides := {}) : BettingStateMachine where
  state := initialState
  context := createDefaultContext sessionId contextOverrides

/-- What `TransitionResult.message` says. -/
inductive Message where
  | invalidTransition (state : BettingState) (event : EventType)
  | guardEscalated (reason : GuardReason)
  | guardRejected (reason : GuardReason)
  | described (description : String)

/-- The `message` string. -/
def Message.text (display : Number → String) : Message → String
  | .invalidTransition state event =>
      "Invalid transition: " ++ state.text ++ " → ? via " ++ event.text
  | .guardEscalated reason =>
      "Guard rejected: " ++ reason.text display ++ " — transitioned to ERROR"
  | .guardRejected reason => reason.text display
  | .described description => description

/-- Why the failure callback runs. -/
inductive FailureReason where
  | guardFailed (reason : GuardReason)
  | stated (reason : String)

/-- A callback invocation. -/
inductive Notification where
  | stateChange (fromState toState : BettingState) (event : StateMachineEvent)
    (context : StateMachineContext)
  | failure (state : BettingState) (reason : FailureReason) (context : StateMachineContext)

/-- What `send` leaves behind: the machine, the result it returns without its context
(which is the machine's), and the callbacks it makes.
-/
structure SendOutcome where
  machine : BettingStateMachine
  accepted : Bool
  message : Message
  notifications : List Notification := []

/-- `result.newState`. -/
def SendOutcome.newState (outcome : SendOutcome) : BettingState := outcome.machine.state

/-- Copies the round of a `ROUND_STARTED` into the context, before any guard runs. -/
def preloadContextFromEvent (event : StateMachineEvent) (context : StateMachineContext)
    : StateMachineContext :=
  match event with
  | .roundStarted roundId roundState =>
      { context with currentRoundId := some roundId, roundState := some roundState }
  | _ => context

/-- The guard of a state and an event; a combination without one is permitted. -/
def evaluateGuard (now : Int) (state : BettingState) (context : StateMachineContext)
    (event : StateMachineEvent) : GuardResult :=
  match state with
  | .observing | .cooldown =>
      if event.type = .roundStarted then guardCanEvaluateEntry now context event
      else if event.type = .resumeRequested then guardCanResume context
      else .permitted
  | .entryEvaluating =>
      if event.type = .riskApproved then guardCanApproveEntry now context event
      else .permitted
  | .entryApproved =>
      if event.type = .entryChecksPassed ∨ event.type = .betSubmitted then
        guardCanPlaceBet now context event
      else .permitted
  | .cashOutArmed =>
      if event.type = .cashOutTriggered then guardCanCashOut context event else .permitted
  | .paused =>
      if event.type = .resumeRequested then guardCanResume context else .permitted
  | .error =>
      if event.type = .recover then guardCanRecover context else .permitted
  | _ => .permitted

/-- A failed entry guard goes to `ERROR` when the kill switch is engaged. -/
def shouldTransitionToErrorOnGuardFailure (state : BettingState)
    (context : StateMachineContext) (event : StateMachineEvent) : Bool :=
  if (state = .observing ∨ state = .cooldown) ∧ event.type = .roundStarted then
    context.killSwitch
  else
    false

/-- Side effects on the pause flag. -/
def trackPause (event : StateMachineEvent) (context : StateMachineContext)
    : StateMachineContext :=
  match event with
  | .pauseRequested _ => { context with paused := true }
  | .resumeRequested => { context with paused := false }
  | _ => context

/-- Side effects of a confirmed or submitted bet. -/
def trackBet (event : StateMachineEvent) (context : StateMachineContext)
    : StateMachineContext :=
  match event with
  | .betConfirmed betId =>
      { context with
        openBetExists := true
        currentBetId := some betId
        consecutiveErrors := 0 }
  | .betSubmitted betId => { context with currentBetId := some betId }
  | _ => context

/-- Side effects of a confirmed cash-out and of a crashed round. -/
def trackCashOut (event : StateMachineEvent) (context : StateMachineContext)
    : StateMachineContext :=
  match event with
  | .cashOutConfirmed _ _ =>
      { context with openBetExists := false, currentBetId := none, cashOutFailures := 0 }
  | .roundCrashed _ => { context with openBetExists := false, currentBetId := none }
  | _ => context

/-- Error counters; they move only when the transition ends in `ERROR`. -/
def trackErrors (event : StateMachineEvent) (toState : BettingState)
    (context : StateMachineContext) : StateMachineContext :=
  if toState = .error then
    match event with
    | .betPlacementFailed _ | .betPlacementTimeout =>
        { context with consecutiveErrors := context.consecutiveErrors + 1 }
    | .cashOutFailed _ | .cashOutTimeout =>
        { context with cashOutFailures := context.cashOutFailures + 1 }
    | _ => context
  else
    context

/-- Side effects of a halt, a reset and a finished reconciliation. -/
def trackRecovery (event : StateMachineEvent) (context : StateMachineContext)
    : StateMachineContext :=
  match event with
  | .halt _ => { context with killSwitch := true }
  | .reset =>
      { context with
        consecutiveErrors := 0
        cashOutFailures := 0
        openBetExists := false
        currentBetId := none
        paused := false
        killSwitch := false }
  | .reconciliationComplete _ =>
      { context with openBetExists := false, currentBetId := none }
  | _ => context

/-- The cooldown starts when a result is recorded. -/
def trackCooldown (now : Int) (toState : BettingState) (context : StateMachineContext)
    : StateMachineContext :=
  if toState = .resultRecorded then { context with lastBetAt := some (.iso now) }
  else context

/-- The side effects of an accepted transition, in the order of the source. -/
def applySideEffects (now : Int) (event : StateMachineEvent) (toState : BettingState)
    (context : StateMachineContext) : StateMachineContext :=
  trackCooldown now toState
    (trackRecovery event
      (trackErrors event toState
        (trackCashOut event
          (trackBet event
            (preloadContextFromEvent event
              (trackPause event context))))))

/-- The reason reported to the failure callback. -/
def extractFailureReason (event : StateMachineEvent) (state : BettingState) : String :=
  if state = .halted then
    match event with
    | .halt reason => reason
    | _ => "System halted"
  else
    match event with
    | .betPlacementFailed reason => reason
    | .healthDegraded component reason => component ++ ": " ++ reason
    | .staleMultiplier => "Multiplier data stale"
    | _ => "Unknown error"

/-- The accepted transition of a rule. -/
def takeTransition (now : Int) (event : StateMachineEvent) (fromState : BettingState)
    (context : StateMachineContext) (rule : TransitionRule) : SendOutcome :=
  let toState := rule.toState
  let context := applySideEffects now event toState context
  { machine := { state := toState, context }
    accepted := true
    message := .described rule.description
    notifications :=
      .stateChange fromState toState event context
        :: (if toState = .error ∨ toState = .halted then
              [.failure toState (.stated (extractFailureReason event toState)) context]
            else []) }

/-- Sends an event at time `now`. Only the first matching rule is considered. -/
def send (machine : BettingStateMachine) (now : Int) (event : StateMachineEvent)
    : SendOutcome :=
  let context := preloadContextFromEvent event machine.context
  match findTransitions machine.state event.type with
  | [] =>
      { machine := { machine with context }
        accepted := false
        message := .invalidTransition machine.state event.type }
  | rule :: _ =>
      let guardResult :=
        if rule.requiresGuard then evaluateGuard now machine.state context event
        else .permitted
      match guardResult with
      | .permitted => takeTransition now event machine.state context rule
      | .rejected reason =>
          if shouldTransitionToErrorOnGuardFailure machine.state context event then
            let context :=
              { context with consecutiveErrors := context.consecutiveErrors + 1 }
            { machine := { state := .error, context }
              accepted := true
              message := .guardEscalated reason
              notifications :=
                [.stateChange machine.state .error event context,
                  .failure .error (.guardFailed reason) context] }
          else
            { machine := { machine with context }
              accepted := false
              message := .guardRejected reason }

/-- Overwrites context fields from outside. -/
def updateContext (machine : BettingStateMachine) (overrides : ContextOverrides)
    : BettingStateMachine :=
  { machine with context := machine.context.override overrides }

/-- Whether an event type is defined in the current state. -/
def canAccept (machine : BettingStateMachine) (eventType : EventType) : Bool :=
  isTransitionDefined machine.state eventType

/-- Whether the machine is halted. -/
def isHalted (machine : BettingStateMachine) : Bool := machine.state = .halted

/-- Whether the state is one in which a bet is in play. -/
def hasActiveBet (machine : BettingStateMachine) : Bool :=
  machine.state = .betPlacing ∨ machine.state = .betActive
    ∨ machine.state = .cashOutArmed ∨ machine.state = .cashOutRequested

/-- The ways one `send` can go, with the machine it leaves and whether it was accepted. -/
inductive Sends (machine : BettingStateMachine) (now : Int) (event : StateMachineEvent)
    : BettingStateMachine → Bool → Prop
  | ignored
    : Sends machine now event
        { machine with context := preloadContextFromEvent event machine.context } false
  | escalated (entered : machine.state = .observing ∨ machine.state = .cooldown)
    (started : event.type = .roundStarted) (killed : machine.context.killSwitch = true)
    : Sends machine now event
        { state := .error
          context :=
            { preloadContextFromEvent event machine.context with
              consecutiveErrors := machine.context.consecutiveErrors + 1 } } true
  | taken (rule : TransitionRule) (listed : rule ∈ transitionRules)
    (fromState : rule.fromState = machine.state) (kind : rule.event = event.type)
    (passed : rule.requiresGuard = true
      → evaluateGuard now machine.state
          (preloadContextFromEvent event machine.context) event = .permitted)
    : Sends machine now event
        { state := rule.toState
          context := applySideEffects now event rule.toState
            (preloadContextFromEvent event machine.context) } true

theorem preload_killSwitch (event : StateMachineEvent) (context : StateMachineContext)
    : (preloadContextFromEvent event context).killSwitch = context.killSwitch := by
  cases event <;> rfl

theorem preload_consecutiveErrors (event : StateMachineEvent)
    (context : StateMachineContext)
    : (preloadContextFromEvent event context).consecutiveErrors
      = context.consecutiveErrors := by
  cases event <;> rfl

/-- Every send goes one of the three ways, by following the branches of `send`. -/
theorem send_sends (machine : BettingStateMachine) (now : Int) (event : StateMachineEvent)
    : Sends machine now event (send machine now event).machine
        (send machine now event).accepted := by
  unfold send
  split
  · exact .ignored
  · next rule rest found =>
      have member : rule ∈ findTransitions machine.state event.type := by simp [found]
      obtain ⟨listed, fromState, kind⟩ := findTransitions_spec member
      dsimp only
      split
      · next permitted =>
          refine .taken rule listed fromState kind ?_
          intro required
          simpa only [required, if_true] using permitted
      · next reason rejected =>
          split
          · next escalates =>
              simp only [shouldTransitionToErrorOnGuardFailure] at escalates
              split at escalates
              · next entry =>
                  rw [preload_killSwitch] at escalates
                  rw [preload_consecutiveErrors]
                  exact .escalated entry.1 entry.2 escalates
              · exact absurd escalates Bool.false_ne_true
          · exact .ignored

end CrashWave.StateMachine
