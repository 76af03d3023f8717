import CrashWave.JavaScript.Number
import CrashWave.Types

/-! States, events and context of the betting state machine. -/

namespace CrashWave.StateMachine

open JavaScript

/-- All possible states of the betting state machine. -/
inductive BettingState where
  | idle
  | readyToObserve
  | observing
  | entryEvaluating
  | entryApproved
  | betPlacing
  | betActive
  | cashOutArmed
  | cashOutRequested
  | roundComplete
  | resultRecorded
  | cooldown
  | paused
  | error
  | halted
  | reconciling
  deriving DecidableEq

/-- `BettingState` as the source spells it. -/
def BettingState.text : BettingState → String
  | .idle => "IDLE"
  | .readyToObserve => "READY_TO_OBSERVE"
  | .observing => "OBSERVING"
  | .entryEvaluating => "ENTRY_EVALUATING"
  | .entryApproved => "ENTRY_APPROVED"
  | .betPlacing => "BET_PLACING"
  | .betActive => "BET_ACTIVE"
  | .cashOutArmed => "CASH_OUT_ARMED"
  | .cashOutRequested => "CASH_OUT_REQUESTED"
  | .roundComplete => "ROUND_COMPLETE"
  | .resultRecorded => "RESULT_RECORDED"
  | .cooldown => "COOLDOWN"
  | .paused => "PAUSED"
  | .error => "ERROR"
  | .halted => "HALTED"
  | .reconciling => "RECONCILING"

/-- How a reconciliation ended. -/
inductive Resolution where
  | cashedOut
  | lost
  | unknown
  deriving DecidableEq

/-- Who forced a state. -/
inductive ForceSource where
  | recovery
  | emergencyStop
  | operatorEscalation
  deriving DecidableEq

/-- `source` as the source spells it. -/
def ForceSource.text : ForceSource → String
  | .recovery => "recovery"
  | .emergencyStop => "emergency-stop"
  | .operatorEscalation => "operator-escalation"

/-- The `type` tag of an event. -/
inductive EventType where
  | browserReady
  | authenticated
  | gameLoaded
  | roundStarted
  | riskApproved
  | riskRejected
  | entryChecksPassed
  | entryChecksFailed
  | betSubmitted
  | betConfirmed
  | betPlacementFailed
  | betPlacementTimeout
  | multiplierReachedTarget
  | cashOutTriggered
  | cashOutConfirmed
  | cashOutFailed
  | cashOutTimeout
  | roundCrashed
  | outcomeRecorded
  | cooldownElapsed
  | pauseRequested
  | resumeRequested
  | recover
  | recoveryComplete
  | reconcile
  | reconciliationComplete
  | staleMultiplier
  | healthDegraded
  | criticalError
  | halt
  | reset
  | forceState
  deriving DecidableEq

/-- The event tag as the source spells it. -/
def EventType.text : EventType → String
  | .browserReady => "BROWSER_READY"
  | .authenticated => "AUTHENTICATED"
  | .gameLoaded => "GAME_LOADED"
  | .roundStarted => "ROUND_STARTED"
  | .riskApproved => "RISK_APPROVED"
  | .riskRejected => "RISK_REJECTED"
  | .entryChecksPassed => "ENTRY_CHECKS_PASSED"
  | .entryChecksFailed => "ENTRY_CHECKS_FAILED"
  | .betSubmitted => "BET_SUBMITTED"
  | .betConfirmed => "BET_CONFIRMED"
  | .betPlacementFailed => "BET_PLACEMENT_FAILED"
  | .betPlacementTimeout => "BET_PLACEMENT_TIMEOUT"
  | .multiplierReachedTarget => "MULTIPLIER_REACHED_TARGET"
  | .cashOutTriggered => "CASH_OUT_TRIGGERED"
  | .cashOutConfirmed => "CASH_OUT_CONFIRMED"
  | .cashOutFailed => "CASH_OUT_FAILED"
  | .cashOutTimeout => "CASH_OUT_TIMEOUT"
  | .roundCrashed => "ROUND_CRASHED"
  | .outcomeRecorded => "OUTCOME_RECORDED"
  | .cooldownElapsed => "COOLDOWN_ELAPSED"
  | .pauseRequested => "PAUSE_REQUESTED"
  | .resumeRequested => "RESUME_REQUESTED"
  | .recover => "RECOVER"
  | .recoveryComplete => "RECOVERY_COMPLETE"
  | .reconcile => "RECONCILE"
  | .reconciliationComplete => "RECONCILIATION_COMPLETE"
  | .staleMultiplier => "STALE_MULTIPLIER"
  | .healthDegraded => "HEALTH_DEGRADED"
  | .criticalError => "CRITICAL_ERROR"
  | .halt => "HALT"
  | .reset => "RESET"
  | .forceState => "FORCE_STATE"

/-- Events sent to the machine, with the payload that the machine or its callers read. -/
inductive StateMachineEvent where
  | browserReady
  | authenticated
  | gameLoaded
  | roundStarted (roundId : String) (roundState : RoundState)
  | riskApproved
  | riskRejected (reason : String)
  | entryChecksPassed
  | entryChecksFailed (reason : String)
  | betSubmitted (betId : String)
  | betConfirmed (betId : String)
  | betPlacementFailed (reason : String)
  | betPlacementTimeout
  | multiplierReachedTarget (multiplier : Number)
  | cashOutTriggered
  | cashOutConfirmed (multiplier pnl : Number)
  | cashOutFailed (reason : String)
  | cashOutTimeout
  | roundCrashed (crashPoint : Number)
  | outcomeRecorded
  | cooldownElapsed
  | pauseRequested (reason : String)
  | resumeRequested
  | recover
  | recoveryComplete
  | reconcile (activeBetId : Option String)
  | reconciliationComplete (resolution : Resolution)
  | staleMultiplier
  | healthDegraded (component reason : String)
  | criticalError (component : String)
  | halt (reason : String)
  | reset
  | forceState (reason : String) (source : ForceSource)
  deriving DecidableEq

/-- `event.type`. -/
def StateMachineEvent.type : StateMachineEvent → EventType
  | .browserReady => .browserReady
  | .authenticated => .authenticated
  | .gameLoaded => .gameLoaded
  | .roundStarted _ _ => .roundStarted
  | .riskApproved => .riskApproved
  | .riskRejected _ => .riskRejected
  | .entryChecksPassed => .entryChecksPassed
  | .entryChecksFailed _ => .entryChecksFailed
  | .betSubmitted _ => .betSubmitted
  | .betConfirmed _ => .betConfirmed
  | .betPlacementFailed _ => .betPlacementFailed
  | .betPlacementTimeout => .betPlacementTimeout
  | .multiplierReachedTarget _ => .multiplierReachedTarget
  | .cashOutTriggered => .cashOutTriggered
  | .cashOutConfirmed _ _ => .cashOutConfirmed
  | .cashOutFailed _ => .cashOutFailed
  | .cashOutTimeout => .cashOutTimeout
  | .roundCrashed _ => .roundCrashed
  | .outcomeRecorded => .outcomeRecorded
  | .cooldownElapsed => .cooldownElapsed
  | .pauseRequested _ => .pauseRequested
  | .resumeRequested => .resumeRequested
  | .recover => .recover
  | .recoveryComplete => .recoveryComplete
  | .reconcile _ => .reconcile
  | .reconciliationComplete _ => .reconciliationComplete
  | .staleMultiplier => .staleMultiplier
  | .healthDegraded _ _ => .healthDegraded
  | .criticalError _ => .criticalError
  | .halt _ => .halt
  | .reset => .reset
  | .forceState _ _ => .forceState

/-- The operational state carried across transitions and read by the guards. -/
structure StateMachineContext where
  sessionId : String
  currentRoundId : Option String
  currentBetId : Option String
  roundState : Option RoundState
  currentBalance : Option Number
  paused : Bool
  killSwitch : Bool
  consecutiveErrors : Number
  cashOutFailures : Number
  lastBetAt : Option DateText
  openBetExists : Bool
  browserHealthy : Bool
  gameAdapterHealthy : Bool
  minConfidenceForEntry : ObservationConfidence
  cooldownMs : Number
  maxConsecutiveErrors : Number
  maxCashOutFailures : Number
  deriving DecidableEq

/-- `Partial<StateMachineContext>`: the fields to overwrite. -/
structure ContextOverrides where
  sessionId : Option String := none
  currentRoundId : Option (Option String) := none
  currentBetId : Option (Option String) := none
  roundState : Option (Option RoundState) := none
  currentBalance : Option (Option Number) := none
  paused : Option Bool := none
  killSwitch : Option Bool := none
  consecutiveErrors : Option Number := none
  cashOutFailures : Option Number := none
  lastBetAt : Option (Option DateText) := none
  openBetExists : Option Bool := none
  browserHealthy : Option Bool := none
  gameAdapterHealthy : Option Bool := none
  minConfidenceForEntry : Option ObservationConfidence := none
  cooldownMs : Option Number := none
  maxConsecutiveErrors : Option Number := none
  maxCashOutFailures : Option Number := none

/-- `{ ...context, ...overrides }`. -/
def StateMachineContext.override (context : StateMachineContext)
    (overrides : ContextOverrides) : StateMachineContext where
  sessionId := overrides.sessionId.getD context.sessionId
  currentRoundId := overrides.currentRoundId.getD context.currentRoundId
  currentBetId := overrides.currentBetId.getD context.currentBetId
  roundState := overrides.roundState.getD context.roundState
  currentBalance := overrides.currentBalance.getD context.currentBalance
  paused := overrides.paused.getD context.paused
  killSwitch := overrides.killSwitch.getD context.killSwitch
  consecutiveErrors := overrides.consecutiveErrors.getD context.consecutiveErrors
  cashOutFailures := overrides.cashOutFailures.getD context.cashOutFailures
  lastBetAt := overrides.lastBetAt.getD context.lastBetAt
  openBetExists := overrides.openBetExists.getD context.openBetExists
  browserHealthy := overrides.browserHealthy.getD context.browserHealthy
  gameAdapterHealthy := overrides.gameAdapterHealthy.getD context.gameAdapterHealthy
  minConfidenceForEntry :=
    overrides.minConfidenceForEntry.getD context.minConfidenceForEntry
  cooldownMs := overrides.cooldownMs.getD context.cooldownMs
  maxConsecutiveErrors := overrides.maxConsecutiveErrors.getD context.maxConsecutiveErrors
  maxCashOutFailures := overrides.maxCashOutFailures.getD context.maxCashOutFailures

/-- Default context values for a fresh state machine instance. -/
def createDefaultContext (sessionId : String) (overrides : ContextOverrides)
    : StateMachineContext :=
  StateMachineContext.override
    { sessionId
      currentRoundId := none
      currentBetId := none
      roundState := none
      currentBalance := none
      paused := false
      killSwitch := false
      consecutiveErrors := 0
      cashOutFailures := 0
      lastBetAt := none
      openBetExists := false
      browserHealthy := true
      gameAdapterHealthy := true
      minConfidenceForEntry := .high
      cooldownMs := 5000
      maxConsecutiveErrors := 3
      maxCashOutFailures := 2 }
    overrides

end CrashWave.StateMachine
