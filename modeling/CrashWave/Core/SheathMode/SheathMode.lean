import CrashWave.JavaScript.Number

/-! The sheath mode: the triggers that suspend betting, and the recovery from it. The texts and
times of a trigger, which nothing here reads, are left out.
-/

namespace CrashWave.Sheath

open JavaScript

inductive SheathState where
  | normal
  | sheathEvaluating
  | sheathActive
  | sheathRecovering
  | sheathPersistent
  deriving DecidableEq

inductive SheathSeverity where
  | critical
  | high
  | medium
  | manual
  deriving DecidableEq

inductive SheathTriggerId where
  | lowPredictionConfidence
  | poorPredictionAccuracy
  | abnormalMarket
  | dataQualityDegradation
  | workerInstability
  | excessiveFalseSignals
  | executionProblems
  | apiFailures
  | modelDrift
  | unexpectedVolatility
  | riskThresholds
  | systemHealthDegradation
  | queueBacklog
  | operatorCommand
  | predictionDivergence
  | predictionCalibrationDegraded
  | predictionColdState
  deriving DecidableEq

structure SheathTrigger where
  id : SheathTriggerId
  severity : SheathSeverity
  deriving DecidableEq

structure RecoveryCheckResult where
  name : String
  passed : Bool
  deriving DecidableEq

structure SheathTransition where
  previous : SheathState
  next : SheathState
  triggers : List SheathTrigger
  operatorCommand : Option String
  recoveryResults : Option (List RecoveryCheckResult)
  deriving DecidableEq

structure SheathModeOptions where
  evaluateHighRounds : Number := 3
  evaluateMediumRounds : Number := 5
  recoveryRequiredRounds : Number := 10
  maxRecoveryAttempts : Number := 3

/-- The state of the mode, without the times at which it evaluates and recovers since. -/
structure SheathMode where
  state : SheathState := .normal
  activeTriggers : List SheathTrigger := []
  recoveryAttempts : Nat := 0
  consecutiveRecoveryRounds : Nat := 0
  evaluateRoundCount : Nat := 0
  lastTransition : Option SheathTransition := none
  deriving DecidableEq

/-- What `reportPredictionHealth` reads of its argument. -/
structure PredictionHealth where
  divergenceLevel : Number
  ece : Option Number
  coldState : Bool

/-- A number of rounds as it is compared with an option. -/
def rounds (count : Nat) : Number := .finite count

/-- A trigger is written over the active one of its id, or joins the active ones. -/
def mergeTrigger : List SheathTrigger → SheathTrigger → List SheathTrigger
  | [], trigger => [trigger]
  | existing :: rest, trigger =>
      if existing.id = trigger.id then trigger :: rest
      else existing :: mergeTrigger rest trigger

def maxSeverity (triggers : List SheathTrigger) : Option SheathSeverity :=
  if triggers.any fun trigger => trigger.severity = .manual then some .manual
  else if triggers.any fun trigger => trigger.severity = .critical then some .critical
  else if triggers.any fun trigger => trigger.severity = .high then some .high
  else if triggers.any fun trigger => trigger.severity = .medium then some .medium
  else none

/-- The triggers that `reportPredictionHealth` reports. -/
def predictionTriggers (input : PredictionHealth) : List SheathTrigger :=
  (if input.coldState then [⟨.predictionColdState, .critical⟩] else [])
  ++ (match input.ece with
    | none => []
    | some ece =>
        if .finite 0.08 < ece then
          [⟨.predictionCalibrationDegraded, if .finite 0.12 < ece then .critical else .high⟩]
        else [])
  ++ (if 5 ≤ input.divergenceLevel then [⟨.predictionDivergence, .critical⟩]
    else if 3 ≤ input.divergenceLevel then [⟨.predictionDivergence, .high⟩]
    else if 1 ≤ input.divergenceLevel then [⟨.poorPredictionAccuracy, .medium⟩]
    else [])

namespace SheathMode

def isBettingSuspended (mode : SheathMode) : Bool := mode.state ≠ .normal

/-- A prediction divergence that is critical, or a cold prediction stack, also blocks. -/
def isPredictionEntriesBlocked (mode : SheathMode) : Bool :=
  (mode.activeTriggers.any fun trigger =>
    (trigger.id = .predictionDivergence && trigger.severity = .critical)
    || trigger.id = .predictionColdState)
  || mode.isBettingSuspended

def transition (mode : SheathMode) (next : SheathState) (triggers : List SheathTrigger)
    (operatorCommand : Option String) (recoveryResults : Option (List RecoveryCheckResult))
    : SheathMode :=
  if next = mode.state then mode
  else
    { mode with
      state := next
      lastTransition :=
        some ⟨mode.state, next, triggers, operatorCommand, recoveryResults⟩ }

/-- Enters the recovery, whose rounds count from here. -/
def recover (mode : SheathMode) (operatorCommand : Option String) : SheathMode :=
  { mode.transition .sheathRecovering [] operatorCommand none with consecutiveRecoveryRounds := 0 }

def reportTriggers (mode : SheathMode) (triggers : List SheathTrigger) : SheathMode :=
  if triggers = [] then mode
  else
    let merged :=
      { mode with activeTriggers := triggers.foldl mergeTrigger mode.activeTriggers }
    let maxSeverity := maxSeverity merged.activeTriggers
    match mode.state with
    | .normal =>
        if maxSeverity = some .critical ∨ maxSeverity = some .manual then
          merged.transition .sheathActive triggers none none
        else { merged.transition .sheathEvaluating triggers none none with evaluateRoundCount := 0 }
    | .sheathEvaluating =>
        if maxSeverity = some .critical ∨ maxSeverity = some .manual then
          merged.transition .sheathActive triggers none none
        else merged
    | .sheathRecovering =>
        if maxSeverity = some .critical ∨ maxSeverity = some .high then
          { merged with consecutiveRecoveryRounds := 0 }.transition .sheathActive triggers none none
        else merged
    | .sheathActive | .sheathPersistent => merged

/-- The trigger of an operator's `/sheath`. -/
def operatorTrigger : SheathTrigger := ⟨.operatorCommand, .manual⟩

def operatorSheath (mode : SheathMode) : SheathMode := mode.reportTriggers [operatorTrigger]

/-- An operator's `/unsheath` starts a recovery and never forces its end. -/
def operatorUnsheath (mode : SheathMode) : SheathMode :=
  match mode.state with
  | .sheathActive | .sheathPersistent => mode.recover (some "/unsheath")
  | .sheathEvaluating =>
      let critical := mode.activeTriggers.filter fun trigger => trigger.severity = .critical
      if critical = [] then
        { { mode with activeTriggers := critical }.transition .normal [] (some "/unsheath")
            none with
          evaluateRoundCount := 0 }
      else { mode with activeTriggers := critical }
  | .normal | .sheathRecovering => mode

/-- A round in which the evaluation goes on. -/
def evaluateRound (opts : SheathModeOptions) (mode : SheathMode) : SheathMode :=
  let counted := { mode with evaluateRoundCount := mode.evaluateRoundCount + 1 }
  let threshold :=
    if maxSeverity mode.activeTriggers = some .medium then opts.evaluateMediumRounds
    else opts.evaluateHighRounds
  if threshold ≤ rounds counted.evaluateRoundCount then
    if mode.activeTriggers ≠ [] then counted.transition .sheathActive mode.activeTriggers none none
    else { counted.transition .normal [] none none with evaluateRoundCount := 0 }
  else counted

/-- A round in which the recovery is checked. -/
def recoverRound (opts : SheathModeOptions) (mode : SheathMode)
    (recoveryChecks : List RecoveryCheckResult)
    : SheathMode :=
  if recoveryChecks.all RecoveryCheckResult.passed then
    let passed :=
      { mode with consecutiveRecoveryRounds := mode.consecutiveRecoveryRounds + 1 }
    if opts.recoveryRequiredRounds ≤ rounds passed.consecutiveRecoveryRounds then
      { { passed with activeTriggers := [] }.transition .normal [] none (some recoveryChecks) with
        recoveryAttempts := 0
        consecutiveRecoveryRounds := 0 }
    else passed
  else
    let failed :=
      { mode with
        consecutiveRecoveryRounds := 0
        recoveryAttempts := mode.recoveryAttempts + 1 }
    if opts.maxRecoveryAttempts ≤ rounds failed.recoveryAttempts then
      failed.transition .sheathPersistent mode.activeTriggers none (some recoveryChecks)
    else failed

/-- A round: one of the evaluation, or one of the recovery if its checks were supplied. -/
def onRoundTick (opts : SheathModeOptions) (mode : SheathMode)
    (recoveryChecks : Option (List RecoveryCheckResult))
    : SheathMode :=
  match mode.state with
  | .sheathEvaluating => mode.evaluateRound opts
  | .sheathRecovering =>
      match recoveryChecks with
      | none | some [] => mode
      | some (check :: checks) => mode.recoverRound opts (check :: checks)
  | .normal | .sheathActive | .sheathPersistent => mode

/-- Clears the trigger of an id; the recovery starts when no trigger is left. -/
def clearTrigger (mode : SheathMode) (id : SheathTriggerId) : SheathMode :=
  let cleared :=
    { mode with activeTriggers := mode.activeTriggers.filter fun trigger => trigger.id ≠ id }
  if mode.state = .sheathActive ∧ cleared.activeTriggers = []
      ∧ ¬ cleared.activeTriggers.any fun trigger => trigger.severity = .manual then
    cleared.recover none
  else cleared

def reportPredictionHealth (mode : SheathMode) (input : PredictionHealth) : SheathMode :=
  if 0 < (predictionTriggers input).length then mode.reportTriggers (predictionTriggers input)
  else mode

end SheathMode

/-- A call of the mode. -/
inductive SheathCall where
  | reportTriggers (triggers : List SheathTrigger)
  | operatorSheath
  | operatorUnsheath
  | onRoundTick (recoveryChecks : Option (List RecoveryCheckResult))
  | clearTrigger (id : SheathTriggerId)
  | reportPredictionHealth (input : PredictionHealth)

/-- What a call does. -/
def SheathMode.next (opts : SheathModeOptions) (mode : SheathMode) : SheathCall → SheathMode
  | .reportTriggers triggers => mode.reportTriggers triggers
  | .operatorSheath => mode.operatorSheath
  | .operatorUnsheath => mode.operatorUnsheath
  | .onRoundTick recoveryChecks => mode.onRoundTick opts recoveryChecks
  | .clearTrigger id => mode.clearTrigger id
  | .reportPredictionHealth input => mode.reportPredictionHealth input

end CrashWave.Sheath
