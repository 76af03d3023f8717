import CrashWave.Core.LiveBridge
import CrashWave.Core.StateMachine.Types

/-! `RiskStateProvider.build`: the risk input from what the live sources, the state machine
and the entry counts say. A setting of the configuration that is no number is read as the
number it converts to.
-/

namespace CrashWave.Betting

open CrashWave.Core CrashWave.StateMachine JavaScript

/-- `Partial<RiskStateSnapshot>`: what the live sources know. -/
structure RiskStateSnapshot where
  browserHealthy : Option Bool := none
  gameAdapterHealthy : Option Bool := none
  paused : Option Bool := none
  killSwitch : Option Bool := none
  openBetExists : Option Bool := none
  cooldownElapsed : Option Bool := none
  consecutiveErrors : Option Number := none
  cashOutFailures : Option Number := none
  sessionAuthenticated : Option Bool := none
  gameLoaded : Option Bool := none
  operatorAuthorized : Option Bool := none

/-- The provider, with what its sources answer at the time of a build. -/
structure RiskStateProvider where
  config : Value
  /-- `balanceTracker.getCurrentBalance()`. -/
  currentBalance : Option Number
  /-- `dailyCounter.getCount()`, where there is a counter. -/
  dailyCount : Option Nat
  /-- The context of the state machine, where there is one. -/
  context : Option StateMachineContext
  /-- `getLiveState()`, empty where there is no such source. -/
  live : RiskStateSnapshot
  lastConfirmedEntries : Nat

namespace RiskStateProvider

variable (provider : RiskStateProvider)

/-- `config.system.mode`, where a text that names no mode counts as one that never enters. -/
def mode : SystemMode :=
  let text := provider.config.getPath ["system", "mode"]
  if Value.isText "live" text then .live
  else if Value.isText "dry-run" text then .dryRun
  else if Value.isText "maintenance" text then .maintenance
  else .observeOnly

/-- The value of a fact that nothing is known of: unsafe in live mode. -/
def defSafe : Bool := provider.mode ≠ .live

/-- What is known of a fact of which the state machine speaks before the live sources. -/
def known {α : Type} (ofContext : StateMachineContext → α) (ofLive : Option α) : Option α :=
  (provider.context.map ofContext).or ofLive

/-- When the state machine counts the time since the last bet. -/
def lastBet : Option (DateText × Number) :=
  provider.context.bind fun context =>
    context.lastBetAt.bind fun lastBetAt =>
      if lastBetAt ≠ .empty ∧ 0 < context.cooldownMs then
        some (lastBetAt, context.cooldownMs)
      else none

/-- Whether the cooldown has elapsed; `now` stands for `Date.now()`. -/
def cooldownElapsed (now : Number) : Bool :=
  match provider.live.cooldownElapsed with
  | some elapsed => elapsed
  | none =>
      match provider.lastBet with
      | some (lastBetAt, cooldownMs) => cooldownMs ≤ now - lastBetAt.getTime
      | none => provider.defSafe

/-- The entries of the day: the counter only ever raises what the ledger last said. -/
def dailyEntries : Nat :=
  match provider.dailyCount with
  | some count => max provider.lastConfirmedEntries count
  | none => provider.lastConfirmedEntries

/-- `build`. -/
def build (now : Number) (roundState : Option RoundState) : RiskEvaluationInput :=
  let live := provider.live
  let config := provider.config
  { mode := provider.mode
    operatorAuthorized := live.operatorAuthorized.getD provider.defSafe
    sessionAuthenticated := live.sessionAuthenticated.getD provider.defSafe
    gameLoaded := live.gameLoaded.getD provider.defSafe
    roundState := roundState.or (provider.context.bind (·.roundState))
    currentBalance := provider.currentBalance
    dailyEntriesConfirmed := .finite provider.dailyEntries
    paused := (provider.known (·.paused) live.paused).getD false
    killSwitch := (provider.known (·.killSwitch) live.killSwitch).getD false
    browserHealthy := live.browserHealthy.getD provider.defSafe
    gameAdapterHealthy := live.gameAdapterHealthy.getD provider.defSafe
    openBetExists := (provider.known (·.openBetExists) live.openBetExists).getD false
    cooldownElapsed := provider.cooldownElapsed now
    requiredStake := configNumber config ["betting", "stakePerEntry"] 700
    balanceBuffer := configNumber config ["risk", "balanceBuffer"] 0
    maxDailyEntries := configNumber config ["betting", "maxDailyEntries"] 100
    consecutiveErrors :=
      (provider.known (·.consecutiveErrors) live.consecutiveErrors).getD 0
    maxConsecutiveErrors :=
      configNumber config ["risk", "maxConsecutiveErrorsBeforeStop"] 3
    cashOutFailures := (provider.known (·.cashOutFailures) live.cashOutFailures).getD 0
    maxCashOutFailures :=
      configNumber config ["risk", "maxCashOutFailuresBeforeStop"] 2
    minPredictionProbability :=
      some (configNumber config ["risk", "minPredictionProbability"] (.finite (35 / 100)))
    minPredictionConfidence :=
      some (configNumber config ["risk", "minPredictionConfidence"] (.finite (3 / 10))) }

end RiskStateProvider

end CrashWave.Betting
