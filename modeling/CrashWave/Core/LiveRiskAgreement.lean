import CrashWave.Betting.RiskStateProvider
import CrashWave.Core.LiveGate

/-! When the risk input of the live bridge tells the risk engine what the provider of the
real state would tell it. The bridge writes most safety facts as literals, so it does only
while the sources have nothing else to report.
-/

namespace CrashWave.Core

open CrashWave.Betting JavaScript

/-- The safety fields of two risk inputs are the same. -/
structure SafetyFieldsAgree (bridge provided : RiskEvaluationInput) : Prop where
  paused : bridge.paused = provided.paused
  killSwitch : bridge.killSwitch = provided.killSwitch
  dailyEntriesConfirmed : bridge.dailyEntriesConfirmed = provided.dailyEntriesConfirmed
  openBetExists : bridge.openBetExists = provided.openBetExists
  cooldownElapsed : bridge.cooldownElapsed = provided.cooldownElapsed
  consecutiveErrors : bridge.consecutiveErrors = provided.consecutiveErrors
  cashOutFailures : bridge.cashOutFailures = provided.cashOutFailures
  browserHealthy : bridge.browserHealthy = provided.browserHealthy
  gameAdapterHealthy : bridge.gameAdapterHealthy = provided.gameAdapterHealthy

/-- The conditions of the risk engine on the safety fields. -/
def safetyConditions (now : Number) (input : RiskEvaluationInput) : List Bool :=
  let conditions := evaluateAllConditions now input
  [conditions.notPaused, conditions.killSwitchOff, conditions.dailyEntriesBelowLimit,
    conditions.noOpenBet, conditions.cooldownElapsed, conditions.errorThresholdOk,
    conditions.cashOutFailureThresholdOk, conditions.browserHealthy,
    conditions.gameAdapterHealthy]

/-- A fact that is unsafe while unknown in live mode is known to be safe, or unknown
elsewhere.
-/
def KnownSafe (provider : RiskStateProvider) (fact : Option Bool) : Prop :=
  fact = some true ∨ (fact = none ∧ provider.mode ≠ .live)

/-- The cooldown is reported over, or the state machine finds it so, or nothing is known of
it outside live mode.
-/
def CooldownOver (provider : RiskStateProvider) (now : Number) : Prop :=
  match provider.live.cooldownElapsed, provider.lastBet with
  | some elapsed, _ => elapsed = true
  | none, some (lastBetAt, cooldownMs) => cooldownMs ≤ now - lastBetAt.getTime
  | none, none => provider.mode ≠ .live

/-- The sources report nothing against an entry, and an open bet exactly while the executor
is busy.
-/
structure NothingToReport (deps : LiveRoundDeps) (provider : RiskStateProvider)
    (now : Number) : Prop where
  notPaused : provider.known (·.paused) provider.live.paused ≠ some true
  killSwitchOff : provider.known (·.killSwitch) provider.live.killSwitch ≠ some true
  noEntries : provider.lastConfirmedEntries = 0 ∧ provider.dailyCount.getD 0 = 0
  openBet
    : provider.known (·.openBetExists) provider.live.openBetExists = some true
      ↔ deps.liveBetExecutor = true ∧ deps.isBusy = true
  cooldownOver : CooldownOver provider now
  noErrors
    : ∀ errors,
        provider.known (·.consecutiveErrors) provider.live.consecutiveErrors = some errors
        → errors = 0
  noCashOutFailures
    : ∀ failures,
        provider.known (·.cashOutFailures) provider.live.cashOutFailures = some failures
        → failures = 0
  browserHealthy : KnownSafe provider provider.live.browserHealthy
  gameAdapterHealthy : KnownSafe provider provider.live.gameAdapterHealthy

variable {deps : LiveRoundDeps} {provider : RiskStateProvider} {now : Number}
  {roundId : String} {roundState : Option RoundState}

theorem getD_eq_true {fact : Option Bool} : fact.getD false = true ↔ fact = some true := by
  rcases fact with _ | _ | _ <;> simp

theorem false_eq_getD {fact : Option Bool} : false = fact.getD false ↔ fact ≠ some true := by
  rw [eq_comm, ← Bool.not_eq_true, getD_eq_true]

theorem zero_eq_getD {count : Option Number}
    : 0 = count.getD 0 ↔ ∀ known, count = some known → known = 0 := by
  cases count with
  | none => simp
  | some known => simp [eq_comm]

theorem true_eq_getD_defSafe {fact : Option Bool}
    : true = fact.getD provider.defSafe ↔ KnownSafe provider fact := by
  rcases fact with _ | _ | _ <;> simp [KnownSafe, RiskStateProvider.defSafe]

/-- The provider finds the cooldown elapsed exactly when it is over. -/
theorem true_eq_cooldownElapsed
    : true = provider.cooldownElapsed now ↔ CooldownOver provider now := by
  unfold RiskStateProvider.cooldownElapsed CooldownOver
  cases provider.live.cooldownElapsed with
  | some elapsed => simp [eq_comm]
  | none =>
      cases provider.lastBet with
      | some lastBet => simp
      | none => simp [RiskStateProvider.defSafe]

/-- The entries of the day are none exactly when neither source counts any. -/
theorem zero_eq_dailyEntries
    : (0 : Number) = .finite provider.dailyEntries
      ↔ provider.lastConfirmedEntries = 0 ∧ provider.dailyCount.getD 0 = 0 := by
  have counts : (0 : Number) = .finite provider.dailyEntries
      ↔ provider.dailyEntries = 0 := by
    rw [eq_comm, show (0 : Number) = .finite ((0 : Nat) : ℚ) from rfl,
      Number.finite.injEq, Nat.cast_inj]
  rw [counts, RiskStateProvider.dailyEntries]
  cases provider.dailyCount with
  | none => simp
  | some count =>
      simp only [Option.getD_some]
      omega

/-- The safety fields agree exactly while there is nothing to report. -/
theorem safetyFieldsAgree_iff
    : SafetyFieldsAgree (buildRiskInput deps roundId) (provider.build now roundState)
      ↔ NothingToReport deps provider now := by
  have openBet : (deps.liveBetExecutor && deps.isBusy)
        = (provider.known (·.openBetExists) provider.live.openBetExists).getD false
      ↔ (provider.known (·.openBetExists) provider.live.openBetExists = some true
        ↔ deps.liveBetExecutor = true ∧ deps.isBusy = true) := by
    rw [← Bool.and_eq_true, Bool.eq_iff_iff, getD_eq_true]
    exact iff_comm
  constructor
  · intro agree
    exact
      { notPaused := false_eq_getD.mp agree.paused
        killSwitchOff := false_eq_getD.mp agree.killSwitch
        noEntries := zero_eq_dailyEntries.mp agree.dailyEntriesConfirmed
        openBet := openBet.mp agree.openBetExists
        cooldownOver := true_eq_cooldownElapsed.mp agree.cooldownElapsed
        noErrors := zero_eq_getD.mp agree.consecutiveErrors
        noCashOutFailures := zero_eq_getD.mp agree.cashOutFailures
        browserHealthy := true_eq_getD_defSafe.mp agree.browserHealthy
        gameAdapterHealthy := true_eq_getD_defSafe.mp agree.gameAdapterHealthy }
  · intro nothing
    exact
      { paused := false_eq_getD.mpr nothing.notPaused
        killSwitch := false_eq_getD.mpr nothing.killSwitchOff
        dailyEntriesConfirmed := zero_eq_dailyEntries.mpr nothing.noEntries
        openBetExists := openBet.mpr nothing.openBet
        cooldownElapsed := true_eq_cooldownElapsed.mpr nothing.cooldownOver
        consecutiveErrors := zero_eq_getD.mpr nothing.noErrors
        cashOutFailures := zero_eq_getD.mpr nothing.noCashOutFailures
        browserHealthy := true_eq_getD_defSafe.mpr nothing.browserHealthy
        gameAdapterHealthy := true_eq_getD_defSafe.mpr nothing.gameAdapterHealthy }

/-- Over one configuration, equal safety fields are judged equally. The limits that the two
builders assume where none is set differ, but no entry reaches either.
-/
theorem SafetyFieldsAgree.verdicts (sameConfig : provider.config = deps.config)
    (agree : SafetyFieldsAgree (buildRiskInput deps roundId) (provider.build now roundState))
    (riskTime : Number)
    : safetyConditions riskTime (buildRiskInput deps roundId)
      = safetyConditions riskTime (provider.build now roundState) := by
  have limit
      : (0 : Number) < configNumber deps.config ["betting", "maxDailyEntries"] 500
        ↔ (0 : Number) < configNumber deps.config ["betting", "maxDailyEntries"] 100 := by
    unfold configNumber
    split <;> rfl
  have entries : (provider.build now roundState).dailyEntriesConfirmed = 0 :=
    agree.dailyEntriesConfirmed.symm
  have errors : (provider.build now roundState).consecutiveErrors = 0 :=
    agree.consecutiveErrors.symm
  have failures : (provider.build now roundState).cashOutFailures = 0 :=
    agree.cashOutFailures.symm
  simp only [safetyConditions, evaluateAllConditions, entries, errors, failures,
    ← agree.paused, ← agree.killSwitch, ← agree.openBetExists, ← agree.cooldownElapsed,
    ← agree.browserHealthy, ← agree.gameAdapterHealthy]
  simp only [buildRiskInput, RiskStateProvider.build, sameConfig, limit]
  congr!

/-- The live bridge tells the risk engine what the real state would, on every safety field
and in every verdict on one, exactly while the sources have nothing to report.
-/
theorem riskInputs_agree_iff {deps : LiveRoundDeps} {provider : RiskStateProvider}
    (sameConfig : provider.config = deps.config) (now riskTime : Number) (roundId : String)
    (roundState : Option RoundState)
    : (SafetyFieldsAgree (buildRiskInput deps roundId) (provider.build now roundState)
        ∧ safetyConditions riskTime (buildRiskInput deps roundId)
          = safetyConditions riskTime (provider.build now roundState))
      ↔ NothingToReport deps provider now := by
  rw [← safetyFieldsAgree_iff]
  exact ⟨And.left, fun agree => ⟨agree, agree.verdicts sameConfig riskTime⟩⟩

/-- A live provider whose machine is in the given context and whose sources are healthy. -/
def liveProvider (context : StateMachine.StateMachineContext) : RiskStateProvider where
  config := .object [("system", .object [("mode", .string "live")])]
  currentBalance := some 10000
  dailyCount := some 0
  context := some context
  live := { browserHealthy := some true, gameAdapterHealthy := some true }
  lastConfirmedEntries := 0

/-- The bridge next to that provider, with an idle executor. -/
def liveDeps : LiveRoundDeps where
  env := { appSystemMode := some "live", allowRealExecution := some "true" }
  config := .object [("system", .object [("mode", .string "live")])]
  isAuthenticated := true
  isObserving := true
  liveBetExecutor := true
  liveCashOutExecutor := true
  isGameLoaded := true
  getBalance := 10000
  isBusy := false

/-- While the machine is paused after three errors, the real state rejects where the bridge
does not.
-/
theorem paused_machine_not_reported
    : let provider :=
        liveProvider (StateMachine.createDefaultContext "s1"
          { paused := some true, consecutiveErrors := some 3, lastBetAt := some (some (.iso 0)) })
      safetyConditions 9000 (buildRiskInput liveDeps "r1") = List.replicate 9 true
      ∧ safetyConditions 9000 (provider.build 9000 none)
        = [false, true, true, true, true, false, true, true, true]
      ∧ ¬ SafetyFieldsAgree (buildRiskInput liveDeps "r1") (provider.build 9000 none) := by
  refine ⟨by decide +kernel, by decide +kernel, ?_⟩
  intro agree
  exact absurd agree.paused (by decide)

/-- With a fresh machine long after the last bet, both risk inputs agree. -/
theorem fresh_machine_agrees
    : let provider :=
        liveProvider (StateMachine.createDefaultContext "s1"
          { lastBetAt := some (some (.iso 0)) })
      SafetyFieldsAgree (buildRiskInput liveDeps "r1") (provider.build 9000 none)
      ∧ safetyConditions 9000 (buildRiskInput liveDeps "r1")
        = safetyConditions 9000 (provider.build 9000 none) := by
  intro provider
  refine (riskInputs_agree_iff rfl 9000 9000 "r1" none).mpr ?_
  exact
    { notPaused := by decide
      killSwitchOff := by decide
      noEntries := by decide
      openBet := by decide
      cooldownOver := true_eq_cooldownElapsed.mp (by decide +kernel)
      noErrors := fun errors known => (Option.some.inj known).symm
      noCashOutFailures := fun failures known => (Option.some.inj known).symm
      browserHealthy := .inl rfl
      gameAdapterHealthy := .inl rfl }

end CrashWave.Core
