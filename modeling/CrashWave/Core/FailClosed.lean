import CrashWave.Core.LiveRiskAgreement

/-! The risk state that is built in live mode from sources which do not tell everything: the
facts that count as safe while nothing is known of them.
-/

namespace CrashWave.Core

open CrashWave.Betting JavaScript

/-- The facts that the safety of an entry depends on. -/
inductive SafetyFact where
  | balance
  | confidence
  | killSwitch
  | paused
  | openBet
  | consecutiveErrors
  | cashOutFailures
  deriving DecidableEq

/-- The round of a build: the one that it is given, or else the one of the state machine. -/
def builtRound (provider : RiskStateProvider) (roundState : Option RoundState)
    : Option RoundState :=
  roundState.or (provider.context.bind (·.roundState))

/-- A source of the provider tells the fact. -/
def tells (provider : RiskStateProvider) (roundState : Option RoundState) : SafetyFact → Bool
  | .balance => provider.currentBalance.isSome
  | .confidence => (builtRound provider roundState).isSome
  | .killSwitch => (provider.known (·.killSwitch) provider.live.killSwitch).isSome
  | .paused => (provider.known (·.paused) provider.live.paused).isSome
  | .openBet => (provider.known (·.openBetExists) provider.live.openBetExists).isSome
  | .consecutiveErrors =>
      (provider.known (·.consecutiveErrors) provider.live.consecutiveErrors).isSome
  | .cashOutFailures =>
      (provider.known (·.cashOutFailures) provider.live.cashOutFailures).isSome

/-- A built state that misses a safety fact is rejected. -/
def FailsClosed (provider : RiskStateProvider) (circuitOpen : Bool) (now riskTime : Number)
    (roundState : Option RoundState) : Prop :=
  (∃ fact, tells provider roundState fact = false) →
    (evaluateRisk circuitOpen riskTime (provider.build now roundState)).approved = false

/-- What is told speaks for an entry in live mode. The counts that are not told are zero. -/
structure ToldInFavour (provider : RiskStateProvider) (circuitOpen : Bool) (now : Number)
    (roundState : Option RoundState) : Prop where
  circuitClosed : circuitOpen = false
  operatorAuthorized : provider.live.operatorAuthorized = some true
  sessionAuthenticated : provider.live.sessionAuthenticated = some true
  gameLoaded : provider.live.gameLoaded = some true
  round : ∃ round, builtRound provider roundState = some round
    ∧ (round.phase = .starting ∨ round.phase = .running) ∧ round.roundId.isSome = true
    ∧ round.confidence = .high
  balance : ∃ balance, provider.currentBalance = some balance
    ∧ configNumber provider.config ["betting", "stakePerEntry"] 700
        + configNumber provider.config ["risk", "balanceBuffer"] 0 ≤ balance
  entries : Number.finite provider.dailyEntries
    < configNumber provider.config ["betting", "maxDailyEntries"] 100
  paused : provider.known (·.paused) provider.live.paused ≠ some true
  killSwitch : provider.known (·.killSwitch) provider.live.killSwitch ≠ some true
  browserHealthy : provider.live.browserHealthy = some true
  gameAdapterHealthy : provider.live.gameAdapterHealthy = some true
  openBet : provider.known (·.openBetExists) provider.live.openBetExists ≠ some true
  cooldownElapsed : provider.cooldownElapsed now = true
  consecutiveErrors
    : (provider.known (·.consecutiveErrors) provider.live.consecutiveErrors).getD 0
      < configNumber provider.config ["risk", "maxConsecutiveErrorsBeforeStop"] 3
  cashOutFailures
    : (provider.known (·.cashOutFailures) provider.live.cashOutFailures).getD 0
      < configNumber provider.config ["risk", "maxCashOutFailuresBeforeStop"] 2
  prediction
    : configNumber provider.config ["risk", "minPredictionProbability"] (.finite (35 / 100)) ≤ 0
      ∧ configNumber provider.config ["risk", "minPredictionConfidence"] (.finite (3 / 10)) ≤ 0

/-- The facts that count as safe while no source tells them. -/
def assumedSafe : List SafetyFact :=
  [.killSwitch, .paused, .openBet, .consecutiveErrors, .cashOutFailures]

section

variable {provider : RiskStateProvider} {circuitOpen : Bool} {now riskTime : Number}
  {roundState : Option RoundState}

/-- A round of the built state is valid and of high confidence. -/
theorem builtRound_valid_iff
    : (roundStateValid (provider.build now roundState) = true
        ∧ ((builtRound provider roundState).map (·.confidence)).getD .low = .high)
      ↔ ∃ round, builtRound provider roundState = some round
          ∧ (round.phase = .starting ∨ round.phase = .running) ∧ round.roundId.isSome = true
          ∧ round.confidence = .high := by
  have read : (provider.build now roundState).roundState = builtRound provider roundState := rfl
  rw [roundStateValid, read]
  cases builtRound provider roundState with
  | none => simp
  | some round => simp [and_assoc]

/-- The known balance covers the stake and the buffer. -/
theorem balance_sufficient_iff {required : Number}
    : (provider.currentBalance ≠ none ∧ required ≤ provider.currentBalance.getD 0)
      ↔ ∃ balance, provider.currentBalance = some balance ∧ required ≤ balance := by
  cases provider.currentBalance with
  | none => simp
  | some balance => simp

/-- The built state carries no signal, so that only switched-off minima are met. -/
theorem evaluatePrediction_build
    : evaluatePrediction riskTime (provider.build now roundState) = true
      ↔ configNumber provider.config ["risk", "minPredictionProbability"] (.finite (35 / 100)) ≤ 0
        ∧ configNumber provider.config ["risk", "minPredictionConfidence"]
            (.finite (3 / 10)) ≤ 0 := by
  have unsigned : (provider.build now roundState).predictionSignal = none := rfl
  have unrequired : predictionUnrequired (provider.build now roundState) = true
      ↔ configNumber provider.config ["risk", "minPredictionProbability"] (.finite (35 / 100)) ≤ 0
        ∧ configNumber provider.config ["risk", "minPredictionConfidence"]
            (.finite (3 / 10)) ≤ 0 := decide_eq_true_iff
  rw [← unrequired, evaluatePrediction, unsigned]
  split <;> simp_all

/-- In live mode the built state is approved exactly when all that is told speaks for it. -/
theorem approved_build_iff (live : provider.mode = .live)
    : (evaluateRisk circuitOpen riskTime (provider.build now roundState)).approved = true
      ↔ ToldInFavour provider circuitOpen now roundState := by
  have unsafeUnknown : provider.defSafe = false := by simp [RiskStateProvider.defSafe, live]
  have mode : (provider.build now roundState).mode = .live := live
  rw [evaluateRisk_approved, evaluatePrediction_build, hardConditions_live_iff mode]
  constructor
  · intro approved
    obtain ⟨closed, met, prediction⟩ := approved
    exact
      { circuitClosed := closed
        operatorAuthorized := getD_eq_true.mp (unsafeUnknown ▸ met.operatorAuthorized)
        sessionAuthenticated := getD_eq_true.mp (unsafeUnknown ▸ met.sessionAuthenticated)
        gameLoaded := getD_eq_true.mp (unsafeUnknown ▸ met.gameLoaded)
        round := builtRound_valid_iff.mp ⟨met.roundStateValid, met.observationConfidenceHigh⟩
        balance := balance_sufficient_iff.mp met.balanceSufficient
        entries := met.dailyEntriesBelowLimit
        paused := false_eq_getD.mp met.notPaused.symm
        killSwitch := false_eq_getD.mp met.killSwitchOff.symm
        browserHealthy := getD_eq_true.mp (unsafeUnknown ▸ met.browserHealthy)
        gameAdapterHealthy := getD_eq_true.mp (unsafeUnknown ▸ met.gameAdapterHealthy)
        openBet := false_eq_getD.mp met.noOpenBet.symm
        cooldownElapsed := met.cooldownElapsed
        consecutiveErrors := met.errorThresholdOk
        cashOutFailures := met.cashOutFailureThresholdOk
        prediction }
  · intro told
    obtain ⟨valid, high⟩ := builtRound_valid_iff.mpr told.round
    refine ⟨told.circuitClosed, ?_, told.prediction⟩
    exact
      { operatorAuthorized := by simp [RiskStateProvider.build, told.operatorAuthorized]
        sessionAuthenticated := by simp [RiskStateProvider.build, told.sessionAuthenticated]
        gameLoaded := by simp [RiskStateProvider.build, told.gameLoaded]
        roundStateValid := valid
        balanceSufficient := balance_sufficient_iff.mpr told.balance
        dailyEntriesBelowLimit := told.entries
        notPaused := (false_eq_getD.mpr told.paused).symm
        killSwitchOff := (false_eq_getD.mpr told.killSwitch).symm
        browserHealthy := by simp [RiskStateProvider.build, told.browserHealthy]
        gameAdapterHealthy := by simp [RiskStateProvider.build, told.gameAdapterHealthy]
        observationConfidenceHigh := high
        noOpenBet := (false_eq_getD.mpr told.openBet).symm
        cooldownElapsed := told.cooldownElapsed
        errorThresholdOk := told.consecutiveErrors
        cashOutFailureThresholdOk := told.cashOutFailures }

/-- An entry that is told in favour has a known balance and a known round. -/
theorem ToldInFavour.tells (told : ToldInFavour provider circuitOpen now roundState)
    {fact : SafetyFact} (untold : tells provider roundState fact = false)
    : fact ∈ assumedSafe := by
  obtain ⟨balance, known, _⟩ := told.balance
  obtain ⟨round, built, _⟩ := told.round
  cases fact with
  | balance => simp [Core.tells, known] at untold
  | confidence => simp [Core.tells, built] at untold
  | _ => decide

end

/-- A state that is built in live mode and misses a safety fact is rejected exactly if all the
facts that are assumed safe are told, or what is told does not all speak for an entry.
-/
theorem failsClosed_iff {provider : RiskStateProvider} (live : provider.mode = .live)
    (circuitOpen : Bool) (now riskTime : Number) (roundState : Option RoundState)
    : FailsClosed provider circuitOpen now riskTime roundState
      ↔ (∀ fact ∈ assumedSafe, tells provider roundState fact = true)
        ∨ ¬ ToldInFavour provider circuitOpen now roundState := by
  have rejected : (evaluateRisk circuitOpen riskTime (provider.build now roundState)).approved
        = false
      ↔ ¬ ToldInFavour provider circuitOpen now roundState := by
    rw [← approved_build_iff live, Bool.not_eq_true]
  rw [FailsClosed, rejected]
  constructor
  · intro closed
    rcases Classical.em (ToldInFavour provider circuitOpen now roundState) with told | against
    · left
      intro fact _
      by_contra untold
      exact closed ⟨fact, Bool.eq_false_of_not_eq_true untold⟩ told
    · exact .inr against
  · intro covered missing told
    obtain ⟨fact, untold⟩ := missing
    rcases covered with all | against
    · exact absurd (all fact (told.tells untold)) (by simp [untold])
    · exact against told

/-- A live provider without a machine and without prediction minima, whose sources are healthy
and say nothing of the kill switch and the other facts that are assumed safe.
-/
def silentProvider : RiskStateProvider where
  config := .object
    [("system", .object [("mode", .string "live")]),
      ("risk", .object
        [("minPredictionProbability", .number 0), ("minPredictionConfidence", .number 0)])]
  currentBalance := some 10000
  dailyCount := some 0
  context := none
  live :=
    { browserHealthy := some true
      gameAdapterHealthy := some true
      cooldownElapsed := some true
      sessionAuthenticated := some true
      gameLoaded := some true
      operatorAuthorized := some true }
  lastConfirmedEntries := 0

/-- A round of high confidence that is starting. -/
def confidentRound : RoundState := .starting "r1" .high

/-- An entry is approved while nothing is known of the kill switch. -/
theorem unknown_kill_switch_approved
    : ¬ FailsClosed silentProvider false 0 0 (some confidentRound) := by
  intro closed
  have rejected := closed ⟨.killSwitch, rfl⟩
  exact absurd rejected (by decide +kernel)

/-- With all of them told, a state without a round is rejected. -/
theorem roundless_state_failsClosed
    : let provider :=
        { silentProvider with
          live :=
            { silentProvider.live with
              killSwitch := some false
              paused := some false
              openBetExists := some false
              consecutiveErrors := some 0
              cashOutFailures := some 0 } }
      FailsClosed provider false 0 0 none := by
  intro provider
  exact (failsClosed_iff (by decide +kernel) false 0 0 none).mpr (.inl (by decide))

end CrashWave.Core
