import CrashWave.Prediction.EntryDecision

/-! Which decisions let a blocking verdict reject the entry. Some gates act on the returned
signal only, others on the presented one only, and without positive minima the risk engine
approves an entry whatever signal it is shown.
-/

namespace CrashWave.Prediction

open JavaScript CrashWave.Betting

variable (service : EntryDecisionService) (env : DecisionEnvironment)
  (ctx : EntryDecisionContext)

/-- The pipeline is run in this decision. -/
def PipelineRuns : Prop :=
  enoughHistory env ctx = true ∧ service.usePipeline = true
  ∧ ∃ signal, candidateSignal service env ctx = some (some signal)

/-- The signal that passed the checks, as the environment and the context determine it. -/
def KeptSignal (signal : PredictionSignal) : Prop :=
  decidedSignal service env ctx = some (some signal)

/-- No component speaks against the entry: the adaptive strategy offers one, the pipeline
neither skips nor finds entries not allowed, neither the production controller nor the
sheath blocks, and in live mode the stack is warm and the feature version matches.
-/
structure Unblocked : Prop where
  acieOffers : acieDeclines env ctx = false
  pipelineEnters
    : PipelineRuns service env ctx
      → env.pipeline.action ≠ .skip ∧ env.pipeline.entriesAllowed = true
  entriesAllowed : entriesBlocked env = false
  liveReady : ctx.isLive = true → env.readyForLive = true
  stackWarm : stackCold env ctx = false
  versionMatches
    : ∀ signal, KeptSignal service env ctx signal
      → versionMismatch ctx (some signal) = false

/-- The law of a decision: a blocked one returns a rejection, and an approved one returns
the very signal that the risk engine was shown.
-/
structure EntryLaw (outcome : Option EntryDecisionResult) : Prop where
  blockedRejects
    : ¬ Unblocked service env ctx
      → ∃ result, outcome = some result ∧ result.riskResult.approved = false
  approvedSignal
    : ∀ result, outcome = some result → result.riskResult.approved = true
      → ∃ signal, result.signal = some signal
        ∧ result.evaluatedInput.predictionSignal = some signal.forRisk

/-- The call is turned away because live mode is not ready. -/
def NotReady : Prop := ctx.isLive = true ∧ env.readyForLive = false

/-- The risk engine rejects the context whatever the signal. -/
def HardRejected : Prop :=
  env.circuitOpen = true ∨ hardConditions env.riskTime ctx.riskInput = false

/-- A gate that acts on the presented signal closes. -/
def GateStrips : Prop :=
  acieDeclines env ctx = true ∧ service.preferAcie = true ∨ stackCold env ctx = true
  ∨ entriesBlocked env = true

/-- The signal on offer: the kept one, else the caller's own, and none for a service that
is not warmed.
-/
def offeredSignal : Option RiskSignal :=
  if env.historyWarmed = false then none
  else
    match decidedSignal service env ctx with
    | some (some signal) => some signal.forRisk
    | _ => ctx.riskInput.predictionSignal

/-- The minima are positive, and a gate strips the signal or the one on offer does not
reach them.
-/
def MinimaRefuse : Prop :=
  predictionUnrequired ctx.riskInput = false
  ∧ (GateStrips service env ctx
    ∨ ∀ signal, offeredSignal service env ctx = some signal
        → signalAcceptable env.riskTime ctx.riskInput signal = false)

/-- The decision is unblocked and keeps a signal of its own. -/
def OwnEntry : Prop :=
  env.historyWarmed = true ∧ Unblocked service env ctx
  ∧ ∃ signal, KeptSignal service env ctx signal

/-- When a decision obeys the law: it is not ready, or the entry is refused for reasons
that do reach the risk engine, or nothing blocks it and its signal is its own. A call that
throws obeys it when nothing blocks the entry.
-/
def EntryCondition : Prop :=
  NotReady env ctx
  ∨ if env.historyWarmed = true ∧ decidedSignal service env ctx = none then
      Unblocked service env ctx
    else
      HardRejected env ctx ∨ MinimaRefuse service env ctx ∨ OwnEntry service env ctx

variable {service env ctx}

/-- The verdict approves exactly when the hard conditions hold and either nothing is asked
of the signal or the presented one is acceptable.
-/
theorem judge_approved {signal : Option PredictionSignal} {presented : Option RiskSignal}
    : (judge env ctx signal presented).riskResult.approved = true
      ↔ ¬ HardRejected env ctx
        ∧ (predictionUnrequired ctx.riskInput = true
          ∨ ∃ shown, presented = some shown
            ∧ signalAcceptable env.riskTime ctx.riskInput shown = true) := by
  simp only [judge, evaluateRisk_approved, hardConditions_signal, HardRejected, not_or,
    Bool.not_eq_true, Bool.not_eq_false, and_assoc]
  refine and_congr_right fun _ => and_congr_right fun _ => ?_
  have unrequired : predictionUnrequired
      { ctx.riskInput with predictionSignal := presented }
      = predictionUnrequired ctx.riskInput := rfl
  rw [evaluatePrediction, unrequired]
  cases predictionUnrequired ctx.riskInput with
  | true => simp
  | false =>
      cases presented with
      | none => simp
      | some shown => simp [signalAcceptable]

/-- A decision that returns a verdict obeys the law exactly when an approval is unblocked
and shows the returned signal.
-/
theorem judge_lawful {signal : Option PredictionSignal} {presented : Option RiskSignal}
    : EntryLaw service env ctx (some (judge env ctx signal presented))
      ↔ ((judge env ctx signal presented).riskResult.approved = true
        → Unblocked service env ctx
          ∧ ∃ own, signal = some own ∧ presented = some own.forRisk) := by
  constructor
  · intro law approved
    refine ⟨?_, law.approvedSignal _ rfl approved⟩
    by_contra blocked
    obtain ⟨result, same, rejected⟩ := law.blockedRejects blocked
    obtain rfl := Option.some.inj same
    rw [approved] at rejected
    exact absurd rejected (by decide)
  · intro own
    constructor
    · intro blocked
      refine ⟨_, rfl, ?_⟩
      by_contra approved
      exact blocked (own (by simpa using approved)).1
    · rintro result same approved
      obtain rfl := Option.some.inj same
      exact (own approved).2

/-- What the risk engine is shown: nothing behind a gate, otherwise the signal on offer. -/
theorem presentedSignal_eq {signal : Option PredictionSignal}
    (warmed : env.historyWarmed = true)
    (decided : decidedSignal service env ctx = some signal)
    : (GateStrips service env ctx ∧ presentedSignal service env ctx signal = none)
      ∨ (¬ GateStrips service env ctx
        ∧ presentedSignal service env ctx signal = offeredSignal service env ctx) := by
  by_cases strips : GateStrips service env ctx
  · refine .inl ⟨strips, ?_⟩
    unfold presentedSignal
    rw [if_pos]
    simpa [GateStrips] using strips
  · refine .inr ⟨strips, ?_⟩
    unfold presentedSignal
    rw [if_neg (by simpa [GateStrips] using strips), offeredSignal,
      if_neg (by simp [warmed]), decided]
    cases signal <;> rfl

/-- Behind the gates an entry is approved exactly when neither the hard conditions nor the
minima refuse it.
-/
theorem judge_approved_of_decided {signal : Option PredictionSignal}
    (warmed : env.historyWarmed = true)
    (decided : decidedSignal service env ctx = some signal)
    : (judge env ctx (returnedSignal env ctx signal)
        (presentedSignal service env ctx signal)).riskResult.approved = true
      ↔ ¬ HardRejected env ctx ∧ ¬ MinimaRefuse service env ctx := by
  rw [judge_approved]
  refine and_congr_right fun _ => ?_
  simp only [MinimaRefuse, not_and, not_or, not_forall, Bool.not_eq_false]
  rcases presentedSignal_eq warmed decided with ⟨strips, shown⟩ | ⟨passes, shown⟩
  · rw [shown]
    cases predictionUnrequired ctx.riskInput <;> simp [strips]
  · rw [shown]
    cases predictionUnrequired ctx.riskInput <;> simp [passes]

theorem Unblocked.showsOwn {own : PredictionSignal} (unblocked : Unblocked service env ctx)
    (kept : KeptSignal service env ctx own)
    : returnedSignal env ctx (some own) = some own
      ∧ presentedSignal service env ctx (some own) = some own.forRisk := by
  constructor
  · simp [returnedSignal, unblocked.versionMatches own kept, unblocked.stackWarm]
  · simp [presentedSignal, unblocked.acieOffers, unblocked.stackWarm,
      unblocked.entriesAllowed]

/-- Without a warm history nothing is presented, and the law asks that the entry is refused. -/
theorem judge_lawful_of_unwarmed (warmed : env.historyWarmed = false)
    : EntryLaw service env ctx (some (judge env ctx none none))
      ↔ HardRejected env ctx ∨ MinimaRefuse service env ctx ∨ OwnEntry service env ctx := by
  have offered : offeredSignal service env ctx = none := by
    simp [offeredSignal, warmed]
  rw [judge_lawful, judge_approved]
  simp only [reduceCtorEq, false_and, exists_false, or_false, and_false, imp_false, not_and,
    OwnEntry, warmed, MinimaRefuse, offered, false_implies, implies_true, or_true, and_true,
    Bool.not_eq_true]
  tauto

/-- Without a signal of its own a decision obeys the law exactly when the entry is refused. -/
theorem judge_lawful_of_noSignal (warmed : env.historyWarmed = true)
    (decided : decidedSignal service env ctx = some none)
    : EntryLaw service env ctx (some (judge env ctx (returnedSignal env ctx none)
        (presentedSignal service env ctx none)))
      ↔ HardRejected env ctx ∨ MinimaRefuse service env ctx ∨ OwnEntry service env ctx := by
  have noOwn : ¬ OwnEntry service env ctx := by
    rintro ⟨-, -, own, kept⟩
    rw [KeptSignal, decided] at kept
    exact absurd kept (by simp)
  have nothing : returnedSignal env ctx none = none := by
    unfold returnedSignal
    split <;> rfl
  rw [judge_lawful, judge_approved_of_decided warmed decided]
  simp only [nothing, reduceCtorEq, false_and, exists_false, and_false, imp_false, noOwn,
    or_false]
  tauto

/-- With a signal of its own a decision obeys the law exactly when the entry is refused, or
is unblocked.
-/
theorem judge_lawful_of_ownSignal {own : PredictionSignal} (warmed : env.historyWarmed = true)
    (kept : KeptSignal service env ctx own)
    : EntryLaw service env ctx (some (judge env ctx (returnedSignal env ctx (some own))
        (presentedSignal service env ctx (some own))))
      ↔ HardRejected env ctx ∨ MinimaRefuse service env ctx ∨ OwnEntry service env ctx := by
  rw [judge_lawful, judge_approved_of_decided warmed kept]
  constructor
  · intro law
    by_cases hard : HardRejected env ctx
    · exact .inl hard
    by_cases minima : MinimaRefuse service env ctx
    · exact .inr (.inl minima)
    exact .inr (.inr ⟨warmed, (law ⟨hard, minima⟩).1, own, kept⟩)
  · rintro condition ⟨hard, minima⟩
    have entry := (condition.resolve_left hard).resolve_left minima
    have unblocked := entry.2.1
    exact ⟨unblocked, own, unblocked.showsOwn kept⟩

/-- A call that throws obeys the law exactly when nothing blocks the entry. -/
theorem lawful_of_thrown
    : EntryLaw service env ctx none ↔ Unblocked service env ctx := by
  constructor
  · intro law
    by_contra blocked
    obtain ⟨result, same, -⟩ := law.blockedRejects blocked
    cases same
  · intro unblocked
    refine ⟨fun blocked => absurd unblocked blocked, ?_⟩
    intro result same
    cases same

theorem evaluateEntry_lawful_of_notReady (notReady : NotReady env ctx)
    : EntryLaw service env ctx (evaluateEntry service env ctx) := by
  obtain ⟨live, cold⟩ := notReady
  rw [evaluateEntry, if_pos (by simp [live, cold])]
  refine ⟨fun _ => ⟨_, rfl, rfl⟩, ?_⟩
  rintro result same approved
  obtain rfl := Option.some.inj same
  exact absurd approved Bool.false_ne_true

/-- A decision obeys the law exactly under its condition, stage by stage of the call. -/
theorem evaluateEntry_lawful_iff (service : EntryDecisionService)
    (env : DecisionEnvironment) (ctx : EntryDecisionContext)
    : EntryLaw service env ctx (evaluateEntry service env ctx)
      ↔ EntryCondition service env ctx := by
  by_cases notReady : NotReady env ctx
  · exact iff_of_true (evaluateEntry_lawful_of_notReady notReady) (.inl notReady)
  have goesOn : ¬ (ctx.isLive = true ∧ (!env.readyForLive) = true) := by
    simpa [NotReady] using notReady
  rw [evaluateEntry, if_neg goesOn, EntryCondition, or_iff_right notReady]
  cases warmed : env.historyWarmed with
  | false =>
      rw [if_pos (by rfl), if_neg (by simp)]
      exact judge_lawful_of_unwarmed warmed
  | true =>
      rw [if_neg (by simp)]
      cases decided : decidedSignal service env ctx with
      | none =>
          rw [if_pos ⟨rfl, rfl⟩]
          exact lawful_of_thrown
      | some signal =>
          rw [if_neg (by simp), Option.map_some]
          cases signal with
          | none => exact judge_lawful_of_noSignal warmed decided
          | some own => exact judge_lawful_of_ownSignal warmed decided

/-- A risk input in which every hard condition holds, without prediction minima. -/
def openRiskInput (mode : SystemMode) : RiskEvaluationInput where
  mode
  operatorAuthorized := true
  sessionAuthenticated := true
  gameLoaded := true
  roundState := some (.starting "r1" .high)
  currentBalance := some 10000
  dailyEntriesConfirmed := 0
  paused := false
  killSwitch := false
  browserHealthy := true
  gameAdapterHealthy := true
  openBetExists := false
  cooldownElapsed := true
  requiredStake := 700
  balanceBuffer := 0
  maxDailyEntries := 10
  consecutiveErrors := 0
  maxConsecutiveErrors := 3
  cashOutFailures := 0
  maxCashOutFailures := 2

/-- A warm system whose pipeline gives this probability against a threshold of 58 %. -/
def warmEnvironment (probability : ℚ) : DecisionEnvironment where
  readyForLive := true
  historyWarmed := true
  recentRounds _ := 100
  acieHistorySize := 200
  acieEvaluation := { modelUncertainty := .finite (1 / 10), signal := true }
  calibratedProbability := .finite (7 / 10)
  snapshotModelVersion := "acie-v3"
  snapshotFeatureVersion := "acie-online-1"
  newPredictionId := "p1"
  legacyPrediction := none
  pipeline :=
    { predictionId := "p1"
      target := .finite (13 / 10)
      calibratedProbability := .finite probability
      opportunityConfidence := .finite (9 / 10)
      opportunityScore := 1
      threshold := .finite (58 / 100)
      entriesAllowed := true }
  predictionWarm _ := true
  productionEntriesAllowed := true
  sheathBlocked := false
  circuitOpen := false
  riskTime := 0

/-- A decision about the open risk input at time zero. -/
def openContext (mode : SystemMode) : EntryDecisionContext where
  decisionTimestamp := .iso 0
  riskInput := openRiskInput mode

/-- A dry-run entry is approved although the pipeline skips it, and a live entry is
approved although the feature version does not match and no signal is returned.
-/
theorem skipped_and_mismatched_entries_approved
    : ((warmEnvironment (1 / 2)).pipeline.action = .skip
        ∧ (evaluateEntry {} (warmEnvironment (1 / 2)) (openContext .dryRun)).map
          (·.riskResult.approved) = some true
        ∧ ¬ EntryLaw {} (warmEnvironment (1 / 2)) (openContext .dryRun)
          (evaluateEntry {} (warmEnvironment (1 / 2)) (openContext .dryRun)))
      ∧ (evaluateEntry {} (warmEnvironment (7 / 10)) (openContext .live)).map
          (fun result => (result.riskResult.approved, result.signal)) = some (true, none)
        ∧ ¬ EntryLaw {} (warmEnvironment (7 / 10)) (openContext .live)
          (evaluateEntry {} (warmEnvironment (7 / 10)) (openContext .live)) := by
  have skips : (warmEnvironment (1 / 2)).pipeline.action = .skip := by decide +kernel
  have approvedSkip : (evaluateEntry {} (warmEnvironment (1 / 2)) (openContext .dryRun)).map
      (·.riskResult.approved) = some true := by decide +kernel
  have approvedLive : (evaluateEntry {} (warmEnvironment (7 / 10)) (openContext .live)).map
      (fun result => (result.riskResult.approved, result.signal)) = some (true, none) := by
    decide +kernel
  refine ⟨⟨skips, approvedSkip, ?_⟩, approvedLive, ?_⟩
  · intro law
    have runs : PipelineRuns {} (warmEnvironment (1 / 2)) (openContext .dryRun) :=
      ⟨by decide +kernel, rfl, _, rfl⟩
    obtain ⟨result, returned, rejected⟩ :=
      law.blockedRejects fun unblocked => (unblocked.pipelineEnters runs).1 skips
    rw [returned, Option.map_some, rejected] at approvedSkip
    exact absurd approvedSkip (by decide)
  · intro law
    obtain ⟨result, returned, outcome⟩ := Option.map_eq_some_iff.mp approvedLive
    obtain ⟨approved, noSignal⟩ := Prod.mk.inj outcome
    obtain ⟨signal, found, -⟩ := law.approvedSignal result returned approved
    rw [noSignal] at found
    exact absurd found (by simp)

end CrashWave.Prediction
