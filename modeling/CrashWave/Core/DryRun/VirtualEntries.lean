import CrashWave.Core.DryRun.DryRunController
import CrashWave.Core.LiveBridge
import CrashWave.Prediction.EntryVerdicts
import CrashWave.Runs.Basic

/-! The dry-run bridge, as the segments of its handlers, and when it opens a virtual trade. The
gates of the controller and of its ledger look at the signal alone: neither at the verdict that came
with it, nor at the round, whose trades the ledger knows.
-/

namespace CrashWave.DryRun

open CrashWave.Betting CrashWave.Core CrashWave.Prediction JavaScript

/-- The checks of `onRoundStartedForDryRun` before it prepares its risk input. -/
def dryRunOpen (config : Value) (controller : DryRunController) : Bool :=
  let mode := bridgeMode config "dry-run"
  (mode = "dry-run" || mode = "observe-only") && controller.running

/-- The signal that a decision offers to the controller. The verdict of the risk engine is
not read.
-/
def offeredSignal (config : Value) (roundId : String) (decision : EntryDecisionResult)
    : Option DryRunSignal :=
  decision.signal.map fun signal =>
    { signalId := signal.predictionId
      roundId := roundId
      probability := signal.probability
      confidence := signal.confidence
      target := signal.target
      stake := some (configNumber config ["betting", "stakePerEntry"] 700) }

/-- `onRoundCrashedForDryRun`. -/
def onRoundCrashedForDryRun (controller : DryRunController) (payload : CrashPayload)
    : DryRunController :=
  match payload.valid with
  | none => controller
  | some (rid, cp) => controller.onRoundCompleted rid cp

-----------------------------------------------------------------------------------------
-- The bridge between two events
-----------------------------------------------------------------------------------------

/-- The context in which the bridge asks for a decision. -/
def entryContext (config : Value) (riskInput : RiskEvaluationInput) (now : DateText)
    : EntryDecisionContext where
  decisionTimestamp := now
  riskInput :=
    { riskInput with
      sessionAuthenticated := true
      currentBalance := some (riskInput.currentBalance.getD 10000) }
  target := some (configNumber config ["betting", "cashOutTarget"] (.finite (13 / 10)))

/-- A call of `onRoundStartedForDryRun` that waits, by what it awaits. -/
inductive BridgeTask where
  | buildingRisk (roundId : String)
  | deciding (roundId : String) (ctx : EntryDecisionContext)

/-- What happens to the bridge: an event, an awaited call that is settled, or the controller
is started or stopped. The answers of an awaited decision are those of the components that it
asks.
-/
inductive BridgeEvent where
  | roundStarted (roundId : String)
  | roundCrashed (payload : CrashPayload) (observed : Bool)
  | riskBuilt (index : Nat) (riskInput : Option RiskEvaluationInput) (now : DateText)
  | decided (index : Nat) (env : DecisionEnvironment) (today : Int) (newId : String)
  | started
  | stopped

/-- The bridge with its controller, and the calls that wait. -/
structure DryRunBridge where
  config : Value
  controller : DryRunController
  service : EntryDecisionService := {}
  tasks : List BridgeTask := []

namespace DryRunBridge

/-- A decision that was awaited: its signal goes to the controller, or it is logged that the
call failed.
-/
def decided (bridge : DryRunBridge) (roundId : String) (decision : Option EntryDecisionResult)
    (today : Int) (newId : String) : DryRunBridge × Option VirtualTrade :=
  match decision.bind (offeredSignal bridge.config roundId) with
  | none => (bridge, none)
  | some signal =>
      let simulated := bridge.controller.evaluateAndSimulate today newId signal
      ({ bridge with controller := simulated.1 }, simulated.2)

/-- What happens next, with the virtual trade that it opens. -/
def step (bridge : DryRunBridge) : BridgeEvent → DryRunBridge × Option VirtualTrade
  | .roundStarted roundId =>
      if roundId ≠ "" ∧ dryRunOpen bridge.config bridge.controller then
        ({ bridge with
            controller := bridge.controller.recordPrediction
            tasks := bridge.tasks ++ [.buildingRisk roundId] },
          none)
      else (bridge, none)
  | .roundCrashed payload observed =>
      -- The decision service learns from the crash first; where it throws, nothing follows.
      if observed then
        ({ bridge with controller := onRoundCrashedForDryRun bridge.controller payload }, none)
      else (bridge, none)
  | .riskBuilt index riskInput now =>
      match bridge.tasks[index]? with
      | some (.buildingRisk roundId) =>
          let rest := bridge.tasks.eraseIdx index
          match riskInput with
          | none => ({ bridge with tasks := rest }, none)
          | some riskInput =>
              let ctx := entryContext bridge.config riskInput now
              ({ bridge with tasks := rest ++ [.deciding roundId ctx] }, none)
      | _ => (bridge, none)
  | .decided index env today newId =>
      match bridge.tasks[index]? with
      | some (.deciding roundId ctx) =>
          { bridge with tasks := bridge.tasks.eraseIdx index }.decided roundId
            (evaluateEntry bridge.service env ctx) today newId
      | _ => (bridge, none)
  | .started => ({ bridge with controller := bridge.controller.start }, none)
  | .stopped => ({ bridge with controller := bridge.controller.stop }, none)

/-- The bridge after what happens. -/
def next (bridge : DryRunBridge) (event : BridgeEvent) : DryRunBridge := (bridge.step event).1

end DryRunBridge

-----------------------------------------------------------------------------------------
-- Virtual entries
-----------------------------------------------------------------------------------------

-----------------------------------------------------------------------------------------
-- Signals
-----------------------------------------------------------------------------------------

/-- What the controller does with a signal: a trade for its round is entered in the ledger, or
nothing is.
-/
inductive Simulated (controller : DryRunController) (today : Int) (newId : String)
    (signal : DryRunSignal) : DryRunController × Option VirtualTrade → Prop where
  | opened {after : DryRunController} {trade : VirtualTrade}
      (accepts : controller.Accepts today signal) (round : trade.roundId = signal.roundId)
      (entered : after.ledger.byRound
        = controller.ledger.byRound.set signal.roundId
          ((controller.ledger.byRound.get signal.roundId).getD [] ++ [newId]))
      : Simulated controller today newId signal (after, some trade)
  | refused {after : DryRunController} (refuses : ¬ controller.Accepts today signal)
      (same : after.ledger = controller.ledger)
      : Simulated controller today newId signal (after, none)

theorem evaluateAndSimulate_spec (controller : DryRunController) (today : Int)
    (newId : String) (signal : DryRunSignal)
    : Simulated controller today newId signal
        (controller.evaluateAndSimulate today newId signal) := by
  have evaluates := controller.evaluateAndSimulate_evaluates today newId signal
  generalize controller.evaluateAndSimulate today newId signal = result at evaluates ⊢
  cases evaluates with
  | ignored stopped =>
      refine .refused (fun accepts => ?_) rfl
      have running := accepts.running
      rw [stopped] at running
      cases running
  | rejected _ refuses => exact .refused refuses (controller.received_spec today).ledger
  | accepted ledger accepts opened =>
      have entered := (openTrade_opens opened).byRound
      rw [(controller.received_spec today).ledger] at entered
      exact .opened accepts rfl entered

-----------------------------------------------------------------------------------------
-- The steps of the bridge
-----------------------------------------------------------------------------------------

/-- The outcome of a decision that is settled: its round, what the service returned, and
whether the adaptive engine was asked and recommended to skip.
-/
structure DecisionOutcome where
  roundId : String
  decision : EntryDecisionResult
  acieSkips : Bool

/-- The outcome that an event settles. -/
def DryRunBridge.outcome (bridge : DryRunBridge) : BridgeEvent → Option DecisionOutcome
  | .decided index env _ _ =>
      match bridge.tasks[index]? with
      | some (.deciding roundId ctx) =>
          (evaluateEntry bridge.service env ctx).map fun decision =>
            { roundId, decision, acieSkips := acieDeclines env ctx }
      | _ => none
  | _ => none

/-- An event settles an outcome whose signal passes the gates of the controller. -/
inductive DryRunBridge.Accepted (bridge : DryRunBridge)
    : BridgeEvent → DecisionOutcome → Prop where
  | signal {index : Nat} {env : DecisionEnvironment} {today : Int} {newId : String}
      {outcome : DecisionOutcome} {signal : DryRunSignal}
      (settled : bridge.outcome (.decided index env today newId) = some outcome)
      (offered : offeredSignal bridge.config outcome.roundId outcome.decision = some signal)
      (accepts : bridge.controller.Accepts today signal)
      : bridge.Accepted (.decided index env today newId) outcome

theorem DryRunBridge.Accepted.outcome {bridge : DryRunBridge} {event : BridgeEvent}
    {outcome : DecisionOutcome} (accepted : bridge.Accepted event outcome)
    : bridge.outcome event = some outcome := by
  cases accepted with
  | signal settled => exact settled

/-- The outcome that a decision settles is accepted where it offers a signal that passes. -/
theorem DryRunBridge.accepted_decided_iff {bridge : DryRunBridge} {index : Nat}
    {env : DecisionEnvironment} {today : Int} {newId : String}
    {outcome other : DecisionOutcome}
    (settled : bridge.outcome (.decided index env today newId) = some outcome)
    : bridge.Accepted (.decided index env today newId) other
      ↔ outcome = other
        ∧ ∃ signal, offeredSignal bridge.config outcome.roundId outcome.decision = some signal
          ∧ bridge.controller.Accepts today signal := by
  constructor
  · rintro ⟨again, offers, accepts⟩
    obtain rfl : outcome = other := Option.some.inj (settled.symm.trans again)
    exact ⟨rfl, _, offers, accepts⟩
  · rintro ⟨rfl, signal, offers, accepts⟩
    exact .signal settled offers accepts

/-- The ledger has a trade for a round. -/
def DryRunBridge.Traded (bridge : DryRunBridge) (roundId : String) : Prop :=
  bridge.controller.ledger.byRound.get roundId ≠ none

/-- What a step does: a trade is opened for the round of an accepted outcome, or none is and
the ledger has trades for the same rounds.
-/
inductive BridgeEffect (bridge : DryRunBridge) (event : BridgeEvent)
    : DryRunBridge × Option VirtualTrade → Prop where
  | opened {after : DryRunBridge} {trade : VirtualTrade} {outcome : DecisionOutcome}
      (accepted : bridge.Accepted event outcome) (round : trade.roundId = outcome.roundId)
      (traded : ∀ roundId, after.Traded roundId
        ↔ roundId = outcome.roundId ∨ bridge.Traded roundId)
      : BridgeEffect bridge event (after, some trade)
  | quiet {after : DryRunBridge} (refused : ∀ outcome, ¬ bridge.Accepted event outcome)
      (traded : ∀ roundId, after.Traded roundId ↔ bridge.Traded roundId)
      : BridgeEffect bridge event (after, none)

/-- Where nothing is settled and the rounds of the ledger stay, nothing is opened. -/
theorem BridgeEffect.of_same {bridge after : DryRunBridge} {event : BridgeEvent}
    (unsettled : bridge.outcome event = none)
    (same : after.controller.ledger.byRound = bridge.controller.ledger.byRound)
    : BridgeEffect bridge event (after, none) := by
  refine .quiet ?_ ?_
  · intro outcome accepted
    rw [accepted.outcome] at unsettled
    cases unsettled
  · intro roundId
    rw [DryRunBridge.Traded, same, DryRunBridge.Traded]

/-- A crash leaves the rounds of all trades. -/
theorem crashed_byRound (controller : DryRunController) (payload : CrashPayload)
    : (onRoundCrashedForDryRun controller payload).ledger.byRound = controller.ledger.byRound := by
  rw [onRoundCrashedForDryRun]
  split
  · rfl
  · rw [DryRunController.onRoundCompleted]
    split
    · rfl
    · exact resolveRound_byRound _ _ _

/-- A settled decision has one of these effects, by what the controller does with its signal.
-/
theorem decided_effect {bridge : DryRunBridge} {index : Nat} {env : DecisionEnvironment}
    {today : Int} {newId roundId : String} {ctx : EntryDecisionContext}
    (waiting : bridge.tasks[index]? = some (.deciding roundId ctx))
    : BridgeEffect bridge (.decided index env today newId)
        ({ bridge with tasks := bridge.tasks.eraseIdx index }.decided roundId
          (evaluateEntry bridge.service env ctx) today newId) := by
  rw [DryRunBridge.decided]
  cases answered : evaluateEntry bridge.service env ctx with
  | none =>
      refine .of_same ?_ rfl
      rw [DryRunBridge.outcome, waiting]
      simp only [answered, Option.map_none]
  | some decision =>
      let outcome : DecisionOutcome :=
        { roundId, decision, acieSkips := acieDeclines env ctx }
      have settled : bridge.outcome (.decided index env today newId) = some outcome := by
        rw [DryRunBridge.outcome, waiting]
        simp only [answered, Option.map_some, outcome]
      rw [Option.bind_some]
      dsimp only
      cases offered : offeredSignal bridge.config roundId decision with
      | none =>
          refine .quiet ?_ fun _ => Iff.rfl
          intro other accepted
          obtain ⟨-, signal, offers, -⟩ := (DryRunBridge.accepted_decided_iff settled).mp accepted
          rw [offered] at offers
          cases offers
      | some signal =>
          have round : signal.roundId = roundId := by
            obtain ⟨own, -, rfl⟩ := Option.map_eq_some_iff.mp offered
            rfl
          have simulated := evaluateAndSimulate_spec bridge.controller today newId signal
          dsimp only
          generalize bridge.controller.evaluateAndSimulate today newId signal = result
            at simulated ⊢
          cases simulated with
          | @opened after trade accepts own entered =>
              refine .opened (.signal settled offered accepts) (own.trans round) ?_
              intro other
              change after.ledger.byRound.get other ≠ none ↔ _
              rw [entered, round]
              exact Map.get_set_ne_none
          | @refused after refuses same =>
              refine .quiet ?_ ?_
              · intro other accepted
                obtain ⟨-, again, offers, accepts⟩ :=
                  (DryRunBridge.accepted_decided_iff settled).mp accepted
                obtain rfl : signal = again := Option.some.inj (offered.symm.trans offers)
                exact refuses accepts
              · intro other
                change after.ledger.byRound.get other ≠ none ↔ _
                rw [same, DryRunBridge.Traded]

/-- Every step has one of these effects. -/
theorem bridge_effect (bridge : DryRunBridge) (event : BridgeEvent)
    : BridgeEffect bridge event (bridge.step event) := by
  cases event with
  | roundStarted roundId =>
      rw [DryRunBridge.step]
      split
      · exact .of_same rfl rfl
      · exact .of_same rfl rfl
  | roundCrashed payload observed =>
      rw [DryRunBridge.step]
      split
      · exact .of_same rfl (crashed_byRound _ _)
      · exact .of_same rfl rfl
  | riskBuilt index riskInput now =>
      rw [DryRunBridge.step]
      split
      · cases riskInput <;> exact .of_same rfl rfl
      · exact .of_same rfl rfl
  | started => exact .of_same rfl rfl
  | stopped => exact .of_same rfl rfl
  | decided index env today newId =>
      rw [DryRunBridge.step]
      split
      · next roundId ctx waiting => exact decided_effect waiting
      · next waiting =>
          refine .of_same ?_ rfl
          rw [DryRunBridge.outcome]
          split
          · next roundId ctx found => exact absurd found (waiting roundId ctx)
          · rfl

-----------------------------------------------------------------------------------------
-- One trade for each round
-----------------------------------------------------------------------------------------

/-- The virtual trades that are opened along a run. -/
def DryRunBridge.trades : DryRunBridge → List BridgeEvent → List VirtualTrade
  | _, [] => []
  | bridge, event :: rest => (bridge.step event).2.toList ++ (bridge.next event).trades rest

/-- No accepted outcome is for a round that has a trade. -/
def DryRunBridge.AcceptsNewRounds (bridge : DryRunBridge) (event : BridgeEvent) : Prop :=
  ∀ outcome, bridge.Accepted event outcome → ¬ bridge.Traded outcome.roundId

/-- After the rounds that have a trade, all further ones are new exactly when each accepted
outcome is for a round without one, by induction on the events.
-/
theorem rounds_nodup_iff {bridge : DryRunBridge} {traded : List String}
    (nodup : traded.Nodup) (listed : ∀ roundId, bridge.Traded roundId ↔ roundId ∈ traded)
    (events : List BridgeEvent)
    : (traded ++ (bridge.trades events).map VirtualTrade.roundId).Nodup
      ↔ Runs.Always DryRunBridge.next DryRunBridge.AcceptsNewRounds bridge events := by
  induction events generalizing bridge traded with
  | nil =>
      rw [DryRunBridge.trades, List.map_nil, List.append_nil]
      exact iff_of_true nodup trivial
  | cons event rest ih =>
      have effect := bridge_effect bridge event
      rw [DryRunBridge.trades, Runs.Always, DryRunBridge.next]
      generalize bridge.step event = result at effect ⊢
      cases effect with
      | @quiet after refused same =>
          have lawful : bridge.AcceptsNewRounds event := fun outcome accepted =>
            absurd accepted (refused outcome)
          rw [and_iff_right lawful]
          exact ih nodup fun roundId => (same roundId).trans (listed roundId)
      | @opened after trade outcome accepted round entered =>
          have only : bridge.AcceptsNewRounds event ↔ outcome.roundId ∉ traded := by
            rw [← listed]
            constructor
            · intro lawful
              exact lawful outcome accepted
            · intro new other same
              rw [Option.some.inj (same.outcome.symm.trans accepted.outcome)]
              exact new
          rw [only]
          change (traded ++ trade.roundId :: (after.trades rest).map VirtualTrade.roundId).Nodup
            ↔ _
          rw [round]
          by_cases again : outcome.roundId ∈ traded
          · refine iff_of_false ?_ fun both => both.1 again
            intro all
            exact (List.nodup_append.mp all).2.2 _ again _ List.mem_cons_self rfl
          · rw [and_iff_right again, List.append_cons]
            refine ih ?_ ?_
            · rw [List.nodup_append]
              refine ⟨nodup, List.nodup_singleton _, ?_⟩
              intro other member last is same
              exact again (same.trans (List.mem_singleton.mp is) ▸ member)
            · intro roundId
              rw [entered, listed, List.mem_append, List.mem_singleton]
              exact or_comm

/-- Whatever is delivered, and however often, at most one virtual trade is opened for each
round exactly when no outcome passes the gates of the controller for a round that has one.
-/
theorem one_trade_per_round_iff (bridge : DryRunBridge) (balance : Number)
    (fresh : bridge.controller.ledger = .new balance) (events : List BridgeEvent)
    : ((bridge.trades events).map VirtualTrade.roundId).Nodup
      ↔ Runs.Always DryRunBridge.next DryRunBridge.AcceptsNewRounds bridge events := by
  have untraded : ∀ roundId, bridge.Traded roundId ↔ roundId ∈ ([] : List String) := by
    intro roundId
    rw [DryRunBridge.Traded, fresh]
    simp [VirtualTradeLedger.new]
  exact rounds_nodup_iff List.nodup_nil untraded events

/-- A warm system whose pipeline makes this prediction id. -/
def environmentOf (predictionId : String) : DecisionEnvironment :=
  let env := warmEnvironment (7 / 10)
  { env with pipeline := { env.pipeline with predictionId } }

/-- A running bridge in dry-run mode. -/
def runningBridge : DryRunBridge where
  config := .object [("system", .object [("mode", .string "dry-run")])]
  controller := { ledger := .new 10000, running := true }

/-- A round that is told to have started, and decided at once: what the components answer
while it is decided.
-/
def startedRound (roundId : String) (riskInput : RiskEvaluationInput)
    (env : DecisionEnvironment) (newId : String) : List BridgeEvent :=
  [.roundStarted roundId, .riskBuilt 0 (some riskInput) (.iso 0), .decided 0 env 0 newId]

theorem distinct_rounds_accept_new
    : Runs.Always DryRunBridge.next DryRunBridge.AcceptsNewRounds runningBridge
        (startedRound "r1" (openRiskInput .dryRun) (environmentOf "p1") "vt-1"
          ++ startedRound "r2" (openRiskInput .dryRun) (environmentOf "p2") "vt-2") := by
  refine (one_trade_per_round_iff runningBridge 10000 rfl _).mp ?_
  decide +kernel

/-- The start of a round is delivered twice. The pipeline makes a prediction id for each. -/
def deliveredTwice : List BridgeEvent :=
  startedRound "r1" (openRiskInput .dryRun) (environmentOf "p1") "vt-1"
    ++ startedRound "r1" (openRiskInput .dryRun) (environmentOf "p2") "vt-2"

/-- Two trades are opened for the round that was told twice to have started. -/
theorem two_trades_in_round
    : ¬ ((runningBridge.trades deliveredTwice).map VirtualTrade.roundId).Nodup := by
  have opened : (runningBridge.trades deliveredTwice).map VirtualTrade.roundId = ["r1", "r1"] := by
    decide +kernel
  rw [opened]
  decide

-----------------------------------------------------------------------------------------
-- Decisions that are obeyed
-----------------------------------------------------------------------------------------

/-- An outcome that a live entry would need: the risk result is approved, and the adaptive
engine did not recommend to skip.
-/
def DecisionOutcome.Enters (outcome : DecisionOutcome) : Prop :=
  outcome.decision.riskResult.approved = true ∧ outcome.acieSkips = false

/-- A virtual trade is opened only on an outcome that enters. -/
def DryRunBridge.Obeys (bridge : DryRunBridge) (event : BridgeEvent) : Prop :=
  ∀ trade, (bridge.step event).2 = some trade
    → ∃ outcome, bridge.outcome event = some outcome ∧ outcome.Enters

/-- Every outcome that passes the gates of the controller enters. -/
def DryRunBridge.AcceptsEntries (bridge : DryRunBridge) (event : BridgeEvent) : Prop :=
  ∀ outcome, bridge.Accepted event outcome → outcome.Enters

theorem obeys_iff (bridge : DryRunBridge) (event : BridgeEvent)
    : bridge.Obeys event ↔ bridge.AcceptsEntries event := by
  have effect := bridge_effect bridge event
  rw [DryRunBridge.Obeys]
  generalize bridge.step event = result at effect ⊢
  cases effect with
  | quiet refused _ =>
      refine iff_of_true ?_ fun outcome accepted => absurd accepted (refused outcome)
      intro trade opened
      cases opened
  | @opened after trade outcome accepted _ _ =>
      constructor
      · intro obeys other same
        obtain ⟨entered, settled, enters⟩ := obeys trade rfl
        obtain rfl := Option.some.inj (same.outcome.symm.trans settled)
        exact enters
      · intro entries _ _
        exact ⟨outcome, accepted.outcome, entries outcome accepted⟩

/-- The dry run obeys every decision exactly when no outcome passes the gates of the
controller that a live entry would refuse.
-/
theorem dryRun_obeys_iff (bridge : DryRunBridge) (events : List BridgeEvent)
    : Runs.Always DryRunBridge.next DryRunBridge.Obeys bridge events
      ↔ Runs.Always DryRunBridge.next DryRunBridge.AcceptsEntries bridge events :=
  Runs.always_congr obeys_iff bridge events

/-- A risk input on which the kill switch is on. -/
def killedRiskInput : RiskEvaluationInput :=
  { openRiskInput .dryRun with killSwitch := true }

/-- A warm system whose adaptive engine recommends to skip. -/
def skippingEnvironment : DecisionEnvironment :=
  let env := warmEnvironment (7 / 10)
  { env with acieEvaluation := { env.acieEvaluation with signal := false } }

/-- The bridge while it waits for the decision of a round. -/
def decidingBridge (riskInput : RiskEvaluationInput) : DryRunBridge :=
  { runningBridge with
    controller := runningBridge.controller.recordPrediction
    tasks := [.deciding "r1" (entryContext runningBridge.config riskInput (.iso 0))] }

/-- A virtual trade is opened on a rejected risk result, and one on a skipped decision. -/
theorem disobeyed_decisions
    : ¬ Runs.Always DryRunBridge.next DryRunBridge.Obeys runningBridge
        (startedRound "r1" killedRiskInput (warmEnvironment (7 / 10)) "vt-1")
      ∧ ¬ Runs.Always DryRunBridge.next DryRunBridge.Obeys runningBridge
        (startedRound "r1" (openRiskInput .dryRun) skippingEnvironment "vt-1") := by
  constructor
  · rintro ⟨-, -, obeys, -⟩
    change (decidingBridge killedRiskInput).Obeys _ at obeys
    have opens : ((decidingBridge killedRiskInput).step
        (.decided 0 (warmEnvironment (7 / 10)) 0 "vt-1")).2.isSome = true := by
      decide +kernel
    have rejected : ((decidingBridge killedRiskInput).outcome
        (.decided 0 (warmEnvironment (7 / 10)) 0 "vt-1")).map
          (·.decision.riskResult.approved) = some false := by
      decide +kernel
    obtain ⟨trade, opened⟩ := Option.isSome_iff_exists.mp opens
    obtain ⟨outcome, settled, approved, -⟩ := obeys trade opened
    rw [settled, Option.map_some, approved] at rejected
    cases rejected
  · rintro ⟨-, -, obeys, -⟩
    change (decidingBridge (openRiskInput .dryRun)).Obeys _ at obeys
    have opens : ((decidingBridge (openRiskInput .dryRun)).step
        (.decided 0 skippingEnvironment 0 "vt-1")).2.isSome = true := by
      decide +kernel
    have skipped : ((decidingBridge (openRiskInput .dryRun)).outcome
        (.decided 0 skippingEnvironment 0 "vt-1")).map (·.acieSkips) = some true := by
      decide +kernel
    obtain ⟨trade, opened⟩ := Option.isSome_iff_exists.mp opens
    obtain ⟨outcome, settled, -, notSkipped⟩ := obeys trade opened
    rw [settled, Option.map_some, notSkipped] at skipped
    cases skipped

end CrashWave.DryRun
