import CrashWave.Ledger.RecoverySweep

/-! The reconciliation engine, and where it decides as the recovery of unknown bets does on the
same evidence.
-/

namespace CrashWave.Ledger

open CrashWave.Persistence JavaScript

/-- How an unknown bet is resolved. -/
inductive ReconciliationResolution where
  | cashedOut
  | lost
  | failed
  | unknown
  deriving DecidableEq

/-- The state of a bet that is resolved so. -/
def ReconciliationResolution.betState : ReconciliationResolution → BetState
  | .cashedOut => .cashedOut
  | .lost => .lost
  | .failed => .failed
  | .unknown => .unknown

/-- What a resolution rests on. -/
inductive ReconciliationSource where
  | balance
  | roundHistory
  | gameApi
  deriving DecidableEq

/-- `ReconciliationSource` as the source spells it. -/
def ReconciliationSource.text : ReconciliationSource → String
  | .balance => "balance"
  | .roundHistory => "round_history"
  | .gameApi => "game_api"

/-- The evidence of the engine. The crash point and the reference only reach the log. -/
structure ReconciliationEvidence where
  balanceBefore : Option Number := none
  balanceAfter : Option Number := none
  gameApiShowsCashOut : Option Bool := none
  gameApiMultiplier : Option Number := none
  balanceDeltaIsolated : Bool := false
  deriving DecidableEq

/-- `ReconciliationResult` of a bet, with the time of the resolution left out. -/
structure BetReconciliationResult where
  betId : String
  previousState : BetState := .unknown
  resolution : ReconciliationResolution
  pnl : Option Number
  cashOutMultiplier : Option Number
  reason : String
  manualOverride : Bool := false
  deriving DecidableEq

/-- `buildResult`. -/
def buildResult (betId : String) (resolution : ReconciliationResolution)
    (pnl cashOutMultiplier : Option Number) (reason : String) (source : ReconciliationSource)
    : BetReconciliationResult where
  betId
  resolution
  pnl
  cashOutMultiplier
  reason := reason ++ " (source: " ++ source.text ++ ")"

/-- `Math.abs(actual - expected) < 0.01`. -/
def withinCent (actual expected : Number) : Bool :=
  (actual - expected).abs < .finite (1 / 100)

/-- The second strategy of `reconcile`: the isolated change of the balance. -/
def reconcileBalance (betId : String) (stake target : Number)
    (evidence : ReconciliationEvidence) : Option BetReconciliationResult :=
  match evidence.balanceDeltaIsolated, evidence.balanceBefore, evidence.balanceAfter with
  | true, some balanceBefore, some balanceAfter =>
      let expectedWin := stake * (target - 1)
      let expectedLoss := stake.neg
      let actualChange := balanceAfter - balanceBefore
      if withinCent actualChange expectedWin then
        some (buildResult betId .cashedOut (some expectedWin) (some target)
          "Isolated balance delta matches win amount" .balance)
      else if withinCent actualChange expectedLoss then
        some (buildResult betId .lost (some expectedLoss) none
          "Isolated balance delta matches loss amount" .balance)
      else if actualChange.abs < .finite (1 / 100) then
        some (buildResult betId .failed (some 0) none
          "Isolated balance delta shows no settlement movement" .balance)
      else none
  | _, _, _ => none

/-- `reconcile`. The crash point settles nothing. -/
def ReconciliationEngine.reconcile (betId : String) (stake target : Number)
    (evidence : ReconciliationEvidence) : BetReconciliationResult :=
  match evidence.gameApiShowsCashOut, evidence.gameApiMultiplier with
  | some true, some multiplier =>
      buildResult betId .cashedOut (some (stake * (multiplier - 1))) (some multiplier)
        "Game API confirms cash-out" .gameApi
  | some false, _ =>
      buildResult betId .lost none none "Game API confirms no cash-out — bet lost" .gameApi
  | _, _ =>
      (reconcileBalance betId stake target evidence).getD
        (buildResult betId .unknown none none
          "Insufficient evidence for automatic reconciliation" .roundHistory)

-----------------------------------------------------------------------------------------
-- The same evidence for both
-----------------------------------------------------------------------------------------

/-- What the game shows the engine of a bet that the provider knows the status of. -/
def SettlementStatus.showsCashOut : SettlementStatus → Option Bool
  | .cashedOut => some true
  | .lost => some false
  | .failed => none

/-- The evidence of the provider as the engine sees it, next to what it knows of the balance. -/
def SettlementEvidence.presented (evidence : SettlementEvidence) (status : SettlementStatus)
    (known : ReconciliationEvidence) : ReconciliationEvidence :=
  { known with
    gameApiShowsCashOut := status.showsCashOut
    gameApiMultiplier := evidence.cashOutMultiplier }

/-- Both decide the same, with the profits that the states demand. -/
structure DecideAlike (stake : Number) (recovered : BetRecoveryResult)
    (reconciled : BetReconciliationResult) : Prop where
  state : recovered.newState = reconciled.resolution.betState
  multiplier : recovered.multiplier = reconciled.cashOutMultiplier
  pnl : recovered.pnl.map Number.roundToCents = reconciled.pnl.map Number.roundToCents
  cashedOut : recovered.newState = .cashedOut →
    ∃ multiplier, recovered.multiplier = some multiplier
      ∧ reconciled.pnl = some (stake * (multiplier - 1))
  lost : recovered.newState = .lost →
    recovered.pnl = some stake.neg ∧ reconciled.pnl = some stake.neg

/-- What is reported of a bet whose settlement was recorded. -/
theorem recoverBet_eq_resolved {recovery : UnknownStateRecovery} {tables : BetTables}
    {bet : BetRecord} {answers : BetRecoveryAnswers} {evidence : SettlementEvidence}
    {status : SettlementStatus}
    (established : recovery.establish bet answers = .ok (evidence, status))
    (recorded : (recovery.recoverBet tables bet answers).2.resolved = true)
    : (recovery.recoverBet tables bet answers).2 = evidence.resolved status bet := by
  rw [UnknownStateRecovery.recoverBet, established] at recorded ⊢
  dsimp only at recorded ⊢
  split at recorded
  · cases recorded
  · rfl

/-- A cash-out with a known multiplier is decided alike. -/
theorem cashOut_decided_alike {bet : BetRecord} {stake : ℚ} (priced : bet.stake = .finite stake)
    {evidence : SettlementEvidence} {multiplier : Number}
    (stated : evidence.cashOutMultiplier = some multiplier) (known : ReconciliationEvidence)
    : DecideAlike bet.stake (evidence.resolved .cashedOut bet)
        (ReconciliationEngine.reconcile bet.id bet.stake bet.cashOutTarget
          (evidence.presented .cashedOut known)) := by
  have recorded : evidence.multiplier .cashedOut = some multiplier := stated
  have profit : evidence.pnl .cashedOut bet.stake
      = (bet.stake * (multiplier - 1)).roundToCents := by
    have bounded : ∀ negative, Number.finite stake ≠ .infinity negative := by simp
    simp only [SettlementEvidence.pnl, recorded, priced, Number.mul_sub_self bounded]
  have reconciled : ReconciliationEngine.reconcile bet.id bet.stake bet.cashOutTarget
        (evidence.presented .cashedOut known)
      = buildResult bet.id .cashedOut (some (bet.stake * (multiplier - 1))) (some multiplier)
          "Game API confirms cash-out" .gameApi := by
    simp only [ReconciliationEngine.reconcile, SettlementEvidence.presented,
      SettlementStatus.showsCashOut, stated]
  rw [reconciled]
  refine ⟨rfl, recorded, ?_, fun _ => ⟨multiplier, recorded, rfl⟩, ?_⟩
  · simp only [SettlementEvidence.resolved, buildResult, profit, Option.map_some,
      Number.roundToCents_roundToCents]
  · intro lost
    cases lost

/-- A cash-out without a multiplier is not: the recovery settles it without a profit. -/
theorem unpriced_cashOut_decided_apart {bet : BetRecord} {evidence : SettlementEvidence}
    (unstated : evidence.cashOutMultiplier = none) (reconciled : BetReconciliationResult)
    : ¬ DecideAlike bet.stake (evidence.resolved .cashedOut bet) reconciled := by
  intro alike
  obtain ⟨multiplier, recorded, _⟩ := alike.cashedOut rfl
  have none : (evidence.resolved .cashedOut bet).multiplier = none := unstated
  rw [none] at recorded
  cases recorded

/-- Whenever the recovery records a settlement of a bet with a finite stake, a cash-out with a
known multiplier is decided alike by the engine, and a loss is decided as one without a
multiplier, for which the recovery states the loss of the stake and the engine no profit.
-/
theorem reconcilers_agree {recovery : UnknownStateRecovery} {tables : BetTables}
    {bet : BetRecord} {answers : BetRecoveryAnswers} {evidence : SettlementEvidence}
    {status : SettlementStatus} {stake : ℚ} (priced : bet.stake = .finite stake)
    (established : recovery.establish bet answers = .ok (evidence, status))
    (recorded : (recovery.recoverBet tables bet answers).2.resolved = true)
    (known : ReconciliationEvidence)
    : let recovered := (recovery.recoverBet tables bet answers).2
      let reconciled :=
        ReconciliationEngine.reconcile bet.id bet.stake bet.cashOutTarget
          (evidence.presented status known)
      (status = .cashedOut → ∀ multiplier, evidence.cashOutMultiplier = some multiplier →
        DecideAlike bet.stake recovered reconciled
        ∧ recovered.newState = .cashedOut ∧ recovered.multiplier = some multiplier
        ∧ recovered.pnl = some (bet.stake * (multiplier - 1)).roundToCents
        ∧ reconciled.pnl = some (bet.stake * (multiplier - 1)))
      ∧ (status = .lost →
        recovered.newState = .lost ∧ reconciled.resolution = .lost
        ∧ recovered.multiplier = none ∧ reconciled.cashOutMultiplier = none
        ∧ recovered.pnl = some bet.stake.neg ∧ reconciled.pnl = none) := by
  intro recovered reconciled
  have resolved : recovered = evidence.resolved status bet :=
    recoverBet_eq_resolved established recorded
  rw [resolved]
  constructor
  · rintro rfl multiplier stated
    have alike := cashOut_decided_alike priced stated known
    obtain ⟨same, paired, profit⟩ := alike.cashedOut rfl
    obtain rfl : multiplier = same := Option.some_inj.mp (stated.symm.trans paired)
    refine ⟨alike, rfl, paired, ?_, profit⟩
    have stated' : evidence.multiplier .cashedOut = some multiplier := stated
    have bounded : ∀ negative, Number.finite stake ≠ .infinity negative := by simp
    simp only [SettlementEvidence.resolved, SettlementEvidence.pnl, stated', priced,
      Number.mul_sub_self bounded]
  · rintro rfl
    exact ⟨rfl, rfl, rfl, rfl, rfl, rfl⟩

/-- A recovery with a settlement provider. -/
def providedRecovery : UnknownStateRecovery where
  evidenceProvider := true

/-- The provider gives the evidence for a bet whose round is on record. -/
def answersWith (evidence : SettlementEvidence) : BetRecoveryAnswers where
  round := .ok (some { finalConfirmedCrashPoint := some "2.5", observedCrashPoint := none })
  evidence := .ok evidence
  now := 1

/-- The recovery of an unknown bet of 700 with the evidence. -/
def recoveredWith (evidence : SettlementEvidence) : BetRecoveryResult :=
  (providedRecovery.recoverBet (betsOf [betRow "bet-1" .unknown 0]) (betRow "bet-1" .unknown 0)
    (answersWith evidence)).2

/-- The evidence of a cash-out. -/
def cashOutEvidence (multiplier : Number) : SettlementEvidence where
  status := some .cashedOut
  cashOutMultiplier := some multiplier
  source := "history"

/-- The evidence of a loss. -/
def lossEvidence : SettlementEvidence where
  status := some .lost
  source := "history"

/-- A cash-out at 3 of a stake of 700 is settled with a profit of 1400. -/
theorem cashOut_settled : (recoveredWith (cashOutEvidence 3)).pnl = some 1400 := by
  have established : providedRecovery.establish (betRow "bet-1" .unknown 0)
      (answersWith (cashOutEvidence 3)) = .ok (cashOutEvidence 3, .cashedOut) := rfl
  have priced : (betRow "bet-1" .unknown 0).stake = .finite 700 := rfl
  have recorded : (recoveredWith (cashOutEvidence 3)).resolved = true := by decide +kernel
  have agree := reconcilers_agree priced established recorded {}
  obtain ⟨_, _, _, profit, _⟩ := agree.1 rfl 3 rfl
  exact profit.trans (by decide +kernel)

/-- The engine states no profit for a loss. -/
theorem loss_decided_apart
    : ¬ DecideAlike 700 (recoveredWith lossEvidence)
      (ReconciliationEngine.reconcile "bet-1" 700 2 (lossEvidence.presented .lost {})) := by
  intro alike
  have stated := (alike.lost (by decide +kernel)).2
  cases stated

end CrashWave.Ledger
