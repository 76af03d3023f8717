import CrashWave.Persistence.BetRepository

/-! The recovery of unknown bets: the sweep that asks the settlement provider about each of
them, and the resolution by an operator. What the round repository and the provider answer
is an input.
-/

namespace CrashWave.Ledger

open CrashWave.Persistence JavaScript

/-- A round as recovery reads it; its crash points are only printed. -/
structure RecoveryRound where
  finalConfirmedCrashPoint : Option String
  observedCrashPoint : Option String

/-- What an external system can establish about a bet. -/
inductive SettlementStatus where
  | cashedOut
  | lost
  | failed
  deriving DecidableEq

/-- `SettlementStatus` as the source spells it. -/
def SettlementStatus.text : SettlementStatus → String
  | .cashedOut => "CASHED_OUT"
  | .lost => "LOST"
  | .failed => "FAILED"

/-- The state of a bet that is settled so. -/
def SettlementStatus.betState : SettlementStatus → BetState
  | .cashedOut => .cashedOut
  | .lost => .lost
  | .failed => .failed

/-- The answer of the settlement provider; no status means that none is established. -/
structure SettlementEvidence where
  status : Option SettlementStatus
  cashOutMultiplier : Option Number := none
  externalReference : Option String := none
  source : String

/-- What happens while a bet is recovered: the answers of the round repository and of the
provider, where an error is a promise that rejects, and the time and failures of the update.
-/
structure BetRecoveryAnswers where
  round : Except String (Option RecoveryRound)
  evidence : Except String SettlementEvidence
  now : Int
  faults : BetFaults := {}

/-- What one bet's recovery reports. -/
structure BetRecoveryResult where
  betId : String
  previousState : BetState := .unknown
  newState : BetState
  resolved : Bool
  reason : String
  pnl : Option Number := none
  multiplier : Option Number := none
  deriving DecidableEq

/-- What a sweep reports. -/
structure RecoverySweepResult where
  totalUnknown : Nat
  resolved : Nat
  manualReviewRequired : Nat
  stillUnknown : Nat
  results : List BetRecoveryResult
  deriving DecidableEq

/-- The recovery service. -/
structure UnknownStateRecovery where
  maxBetsPerSweep : Nat := 50
  /-- A settlement provider is configured. -/
  evidenceProvider : Bool := false
  isReconciling : Bool := false

/-- The multiplier that is recorded for a settlement. -/
def SettlementEvidence.multiplier (evidence : SettlementEvidence) (status : SettlementStatus)
    : Option Number :=
  if status = .cashedOut then evidence.cashOutMultiplier else none

/-- The profit that is recorded for a settlement of the stake. -/
def SettlementEvidence.pnl (evidence : SettlementEvidence) (status : SettlementStatus)
    (stake : Number) : Number :=
  match status, evidence.multiplier status with
  | .cashedOut, some multiplier => (stake * multiplier - stake).roundToCents
  | .lost, _ => stake.neg
  | _, _ => 0

/-- The update that records a settlement. -/
def SettlementEvidence.update (evidence : SettlementEvidence) (status : SettlementStatus)
    (stake : Number) : UpdateBetInput where
  state := some status.betState
  confirmedCashOutMultiplier := some (evidence.multiplier status)
  observedCashOutMultiplier := some (evidence.multiplier status)
  pnl := some (some (evidence.pnl status stake))
  failureReason :=
    some (some ("Authoritative settlement: " ++ evidence.source ++ "; externalReference="
      ++ evidence.externalReference.getD "none"))
  externalReference := evidence.externalReference
  settlementSource := some evidence.source

/-- The result for a bet that stays unknown. -/
def unresolved (betId reason : String) : BetRecoveryResult where
  betId
  newState := .unknown
  resolved := false
  reason

/-- The result for a bet whose settlement was recorded. -/
def SettlementEvidence.resolved (evidence : SettlementEvidence) (status : SettlementStatus)
    (bet : BetRecord) : BetRecoveryResult where
  betId := bet.id
  newState := status.betState
  resolved := true
  reason := "Authoritative settlement confirmed " ++ status.text ++ ": " ++ evidence.source
  pnl := some (evidence.pnl status bet.stake)
  multiplier := evidence.multiplier status

namespace UnknownStateRecovery

variable (recovery : UnknownStateRecovery)

/-- `recoverBet` up to its update: the settlement that was established, or the reason why
there is none.
-/
def establish (bet : BetRecord) (answers : BetRecoveryAnswers)
    : Except String (SettlementEvidence × SettlementStatus) :=
  match bet.roundId with
  | none | some "" => .error "Bet has no roundId — manual review required"
  | some roundId =>
      match answers.round with
      | .error message => .error ("Recovery error: " ++ message)
      | .ok none => .error ("Round " ++ roundId ++ " not found in history")
      | .ok (some round) =>
          if !recovery.evidenceProvider then
            match round.finalConfirmedCrashPoint.or round.observedCrashPoint with
            | none =>
                .error ("Round has no crash point and no authoritative settlement provider "
                  ++ "is configured")
            | some crashPoint =>
                .error ("Round ended at " ++ crashPoint ++ "x, but round outcome does not "
                  ++ "prove our bet settled; authoritative evidence required")
          else
            match answers.evidence with
            | .error message => .error ("Recovery error: " ++ message)
            | .ok evidence =>
                match evidence.status with
                | none =>
                    .error ("Authoritative settlement unavailable (" ++ evidence.source ++ ")")
                | some status => .ok (evidence, status)

/-- `recoverBet`. An update that is answered, even with no record, counts as resolved; the
message of one that fails is cut off before the one of the database.
-/
def recoverBet (tables : BetTables) (bet : BetRecord) (answers : BetRecoveryAnswers)
    : BetTables × BetRecoveryResult :=
  match recovery.establish bet answers with
  | .error reason => (tables, unresolved bet.id reason)
  | .ok (evidence, status) =>
      let outcome :=
        tables.update bet.id (evidence.update status bet.stake) answers.now answers.faults
      match outcome.2 with
      | .error _ => (outcome.1, unresolved bet.id "Recovery error: Bet update failed")
      | .ok _ => (outcome.1, evidence.resolved status bet)

/-- The loop of the sweep. -/
def recoverAll (answers : String → BetRecoveryAnswers) (tables : BetTables)
    : List BetRecord → BetTables × List BetRecoveryResult
  | [] => (tables, [])
  | bet :: rest =>
      let first := recovery.recoverBet tables bet (answers bet.id)
      let others := recoverAll answers first.1 rest
      (others.1, first.2 :: others.2)

/-- `runRecoverySweep`, with the answers by bet. A sweep next to another one reports that
nothing is unknown.
-/
def runRecoverySweep (tables : BetTables) (pageFails : Bool)
    (answers : String → BetRecoveryAnswers)
    : BetTables × Except String RecoverySweepResult :=
  if recovery.isReconciling then
    (tables, .ok
      { totalUnknown := 0
        resolved := 0
        manualReviewRequired := 0
        stillUnknown := 0
        results := [] })
  else
    match tables.findByState .unknown recovery.maxBetsPerSweep pageFails with
    | .error _ => (tables, .error "RECOVERY_SWEEP_FAILED")
    | .ok unknownBets =>
        let outcome := recovery.recoverAll answers tables unknownBets
        let resolved := outcome.2.countP (·.resolved)
        let manualReviewRequired := outcome.2.length - resolved
        (outcome.1, .ok
          { totalUnknown := unknownBets.length
            resolved
            manualReviewRequired
            stillUnknown := manualReviewRequired
            results := outcome.2 })

end UnknownStateRecovery

/-- The state that an operator can resolve a bet to. -/
inductive ManualState where
  | cashedOut
  | lost
  | reconciled
  deriving DecidableEq

/-- The state of a bet that is resolved so. -/
def ManualState.betState : ManualState → BetState
  | .cashedOut => .cashedOut
  | .lost => .lost
  | .reconciled => .reconciled

/-- What an operator resolves a bet to. -/
structure ManualResolution where
  betId : String
  newState : ManualState
  pnl : Number
  multiplier : Option Number := none
  deriving DecidableEq

/-- `manualResolve` up to its update: the bet is there and unknown, or the code of the error
that is thrown.
-/
def ManualResolution.check (resolution : ManualResolution) (tables : BetTables) (fails : Bool)
    : Except String Unit :=
  match tables.findById resolution.betId fails with
  | .error code => .error code
  | .ok none => .error "MANUAL_RESOLVE_NOT_FOUND"
  | .ok (some bet) =>
      if bet.state ≠ .unknown then .error "MANUAL_RESOLVE_INVALID_STATE" else .ok ()

/-- The update of `manualResolve`. -/
def ManualResolution.update (resolution : ManualResolution) : UpdateBetInput where
  state := some resolution.newState.betState
  confirmedCashOutMultiplier := some resolution.multiplier
  observedCashOutMultiplier := some resolution.multiplier
  pnl := some (some resolution.pnl)

end CrashWave.Ledger
