import CrashWave.Core.RecoveryManager
import CrashWave.Ledger.UnknownStateRecovery
import CrashWave.Persistence.BetRepository

/-! `RecoveryManager.runRecovery` over the bet repository: the count of the unknown bets, their
sweep, the reconciliation of the balance up to its alerts, and the decision to resume. The reads
that fail and the evidence are inputs; nobody else writes to the bets meanwhile.
-/

namespace CrashWave.Ledger

open CrashWave.Persistence JavaScript

/-- The row of the aggregate over the settled bets: the latest snapshot of the balance, or
the balance before the latest bet that has one, and the profit since.
-/
structure BalanceAggregate where
  baseline : Option Number
  totalPnl : Number

/-- `ReconciliationResult` without its alert. -/
structure ReconciliationResult where
  reconciled : Bool
  expectedBalance : Number
  actualBalance : Number
  difference : Number
  withinTolerance : Bool
  tolerance : Number
  unresolvedBets : Nat
  deriving DecidableEq

/-- What a reconciliation finds: the aggregate, unless its query fails, the balance that was
last observed, and whether the count of the unresolved bets fails.
-/
structure BalanceFindings where
  aggregate : Option BalanceAggregate
  currentBalance : Option Number
  countFails : Bool := false

/-- `computeExpectedBalance`. -/
def BalanceFindings.expectedBalance (findings : BalanceFindings) : Except String Number :=
  match findings.aggregate with
  | none => .error "RECONCILE_COMPUTE_FAILED"
  | some row =>
      match row.baseline with
      | none => .ok (findings.currentBalance.getD 0)
      | some baseline =>
          if baseline.isFinite then .ok (baseline + row.totalPnl).roundToCents
          else .ok (findings.currentBalance.getD 0)

/-- `countUnresolvedBets`: where the count fails, there are none. -/
def countUnresolvedBets (tables : BetTables) (fails : Bool) : Nat :=
  match tables.countByState .unknown fails with
  | .ok count => count
  | .error _ => 0

/-- `reconcile` against the observed balance. -/
def reconcile (tolerance : Number) (tables : BetTables) (findings : BalanceFindings)
    : Except String ReconciliationResult :=
  match findings.expectedBalance with
  | .error code => .error code
  | .ok expectedBalance =>
      let unresolvedBets := countUnresolvedBets tables findings.countFails
      match findings.currentBalance with
      | none =>
          .ok
            { reconciled := false
              expectedBalance
              actualBalance := .nan
              difference := .nan
              withinTolerance := false
              tolerance
              unresolvedBets }
      | some actualBalance =>
          let difference := (actualBalance - expectedBalance).roundToCents
          let withinTolerance := decide (difference.abs ≤ tolerance)
          .ok
            { reconciled := withinTolerance && unresolvedBets = 0
              expectedBalance
              actualBalance
              difference
              withinTolerance
              tolerance
              unresolvedBets }

end CrashWave.Ledger

-----------------------------------------------------------------------------------------
-- A recovery
-----------------------------------------------------------------------------------------

namespace CrashWave.Core

open CrashWave.Persistence CrashWave.Ledger JavaScript

/-- The collaborators of a recovery. -/
structure RecoveryServices where
  unknownStateRecovery : UnknownStateRecovery
  /-- The tolerance of the balance reconciliation. -/
  tolerance : Number := .finite (1 / 100)

/-- What happens during a recovery: which of its reads fail, what is answered about each bet,
and what is found about the balance.
-/
structure RecoveryEvents where
  countFails : Bool := false
  pageFails : Bool := false
  answers : String → BetRecoveryAnswers
  balance : BalanceFindings

/-- `RecoveryResult`. -/
structure RecoveryResult where
  phase : RecoveryPhase
  betRecovery : Option RecoverySweepResult
  balanceReconciliation : Option ReconciliationResult
  canResume : Bool
  errors : List String
  deriving DecidableEq

/-- A recovery leaves its result and the bets. -/
structure RecoveryOutcome where
  result : RecoveryResult
  tables : BetTables

/-- The sweep of a recovery, which is only run where bets are unknown. -/
def sweepUnknown (services : RecoveryServices) (tables : BetTables) (events : RecoveryEvents)
    (unknownCount : Nat) : BetTables × Option (Except String RecoverySweepResult) :=
  if 0 < unknownCount then
    let swept :=
      services.unknownStateRecovery.runRecoverySweep tables events.pageFails events.answers
    (swept.1, some swept.2)
  else (tables, none)

/-- The errors of a step of the recovery, under the step's prefix. -/
def stepErrors {α : Type} (label : String) : Option (Except String α) → List String
  | some (.error message) => [label ++ message]
  | _ => []

/-- `runRecovery`. -/
def runRecovery (config : RecoveryManagerConfig) (services : RecoveryServices)
    (tables : BetTables) (events : RecoveryEvents) : RecoveryOutcome :=
  match tables.countByState .unknown events.countFails with
  | .error message =>
      { result :=
          { phase := .failed
            betRecovery := none
            balanceReconciliation := none
            canResume := false
            errors := [message] }
        tables }
  | .ok unknownCount =>
      let swept := sweepUnknown services tables events unknownCount
      let reconciled := reconcile services.tolerance swept.1 events.balance
      let errors :=
        stepErrors "Bet recovery failed: " swept.2
        ++ stepErrors "Balance reconciliation failed: " (some reconciled)
      let betRecovery := swept.2.bind Except.toOption
      let balanceReconciliation := reconciled.toOption
      let canResume :=
        evaluateResumption config (betRecovery.map (·.stillUnknown))
          (balanceReconciliation.map (·.reconciled)) errors.length
      { result :=
          { phase := if canResume then .idle else .failed
            betRecovery
            balanceReconciliation
            canResume
            errors }
        tables := swept.1 }

/-- What the collaborators of the manager answer in a recovery. -/
def recoveryAnswers (services : RecoveryServices) (tables : BetTables) (events : RecoveryEvents)
    : RecoveryAnswers :=
  let unknownCount := (tables.countByState .unknown events.countFails).toOption
  let swept := sweepUnknown services tables events (unknownCount.getD 0)
  let reconciled := reconcile services.tolerance swept.1 events.balance
  { unknownCount
    stillUnknown := (swept.2.bind Except.toOption).map (·.stillUnknown)
    reconciled := reconciled.toOption.map (·.reconciled) }

theorem length_stepErrors {α : Type} (label : String) (step : Option (Except String α))
    : (stepErrors label step).length
      = if step.isSome ∧ step.bind Except.toOption = none then 1 else 0 := by
  rcases step with - | message | answer <;> rfl

/-- The manager ends in the phase of its result, halted unless betting can resume. -/
theorem manager_runRecovery (manager : RecoveryManager) (services : RecoveryServices)
    (tables : BetTables) (events : RecoveryEvents)
    : let result := (runRecovery manager.config services tables events).result
      manager.runRecovery (recoveryAnswers services tables events)
        = { manager with phase := result.phase, halted := !result.canResume } := by
  cases counts : events.countFails with
  | true =>
      simp [runRecovery, recoveryAnswers, BetTables.countByState, counts,
        RecoveryManager.runRecovery, Except.toOption]
  | false =>
      have read : ∀ count : Nat, (Except.ok count : Except String Nat).toOption = some count :=
        fun _ => rfl
      simp only [runRecovery, recoveryAnswers, BetTables.countByState, counts, read,
        RecoveryManager.runRecovery, Bool.false_eq_true, if_false, Option.getD_some,
        sweepUnknown, List.length_append, length_stepErrors]
      have ended : ∀ resumes : Bool,
          (if resumes = true then { manager with phase := .idle, halted := false }
            else { manager with phase := .failed, halted := true } : RecoveryManager)
          = { manager with
              phase := if resumes then .idle else .failed
              halted := !resumes } := by
        intro resumes
        cases resumes <;> rfl
      by_cases some : 0 < tables.rows.countP fun row => row.state = .unknown
      · simp only [some, if_true]
        rw [ended]
        simp
      · simp only [some, if_false]
        rw [ended]
        simp

end CrashWave.Core
