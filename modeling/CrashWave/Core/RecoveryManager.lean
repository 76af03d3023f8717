import Mathlib.Tactic.TypeStar

/-! The recovery manager: the sweep at startup and the halt it leaves behind. -/

namespace CrashWave.Core

/-- The phase of recovery. -/
inductive RecoveryPhase where
  | idle
  | checking
  | reconcilingBets
  | reconcilingBalance
  | resuming
  | failed
  deriving DecidableEq

/-- The configuration of recovery, with the fields that it reads. -/
structure RecoveryManagerConfig where
  requireZeroUnknownBeforeResume : Bool := true
  requireBalanceReconciliationBeforeResume : Bool := true

/-- The recovery manager. -/
structure RecoveryManager where
  config : RecoveryManagerConfig := {}
  phase : RecoveryPhase := .idle
  halted : Bool := false

/-- `isHalted`. -/
def RecoveryManager.isHalted (manager : RecoveryManager) : Bool :=
  manager.halted || manager.phase ≠ .idle

/-- What the collaborators answer during one recovery; `none` is a promise that rejects. -/
structure RecoveryAnswers where
  /-- `betRepo.countByState('UNKNOWN')`. -/
  unknownCount : Option Nat
  /-- `stillUnknown` of the sweep. -/
  stillUnknown : Option Nat
  /-- `reconciled` of the balance reconciliation. -/
  reconciled : Option Bool

/-- `evaluateResumption`: no error, no bet still unknown, and a reconciled balance. -/
def evaluateResumption (config : RecoveryManagerConfig) (stillUnknown : Option Nat)
    (reconciled : Option Bool) (errors : Nat) : Bool :=
  if 0 < errors then false
  else if config.requireZeroUnknownBeforeResume ∧ 0 < stillUnknown.getD 0 then false
  else if config.requireBalanceReconciliationBeforeResume ∧ reconciled = some false then
    false
  else true

/-- `runRecovery`: the manager stays halted unless betting can resume. -/
def RecoveryManager.runRecovery (manager : RecoveryManager) (answers : RecoveryAnswers)
    : RecoveryManager :=
  let remainsHalted := { manager with phase := .failed, halted := true }
  match answers.unknownCount with
  | none => remainsHalted
  | some unknownCount =>
      let swept := if 0 < unknownCount then answers.stillUnknown else none
      let sweepErrors := if 0 < unknownCount ∧ answers.stillUnknown = none then 1 else 0
      let errors := sweepErrors + if answers.reconciled = none then 1 else 0
      if evaluateResumption manager.config swept answers.reconciled errors then
        { manager with phase := .idle, halted := false }
      else remainsHalted

end CrashWave.Core
