import CrashWave.JavaScript.Text

/-! The gate in front of real-money execution: which modes and which environment open it. -/

namespace CrashWave.Betting

open JavaScript

/-- The environment variables that the gate reads. -/
structure ExecutionEnv where
  appSystemMode : Option String := none
  executionMode : Option String := none
  dryRun : Option String := none
  allowRealExecution : Option String := none
  deriving DecidableEq

/-- The mode that the environment names. -/
def ExecutionEnv.mode (env : ExecutionEnv) : String :=
  (env.appSystemMode.or env.executionMode).getD ""

/-- `ALLOW_REAL_EXECUTION` is switched on. -/
def ExecutionEnv.allowReal (env : ExecutionEnv) : Bool :=
  env.allowRealExecution = some "true" || env.allowRealExecution = some "1"

/-- `isDryRunMode`. -/
def isDryRunMode (env : ExecutionEnv) (requestDryRun : Bool) : Bool :=
  toLowerCase env.mode = "dry-run" || env.dryRun = some "true" || env.dryRun = some "1"
  || requestDryRun

/-- The mode that is given, or else the one of the environment. -/
def effectiveMode (env : ExecutionEnv) (mode : Option String) : String :=
  toLowerCase (mode.getD env.mode)

/-- `isRealExecutionAllowed`. -/
def isRealExecutionAllowed (env : ExecutionEnv) (requestDryRun : Bool)
    (mode : Option String) : Bool :=
  if isDryRunMode env requestDryRun then false
  else if effectiveMode env mode ≠ "live" then false
  else env.allowReal

/-- `realExecutionBlockReason`: nothing when real execution is allowed. -/
def realExecutionBlockReason (env : ExecutionEnv) (requestDryRun : Bool)
    (mode : Option String) : Option String :=
  if isDryRunMode env requestDryRun then some "DRY_RUN: real execution disabled"
  else if effectiveMode env mode ≠ "live" ∨ env.allowReal = false then
    some "Real execution blocked (require live mode and ALLOW_REAL_EXECUTION=true)"
  else none

/-- The two forms of the gate agree. -/
theorem realExecutionBlockReason_eq_none {env : ExecutionEnv} {requestDryRun : Bool}
    {mode : Option String}
    : realExecutionBlockReason env requestDryRun mode = none
      ↔ isRealExecutionAllowed env requestDryRun mode = true := by
  unfold realExecutionBlockReason isRealExecutionAllowed
  by_cases dryRun : isDryRunMode env requestDryRun = true
  · simp [dryRun]
  · by_cases live : effectiveMode env mode = "live"
    · simp [dryRun, live]
    · simp [dryRun, live]

end CrashWave.Betting
