import CrashWave.Betting.RiskEngine
import CrashWave.Runs.Basic

/-! The financial circuit breaker of one process, and what the risk engine makes of its snapshot.
Times are milliseconds; nothing half opens the breaker but its own `isOpen`.
-/

namespace CrashWave.Core

open CrashWave.Betting JavaScript Runs

/-- The states `CLOSED`, `OPEN` and `HALF_OPEN`. -/
inductive FinancialCircuitState where
  | closed
  | opened
  | halfOpen
  deriving DecidableEq

structure FinancialCircuitOptions where
  threshold : Option Number := none
  coolDownMs : Option Number := none

/-- The breaker without a Redis, as the one that the risk engine reads is created. -/
structure FinancialCircuitBreaker where
  failures : Nat := 0
  state : FinancialCircuitState := .closed
  openedAt : ℤ := 0
  threshold : Number
  coolDownMs : Number
  deriving DecidableEq

namespace FinancialCircuitBreaker

/-- The constructor. -/
def new (options : FinancialCircuitOptions) : FinancialCircuitBreaker where
  threshold := options.threshold.getD 5
  coolDownMs := options.coolDownMs.getD 60000

/-- The time since the breaker opened reaches the cooldown. -/
def cooledDown (breaker : FinancialCircuitBreaker) (now : ℤ) : Bool :=
  breaker.coolDownMs ≤ .finite (now - breaker.openedAt : ℤ)

/-- `isOpen`, which half opens a breaker that has cooled down. -/
def isOpen (breaker : FinancialCircuitBreaker) (now : ℤ) : FinancialCircuitBreaker × Bool :=
  match breaker.state with
  | .opened =>
      if breaker.cooledDown now then ({ breaker with state := .halfOpen }, false)
      else (breaker, true)
  | .closed | .halfOpen => (breaker, false)

def recordSuccess (breaker : FinancialCircuitBreaker) : FinancialCircuitBreaker :=
  { breaker with failures := 0, state := .closed }

def recordFailure (breaker : FinancialCircuitBreaker) (now : ℤ) : FinancialCircuitBreaker :=
  let counted := { breaker with failures := breaker.failures + 1 }
  if breaker.threshold ≤ .finite counted.failures then
    { counted with state := .opened, openedAt := now }
  else counted

end FinancialCircuitBreaker

/-- What is recorded on the breaker. -/
inductive FinancialRecord where
  | success
  | failure (now : ℤ)

def FinancialCircuitBreaker.next (breaker : FinancialCircuitBreaker)
    : FinancialRecord → FinancialCircuitBreaker
  | .success => breaker.recordSuccess
  | .failure now => breaker.recordFailure now

/-- `RiskEngine.evaluate` next to the breaker, of which it reads a snapshot. -/
def FinancialCircuitBreaker.evaluate (breaker : FinancialCircuitBreaker) (now : Number)
    (input : RiskEvaluationInput) : RiskEvaluationResult :=
  evaluateRisk (breaker.state = .opened) now input

-----------------------------------------------------------------------------------------
-- What a history leaves of the breaker
-----------------------------------------------------------------------------------------

/-- The times of the failures in a row, the latest one first. -/
def failuresInRow (times : List ℤ) : FinancialRecord → List ℤ
  | .success => []
  | .failure now => now :: times

/-- The failures in a row reach the threshold, the last one at the given time. -/
def TrippedAt (options : FinancialCircuitOptions) (times : List ℤ) (last : ℤ) : Prop :=
  times.head? = some last ∧ options.threshold.getD 5 ≤ Number.finite times.length

/-- The breaker counts the failures in a row, and is open since the last of those that trip it. -/
structure CountsFailures (options : FinancialCircuitOptions) (breaker : FinancialCircuitBreaker)
    (times : List ℤ) : Prop where
  threshold : breaker.threshold = options.threshold.getD 5
  coolDownMs : breaker.coolDownMs = options.coolDownMs.getD 60000
  failures : breaker.failures = times.length
  opened : breaker.state = .opened ↔ ∃ last, TrippedAt options times last
  since : breaker.state = .opened → times.head? = some breaker.openedAt

namespace CountsFailures

variable {options : FinancialCircuitOptions} {breaker : FinancialCircuitBreaker} {times : List ℤ}

theorem new (options : FinancialCircuitOptions) : CountsFailures options (.new options) [] := by
  refine ⟨rfl, rfl, rfl, ?_, ?_⟩
  · simp [FinancialCircuitBreaker.new, TrippedAt]
  · intro opened
    cases opened

theorem recordSuccess (counts : CountsFailures options breaker times)
    : CountsFailures options breaker.recordSuccess [] := by
  refine ⟨counts.threshold, counts.coolDownMs, rfl, ?_, ?_⟩
  · simp [FinancialCircuitBreaker.recordSuccess, TrippedAt]
  · intro opened
    cases opened

/-- A failure below the threshold finds no breaker that is open: fewer failures are below it
too.
-/
theorem recordFailure (counts : CountsFailures options breaker times) (now : ℤ)
    : CountsFailures options (breaker.recordFailure now) (now :: times) := by
  have length : breaker.failures + 1 = (now :: times).length := by
    rw [counts.failures, List.length_cons]
  unfold FinancialCircuitBreaker.recordFailure
  rw [counts.threshold]
  dsimp only
  rw [length]
  split
  · next reached =>
      refine ⟨rfl, counts.coolDownMs, rfl, ?_, fun _ => rfl⟩
      exact iff_of_true rfl ⟨now, rfl, reached⟩
  · next below =>
      have shut : breaker.state ≠ .opened := by
        intro opened
        obtain ⟨last, _, reached⟩ := counts.opened.mp opened
        refine below ?_
        have grown := Number.le_add_one reached
        have sum : Number.finite times.length + 1 = .finite ((now :: times).length : ℕ) := by
          rw [List.length_cons, Nat.cast_succ]
          rfl
        rwa [sum] at grown
      refine ⟨rfl, counts.coolDownMs, rfl, ?_, fun opened => absurd opened shut⟩
      exact iff_of_false shut fun tripped => below tripped.choose_spec.2

theorem next (counts : CountsFailures options breaker times) (record : FinancialRecord)
    : CountsFailures options (breaker.next record) (failuresInRow times record) := by
  cases record with
  | success => exact counts.recordSuccess
  | failure now => exact counts.recordFailure now

/-- So it does after every history, by induction on it. -/
theorem run (counts : CountsFailures options breaker times) (history : List FinancialRecord)
    : CountsFailures options (Runs.run FinancialCircuitBreaker.next breaker history)
        (Runs.run failuresInRow times history) := by
  induction history generalizing breaker times with
  | nil => exact counts
  | cons record rest ih => exact ih (counts.next record)

end CountsFailures

-----------------------------------------------------------------------------------------
-- The snapshot against `isOpen`
-----------------------------------------------------------------------------------------

/-- No condition fails with the reason of the circuit. -/
theorem riskChecks_not_circuit (conditions : RiskConditionResults)
    : ∀ check ∈ riskChecks conditions, check.2 ≠ "financial_circuit_open" := by
  simp [riskChecks]

/-- The engine rejects for the circuit exactly while the snapshot is open. -/
theorem firstFailure_circuit_iff {circuitOpen : Bool} {now : Number}
    {input : RiskEvaluationInput}
    : (evaluateRisk circuitOpen now input).firstFailure = some "financial_circuit_open"
      ↔ circuitOpen = true := by
  unfold evaluateRisk
  cases circuitOpen with
  | true => simp
  | false =>
      simp only [Bool.false_eq_true, if_false, iff_false]
      cases failures : collectFailures (evaluateAllConditions now input) with
      | nil => simp
      | cons first rest =>
          have member : first ∈ collectFailures (evaluateAllConditions now input) := by
            simp [failures]
          obtain ⟨check, listed, rfl⟩ := List.mem_map.mp member
          have other := riskChecks_not_circuit _ check (List.mem_filter.mp listed).1
          simpa using other

/-- The engine honours the breaker at a time: it rejects for the circuit exactly if `isOpen` would
answer so.
-/
def Honours (breaker : FinancialCircuitBreaker) (now : ℤ) (input : RiskEvaluationInput) : Prop :=
  (breaker.evaluate (.finite now) input).firstFailure = some "financial_circuit_open"
  ↔ (breaker.isOpen now).2 = true

/-- It does not exactly while an open breaker has cooled down. -/
theorem honours_iff {breaker : FinancialCircuitBreaker} {now : ℤ} {input : RiskEvaluationInput}
    : Honours breaker now input ↔ ¬ (breaker.state = .opened ∧ breaker.cooledDown now = true) := by
  rw [Honours, FinancialCircuitBreaker.evaluate, firstFailure_circuit_iff,
    FinancialCircuitBreaker.isOpen]
  cases state : breaker.state with
  | opened => cases cooled : breaker.cooledDown now <;> simp
  | closed => simp
  | halfOpen => simp

/-- After every history the engine honours the breaker exactly unless the failures in a row have
tripped it and the cooldown since the last of them is over.
-/
theorem riskEngine_honours_circuit_iff (options : FinancialCircuitOptions)
    (history : List FinancialRecord) (now : ℤ) (input : RiskEvaluationInput)
    : Honours (run FinancialCircuitBreaker.next (.new options) history) now input
      ↔ ¬ ∃ last, TrippedAt options (run failuresInRow [] history) last
          ∧ options.coolDownMs.getD 60000 ≤ Number.finite (now - last : ℤ) := by
  have counts := (CountsFailures.new options).run history
  generalize run FinancialCircuitBreaker.next (.new options) history = breaker at counts ⊢
  generalize run failuresInRow [] history = times at counts ⊢
  rw [honours_iff, not_iff_not, FinancialCircuitBreaker.cooledDown, counts.coolDownMs,
    decide_eq_true_iff]
  constructor
  · intro stuck
    obtain ⟨opened, cooled⟩ := stuck
    obtain ⟨last, tripped⟩ := counts.opened.mp opened
    obtain rfl : breaker.openedAt = last :=
      Option.some_inj.mp ((counts.since opened).symm.trans tripped.1)
    exact ⟨breaker.openedAt, tripped, cooled⟩
  · intro stuck
    obtain ⟨last, tripped, cooled⟩ := stuck
    have opened := counts.opened.mpr ⟨last, tripped⟩
    obtain rfl : breaker.openedAt = last :=
      Option.some_inj.mp ((counts.since opened).symm.trans tripped.1)
    exact ⟨opened, cooled⟩

/-- A live entry against which nothing speaks. -/
def allGreenInput : RiskEvaluationInput where
  mode := .live
  operatorAuthorized := true
  sessionAuthenticated := true
  gameLoaded := true
  roundState := some (.starting "r1" .high)
  currentBalance := some 10000
  dailyEntriesConfirmed := 0
  paused := false
  killSwitch := false
  browserHealthy := true
  gameAdapterHealthy := true
  openBetExists := false
  cooldownElapsed := true
  requiredStake := 700
  balanceBuffer := 0
  maxDailyEntries := 100
  consecutiveErrors := 0
  maxConsecutiveErrors := 3
  cashOutFailures := 0
  maxCashOutFailures := 2

/-- Five failures trip the breaker, and a minute later only the engine still finds it open. -/
theorem cooled_circuit_rejects
    : ¬ Honours
      (run FinancialCircuitBreaker.next (.new {}) (List.replicate 5 (.failure 0))) 60000
      allGreenInput := by
  rw [honours_iff]
  decide +kernel

end CrashWave.Core
