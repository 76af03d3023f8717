import CrashWave.JavaScript.Number
import CrashWave.Runs.Basic

/-! The circuit breaker of retries, under calls that overlap: an operation that was admitted in
one state is settled in whatever state the breaker has reached since. Times are milliseconds.
-/

namespace CrashWave.Utils

open JavaScript Runs

/-- The states `CLOSED`, `OPEN` and `HALF_OPEN`. -/
inductive CircuitState where
  | closed
  | opened
  | halfOpen
  deriving DecidableEq

structure CircuitBreakerOptions where
  failureThreshold : Option Number := none
  resetTimeoutMs : Option Number := none
  halfOpenMaxCalls : Option Number := none

structure CircuitBreaker where
  state : CircuitState
  failures : Nat
  lastFailureTime : Option ℤ
  halfOpenCalls : Nat
  failureThreshold : Number
  resetTimeoutMs : Number
  halfOpenMaxCalls : Number
  deriving DecidableEq

namespace CircuitBreaker

/-- The constructor. -/
def new (options : CircuitBreakerOptions) : CircuitBreaker where
  state := .closed
  failures := 0
  lastFailureTime := none
  halfOpenCalls := 0
  failureThreshold := options.failureThreshold.getD 5
  resetTimeoutMs := options.resetTimeoutMs.getD 30000
  halfOpenMaxCalls := options.halfOpenMaxCalls.getD 3

/-- The reset timeout is over. A failure at time 0 counts as none. -/
def resets (breaker : CircuitBreaker) (now : ℤ) : Bool :=
  match breaker.lastFailureTime with
  | none => false
  | some time => time ≠ 0 && breaker.resetTimeoutMs ≤ .finite (now - time : ℤ)

/-- Whether a call is admitted. The first one after the reset timeout half opens the breaker. -/
def canExecute (breaker : CircuitBreaker) (now : ℤ) : CircuitBreaker × Bool :=
  match breaker.state with
  | .closed => (breaker, true)
  | .opened =>
      if breaker.resets now then
        ({ breaker with state := .halfOpen, halfOpenCalls := 0 }, true)
      else (breaker, false)
  | .halfOpen => (breaker, .finite breaker.halfOpenCalls < breaker.halfOpenMaxCalls)

def recordSuccess (breaker : CircuitBreaker) : CircuitBreaker :=
  match breaker.state with
  | .halfOpen =>
      let counted := { breaker with halfOpenCalls := breaker.halfOpenCalls + 1 }
      if breaker.halfOpenMaxCalls ≤ .finite counted.halfOpenCalls then
        { counted with state := .closed, failures := 0, lastFailureTime := none }
      else counted
  | .closed | .opened => { breaker with failures := 0, lastFailureTime := none }

def recordFailure (breaker : CircuitBreaker) (now : ℤ) : CircuitBreaker :=
  match breaker.state with
  | .halfOpen => { breaker with state := .opened, lastFailureTime := some now }
  | .closed | .opened =>
      let counted :=
        { breaker with failures := breaker.failures + 1, lastFailureTime := some now }
      if breaker.failureThreshold ≤ .finite counted.failures then
        { counted with state := .opened }
      else counted

end CircuitBreaker

-----------------------------------------------------------------------------------------
-- Calls that overlap
-----------------------------------------------------------------------------------------

/-- A breaker with the number of operations that it waits for, and the number of those admitted
since it was last half opened.
-/
structure Traffic where
  breaker : CircuitBreaker
  inFlight : Nat
  admitted : Nat
  deriving DecidableEq

/-- `withCircuitBreaker` up to the operation, and from its end on. -/
inductive TrafficEvent where
  | call (now : ℤ)
  | succeed
  | fail (now : ℤ)

namespace Traffic

def new (options : CircuitBreakerOptions) : Traffic := ⟨.new options, 0, 0⟩

/-- An admitted operation counts for the half-open period that it opens or finds. -/
def call (traffic : Traffic) (now : ℤ) : Traffic :=
  match traffic.breaker.canExecute now with
  | (_, false) => traffic
  | (breaker, true) =>
      { breaker
        inFlight := traffic.inFlight + 1
        admitted :=
          match traffic.breaker.state with
          | .closed => traffic.admitted
          | .opened => 1
          | .halfOpen => traffic.admitted + 1 }

/-- One of the operations ends, if there is one. -/
def settle (traffic : Traffic) (record : CircuitBreaker → CircuitBreaker) : Traffic :=
  match traffic.inFlight with
  | 0 => traffic
  | others + 1 => { traffic with breaker := record traffic.breaker, inFlight := others }

def next (traffic : Traffic) : TrafficEvent → Traffic
  | .call now => traffic.call now
  | .succeed => traffic.settle .recordSuccess
  | .fail now => traffic.settle (·.recordFailure now)

end Traffic

variable {traffic : Traffic} {breaker : CircuitBreaker}

/-- An open breaker keeps the time of its last failure, so that it admits a call again after the
reset timeout, and a half-open period admits no more operations than it may.
-/
structure Guards (traffic : Traffic) : Prop where
  recovers : traffic.breaker.state = .opened →
    ∃ time ∈ traffic.breaker.lastFailureTime, time ≠ 0
      ∧ ∀ now : ℤ, traffic.breaker.resetTimeoutMs ≤ .finite (now - time : ℤ) →
        (traffic.breaker.canExecute now).2 = true
  bounded : traffic.breaker.state = .halfOpen →
    .finite traffic.admitted ≤ traffic.breaker.halfOpenMaxCalls

/-- Whether a failure leaves the breaker open. -/
def CircuitBreaker.opens (breaker : CircuitBreaker) : Prop :=
  breaker.state ≠ .closed ∨ breaker.failureThreshold ≤ .finite (breaker.failures + 1 : Nat)

/-- No operation succeeds while the breaker is open, no failure is recorded at time 0, and no call
finds a half-open period that has admitted its number of operations.
-/
def Orderly (traffic : Traffic) : TrafficEvent → Prop
  | .call now =>
      match traffic.breaker.state with
      | .closed => True
      | .opened => traffic.breaker.resets now → 1 ≤ traffic.breaker.halfOpenMaxCalls
      | .halfOpen =>
          .finite traffic.breaker.halfOpenCalls < traffic.breaker.halfOpenMaxCalls →
            .finite (traffic.admitted + 1 : Nat) ≤ traffic.breaker.halfOpenMaxCalls
  | .succeed => 0 < traffic.inFlight → traffic.breaker.state ≠ .opened
  | .fail now => 0 < traffic.inFlight → traffic.breaker.opens → now ≠ 0

/-- With the time of its last failure an open breaker admits a call after the reset timeout. -/
theorem guards_iff
    : Guards traffic
      ↔ (traffic.breaker.state = .opened →
          ∃ time ∈ traffic.breaker.lastFailureTime, time ≠ 0)
        ∧ (traffic.breaker.state = .halfOpen →
          .finite traffic.admitted ≤ traffic.breaker.halfOpenMaxCalls) := by
  constructor
  · intro guards
    refine ⟨fun opened => ?_, guards.bounded⟩
    obtain ⟨time, set, nonzero, _⟩ := guards.recovers opened
    exact ⟨time, set, nonzero⟩
  · intro guards
    obtain ⟨recovers, bounded⟩ := guards
    refine ⟨fun opened => ?_, bounded⟩
    obtain ⟨time, set, nonzero⟩ := recovers opened
    refine ⟨time, set, nonzero, fun now elapsed => ?_⟩
    have resets : traffic.breaker.resets now = true := by
      rw [CircuitBreaker.resets, Option.mem_def.mp set]
      exact Bool.and_eq_true_iff.mpr ⟨decide_eq_true nonzero, decide_eq_true elapsed⟩
    simp [CircuitBreaker.canExecute, opened, resets]

instance : Decidable (Guards traffic) := decidable_of_iff' _ guards_iff

-----------------------------------------------------------------------------------------
-- What a call and the end of an operation do
-----------------------------------------------------------------------------------------

/-- A success neither opens the breaker nor half opens it, and takes the time of the last failure
away unless the breaker is half open.
-/
structure Succeeded (before after : CircuitBreaker) : Prop where
  opened : after.state = .opened ↔ before.state = .opened
  halfOpen : after.state = .halfOpen → before.state = .halfOpen
  cleared : before.state = .opened → after.lastFailureTime = none
  halfOpenMaxCalls : after.halfOpenMaxCalls = before.halfOpenMaxCalls

theorem recordSuccess_succeeded (breaker : CircuitBreaker)
    : Succeeded breaker breaker.recordSuccess := by
  unfold CircuitBreaker.recordSuccess
  split
  · next state =>
      dsimp only
      split
      · constructor <;> simp [state]
      · constructor <;> simp [state]
  · next state => constructor <;> simp [state]
  · next state => constructor <;> simp [state]

/-- A failure that leaves the breaker open leaves it the time, and none leaves it half open. -/
structure Failed (now : ℤ) (before after : CircuitBreaker) : Prop where
  opened : after.state = .opened ↔ before.opens
  halfOpen : after.state ≠ .halfOpen
  set : after.lastFailureTime = some now

theorem recordFailure_failed (breaker : CircuitBreaker) (now : ℤ)
    : Failed now breaker (breaker.recordFailure now) := by
  unfold CircuitBreaker.recordFailure
  split
  · next state => constructor <;> simp [CircuitBreaker.opens, state]
  · next state =>
      dsimp only
      split
      · next reached => exact ⟨iff_of_true rfl (.inr reached), by simp, rfl⟩
      · next below =>
          have shut : ¬ breaker.opens := not_or.mpr ⟨not_not.mpr state, below⟩
          exact ⟨iff_of_false (by simp [state]) shut, by simp [state], rfl⟩
  · next state =>
      dsimp only
      split <;> constructor <;> simp [CircuitBreaker.opens, state]

theorem call_guards_iff (guards : Guards traffic) (now : ℤ)
    : Guards (traffic.call now) ↔ Orderly traffic (.call now) := by
  rw [Traffic.call, CircuitBreaker.canExecute, Orderly]
  cases state : traffic.breaker.state with
  | closed => exact iff_of_true ⟨by simp [state], by simp [state]⟩ trivial
  | opened =>
      dsimp only
      by_cases resets : traffic.breaker.resets now = true
      · rw [if_pos resets]
        constructor
        · exact fun after _ => after.bounded rfl
        · exact fun orderly => ⟨fun opened => (by cases opened), fun _ => orderly resets⟩
      · rw [if_neg resets]
        exact iff_of_true guards fun again => absurd again resets
  | halfOpen =>
      dsimp only
      by_cases free :
        Number.finite traffic.breaker.halfOpenCalls < traffic.breaker.halfOpenMaxCalls
      · rw [decide_eq_true free]
        constructor
        · exact fun after _ => after.bounded state
        · exact fun orderly =>
            ⟨fun opened => (by cases state.symm.trans opened), fun _ => orderly free⟩
      · rw [decide_eq_false free]
        exact iff_of_true guards fun again => absurd again free

theorem succeed_guards_iff (guards : Guards traffic)
    : Guards (traffic.settle .recordSuccess) ↔ Orderly traffic .succeed := by
  rw [Traffic.settle, Orderly]
  cases flight : traffic.inFlight with
  | zero => exact iff_of_true guards fun none => absurd none (lt_irrefl 0)
  | succ others =>
      have succeeded := recordSuccess_succeeded traffic.breaker
      rw [guards_iff, succeeded.opened, succeeded.halfOpenMaxCalls]
      constructor
      · intro after _ opened
        obtain ⟨time, set, _⟩ := after.1 opened
        rw [succeeded.cleared opened] at set
        cases set
      · intro orderly
        exact ⟨fun opened => absurd opened (orderly others.succ_pos),
          fun halfOpen => guards.bounded (succeeded.halfOpen halfOpen)⟩

theorem fail_guards_iff (guards : Guards traffic) (now : ℤ)
    : Guards (traffic.settle (·.recordFailure now)) ↔ Orderly traffic (.fail now) := by
  rw [Traffic.settle, Orderly]
  cases flight : traffic.inFlight with
  | zero => exact iff_of_true guards fun none => absurd none (lt_irrefl 0)
  | succ others =>
      have failed := recordFailure_failed traffic.breaker now
      rw [guards_iff, failed.opened, failed.set]
      constructor
      · intro after _ opens
        obtain ⟨time, set, nonzero⟩ := after.1 opens
        obtain rfl : now = time := Option.some_inj.mp set
        exact nonzero
      · intro orderly
        exact ⟨fun opens => ⟨now, rfl, orderly others.succ_pos opens⟩,
          fun halfOpen => absurd halfOpen failed.halfOpen⟩

/-- A run keeps recovering and bounded exactly when it is orderly, event by event. -/
theorem circuit_breaker_guards_iff (options : CircuitBreakerOptions) (events : List TrafficEvent)
    : Always Traffic.next (fun traffic event => Guards (traffic.next event)) (.new options) events
      ↔ Always Traffic.next Orderly (.new options) events := by
  have kept (traffic : Traffic) (event : TrafficEvent) (guards : Guards traffic)
      : Guards (traffic.next event) ↔ Orderly traffic event := by
    cases event with
    | call now => exact call_guards_iff guards now
    | succeed => exact succeed_guards_iff guards
    | fail now => exact fail_guards_iff guards now
  have initial : Guards (.new options) := by
    constructor <;> intro state <;> cases state
  exact always_invariant_iff kept events initial

/-- Of six calls that overlap, five fail and open the breaker, and the last one succeeds. -/
theorem late_success_sticks
    : ¬ Always Traffic.next (fun traffic event => Guards (traffic.next event)) (.new {})
      (List.replicate 6 (.call 1) ++ List.replicate 5 (.fail 2) ++ [.succeed]) := by
  decide

end CrashWave.Utils
