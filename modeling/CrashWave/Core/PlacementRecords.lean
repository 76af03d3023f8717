import CrashWave.Betting.LiveDiscipline
import CrashWave.Core.EmergencyStop

/-! The record of a live placement against the answer of `placeLiveBet`. The executor creates
a pending bet and never touches it again, so that a bet it has placed still waits for an
emergency stop to cancel it.
-/

namespace CrashWave.Core

open CrashWave.Persistence CrashWave.Betting JavaScript Runs

/-- The bet that a placement created, where it is visible, has the state that was returned. -/
def RecordAgrees (outcome : LiveOutcome) : Prop :=
  ∀ id row, outcome.created = some id → outcome.state.tables.bets.get id = some row
    → row.state = outcome.result.state

/-- The creation of a bet leaves its row: it returns the record, and no event insert rolls
it back.
-/
structure LeavesRow (tables : BetTables) (id : String) (faults : BetFaults) : Prop where
  creates : Creates tables id faults
  financialEvent : faults.financialEvent = false
  outboxEvent : faults.outboxEvent = false

variable {config : LiveExecutorConfig} {state : LiveExecutorState} {call : LivePlacementCall}

/-- An attempted call leaves the tables and the bet of its creation, whatever the page does. -/
theorem attempted_record (call : LivePlacementCall) (config : LiveExecutorConfig)
    (state : LiveExecutorState)
    : let creation :=
        state.tables.create call.createInput call.createdId call.createdAt call.createFaults
      (call.attempted config state).state.tables = creation.1
      ∧ (call.attempted config state).created = creation.2.toOption.map (·.id) := by
  unfold LivePlacementCall.attempted
  dsimp only
  cases (liveAttempts call.script config.attempts 0 "placement_failed").2 with
  | confirmed retryCount => exact ⟨rfl, rfl⟩
  | failed lastError retryCount => exact ⟨rfl, rfl⟩

/-- An attempted call that leaves a row leaves it pending. -/
theorem placeLiveBet_pending (attempts : ¬ call.TurnedAway config state.store)
    (leaves : LeavesRow state.tables call.createdId call.createFaults)
    : (placeLiveBet config state call).created = some call.createdId
      ∧ (placeLiveBet config state call).state.tables.bets.get call.createdId
        = some (call.createInput.row call.createdId call.createdAt) := by
  obtain ⟨store, attempted⟩ := placeLiveBet_attempted attempts
  obtain ⟨tables, created⟩ := attempted_record call config { state with store }
  obtain ⟨answered, shown⟩ :=
    create_of_creates call.createInput call.createdAt leaves.creates
  rw [attempted, created, tables]
  refine ⟨by rw [answered]; rfl, ?_⟩
  rw [shown, if_neg (by simp [leaves.financialEvent, leaves.outboxEvent]), Map.get_set_self]

/-- A call that leaves no row has no visible bet. -/
theorem placeLiveBet_unrecorded {id : String}
    (none : call.TurnedAway config state.store
      ∨ ¬ LeavesRow state.tables call.createdId call.createFaults)
    (created : (placeLiveBet config state call).created = some id)
    : (placeLiveBet config state call).state.tables.bets.get id = Option.none := by
  by_cases turnedAway : call.TurnedAway config state.store
  · obtain ⟨error, refused⟩ := placeLiveBet_turnedAway turnedAway
    rw [refused] at created
    cases created
  · have hidden := none.resolve_left turnedAway
    obtain ⟨store, attempted⟩ := placeLiveBet_attempted turnedAway
    obtain ⟨tables, bet⟩ := attempted_record call config { state with store }
    rw [attempted, bet] at created
    rw [attempted, tables]
    by_cases creates : Creates state.tables call.createdId call.createFaults
    · -- the record was returned, so an event insert has rolled its row back
      obtain ⟨answered, shown⟩ := create_of_creates call.createInput call.createdAt creates
      rw [answered] at created
      obtain rfl : call.createdId = id := Option.some.inj created
      have lost : call.createFaults.financialEvent = true
          ∨ call.createFaults.outboxEvent = true := by
        by_contra kept
        simp only [not_or, Bool.not_eq_true] at kept
        exact hidden ⟨creates, kept.1, kept.2⟩
      rw [shown, if_pos lost]
      exact creates.fresh
    · rw [create_of_not_creates call.createInput call.createdAt creates] at created
      cases created

/-- No placement is answered as pending. -/
theorem placeLiveBet_not_pending (config : LiveExecutorConfig) (state : LiveExecutorState)
    (call : LivePlacementCall) : (placeLiveBet config state call).result.state ≠ .pending := by
  by_cases turnedAway : call.TurnedAway config state.store
  · obtain ⟨error, refused⟩ := placeLiveBet_turnedAway turnedAway
    simp [refused, LivePlacementRequest.fail]
  · obtain ⟨store, attempted⟩ := placeLiveBet_attempted turnedAway
    rw [attempted, (attempted_effects call config { state with store }).2]
    rcases LiveAttemptsEnd.state_cases
      (liveAttempts call.script config.attempts 0 "placement_failed").2 with reported | reported
    all_goals
      rw [reported]
      decide

/-- The record of a placement agrees with its answer exactly when it leaves none: the call is
turned away, or the creation of its bet fails or is rolled back.
-/
theorem placeLiveBet_agrees_iff (config : LiveExecutorConfig) (state : LiveExecutorState)
    (call : LivePlacementCall)
    : RecordAgrees (placeLiveBet config state call)
      ↔ call.TurnedAway config state.store
        ∨ ¬ LeavesRow state.tables call.createdId call.createFaults := by
  constructor
  · intro agrees
    by_contra recorded
    simp only [not_or, not_not] at recorded
    obtain ⟨created, pending⟩ := placeLiveBet_pending recorded.1 recorded.2
    exact placeLiveBet_not_pending config state call (agrees _ _ created pending).symm
  · intro unrecorded id row created found
    rw [placeLiveBet_unrecorded unrecorded created] at found
    cases found

/-- A bet that is answered as confirmed stays pending, and an emergency stop fails it. -/
theorem confirmed_placement_left_pending
    : let outcome := placeLiveBet (liveConfig 2) idleExecutor (livePlacement fun _ => {})
      let stopped :=
        run (stopStep {}) { tables := outcome.state.tables }
          (triggerSteps 1 ++ [.finish true none])
      (outcome.result.state = .confirmed ∧ outcome.result.betId = "bet-1"
        ∧ (outcome.state.tables.bets.get "bet-1").map (·.state) = some .pending
        ∧ ¬ RecordAgrees outcome)
      ∧ (stopped.tables.bets.get "bet-1").map (·.state) = some .failed := by
  intro outcome stopped
  have confirmed : outcome.result.state = .confirmed := by decide +kernel
  refine ⟨⟨confirmed, by decide +kernel, by decide +kernel, ?_⟩, by decide +kernel⟩
  intro agrees
  have state := agrees "bet-1" _ (by decide +kernel) rfl
  rw [confirmed] at state
  exact absurd state (by decide +kernel)

end CrashWave.Core
