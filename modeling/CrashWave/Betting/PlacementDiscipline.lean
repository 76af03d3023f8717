import CrashWave.Betting.BetExecutor
import CrashWave.Runs.Attempts
import CrashWave.Runs.Basic

/-! When `placeBet` submits at most once: exactly when the wait after the first accepted
submission is conclusive. The catch block and the unconfirmed branch take the side effect
back otherwise, and the loop submits again or ends as `FAILED`.
-/

namespace CrashWave.Betting

open JavaScript Runs

/-- The call by which the adapter accepts a submission. -/
def accepted : AdapterCall := .submitBet (.resolved true)

/-- The call by which the adapter confirms a bet. -/
def confirmation : AdapterCall := .waitForConfirmation (.resolved true)

/-- Whether an adapter call is a submission. -/
def AdapterCall.isSubmission : AdapterCall → Bool
  | .submitBet _ => true
  | .waitForConfirmation _ => false

/-- The law of one placement: nothing is submitted after an accepted submission, and an
accepted submission without a confirmation ends as unknown.
-/
structure SubmitsOnce (calls : List AdapterCall) (unknown : Prop) : Prop where
  noResubmission
    : calls.Pairwise fun earlier later => earlier = accepted → later.isSubmission = false
  unconfirmedUnknown : accepted ∈ calls → confirmation ∉ calls → unknown

/-- A wait is conclusive when it confirms the bet or fails with an error that does not
read as a timeout.
-/
def WaitOutcome.Conclusive (wait : WaitOutcome) : Prop :=
  wait = .resolved true
  ∨ ∃ message, wait.error = some message ∧ isTimeoutMessage message = false

/-- Among the attempts from `first` on, the wait after the first accepted submission is
conclusive.
-/
def AdapterScript.ConclusiveFrom (adapter : AdapterScript) (first count : Nat) : Prop :=
  ∀ attempt, first ≤ attempt → attempt < first + count
    → adapter.submitBet attempt = .resolved true
    → (∀ earlier, first ≤ earlier → earlier < attempt
        → adapter.submitBet earlier ≠ .resolved true)
    → (adapter.waitForConfirmation attempt).Conclusive

/-- Whether the loop is left with a standing side effect. -/
def AttemptsEnd.unknown : AttemptsEnd → Prop
  | .confirmed _ => False
  | .left state => state.externalSideEffectAttempted = true

-----------------------------------------------------------------------------------------
-- One attempt
-----------------------------------------------------------------------------------------

/-- An attempt that starts without a side effect and whose submission is not accepted
goes on to the next one, still without a side effect.
-/
theorem placementAttempts_retry {adapter : AdapterScript} (remaining : Nat) {attempt : Nat}
    {state : AttemptState} (clear : state.externalSideEffectAttempted = false)
    (notAccepted : adapter.submitBet attempt ≠ .resolved true)
    : ∃ next : AttemptState, next.externalSideEffectAttempted = false
      ∧ placementAttempts adapter (remaining + 1) attempt state
        = (.submitBet (adapter.submitBet attempt)
            :: (placementAttempts adapter remaining (attempt + 1) next).1,
          (placementAttempts adapter remaining (attempt + 1) next).2) := by
  cases submitted : adapter.submitBet attempt with
  | threw message =>
      refine ⟨{ state.enter attempt with
        lastError := some message, externalSideEffectAttempted := false }, rfl, ?_⟩
      simp [placementAttempts, submitted, clear, AttemptState.afterError]
  | resolved value =>
      cases value with
      | true => exact absurd submitted notAccepted
      | false =>
          refine ⟨{ state.enter attempt with
            lastError := some "Bet submission rejected by adapter"
            externalSideEffectAttempted := false }, rfl, ?_⟩
          simp [placementAttempts, submitted, clear]

/-- An accepted submission with a conclusive wait ends the attempts: with a confirmation,
or with the side effect standing.
-/
theorem placementAttempts_conclusive {adapter : AdapterScript} (remaining : Nat) {attempt : Nat}
    {state : AttemptState} (clear : state.externalSideEffectAttempted = false)
    (submitted : adapter.submitBet attempt = .resolved true)
    (conclusive : (adapter.waitForConfirmation attempt).Conclusive)
    : ∃ ended : AttemptsEnd,
      (adapter.waitForConfirmation attempt = .resolved true ∨ ended.unknown)
      ∧ placementAttempts adapter (remaining + 1) attempt state
        = ([accepted, .waitForConfirmation (adapter.waitForConfirmation attempt)],
          ended) := by
  rcases conclusive with confirmed | ⟨message, failed, notTimeout⟩
  · refine ⟨.confirmed (state.enter attempt).retryCount, .inl confirmed, ?_⟩
    simp [placementAttempts, submitted, clear, confirmed, accepted]
  · refine ⟨.left { state.enter attempt with
      lastError := some message, externalSideEffectAttempted := true }, .inr rfl, ?_⟩
    cases wait : adapter.waitForConfirmation attempt with
    | resolved value => simp [wait, WaitOutcome.error] at failed
    | threw thrown =>
        obtain rfl : thrown = message := by simpa [wait, WaitOutcome.error] using failed
        simp [placementAttempts, submitted, clear, wait, accepted, AttemptState.afterError,
          notTimeout]
    | timedOut =>
        obtain rfl : "Bet confirmation timed out" = message := by
          simpa [wait, WaitOutcome.error] using failed
        simp [placementAttempts, submitted, clear, wait, accepted, AttemptState.afterError,
          notTimeout]

/-- After an accepted submission whose wait is not conclusive the side effect is taken
back and the loop goes on.
-/
theorem placementAttempts_inconclusive {adapter : AdapterScript} (remaining : Nat) {attempt : Nat}
    {state : AttemptState} (clear : state.externalSideEffectAttempted = false)
    (submitted : adapter.submitBet attempt = .resolved true)
    (inconclusive : ¬ (adapter.waitForConfirmation attempt).Conclusive)
    : ∃ next : AttemptState, next.externalSideEffectAttempted = false
      ∧ placementAttempts adapter (remaining + 1) attempt state
        = (accepted :: .waitForConfirmation (adapter.waitForConfirmation attempt)
            :: (placementAttempts adapter remaining (attempt + 1) next).1,
          (placementAttempts adapter remaining (attempt + 1) next).2) := by
  simp only [WaitOutcome.Conclusive, not_or, not_exists, not_and, Bool.not_eq_false]
    at inconclusive
  obtain ⟨unconfirmed, timeout⟩ := inconclusive
  cases wait : adapter.waitForConfirmation attempt with
  | resolved value =>
      cases value with
      | true => exact absurd wait unconfirmed
      | false =>
          refine ⟨{ state.enter attempt with
            lastError := some "Bet was submitted but confirmation was not received"
            externalSideEffectAttempted := false }, rfl, ?_⟩
          simp [placementAttempts, submitted, clear, wait, accepted]
  | threw message =>
      have isTimeout := timeout message (by rw [wait]; rfl)
      refine ⟨{ state.enter attempt with
        lastError := some message, externalSideEffectAttempted := false }, rfl, ?_⟩
      simp [placementAttempts, submitted, clear, wait, accepted, AttemptState.afterError,
        isTimeout]
  | timedOut =>
      have isTimeout := timeout "Bet confirmation timed out" (by rw [wait]; rfl)
      refine ⟨{ state.enter attempt with
        lastError := some "Bet confirmation timed out"
        externalSideEffectAttempted := false }, rfl, ?_⟩
      simp [placementAttempts, submitted, clear, wait, accepted, AttemptState.afterError,
        isTimeout]

/-- An attempt that is allowed and starts without a side effect begins with a submission. -/
theorem placementAttempts_submits {adapter : AdapterScript} (remaining : Nat) {attempt : Nat}
    {state : AttemptState} (clear : state.externalSideEffectAttempted = false)
    : .submitBet (adapter.submitBet attempt)
      ∈ (placementAttempts adapter (remaining + 1) attempt state).1 := by
  by_cases submitted : adapter.submitBet attempt = .resolved true
  · by_cases conclusive : (adapter.waitForConfirmation attempt).Conclusive
    · obtain ⟨ended, -, run⟩ := placementAttempts_conclusive remaining clear submitted conclusive
      rw [run, submitted]
      exact List.mem_cons_self
    · obtain ⟨next, -, run⟩ := placementAttempts_inconclusive remaining clear submitted conclusive
      rw [run, submitted]
      exact List.mem_cons_self
  · obtain ⟨next, -, run⟩ := placementAttempts_retry remaining clear submitted
    rw [run]
    exact List.mem_cons_self

-----------------------------------------------------------------------------------------
-- All attempts
-----------------------------------------------------------------------------------------

/-- A first call that is neither accepted nor a confirmation does not matter for the law. -/
theorem submitsOnce_cons {call : AdapterCall} {rest : List AdapterCall} {unknown : Prop}
    (notAccepted : call ≠ accepted) (notConfirmation : call ≠ confirmation)
    : SubmitsOnce (call :: rest) unknown ↔ SubmitsOnce rest unknown := by
  constructor
  · rintro ⟨once, unconfirmed⟩
    refine ⟨once.of_cons, fun submitted silent => unconfirmed ?_ ?_⟩
    · exact List.mem_cons_of_mem _ submitted
    · simp [silent, notConfirmation.symm]
  · rintro ⟨once, unconfirmed⟩
    refine ⟨List.pairwise_cons.mpr ⟨fun _ _ same => absurd same notAccepted, once⟩, ?_⟩
    intro submitted silent
    rw [List.mem_cons] at submitted
    refine unconfirmed (submitted.resolve_left notAccepted.symm) fun confirmed => ?_
    exact silent (List.mem_cons_of_mem _ confirmed)

/-- Without an accepted submission at the first attempt, the conclusive scripts are those
that are conclusive from the next attempt on.
-/
theorem conclusiveFrom_succ {adapter : AdapterScript} {first count : Nat}
    (notAccepted : adapter.submitBet first ≠ .resolved true)
    : adapter.ConclusiveFrom first (count + 1) ↔ adapter.ConclusiveFrom (first + 1) count :=
  firstHit_succ notAccepted

/-- With an accepted submission at the first attempt, only its wait has to be conclusive. -/
theorem conclusiveFrom_accepted {adapter : AdapterScript} {first count : Nat}
    (submitted : adapter.submitBet first = .resolved true)
    : adapter.ConclusiveFrom first (count + 1)
      ↔ (adapter.waitForConfirmation first).Conclusive :=
  firstHit_of_hits submitted

/-- Attempts that start without a side effect meet the law exactly when the script is
conclusive, by induction on the attempts that remain.
-/
theorem placementAttempts_submitsOnce {adapter : AdapterScript} {remaining attempt : Nat}
    {state : AttemptState} (clear : state.externalSideEffectAttempted = false)
    : SubmitsOnce (placementAttempts adapter remaining attempt state).1
        (placementAttempts adapter remaining attempt state).2.unknown
      ↔ adapter.ConclusiveFrom attempt remaining := by
  induction remaining generalizing attempt state with
  | zero =>
      refine iff_of_true ⟨.nil, ?_⟩ ?_
      · intro submitted
        exact absurd submitted List.not_mem_nil
      · intro other after before
        omega
  | succ remaining ih =>
      by_cases submitted : adapter.submitBet attempt = .resolved true
      · rw [conclusiveFrom_accepted submitted]
        by_cases conclusive : (adapter.waitForConfirmation attempt).Conclusive
        · obtain ⟨ended, outcome, run⟩ :=
            placementAttempts_conclusive remaining clear submitted conclusive
          rw [run]
          refine iff_of_true ⟨?_, ?_⟩ conclusive
          · simp [AdapterCall.isSubmission]
          · intro _ silent
            refine outcome.resolve_left fun confirmed => silent ?_
            rw [confirmed]
            exact List.mem_cons_of_mem _ List.mem_cons_self
        · obtain ⟨next, stillClear, run⟩ :=
            placementAttempts_inconclusive remaining clear submitted conclusive
          rw [run]
          refine iff_of_false ?_ conclusive
          rintro ⟨once, unconfirmed⟩
          cases remaining with
          | zero =>
              have unknown := unconfirmed List.mem_cons_self (by
                intro confirmed
                simp only [placementAttempts, List.mem_cons, List.not_mem_nil, or_false]
                  at confirmed
                rcases confirmed with contradiction | confirmed
                · exact absurd contradiction (by decide)
                · exact conclusive (.inl (AdapterCall.waitForConfirmation.inj confirmed).symm))
              simp [placementAttempts, AttemptsEnd.unknown, stillClear] at unknown
          | succ remaining =>
              have again : .submitBet (adapter.submitBet (attempt + 1))
                  ∈ (placementAttempts adapter (remaining + 1) (attempt + 1) next).1 :=
                placementAttempts_submits remaining stillClear
              have forbidden := (List.pairwise_cons.mp once).1 _
                (List.mem_cons_of_mem _ again) rfl
              exact absurd forbidden (by simp [AdapterCall.isSubmission])
      · obtain ⟨next, stillClear, run⟩ :=
          placementAttempts_retry remaining clear submitted
        have notAccepted : AdapterCall.submitBet (adapter.submitBet attempt) ≠ accepted :=
          fun same => submitted (AdapterCall.submitBet.inj same)
        rw [run, submitsOnce_cons notAccepted (by simp [confirmation]), ih stillClear,
          conclusiveFrom_succ submitted]

-----------------------------------------------------------------------------------------
-- One placement
-----------------------------------------------------------------------------------------

/-- The law of a placement: its adapter calls, against whether it returns `UNKNOWN`. -/
def PlacementOutcome.Lawful (outcome : PlacementOutcome) : Prop :=
  SubmitsOnce outcome.calls (outcome.result.state = .unknown)

/-- The store has a record for the round of a call. -/
def PlacementCall.reservedIn (call : PlacementCall) (store : InMemoryIdempotencyStore)
    : Bool :=
  store.has (generateKey call.request.sessionId call.request.roundId)

/-- The call is blocked, simulated, or meets an adapter whose wait after the first accepted
submission is conclusive.
-/
def PlacementCall.Conclusive (call : PlacementCall) (config : BetExecutorConfig)
    (store : InMemoryIdempotencyStore) : Prop :=
  call.reservedIn store = true ∨ call.request.dryRun = true
  ∨ call.adapter.ConclusiveFrom 0 config.attempts

theorem placeBet_reserved {config : BetExecutorConfig} {store : InMemoryIdempotencyStore}
    {call : PlacementCall} (reserved : call.reservedIn store = true)
    : (placeBet config store call).calls = [] := by
  rw [PlacementCall.reservedIn] at reserved
  simp [placeBet, InMemoryIdempotencyStore.reserve, reserved]

theorem placeBet_dryRun {config : BetExecutorConfig} {store : InMemoryIdempotencyStore}
    {call : PlacementCall} (dryRun : call.request.dryRun = true)
    : (placeBet config store call).calls = [] := by
  simp only [placeBet]
  split
  · rfl
  · rfl

/-- A call that is neither blocked nor simulated runs the attempts, and returns `UNKNOWN`
exactly when they leave the side effect standing.
-/
theorem placeBet_attempts (config : BetExecutorConfig) {store : InMemoryIdempotencyStore}
    {call : PlacementCall} (free : call.reservedIn store = false)
    (live : call.request.dryRun = false)
    : (placeBet config store call).calls
        = (placementAttempts call.adapter config.attempts 0 {}).1
      ∧ ((placeBet config store call).result.state = .unknown
        ↔ (placementAttempts call.adapter config.attempts 0 {}).2.unknown) := by
  rw [PlacementCall.reservedIn] at free
  simp only [placeBet, InMemoryIdempotencyStore.reserve, free, live]
  cases ended : (placementAttempts call.adapter config.attempts 0 {}).2 with
  | confirmed retryCount => simp [AttemptsEnd.unknown]
  | left state =>
      cases attempted : state.externalSideEffectAttempted <;>
        simp [AttemptsEnd.unknown, attempted]

/-- A placement is lawful exactly when the call is conclusive. -/
theorem placeBet_lawful_iff (config : BetExecutorConfig) (store : InMemoryIdempotencyStore)
    (call : PlacementCall)
    : (placeBet config store call).Lawful ↔ call.Conclusive config store := by
  have silent : (placeBet config store call).calls = []
      → (placeBet config store call).Lawful := by
    intro none
    rw [PlacementOutcome.Lawful, none]
    exact ⟨.nil, fun submitted => absurd submitted List.not_mem_nil⟩
  by_cases reserved : call.reservedIn store = true
  · exact iff_of_true (silent (placeBet_reserved reserved)) (.inl reserved)
  by_cases dryRun : call.request.dryRun = true
  · exact iff_of_true (silent (placeBet_dryRun dryRun)) (.inr (.inl dryRun))
  simp only [Bool.not_eq_true] at reserved dryRun
  obtain ⟨calls, unknown⟩ := placeBet_attempts config reserved dryRun
  rw [PlacementOutcome.Lawful, calls, unknown, placementAttempts_submitsOnce rfl]
  simp [PlacementCall.Conclusive, reserved, dryRun]

/-- A lawful list of calls holds at most one accepted submission, by list induction. -/
theorem SubmitsOnce.count_le_one {calls : List AdapterCall} {unknown : Prop}
    (law : SubmitsOnce calls unknown)
    : calls.count accepted ≤ 1 := by
  have once := law.noResubmission
  clear law
  induction calls with
  | nil => simp
  | cons call rest ih =>
      obtain ⟨first, others⟩ := List.pairwise_cons.mp once
      by_cases isAccepted : call = accepted
      · have none : accepted ∉ rest := by
          intro again
          exact absurd (first accepted again isAccepted) (by decide)
        simp [isAccepted, List.count_eq_zero_of_not_mem none]
      · simpa [List.count_cons, isAccepted] using ih others

-----------------------------------------------------------------------------------------
-- Sequences of placements
-----------------------------------------------------------------------------------------

/-- The store between calls, and the session and round of every accepted submission. -/
structure ExecutorState where
  store : InMemoryIdempotencyStore
  acceptedRounds : List (String × String)

/-- What happens to an executor: a placement, or a sweep of the cleanup timer. -/
inductive ExecutorActivity where
  | placeBet (call : PlacementCall)
  | cleanup (now : Int)

/-- The session and the round a call is about. -/
def PlacementCall.round (call : PlacementCall) : String × String :=
  (call.request.sessionId, call.request.roundId)

/-- One activity of the executor. -/
def executorStep (config : BetExecutorConfig) (state : ExecutorState)
    : ExecutorActivity → ExecutorState
  | .placeBet call =>
      let outcome := placeBet config state.store call
      { store := outcome.store
        acceptedRounds :=
          state.acceptedRounds ++ List.replicate (outcome.calls.count accepted) call.round }
  | .cleanup now => { state with store := state.store.cleanup now }

/-- A placement of the run is lawful. -/
def PlacesLawfully (config : BetExecutorConfig) (state : ExecutorState)
    : ExecutorActivity → Prop
  | .placeBet call => (placeBet config state.store call).Lawful
  | .cleanup _ => True

/-- A placement is conclusive, and a round with an accepted submission is still on record
when it is called again.
-/
def PlacesConclusively (config : BetExecutorConfig) (state : ExecutorState)
    : ExecutorActivity → Prop
  | .placeBet call =>
      call.Conclusive config state.store
      ∧ (call.round ∈ state.acceptedRounds → call.reservedIn state.store = true)
  | .cleanup _ => True

/-- No round has two accepted submissions. -/
def DistinctRounds (state : ExecutorState) : Prop := state.acceptedRounds.Nodup

/-- A conclusive activity is lawful and repeats no accepted round. -/
theorem executorStep_conclusive {config : BetExecutorConfig} {state : ExecutorState}
    {activity : ExecutorActivity} (distinct : DistinctRounds state)
    (conclusive : PlacesConclusively config state activity)
    : PlacesLawfully config state activity
      ∧ DistinctRounds (executorStep config state activity) := by
  cases activity with
  | cleanup now => exact ⟨trivial, distinct⟩
  | placeBet call =>
      obtain ⟨script, onRecord⟩ := conclusive
      have law := (placeBet_lawful_iff config state.store call).mpr script
      refine ⟨law, ?_⟩
      simp only [DistinctRounds, executorStep]
      by_cases reserved : call.reservedIn state.store = true
      · simpa [placeBet_reserved reserved, DistinctRounds] using distinct
      · have fresh : call.round ∉ state.acceptedRounds := fun again =>
          reserved (onRecord again)
        exact nodup_append_replicate distinct fresh (SubmitsOnce.count_le_one law)

/-- A single placement is lawful exactly when it is conclusive. In every sequence of
placements and sweeps whose placements are conclusive and find accepted rounds still on
record, every placement is lawful and no round has two accepted submissions.
-/
theorem placements_lawful_of_conclusive (config : BetExecutorConfig)
    (store : InMemoryIdempotencyStore)
    : (∀ call : PlacementCall,
        (placeBet config store call).Lawful ↔ call.Conclusive config store)
      ∧ ∀ activities : List ExecutorActivity,
        Always (executorStep config) (PlacesConclusively config)
          { store, acceptedRounds := [] } activities
        → Always (executorStep config) (PlacesLawfully config)
            { store, acceptedRounds := [] } activities
          ∧ DistinctRounds
            (run (executorStep config) { store, acceptedRounds := [] } activities) := by
  refine ⟨placeBet_lawful_iff config store, fun activities conclusive => ?_⟩
  have initial : DistinctRounds { store, acceptedRounds := [] } := List.nodup_nil
  exact Always.of_invariant_run (fun _ _ => executorStep_conclusive) conclusive initial

/-- A live call for round `r1`. -/
def liveCall (adapter : AdapterScript) : PlacementCall where
  request := { betId := "b1", roundId := "r1", sessionId := "s1", dryRun := false }
  adapter
  attemptedAt := 0
  reservedAt := 0
  confirmedAt := 1

/-- An adapter that accepts and then loses the connection. -/
def lostConnection : AdapterScript where
  submitBet _ := .resolved true
  waitForConfirmation _ := .threw "socket hang up"

/-- A lost connection leaves `UNKNOWN`, and the same round is blocked a minute later. -/
theorem placements_lawful_lostConnection
    : let activities : List ExecutorActivity :=
        [.placeBet (liveCall lostConnection), .cleanup 60000,
          .placeBet (liveCall lostConnection)]
      let start : ExecutorState := { store := ∅, acceptedRounds := [] }
      (run (executorStep {}) start activities).acceptedRounds = [("s1", "r1")]
      ∧ Always (executorStep {}) (PlacesLawfully {}) start activities := by
  intro activities start
  refine ⟨by decide +kernel, ((placements_lawful_of_conclusive {} ∅).2 activities ?_).1⟩
  have conclusive : lostConnection.ConclusiveFrom 0 3 := by
    intro attempt _ _ _ _
    exact .inr ⟨"socket hang up", rfl, by decide⟩
  refine ⟨⟨.inr (.inr conclusive), ?_⟩, trivial, ⟨.inr (.inr conclusive), ?_⟩, trivial⟩ <;>
    decide +kernel

/-- An adapter whose wait is answered `false` at first and then confirms. -/
def slowConfirmation : AdapterScript where
  submitBet _ := .resolved true
  waitForConfirmation attempt := .resolved (decide (0 < attempt))

/-- An adapter that accepts and never confirms within the timeout. -/
def silentConfirmation : AdapterScript where
  submitBet _ := .resolved true
  waitForConfirmation _ := .timedOut

/-- A wait answered `false` makes the executor submit an accepted bet again, and a wait
that times out makes it report an accepted bet as `FAILED`.
-/
theorem placeBet_submits_twice
    : ((placeBet {} ∅ (liveCall slowConfirmation)).calls.count accepted = 2
        ∧ ¬ (placeBet {} ∅ (liveCall slowConfirmation)).Lawful)
      ∧ ((placeBet { maxPlacementRetries := 0 } ∅ (liveCall silentConfirmation)).result.state
          = .failed
        ∧ ¬ (placeBet { maxPlacementRetries := 0 } ∅ (liveCall silentConfirmation)).Lawful) := by
  refine ⟨⟨by decide +kernel, ?_⟩, ⟨by decide +kernel, ?_⟩⟩
  · intro law
    exact absurd (SubmitsOnce.count_le_one law) (by decide +kernel)
  · intro law
    exact absurd (law.unconfirmedUnknown (by decide +kernel) (by decide +kernel))
      (by decide +kernel)

end CrashWave.Betting
