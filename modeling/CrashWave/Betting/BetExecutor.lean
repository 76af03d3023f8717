import CrashWave.Betting.Idempotency
import CrashWave.JavaScript.Text

/-! `BetExecutor.placeBet`. The adapter is a script of what its calls do, attempt by
attempt; a placement records the adapter calls it makes. The mutex makes placements run
one after the other, so only sweeps of the store can fall inside one.
-/

namespace CrashWave.Betting

open JavaScript

/-- How a call of `submitBet` ends. -/
inductive SubmitOutcome where
  | resolved (submitted : Bool)
  | threw (message : String)
  deriving DecidableEq

/-- How the wait for a confirmation ends; `timedOut` is the executor's own timer. -/
inductive WaitOutcome where
  | resolved (confirmed : Bool)
  | threw (message : String)
  | timedOut
  deriving DecidableEq

/-- What the adapter does, by attempt number. -/
structure AdapterScript where
  submitBet : Nat → SubmitOutcome
  waitForConfirmation : Nat → WaitOutcome

/-- An adapter call that was made, with its outcome. -/
inductive AdapterCall where
  | submitBet (outcome : SubmitOutcome)
  | waitForConfirmation (outcome : WaitOutcome)
  deriving DecidableEq

/-- The configuration that placements read. A fractional bound on the retries acts as its
floor.
-/
structure BetExecutorConfig where
  maxPlacementRetries : Int := 2

/-- The fields of a placement request that placements read. -/
structure PlaceBetRequest where
  betId : String
  roundId : String
  sessionId : String
  dryRun : Bool
  deriving DecidableEq

/-- The result of a placement. -/
structure BetExecutionResult where
  placed : Bool
  state : BetState
  error : Option String := none
  attemptedAt : Int
  confirmedAt : Option Int
  retryCount : Nat
  deriving DecidableEq

/-- One call of `placeBet`: its request, what the adapter will do, the instants at which
it reads the clock, and the sweeps of the store that fall between its reservation and the
end of its attempts.
-/
structure PlacementCall where
  request : PlaceBetRequest
  adapter : AdapterScript
  attemptedAt : Int
  reservedAt : Int
  confirmedAt : Int
  sweeps : List Int := []

/-- The local variables of the retry loop. -/
structure AttemptState where
  lastError : Option String := none
  retryCount : Nat := 0
  externalSideEffectAttempted : Bool := false
  deriving DecidableEq

/-- How the retry loop is left: confirmed, or with its variables. -/
inductive AttemptsEnd where
  | confirmed (retryCount : Nat)
  | left (state : AttemptState)
  deriving DecidableEq

/-- Entering an attempt: a retry is counted. -/
def AttemptState.enter (state : AttemptState) (attempt : Nat) : AttemptState :=
  if attempt > 0 then { state with retryCount := attempt } else state

@[simp] theorem AttemptState.enter_sideEffect (state : AttemptState) (attempt : Nat)
    : (state.enter attempt).externalSideEffectAttempted
      = state.externalSideEffectAttempted := by
  unfold enter
  split <;> rfl

/-- Whether the executor reads an error message as a timeout. -/
def isTimeoutMessage (message : String) : Bool := testIgnoreCase "timed out" message

/-- The message with which a wait is caught, if it is not resolved. -/
def WaitOutcome.error : WaitOutcome → Option String
  | .resolved _ => none
  | .threw message => some message
  | .timedOut => some "Bet confirmation timed out"

/-- The catch block: the error is kept, and a timeout takes the side effect back. -/
def AttemptState.afterError (state : AttemptState) (message : String) : AttemptState :=
  { state with
    lastError := some message
    externalSideEffectAttempted :=
      state.externalSideEffectAttempted && !isTimeoutMessage message }

/-- The retry loop from `attempt` on, with `remaining` attempts allowed. -/
def placementAttempts (adapter : AdapterScript) (remaining attempt : Nat)
    (state : AttemptState) : List AdapterCall × AttemptsEnd :=
  match remaining with
  | 0 => ([], .left state)
  | remaining + 1 =>
      if attempt > 0 ∧ state.externalSideEffectAttempted then
        ([], .left state)
      else
        let state := state.enter attempt
        let continueFrom (calls : List AdapterCall) (state : AttemptState) :=
          let (rest, result) := placementAttempts adapter remaining (attempt + 1) state
          (calls ++ rest, result)
        -- A caught error ends the attempts only while the side effect still stands.
        let caught (calls : List AdapterCall) (state : AttemptState) (message : String) :=
          let state := state.afterError message
          if state.externalSideEffectAttempted then (calls, .left state)
          else continueFrom calls state
        let submitted := adapter.submitBet attempt
        match submitted with
        | .threw message => caught [.submitBet submitted] state message
        | .resolved false =>
            continueFrom [.submitBet submitted]
              { state with lastError := some "Bet submission rejected by adapter" }
        | .resolved true =>
            let state := { state with externalSideEffectAttempted := true }
            let confirmation := adapter.waitForConfirmation attempt
            let calls := [.submitBet submitted, .waitForConfirmation confirmation]
            match confirmation with
            | .resolved true => (calls, .confirmed state.retryCount)
            | .resolved false =>
                continueFrom calls
                  { state with
                    lastError := some "Bet was submitted but confirmation was not received"
                    externalSideEffectAttempted := false }
            | .threw message => caught calls state message
            | .timedOut => caught calls state "Bet confirmation timed out"

/-- The number of attempts that `maxPlacementRetries` allows. -/
def BetExecutorConfig.attempts (config : BetExecutorConfig) : Nat :=
  (config.maxPlacementRetries + 1).toNat

/-- What a placement leaves behind. -/
structure PlacementOutcome where
  result : BetExecutionResult
  calls : List AdapterCall
  store : InMemoryIdempotencyStore

/-- `BetExecutor.placeBet`. -/
def placeBet (config : BetExecutorConfig) (store : InMemoryIdempotencyStore)
    (call : PlacementCall) : PlacementOutcome :=
  let request := call.request
  let (reserved, store) :=
    InMemoryIdempotencyStore.reserve store call.reservedAt request.sessionId request.roundId
      request.betId
  if !reserved then
    { result :=
        { placed := false
          state := .failed
          error := some "Duplicate bet attempt blocked by idempotency check"
          attemptedAt := call.attemptedAt
          confirmedAt := none
          retryCount := 0 }
      calls := []
      store }
  else if request.dryRun then
    { result :=
        { placed := true
          state := .confirmed
          attemptedAt := call.attemptedAt
          confirmedAt := some call.attemptedAt
          retryCount := 0 }
      calls := []
      store :=
        InMemoryIdempotencyStore.complete store request.sessionId request.roundId
          { success := true, betId := some request.betId } }
  else
    let (calls, ended) := placementAttempts call.adapter config.attempts 0 {}
    let store := call.sweeps.foldl InMemoryIdempotencyStore.cleanup store
    match ended with
    | .confirmed retryCount =>
        { result :=
            { placed := true
              state := .confirmed
              attemptedAt := call.attemptedAt
              confirmedAt := some call.confirmedAt
              retryCount }
          calls
          store :=
            InMemoryIdempotencyStore.complete store request.sessionId request.roundId
              { success := true, betId := some request.betId } }
    | .left state =>
        let isUnknown := state.externalSideEffectAttempted
        let finalError := state.lastError.getD
          (if isUnknown then "Bet placement outcome unknown after external submission"
          else "Bet placement failed after all retries")
        { result :=
            { placed := false
              state := if isUnknown then .unknown else .failed
              error := some finalError
              attemptedAt := call.attemptedAt
              confirmedAt := none
              retryCount := state.retryCount }
          calls
          store :=
            if isUnknown then
              InMemoryIdempotencyStore.markUnknown store request.sessionId request.roundId
                finalError
            else
              InMemoryIdempotencyStore.fail store request.sessionId request.roundId
                finalError }

end CrashWave.Betting
