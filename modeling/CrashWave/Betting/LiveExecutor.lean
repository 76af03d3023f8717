import CrashWave.Betting.BetExecutor
import CrashWave.Betting.ExecutionModeGate
import CrashWave.Persistence.BetRepository

/-! `LiveBetExecutor.placeLiveBet`. What the page does is a script, attempt by attempt; a
placement records the effects it has on the page. The mutex makes placements run one after
the other, so only sweeps of the idempotency store can fall inside one.
-/

namespace CrashWave.Betting

open CrashWave.Persistence JavaScript

/-- How the click on the bet button ends. A click that throws may have reached the page. -/
inductive ClickOutcome where
  | clicked
  | threw (message : String) (performed : Bool)
  deriving DecidableEq

/-- How the wait for the indicator of an active bet ends. It throws only where the page was
unbound meanwhile; any other failure is caught as an absent indicator.
-/
inductive IndicatorOutcome where
  | visible
  | notVisible
  | threw (message : String)
  deriving DecidableEq

/-- What the page does in one attempt: the errors that the steps before the click throw, the
click, and the indicator.
-/
structure AttemptScript where
  amountVisible : Option String := none
  amountCleared : Option String := none
  amountFilled : Option String := none
  buttonVisible : Option String := none
  click : ClickOutcome := .clicked
  indicator : IndicatorOutcome := .visible
  deriving DecidableEq

/-- What an attempt does to the page or learns from it. -/
inductive PageEffect where
  | clicked
  | confirmed
  deriving DecidableEq

/-- The error of the first step before the click that throws. -/
def AttemptScript.setupError (script : AttemptScript) : Option String :=
  script.amountVisible.or
    (script.amountCleared.or (script.amountFilled.or script.buttonVisible))

/-- One attempt: its effects, and its error unless it is confirmed. -/
def AttemptScript.run (script : AttemptScript) : List PageEffect × Option String :=
  match script.setupError with
  | some message => ([], some message)
  | none =>
      match script.click with
      | .threw message performed => (if performed then [.clicked] else [], some message)
      | .clicked =>
          match script.indicator with
          | .visible => ([.clicked, .confirmed], none)
          | .notVisible => ([.clicked], some "PLACEMENT_NOT_CONFIRMED")
          | .threw message => ([.clicked], some message)

/-- How the retry loop is left: with a confirmation, or with its last error. -/
inductive LiveAttemptsEnd where
  | confirmed (retryCount : Nat)
  | failed (lastError : String) (retryCount : Nat)
  deriving DecidableEq

/-- The retry loop from `attempt` on, with `remaining` attempts allowed. -/
def liveAttempts (script : Nat → AttemptScript) (remaining attempt : Nat) (lastError : String)
    : List PageEffect × LiveAttemptsEnd :=
  match remaining with
  | 0 => ([], .failed lastError attempt)
  | remaining + 1 =>
      let (effects, error) := (script attempt).run
      match error with
      | none => (effects, .confirmed attempt)
      | some message =>
          let (rest, ended) := liveAttempts script remaining (attempt + 1) message
          (effects ++ rest, ended)

/-- A placement request with the fields that live placements read. -/
structure LivePlacementRequest extends PlaceBetRequest where
  stake : Number
  target : Number
  deriving DecidableEq

/-- The result of a live placement. -/
structure LiveBetResult where
  placed : Bool
  betId : String
  roundId : String
  state : BetState
  confirmedAt : Option Int
  error : Option String
  retryCount : Nat
  stake : Number
  target : Number
  deriving DecidableEq

/-- The configuration that placements read, with the environment behind its mode. A
fractional bound on the retries acts as its floor.
-/
structure LiveExecutorConfig where
  systemMode : Option String := none
  /-- `APP_SYSTEM__MODE`. -/
  defaultMode : Option String := none
  env : ExecutionEnv := {}
  maxPlacementRetries : Int := 2

/-- The number of attempts that `maxPlacementRetries` allows. -/
def LiveExecutorConfig.attempts (config : LiveExecutorConfig) : Nat :=
  (config.maxPlacementRetries + 1).toNat

/-- Why real execution is blocked for a request, if it is. -/
def LiveExecutorConfig.blockReason (config : LiveExecutorConfig) (dryRun : Bool)
    : Option String :=
  realExecutionBlockReason config.env dryRun
    (some (toLowerCase ((config.systemMode.or config.defaultMode).getD "")))

/-- One call of `placeLiveBet`: its request, whether the executor is stopped and has an open
page, what the page and the database will do, the instants at which it reads the clock, and
the sweeps of the idempotency store between its reservation and its end.
-/
structure LivePlacementCall where
  request : LivePlacementRequest
  stopped : Bool := false
  pageOpen : Bool := true
  script : Nat → AttemptScript
  reservedAt : Int
  dailyKey : String
  createdId : String
  createdAt : Int
  createFaults : BetFaults := {}
  sweeps : List Int := []
  confirmedAt : Int

/-- What a placement reads and changes. -/
structure LiveExecutorState where
  store : InMemoryIdempotencyStore
  tables : BetTables

/-- What a placement leaves behind: its answer, its effects on the page, and the bet that
`create` returned.
-/
structure LiveOutcome where
  result : LiveBetResult
  effects : List PageEffect := []
  created : Option String := none
  state : LiveExecutorState

/-- `fail`. -/
def LivePlacementRequest.fail (request : LivePlacementRequest) (error : String)
    (retryCount : Nat) : LiveBetResult where
  placed := false
  betId := request.betId
  roundId := request.roundId
  state := .failed
  confirmedAt := none
  error := some error
  retryCount
  stake := request.stake
  target := request.target

/-- The record with which a placement starts. -/
def LivePlacementCall.createInput (call : LivePlacementCall) : CreateBetInput where
  sessionId := some call.request.sessionId
  roundId := some call.request.roundId
  dailyKey := call.dailyKey
  stake := call.request.stake
  cashOutTarget := call.request.target
  state := some .pending

/-- A reserved placement: the bet is created, though its failure stops nothing, and then
attempted.
-/
def LivePlacementCall.attempted (call : LivePlacementCall) (config : LiveExecutorConfig)
    (state : LiveExecutorState) : LiveOutcome :=
  let request := call.request
  let (tables, created) :=
    state.tables.create call.createInput call.createdId call.createdAt call.createFaults
  let created := created.toOption.map (·.id)
  let (effects, ended) := liveAttempts call.script config.attempts 0 "placement_failed"
  let store := call.sweeps.foldl InMemoryIdempotencyStore.cleanup state.store
  match ended with
  | .confirmed retryCount =>
      { result :=
          { placed := true
            betId := created.getD request.betId
            roundId := request.roundId
            state := .confirmed
            confirmedAt := some call.confirmedAt
            error := none
            retryCount
            stake := request.stake
            target := request.target }
        effects
        created
        state :=
          { store := store.complete request.sessionId request.roundId { success := true }
            tables } }
  | .failed lastError retryCount =>
      { result := request.fail lastError retryCount
        effects
        created
        state := { store, tables } }

/-- `placeLiveBet`. -/
def placeLiveBet (config : LiveExecutorConfig) (state : LiveExecutorState)
    (call : LivePlacementCall) : LiveOutcome :=
  let request := call.request
  if call.stopped then { result := request.fail "Executor is stopped" 0, state }
  else
    match config.blockReason request.dryRun with
    | some reason => { result := request.fail reason 0, state }
    | none =>
        if !call.pageOpen then { result := request.fail "BROWSER_PAGE_UNAVAILABLE" 0, state }
        else
          let (reserved, store) :=
            state.store.reserve call.reservedAt request.sessionId request.roundId
              request.betId
          if !reserved then
            { result := request.fail "Duplicate bet blocked by idempotency" 0, state }
          else call.attempted config { state with store }

end CrashWave.Betting
