import CrashWave.JavaScript.Map
import CrashWave.JavaScript.Number
import CrashWave.Types
import Mathlib.Data.List.Sort
import Mathlib.Tactic.TypeStar

/-! Transactions of a database that aborts them at the first failing statement: every later
statement fails too, and the commit of an aborted transaction rolls it back without saying so. Then
the bet repository over its tables. Which calls of the database fail, the time and the generated
ids are inputs; a call that fails has no effect of its own.
-/

namespace Database

variable {σ α : Type*}

/-- An open transaction: the tables it started from, those its statements see, and whether
a statement has failed.
-/
structure Transaction (σ : Type*) where
  committed : σ
  working : σ
  aborted : Bool := false

namespace Transaction

/-- `BEGIN`. -/
def start (tables : σ) : Transaction σ where
  committed := tables
  working := tables

/-- A statement: what it answers and the tables after it, or nothing where it fails. -/
def statement (txn : Transaction σ) (work : σ → Option (σ × α)) : Transaction σ × Option α :=
  if txn.aborted then (txn, none)
  else
    match work txn.working with
    | none => ({ txn with aborted := true }, none)
    | some (tables, answer) => ({ txn with working := tables }, some answer)

/-- A statement whose failure is swallowed. -/
def attempt (txn : Transaction σ) (work : σ → Option (σ × α)) : Transaction σ :=
  (txn.statement work).1

/-- `COMMIT`. -/
def commit (txn : Transaction σ) : σ := if txn.aborted then txn.committed else txn.working

/-- `ROLLBACK`. -/
def rollback (txn : Transaction σ) : σ := txn.committed

/-- A statement of a running transaction that succeeds. -/
theorem statement_of_done {txn : Transaction σ} {work : σ → Option (σ × α)} {tables : σ}
    {answer : α} (running : txn.aborted = false) (done : work txn.working = some (tables, answer))
    : txn.statement work = ({ txn with working := tables }, some answer) := by
  simp [statement, running, done]

/-- A statement of a running transaction that fails. -/
theorem statement_of_failed {txn : Transaction σ} {work : σ → Option (σ × α)}
    (running : txn.aborted = false) (failed : work txn.working = none)
    : txn.statement work = ({ txn with aborted := true }, none) := by
  simp [statement, running, failed]

/-- Statements do not reach the committed tables. -/
@[simp] theorem attempt_committed (txn : Transaction σ) (work : σ → Option (σ × α))
    : (txn.attempt work).committed = txn.committed := by
  unfold attempt statement
  split
  · rfl
  · split <;> rfl

/-- A swallowed statement aborts the transaction exactly when it fails, if the transaction
was not aborted before.
-/
theorem attempt_aborted (txn : Transaction σ) (work : σ → Option (σ × α))
    : (txn.attempt work).aborted = true
      ↔ txn.aborted = true ∨ work txn.working = none := by
  unfold attempt statement
  cases aborted : txn.aborted with
  | true => simp [aborted]
  | false => cases work txn.working <;> simp

/-- What a swallowed statement leaves to the later ones. -/
theorem attempt_working (txn : Transaction σ) (work : σ → Option (σ × α))
    : (txn.attempt work).working
      = if txn.aborted then txn.working
        else ((work txn.working).map Prod.fst).getD txn.working := by
  unfold attempt statement
  cases aborted : txn.aborted with
  | true => simp
  | false => cases work txn.working <;> simp

/-- The commit of an aborted transaction changes nothing. -/
theorem commit_of_aborted {txn : Transaction σ} (aborted : txn.aborted = true)
    : txn.commit = txn.committed := if_pos aborted

/-- The commit of any other transaction shows what its statements left. -/
theorem commit_of_not_aborted {txn : Transaction σ} (running : txn.aborted = false)
    : txn.commit = txn.working := by
  rw [commit, running]
  rfl

end Transaction

end Database

-----------------------------------------------------------------------------------------
-- The bet repository
-----------------------------------------------------------------------------------------

namespace CrashWave.Persistence

open Database JavaScript

/-- A row of `bets`, and the record that is read from it: amounts are numbers and
timestamps are instants.
-/
structure BetRecord where
  id : String
  sessionId : Option String
  roundId : Option String
  dailyKey : String
  stake : Number
  cashOutTarget : Number
  state : BetState
  requestedAt : Option Int := none
  placedAt : Option Int := none
  confirmedAt : Option Int := none
  cashOutRequestedAt : Option Int := none
  cashOutConfirmedAt : Option Int := none
  observedCashOutMultiplier : Option Number := none
  confirmedCashOutMultiplier : Option Number := none
  pnl : Option Number := none
  balanceBefore : Option Number := none
  balanceAfter : Option Number := none
  failureReason : Option String := none
  createdAt : Int
  updatedAt : Int
  deriving DecidableEq

/-- `mapRow`: an empty text is read as null. -/
def mapRow (row : BetRecord) : BetRecord :=
  { row with
    sessionId := row.sessionId.filter (· ≠ "")
    roundId := row.roundId.filter (· ≠ "")
    failureReason := row.failureReason.filter (· ≠ "") }

/-- `CreateBetInput`; the tenant is ignored. -/
structure CreateBetInput where
  sessionId : Option String := none
  roundId : Option String := none
  dailyKey : String
  stake : Number
  cashOutTarget : Number
  state : Option BetState := none
  balanceBefore : Option Number := none

/-- `UpdateBetInput`: an absent field is left, one that is `some none` becomes null. -/
structure UpdateBetInput where
  sessionId : Option (Option String) := none
  roundId : Option (Option String) := none
  state : Option BetState := none
  requestedAt : Option (Option Int) := none
  placedAt : Option (Option Int) := none
  confirmedAt : Option (Option Int) := none
  cashOutRequestedAt : Option (Option Int) := none
  cashOutConfirmedAt : Option (Option Int) := none
  observedCashOutMultiplier : Option (Option Number) := none
  confirmedCashOutMultiplier : Option (Option Number) := none
  pnl : Option (Option Number) := none
  balanceBefore : Option (Option Number) := none
  balanceAfter : Option (Option Number) := none
  failureReason : Option (Option String) := none
  externalReference : Option String := none
  settlementSource : Option String := none

/-- The update names no column. -/
def UpdateBetInput.noFields (input : UpdateBetInput) : Bool :=
  input.sessionId.isNone && input.roundId.isNone && input.state.isNone
  && input.requestedAt.isNone && input.placedAt.isNone && input.confirmedAt.isNone
  && input.cashOutRequestedAt.isNone && input.cashOutConfirmedAt.isNone
  && input.observedCashOutMultiplier.isNone && input.confirmedCashOutMultiplier.isNone
  && input.pnl.isNone && input.balanceBefore.isNone && input.balanceAfter.isNone
  && input.failureReason.isNone

/-- The row that `UPDATE bets SET ..` leaves at the time `now`. -/
def BetRecord.updated (row : BetRecord) (input : UpdateBetInput) (now : Int) : BetRecord :=
  { row with
    sessionId := input.sessionId.getD row.sessionId
    roundId := input.roundId.getD row.roundId
    state := input.state.getD row.state
    requestedAt := input.requestedAt.getD row.requestedAt
    placedAt := input.placedAt.getD row.placedAt
    confirmedAt := input.confirmedAt.getD row.confirmedAt
    cashOutRequestedAt := input.cashOutRequestedAt.getD row.cashOutRequestedAt
    cashOutConfirmedAt := input.cashOutConfirmedAt.getD row.cashOutConfirmedAt
    observedCashOutMultiplier :=
      input.observedCashOutMultiplier.getD row.observedCashOutMultiplier
    confirmedCashOutMultiplier :=
      input.confirmedCashOutMultiplier.getD row.confirmedCashOutMultiplier
    pnl := input.pnl.getD row.pnl
    balanceBefore := input.balanceBefore.getD row.balanceBefore
    balanceAfter := input.balanceAfter.getD row.balanceAfter
    failureReason := input.failureReason.getD row.failureReason
    updatedAt := now }

/-- A row of `financial_ledger_events`. -/
structure FinancialEvent where
  betId : String
  eventType : String
  amount : Option Number
  multiplier : Option Number := none
  previousState : Option BetState := none
  newState : BetState
  failureReason : Option String := none
  externalReference : Option String := none
  settlementSource : Option String := none
  deriving DecidableEq

/-- An event of the outbox about a bet. -/
structure OutboxEvent where
  name : String
  betId : String
  deriving DecidableEq

/-- The tables that the repository writes. -/
structure BetTables where
  bets : Map String BetRecord
  financialEvents : List FinancialEvent := []
  outbox : List OutboxEvent := []

/-- The calls of the database that fail during one call of the repository. -/
structure BetFaults where
  connect : Bool := false
  start : Bool := false
  select : Bool := false
  write : Bool := false
  financialEvent : Bool := false
  outboxEvent : Bool := false
  commit : Bool := false
  deriving DecidableEq

/-- `financialEventType`. -/
def financialEventType : BetState → String
  | .reserved => "BET_RESERVED"
  | .placed => "BET_PLACED"
  | .confirmed => "BET_CONFIRMED"
  | .cashOutRequested => "CASH_OUT_REQUESTED"
  | .cashedOut => "CASH_OUT_CONFIRMED"
  | .lost => "BET_LOST"
  | .failed => "BET_FAILED"
  | .unknown => "BET_UNKNOWN"
  | .reconciled => "RECONCILED"
  | .pending | .active => "BET_UNKNOWN"

/-- `systemEventForState`. -/
def systemEventForState : BetState → Option String
  | .placed => some "BetPlaced"
  | .failed => some "BetFailed"
  | .cashOutRequested => some "CashOutRequested"
  | .cashedOut => some "CashOutConfirmed"
  | .lost | .unknown => some "CashOutFailed"
  | _ => none

/-- The insert of a financial event. -/
def insertFinancialEvent (fails : Bool) (event : FinancialEvent) (tables : BetTables)
    : Option (BetTables × Unit) :=
  if fails then none
  else some ({ tables with financialEvents := tables.financialEvents ++ [event] }, ())

/-- `enqueue_outbox_event`. -/
def enqueueOutboxEvent (fails : Bool) (event : OutboxEvent) (tables : BetTables)
    : Option (BetTables × Unit) :=
  if fails then none else some ({ tables with outbox := tables.outbox ++ [event] }, ())

/-- `INSERT INTO bets .. RETURNING *`; an id is never used twice. -/
def insertBet (fails : Bool) (row : BetRecord) (tables : BetTables)
    : Option (BetTables × BetRecord) :=
  if fails ∨ tables.bets.has row.id then none
  else some ({ tables with bets := tables.bets.set row.id row }, row)

/-- `SELECT * FROM bets WHERE id = .. FOR UPDATE`. -/
def selectBet (fails : Bool) (id : String) (tables : BetTables)
    : Option (BetTables × Option BetRecord) :=
  if fails then none else some (tables, tables.bets.get id)

/-- `UPDATE bets SET .. WHERE id = .. RETURNING *`. -/
def updateBet (fails : Bool) (id : String) (input : UpdateBetInput) (now : Int)
    (tables : BetTables) : Option (BetTables × Option BetRecord) :=
  if fails then none
  else
    match tables.bets.get id with
    | none => some (tables, none)
    | some row =>
        let updated := row.updated input now
        some ({ tables with bets := tables.bets.set id updated }, some updated)

/-- The row that a new bet is inserted with. -/
def CreateBetInput.row (input : CreateBetInput) (id : String) (now : Int) : BetRecord where
  id
  sessionId := input.sessionId
  roundId := input.roundId
  dailyKey := input.dailyKey
  stake := input.stake
  cashOutTarget := input.cashOutTarget
  state := input.state.getD .pending
  balanceBefore := input.balanceBefore
  createdAt := now
  updatedAt := now

/-- `BetRepository.create`, with the generated id. The error is the code of the one thrown. -/
def BetTables.create (tables : BetTables) (input : CreateBetInput) (id : String) (now : Int)
    (faults : BetFaults) : BetTables × Except String BetRecord :=
  if faults.connect ∨ faults.start then (tables, .error "BET_CREATE_FAILED")
  else
    let (txn, inserted) :=
      (Transaction.start tables).statement (insertBet faults.write (input.row id now))
    match inserted with
    | none => (txn.rollback, .error "BET_CREATE_FAILED")
    | some row =>
        let record := mapRow row
        let txn := txn.attempt (insertFinancialEvent faults.financialEvent
          { betId := record.id
            eventType := "BET_INTENDED"
            amount := some record.stake
            newState := record.state })
        let txn := txn.attempt (enqueueOutboxEvent faults.outboxEvent
          { name := "EntryApproved", betId := record.id })
        if faults.commit then (txn.rollback, .error "BET_CREATE_FAILED")
        else (txn.commit, .ok record)

/-- `BetRepository.findById`. -/
def BetTables.findById (tables : BetTables) (id : String) (fails : Bool)
    : Except String (Option BetRecord) :=
  if fails then .error "BET_FIND_FAILED" else .ok ((tables.bets.get id).map mapRow)

/-- The rows of `bets`; their id is the key they are found at. -/
def BetTables.rows (tables : BetTables) : List BetRecord :=
  tables.bets.entries.map fun entry => { entry.2 with id := entry.1 }

/-- `BetRepository.findByState`: the newest rows first. -/
def BetTables.findByState (tables : BetTables) (state : BetState) (limit : Nat) (fails : Bool)
    : Except String (List BetRecord) :=
  if fails then .error "BET_FIND_STATE_FAILED"
  else
    let rows := tables.rows.filter fun row => row.state = state
    let newestFirst := rows.insertionSort fun one other => other.createdAt ≤ one.createdAt
    .ok ((newestFirst.take limit).map mapRow)

/-- `BetRepository.countByState`. -/
def BetTables.countByState (tables : BetTables) (state : BetState) (fails : Bool)
    : Except String Nat :=
  if fails then .error "BET_COUNT_STATE_FAILED"
  else .ok (tables.rows.countP fun row => row.state = state)

/-- The events that `update` inserts for a change of state; their failures are swallowed. -/
def recordStateChange (txn : Transaction BetTables) (id : String) (input : UpdateBetInput)
    (previous record : BetRecord) (faults : BetFaults) : Transaction BetTables :=
  match input.state with
  | none => txn
  | some state =>
      if state = previous.state then txn
      else
        let txn := txn.attempt (insertFinancialEvent faults.financialEvent
          { betId := id
            eventType := financialEventType state
            amount := record.pnl
            multiplier := record.confirmedCashOutMultiplier
            previousState := some previous.state
            newState := record.state
            failureReason := record.failureReason
            externalReference := input.externalReference
            settlementSource := input.settlementSource })
        match systemEventForState state with
        | none => txn
        | some name =>
            txn.attempt (enqueueOutboxEvent faults.outboxEvent { name, betId := id })

/-- `BetRepository.update`. -/
def BetTables.update (tables : BetTables) (id : String) (input : UpdateBetInput) (now : Int)
    (faults : BetFaults) : BetTables × Except String (Option BetRecord) :=
  if input.noFields then (tables, tables.findById id faults.select)
  else if faults.connect ∨ faults.start then (tables, .error "BET_UPDATE_FAILED")
  else
    let (txn, before) := (Transaction.start tables).statement (selectBet faults.select id)
    match before with
    | none => (txn.rollback, .error "BET_UPDATE_FAILED")
    | some none => (txn.rollback, .ok none)
    | some (some before) =>
        let previous := mapRow before
        let (txn, updated) := txn.statement (updateBet faults.write id input now)
        match updated with
        | none => (txn.rollback, .error "BET_UPDATE_FAILED")
        | some none => (txn.rollback, .ok none)
        | some (some row) =>
            let record := mapRow row
            let txn := recordStateChange txn id input previous record faults
            if faults.commit then (txn.rollback, .error "BET_UPDATE_FAILED")
            else (txn.commit, .ok (some record))

/-- `BetRepository.updateState`. -/
def BetTables.updateState (tables : BetTables) (id : String) (state : BetState)
    (reason : Option String) (now : Int) (faults : BetFaults)
    : BetTables × Except String (Option BetRecord) :=
  tables.update id { state := some state, failureReason := reason.map some } now faults

end CrashWave.Persistence
