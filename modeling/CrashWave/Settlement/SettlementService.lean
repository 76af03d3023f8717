import CrashWave.JavaScript.Number
import CrashWave.Runs.Basic
import Mathlib.Logic.Function.Basic

/-! `settleWin` calls for one bet. Each runs in a transaction of its own, or in one that its caller
hands over and ends after the calls in it have returned. Statements are atomic and see what is
committed and what their own transaction wrote; the row of the bet is locked by the transaction
that changed it until that one ends, and a statement that is to change it waits. A transaction is
rolled back by its first failing statement, and its later statements fail.
-/

namespace CrashWave.MiniApp

open JavaScript Runs

/-- The states of a bet that its settlement tells apart. -/
inductive MiniAppBetState where
  | placed
  | active
  | cashedOut
  | other (name : String)
  deriving DecidableEq

/-- The bet can be settled. -/
def MiniAppBetState.isOpen : MiniAppBetState → Bool
  | .placed | .active => true
  | _ => false

/-- A row of `mini_app_bets`. -/
structure MiniAppBet where
  userId : String
  state : MiniAppBetState
  cashoutMultiplier : Option Number := none
  pnl : Option Number := none
  deriving DecidableEq

/-- The row of the bet, if there is one, and the balances of `mini_app_balances`. -/
structure MiniAppTables where
  bet : Option MiniAppBet
  balances : String → Option Number

/-- `SettleWinInput` of a call for the bet, and the client that is handed to it. The reason only
reaches the log.
-/
structure SettleWinInput where
  userId : String
  multiplier : Number
  amount : Number
  client : Option Nat := none

/-- The statements that a settlement changes the tables by. -/
inductive SettleStatement where
  | closeBet
  | ensureBalance
  | creditBalance
  deriving DecidableEq

namespace SettleWinInput

def pnl (input : SettleWinInput) : Number := input.amount * (input.multiplier - 1)

def payout (input : SettleWinInput) : Number := input.amount + input.pnl

/-- The condition under which the bet is updated. -/
def settles (input : SettleWinInput) (tables : MiniAppTables) : Bool :=
  match tables.bet with
  | some bet => bet.userId = input.userId && bet.state.isOpen
  | none => false

/-- What a statement changes. -/
def execute (input : SettleWinInput) (tables : MiniAppTables) : SettleStatement → MiniAppTables
  | .closeBet =>
      { tables with
        bet := tables.bet.map fun bet =>
          { bet with
            state := .cashedOut
            cashoutMultiplier := some input.multiplier
            pnl := some input.pnl } }
  | .ensureBalance =>
      { tables with
        balances := Function.update tables.balances input.userId
          (some ((tables.balances input.userId).getD 0)) }
  | .creditBalance =>
      { tables with
        balances := Function.update tables.balances input.userId
          ((tables.balances input.userId).map (· + input.payout)) }

end SettleWinInput

/-- A transaction of a call, or of a caller. -/
inductive TransactionId where
  | own (call : Nat)
  | client (client : Nat)
  deriving DecidableEq

/-- The transaction that a call runs in. -/
def SettleWinInput.transaction (input : SettleWinInput) (call : Nat) : TransactionId :=
  match input.client with
  | none => .own call
  | some client => .client client

inductive TransactionStatus where
  | unopened
  | running
  | aborted
  | committed
  | rolledBack
  deriving DecidableEq

/-- A transaction: the statements that it executed, and the calls under way in it if it is a
caller's.
-/
structure SettleTransaction where
  status : TransactionStatus := .unopened
  work : List (Nat × SettleStatement) := []
  calls : List Nat := []

/-- How far a call is. -/
inductive CallPosition where
  | idle
  | begun
  | missed
  | closed
  | ensured
  | credited
  | returned (ok : Bool)
  | failed
  deriving DecidableEq

/-- The committed tables, the transaction that locks the bet, all transactions and calls, and the
calls whose credit is committed.
-/
structure SettlementSystem where
  tables : MiniAppTables
  lock : Option TransactionId := none
  transactions : TransactionId → SettleTransaction := fun _ => {}
  positions : Nat → CallPosition := fun _ => .idle
  credited : List Nat := []

/-- The tables after the statements of a transaction. -/
def executeAll (inputs : Nat → SettleWinInput) (tables : MiniAppTables)
    (work : List (Nat × SettleStatement)) : MiniAppTables :=
  work.foldl (fun tables done => (inputs done.1).execute tables done.2) tables

namespace SettlementSystem

variable (inputs : Nat → SettleWinInput) (system : SettlementSystem)

/-- A call gets to a position. -/
def move (call : Nat) (position : CallPosition) : SettlementSystem :=
  { system with positions := Function.update system.positions call position }

/-- A transaction changes. -/
def setTransaction (id : TransactionId) (txn : SettleTransaction) : SettlementSystem :=
  { system with transactions := Function.update system.transactions id txn }

/-- A transaction ends, or is aborted, and none of its work is kept. -/
def discard (id : TransactionId) (status : TransactionStatus) : SettlementSystem :=
  { system.setTransaction id { system.transactions id with status, work := [] } with
    lock := if system.lock = some id then none else system.lock }

/-- `COMMIT`; that of an aborted transaction rolls it back. -/
def commit (id : TransactionId) : SettlementSystem :=
  let txn := system.transactions id
  if txn.status = .running then
    { system.discard id .committed with
      tables := executeAll inputs system.tables txn.work
      credited := system.credited
        ++ (txn.work.filter fun done => done.2 = .creditBalance).map Prod.fst }
  else system.discard id .rolledBack

/-- A call executes a statement that changes the tables. -/
def append (id : TransactionId) (call : Nat) (statement : SettleStatement) : SettlementSystem :=
  let txn := system.transactions id
  system.setTransaction id { txn with work := txn.work ++ [(call, statement)] }

/-- A call in the transaction of a caller is over. -/
def leave (id : TransactionId) (call : Nat) : SettlementSystem :=
  let txn := system.transactions id
  system.setTransaction id { txn with calls := txn.calls.filter (· ≠ call) }

/-- A call rejects: its own transaction is rolled back, and the one of a caller is aborted. -/
def reject (call : Nat) : SettlementSystem :=
  let id := (inputs call).transaction call
  match (inputs call).client with
  | none => (system.discard id .rolledBack).move call .failed
  | some _ => ((system.discard id .aborted).leave id call).move call .failed

/-- `BEGIN` of a call; in the transaction of a caller there is none. -/
def begin (call : Nat) : SettlementSystem :=
  let id := (inputs call).transaction call
  let txn := system.transactions id
  match (inputs call).client with
  | none => (system.setTransaction id { status := .running }).move call .begun
  | some _ =>
      if txn.status = .running ∨ txn.status = .aborted then
        (system.setTransaction id { txn with calls := call :: txn.calls }).move call .begun
      else system

/-- The update of the bet: it waits if another transaction locks the row that it is to change. -/
def closeBet (call : Nat) : SettlementSystem :=
  let id := (inputs call).transaction call
  let seen := executeAll inputs system.tables (system.transactions id).work
  if (inputs call).settles seen then
    if system.lock = none ∨ system.lock = some id then
      ({ system.append id call .closeBet with lock := some id }).move call .closed
    else system
  else system.move call .missed

/-- The next statement of a call. -/
def advance (call : Nat) : SettlementSystem :=
  let id := (inputs call).transaction call
  let running := (system.transactions id).status = .running
  match system.positions call with
  | .idle => system.begin inputs call
  | .begun => if running then system.closeBet inputs call else system.reject inputs call
  | .closed =>
      if running then (system.append id call .ensureBalance).move call .ensured
      else system.reject inputs call
  | .ensured =>
      if running then (system.append id call .creditBalance).move call .credited
      else system.reject inputs call
  | .missed =>
      match (inputs call).client with
      | none => (system.discard id .rolledBack).move call (.returned false)
      | some _ => (system.leave id call).move call (.returned false)
  | .credited =>
      match (inputs call).client with
      | none => (system.commit inputs id).move call (.returned true)
      | some _ => (system.leave id call).move call (.returned true)
  | .returned _ | .failed => system

/-- The next statement of a call throws; a `COMMIT` may throw after it was executed. -/
def fail (call : Nat) (executed : Bool) : SettlementSystem :=
  let id := (inputs call).transaction call
  match system.positions call, (inputs call).client with
  | .idle, none => system.move call .failed
  | .begun, _ | .closed, _ | .ensured, _ | .missed, none => system.reject inputs call
  | .credited, none =>
      if executed then (system.commit inputs id).move call .failed
      else system.reject inputs call
  | _, _ => system

end SettlementSystem

/-- What happens: the next statement of a call is executed, or throws; a caller begins or ends a
transaction.
-/
inductive SettlementEvent where
  | advance (call : Nat)
  | fail (call : Nat) (executed : Bool)
  | open (client : Nat)
  | commit (client : Nat)
  | rollback (client : Nat)

/-- A caller ends its transaction when it has begun and no call is under way in it. -/
def SettleTransaction.endable (txn : SettleTransaction) : Bool :=
  txn.calls.isEmpty && (txn.status = .running || txn.status = .aborted)

/-- One step. -/
def settlementStep (inputs : Nat → SettleWinInput) (system : SettlementSystem)
    : SettlementEvent → SettlementSystem
  | .advance call => system.advance inputs call
  | .fail call executed => system.fail inputs call executed
  | .open client =>
      if (system.transactions (.client client)).status = .unopened then
        system.setTransaction (.client client) { status := .running }
      else system
  | .commit client =>
      if (system.transactions (.client client)).endable then
        system.commit inputs (.client client)
      else system
  | .rollback client =>
      if (system.transactions (.client client)).endable then
        system.discard (.client client) .rolledBack
      else system

end CrashWave.MiniApp
