import CrashWave.JavaScript.Map
import CrashWave.JavaScript.Number
import Mathlib.Algebra.BigOperators.Group.List.Basic

/-! Settlement orders and their ledger, with what the database itself checks: the scale of
its amounts, the form of a ledger entry and the transitions of an order's status; and the
authoritative settlement engine. A transaction either commits with all its writes or leaves the
tables as they were; how its commit ends is an input.
-/

namespace CrashWave.Settlement

open JavaScript

/-- `SettlementOrderStatus`. -/
inductive OrderStatus where
  | orderIntent
  | dispatched
  | pendingSettlement
  | reconciling
  | settledWin
  | settledLoss
  | void
  | failed
  deriving DecidableEq

/-- The statuses that `settleOrder` takes for settled. -/
def OrderStatus.isFinal : OrderStatus → Bool
  | .settledWin | .settledLoss | .void => true
  | _ => false

/-- The statuses that `validate_settlement_order_transition` lets follow another one. -/
def OrderStatus.successors : OrderStatus → List OrderStatus
  | .orderIntent => [.dispatched, .failed]
  | .dispatched =>
      [.pendingSettlement, .reconciling, .settledWin, .settledLoss, .void, .failed]
  | .pendingSettlement => [.settledWin, .settledLoss, .void, .reconciling]
  | .reconciling => [.settledWin, .settledLoss, .void, .failed]
  | _ => []

/-- The trigger on `settlement_orders` lets a status follow another one, or itself. -/
def OrderStatus.mayBecome (old new : OrderStatus) : Bool := new = old ∨ new ∈ old.successors

/-- The outcome that a settlement states. -/
inductive SettlementStatus where
  | win
  | loss
  | void
  deriving DecidableEq

/-- The status of an order settled with an outcome. -/
def SettlementStatus.final : SettlementStatus → OrderStatus
  | .win => .settledWin
  | .loss => .settledLoss
  | .void => .void

/-- The accounts that settlements book on. -/
inductive LedgerAccount where
  | hotWallet
  | unsettled
  | realizedPnl
  deriving DecidableEq

/-- A row of `settlement_orders`. -/
structure SettlementOrder where
  wagerAmount : ℚ
  status : OrderStatus
  grossPayout : Option ℚ := none
  exitMultiplier : Option ℚ := none
  createdAt : Int
  deriving DecidableEq

/-- A row of `ledger_entries`; its order is named by the client order id. -/
structure LedgerEntry where
  clientOrderId : String
  account : LedgerAccount
  debit : ℚ
  credit : ℚ
  memo : String
  deriving DecidableEq

/-- The tables of the engine: orders by their unique client order id, and entries, which
are only ever appended.
-/
structure SettlementDb where
  orders : Map String SettlementOrder
  entries : List LedgerEntry

/-- An amount with eight decimals: `toFixed(8)`, and the scale of `NUMERIC(18,8)`. -/
def toFixed8 (amount : ℚ) : ℚ := ⌊amount * 10 ^ 8 + 1 / 2⌋ / 10 ^ 8

/-- A value that `NUMERIC(18,8)` takes; nothing for one that it refuses. -/
def numeric : Number → Option ℚ
  | .finite value => if |toFixed8 value| < 10 ^ 10 then some (toFixed8 value) else none
  | _ => none

/-- The checks of `ledger_entries` on a row. -/
def LedgerEntry.storable (entry : LedgerEntry) : Bool :=
  0 ≤ entry.debit ∧ 0 ≤ entry.credit ∧ entry.debit < 10 ^ 10 ∧ entry.credit < 10 ^ 10
  ∧ (entry.debit = 0 ∨ entry.credit = 0) ∧ (0 < entry.debit ∨ 0 < entry.credit)

/-- `assertBalanced` on the entries of one order. -/
def balanced (entries : List LedgerEntry) (clientOrderId : String) : Bool :=
  let ofOrder := entries.filter fun entry => entry.clientOrderId = clientOrderId
  |(ofOrder.map (·.debit)).sum - (ofOrder.map (·.credit)).sum| ≤ 1 / 10 ^ 8

-----------------------------------------------------------------------------------------
-- The engine
-----------------------------------------------------------------------------------------

/-- What a settlement is asked with, as far as the engine reads it. -/
structure SettlementPayload where
  clientOrderId : String
  status : SettlementStatus
  grossPayout : Number
  multiplier : Number
  deriving DecidableEq

/-- `SettlementPayloadSchema` accepts the payload. -/
def SettlementPayload.valid (payload : SettlementPayload) : Bool :=
  payload.clientOrderId ≠ "" ∧ 0 ≤ payload.grossPayout ∧ 1 ≤ payload.multiplier

/-- How the database takes a call: it commits, it fails before the commit, or its answer is
lost after the commit.
-/
inductive Commit where
  | succeeds
  | fails
  | answerLost
  deriving DecidableEq

/-- `insertEntry`: no row for an entry of zeros, and nothing where the row is refused. -/
def insertEntry (clientOrderId : String) (account : LedgerAccount) (debit credit : ℚ)
    (memo : String) : Option (List LedgerEntry) :=
  if debit = 0 ∧ credit = 0 then some []
  else
    let entry : LedgerEntry :=
      { clientOrderId, account, debit := toFixed8 debit, credit := toFixed8 credit, memo }
    if entry.storable then some [entry] else none

/-- The entries of a settlement, or nothing where one of them is refused. -/
def settlementEntries (clientOrderId : String) (wager gross : ℚ)
    (status : SettlementStatus) : Option (List LedgerEntry) :=
  let insert := insertEntry clientOrderId
  let netPnl := gross - wager
  match status with
  | .void => do
      let refund ← insert .hotWallet wager 0 "void refund"
      let close ← insert .unsettled 0 wager "exposure close void"
      some (refund ++ close)
  | .loss => do
      let loss ← insert .realizedPnl wager 0 "pnl loss"
      let close ← insert .unsettled 0 wager "exposure close"
      some (loss ++ close)
  | .win => do
      let payout ← if 0 < gross then insert .hotWallet gross 0 "payout" else some []
      let close ← insert .unsettled 0 wager "exposure close"
      let profit ←
        if 0 < netPnl then insert .realizedPnl 0 netPnl "pnl profit"
        else if netPnl < 0 then insert .realizedPnl |netPnl| 0 "pnl residual"
        else some []
      some (payout ++ close ++ profit)

/-- What `settleOrderOnce` writes for an order that is not final: its entries and its row.
Nothing where the database refuses one of them or the entries do not balance.
-/
def SettlementOrder.settlementWrites (order : SettlementOrder) (payload : SettlementPayload)
    (entries : List LedgerEntry) : Option (List LedgerEntry × SettlementOrder) := do
  let gross ← payload.grossPayout.finiteValue
  let written ← settlementEntries payload.clientOrderId order.wagerAmount gross payload.status
  let grossPayout ← numeric payload.grossPayout
  let exitMultiplier ← numeric payload.multiplier
  if balanced (entries ++ written) payload.clientOrderId
      ∧ order.status.mayBecome payload.status.final then
    some
      (written,
        { order with
          status := payload.status.final
          grossPayout := some grossPayout
          exitMultiplier := some exitMultiplier })
  else none

/-- What `settleOrder` answers. -/
inductive SettleAnswer where
  | settled
  | alreadyFinal
  | thrown
  deriving DecidableEq

/-- `settleOrder`. A retry after a serialization failure starts from tables that the failed
attempt left alone, so the call is its last attempt.
-/
def settleOrder (db : SettlementDb) (payload : SettlementPayload) (commit : Commit)
    : SettlementDb × SettleAnswer :=
  if payload.valid = false ∨ commit = .fails then (db, .thrown)
  else
    match db.orders.get payload.clientOrderId with
    | none => (db, .thrown)
    | some order =>
        if order.status.isFinal then
          (db, if commit = .answerLost then .thrown else .alreadyFinal)
        else
          match order.settlementWrites payload db.entries with
          | none => (db, .thrown)
          | some (written, settled) =>
              ({ orders := db.orders.set payload.clientOrderId settled
                 entries := db.entries ++ written },
                if commit = .answerLost then .thrown else .settled)

/-- The statuses that `markReconciling` starts from. -/
def OrderStatus.marksReconciling (status : OrderStatus) : Bool :=
  status ∈ [.dispatched, .pendingSettlement, .orderIntent]

/-- `markReconciling`, and whether it throws. The trigger refuses an order whose intent was
never dispatched, although the update asks for it.
-/
def markReconciling (db : SettlementDb) (clientOrderId : String) (commit : Commit)
    : SettlementDb × Bool :=
  let thrown : Bool := commit ≠ .succeeds
  match db.orders.get clientOrderId with
  | some order =>
      if commit = .fails ∨ order.status.marksReconciling = false then (db, thrown)
      else if order.status.mayBecome .reconciling then
        ({ db with
           orders := db.orders.set clientOrderId { order with status := .reconciling } },
          thrown)
      else (db, true)
  | none => (db, thrown)

end CrashWave.Settlement
