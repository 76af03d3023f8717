import CrashWave.JavaScript.Value
import CrashWave.Settlement.Engine
import Mathlib.Data.List.Sort

/-! The paths that settle orders: the settlement worker, the reconciliation at boot and the
periodic reconciler.
-/

namespace CrashWave.Settlement

open JavaScript

/-- Who settles for a worker: a bound callback, which may reject, the engine, or nobody. -/
inductive SettlementAuthority where
  | callback (resolves : Bool)
  | engine
  | unbound
  deriving DecidableEq

/-- The payload that the settlement worker hands to the engine for an item of an order. -/
def workerPayload (clientOrderId : String) (item : Value) : SettlementPayload where
  clientOrderId
  status :=
    if Value.isText "LOSS" (item.getProperty "status") then .loss
    else if Value.isText "VOID" (item.getProperty "status") then .void
    else .win
  grossPayout := (item.getPresent "grossPayout").elim 0 Value.toNumber
  multiplier := (item.getPresent "multiplier").elim 1 Value.toNumber

/-- `SettlementWorker.handle`: the tables, and whether `BetSettled` is emitted. -/
def handleSettlement (db : SettlementDb) (authority : SettlementAuthority) (item : Value)
    (commit : Commit) : SettlementDb × Bool :=
  match authority, item.getProperty "clientOrderId" with
  | .callback resolves, _ => (db, resolves)
  | .engine, some (.string clientOrderId) =>
      let (settled, answer) := settleOrder db (workerPayload clientOrderId item) commit
      (settled, answer ≠ .thrown)
  | _, _ => (db, false)

/-- What evidence says of an order. -/
inductive EvidenceStatus where
  | win
  | loss
  | void
  | pending
  | unknown
  deriving DecidableEq

/-- The outcome that a status of evidence states. -/
def EvidenceStatus.outcome : EvidenceStatus → Option SettlementStatus
  | .win => some .win
  | .loss => some .loss
  | .void => some .void
  | _ => none

/-- `SettlementEvidence`, with the fields that reach the engine. -/
structure SettlementEvidence where
  status : EvidenceStatus
  grossPayout : Option Number := none
  multiplier : Option Number := none
  deriving DecidableEq

/-- How the search for the evidence of an order ends. -/
inductive EvidenceAnswer where
  | noProvider
  | rejected
  | answered (evidence : Option SettlementEvidence)
  deriving DecidableEq

/-- The evidence, where there is some. -/
def EvidenceAnswer.evidence : EvidenceAnswer → Option SettlementEvidence
  | .answered evidence => evidence
  | _ => none

/-- What a reconciliation reads of an open order. -/
structure OpenOrder where
  clientOrderId : String
  status : OrderStatus
  wagerAmount : ℚ
  deriving DecidableEq

/-- What became of an order at boot. -/
inductive BootOutcome where
  | settled
  | stillOpen
  | error
  deriving DecidableEq

/-- The payload that the reconciliation at boot builds from evidence. -/
def bootPayload (row : OpenOrder) (evidence : SettlementEvidence)
    (status : SettlementStatus) : SettlementPayload where
  clientOrderId := row.clientOrderId
  status
  grossPayout :=
    evidence.grossPayout.getD
      (if status = .win then .finite row.wagerAmount
        else if status = .void then .finite row.wagerAmount
        else 0)
  multiplier := Number.max 1 (evidence.multiplier.getD 1)

/-- One order of `bootReconcileOpenOrders`. -/
def bootReconcileOrder (db : SettlementDb) (row : OpenOrder) (answer : EvidenceAnswer)
    (commit : Commit) : SettlementDb × BootOutcome :=
  let (marked, thrown) := markReconciling db row.clientOrderId commit
  match answer with
  | .rejected => (db, .error)
  | .answered (some evidence) =>
      match evidence.status.outcome with
      | some status =>
          let (settled, answer) := settleOrder db (bootPayload row evidence status) commit
          (settled, if answer = .thrown then .error else .settled)
      | none => (marked, if thrown then .error else .stillOpen)
  | _ => (marked, if thrown then .error else .stillOpen)

/-- What became of an order in a tick. -/
inductive TickOutcome where
  | settled
  | voided
  | reconciling
  | left
  | error
  deriving DecidableEq

/-- The payload that the periodic reconciler builds from evidence. -/
def tickPayload (row : OpenOrder) (evidence : SettlementEvidence)
    (status : SettlementStatus) : SettlementPayload where
  clientOrderId := row.clientOrderId
  status
  grossPayout :=
    evidence.grossPayout.getD
      (if status = .win then .finite row.wagerAmount
        else if status = .void then .finite row.wagerAmount
        else 0)
  multiplier := Number.max 1 (evidence.multiplier.getD 1)

/-- One order of `SettlementReconciler.tick`. -/
def tickOrder (db : SettlementDb) (row : OpenOrder) (answer : EvidenceAnswer)
    (commit : Commit) : SettlementDb × TickOutcome :=
  let (marked, thrown) := markReconciling db row.clientOrderId commit
  let markOpen :=
    if row.status ≠ .reconciling then (marked, if thrown then .error else .reconciling)
    else (db, TickOutcome.left)
  match answer with
  | .rejected => (db, .error)
  | .answered (some evidence) =>
      match evidence.status.outcome with
      | some status =>
          let (settled, answer) := settleOrder db (tickPayload row evidence status) commit
          (settled,
            if answer = .thrown then .error
            else if status = .void then .voided
            else .settled)
      | none =>
          if evidence.status = .pending then
            (marked, if thrown then .error else .reconciling)
          else markOpen
  | _ => markOpen

/-- The open orders that a reconciliation works through, oldest first. -/
def openOrders (db : SettlementDb) (selects : SettlementOrder → Bool) (limit : Nat)
    : List OpenOrder :=
  let selected := db.orders.entries.filter fun entry => selects entry.2
  let oldestFirst :=
    selected.insertionSort fun one other => one.2.createdAt ≤ other.2.createdAt
  (oldestFirst.take limit).map fun entry =>
    { clientOrderId := entry.1
      status := entry.2.status
      wagerAmount := entry.2.wagerAmount }

/-- The orders that are scanned at boot. -/
def bootOrders (db : SettlementDb) (limit : Nat) : List OpenOrder :=
  openOrders db
    (fun order => order.status ∉ [.settledWin, .settledLoss, .void, .failed])
    limit

/-- The orders that are scanned in a tick. -/
def tickOrders (db : SettlementDb) (cutoff : Int) (batchSize : Nat) : List OpenOrder :=
  openOrders db
    (fun order =>
      order.status ∈ [.dispatched, .pendingSettlement, .reconciling, .orderIntent]
      ∧ order.createdAt < cutoff)
    batchSize

/-- `BootReconcileResult`. Its `voided` is never counted. -/
structure BootReconcileResult where
  opened : Nat
  settled : Nat := 0
  voided : Nat := 0
  stillOpen : Nat := 0
  errors : Nat := 0
  deriving DecidableEq

/-- Counts the outcome of one order. -/
def BootReconcileResult.count (result : BootReconcileResult)
    : BootOutcome → BootReconcileResult
  | .settled => { result with settled := result.settled + 1 }
  | .stillOpen => { result with stillOpen := result.stillOpen + 1 }
  | .error => { result with errors := result.errors + 1 }

/-- What the world answers about an order during a reconciliation. -/
structure ReconcileAnswers where
  evidence : String → EvidenceAnswer
  commit : String → Commit

/-- `bootReconcileOpenOrders`. -/
def bootReconcileOpenOrders (db : SettlementDb) (answers : ReconcileAnswers) (limit : Nat)
    : SettlementDb × BootReconcileResult :=
  let rows := bootOrders db limit
  rows.foldl
    (fun (db, result) row =>
      let (db, outcome) :=
        bootReconcileOrder db row (answers.evidence row.clientOrderId)
          (answers.commit row.clientOrderId)
      (db, result.count outcome))
    (db, { opened := rows.length })

/-- The counts of a tick. -/
structure TickResult where
  processed : Nat := 0
  voided : Nat := 0
  settled : Nat := 0
  reconciling : Nat := 0
  deriving DecidableEq

/-- Counts the outcome of one order. -/
def TickResult.count (result : TickResult) (outcome : TickOutcome) : TickResult :=
  let result := { result with processed := result.processed + 1 }
  match outcome with
  | .settled => { result with settled := result.settled + 1 }
  | .voided => { result with voided := result.voided + 1 }
  | .reconciling => { result with reconciling := result.reconciling + 1 }
  | .left | .error => result

/-- `SettlementReconciler.tick`. -/
def tick (db : SettlementDb) (answers : ReconcileAnswers) (cutoff : Int) (batchSize : Nat)
    : SettlementDb × TickResult :=
  (tickOrders db cutoff batchSize).foldl
    (fun (db, result) row =>
      let (db, outcome) :=
        tickOrder db row (answers.evidence row.clientOrderId)
          (answers.commit row.clientOrderId)
      (db, result.count outcome))
    (db, {})

end CrashWave.Settlement
