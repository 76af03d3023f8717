import CrashWave.JavaScript.FixedPoint
import CrashWave.Runs.Attempts
import CrashWave.Settlement.Engine

/-! The calls of the settlement engine over the life of an order: its intent, its dispatch, its
reconciliation and its settlement, with the retries after a serialization failure; and what the
ledger holds of one order, account by account, and what each of the engine's writes adds to it.
-/

namespace CrashWave.Settlement

open JavaScript

/-- `CreateOrderIntent`, with the fields that reach the books. -/
structure CreateOrderIntent where
  clientOrderId : String
  wagerAmount : ℚ
  /-- When the database stamps the row. -/
  createdAt : Int

/-- What an intent writes: its entries, in balance, and its row. Nothing where the database
refuses one of them or the entries do not balance.
-/
def CreateOrderIntent.writes (intent : CreateOrderIntent) (entries : List LedgerEntry)
    : Option (List LedgerEntry × SettlementOrder) := do
  let stored ← numeric (.finite intent.wagerAmount)
  let opened ← insertEntry intent.clientOrderId .unsettled intent.wagerAmount 0 "exposure open"
  let locked ← insertEntry intent.clientOrderId .hotWallet 0 intent.wagerAmount "wager lock"
  if balanced (entries ++ (opened ++ locked)) intent.clientOrderId then
    some
      (opened ++ locked,
        { wagerAmount := stored, status := .orderIntent, createdAt := intent.createdAt })
  else none

/-- How an attempt at a transaction ends: with the error on which it is tried again, which
leaves the tables alone, or for good.
-/
inductive AttemptEnd where
  | serializationFailure
  | ends (commit : Commit)
  deriving DecidableEq

/-- An error, as far as the retry wrapper reads it. -/
inductive CallError where
  | serializationFailure
  | other
  deriving DecidableEq

/-- `shouldRetry`: the code of the error is 40001. -/
def CallError.shouldRetry (error : CallError) : Bool := error = .serializationFailure

/-- `createOrderIntentOnce`: an order that exists is left as it is. -/
def createOrderIntentOnce (intent : CreateOrderIntent) (db : SettlementDb)
    : AttemptEnd → SettlementDb × Except CallError Unit
  | .serializationFailure => (db, .error .serializationFailure)
  | .ends commit =>
      if commit = .fails then (db, .error .other)
      else
        let answer : Except CallError Unit :=
          if commit = .answerLost then .error .other else .ok ()
        match db.orders.get intent.clientOrderId with
        | some _ => (db, answer)
        | none =>
            match intent.writes db.entries with
            | none => (db, .error .other)
            | some (written, order) =>
                ({ orders := db.orders.set intent.clientOrderId order
                   entries := db.entries ++ written },
                  answer)

/-- `settleOrderOnce`. -/
def settleOrderOnce (payload : SettlementPayload) (db : SettlementDb)
    : AttemptEnd → SettlementDb × Except CallError SettleAnswer
  | .serializationFailure => (db, .error .serializationFailure)
  | .ends commit =>
      let settled := settleOrder db payload commit
      (settled.1, if settled.2 = .thrown then .error .other else .ok settled.2)

/-- `markDispatched`, and whether it throws. -/
def markDispatched (db : SettlementDb) (clientOrderId : String) (commit : Commit)
    : SettlementDb × Bool :=
  let thrown : Bool := commit ≠ .succeeds
  match db.orders.get clientOrderId with
  | some order =>
      if commit = .fails ∨ order.status ≠ .orderIntent then (db, thrown)
      else
        ({ db with
           orders := db.orders.set clientOrderId { order with status := .dispatched } },
          thrown)
  | none => (db, thrown)

/-- `maxRetries` of the calls that are retried. -/
def maxRetries : Nat := 4

/-- A call of the engine, with what becomes of each attempt at it. -/
inductive EngineCall where
  | createOrderIntent (intent : CreateOrderIntent) (attempts : Nat → AttemptEnd)
  | markDispatched (clientOrderId : String) (commit : Commit)
  | markReconciling (clientOrderId : String) (commit : Commit)
  | settleOrder (payload : SettlementPayload) (attempts : Nat → AttemptEnd)

/-- The order that a call is about. -/
def EngineCall.clientOrderId : EngineCall → String
  | .createOrderIntent intent _ => intent.clientOrderId
  | .markDispatched clientOrderId _ => clientOrderId
  | .markReconciling clientOrderId _ => clientOrderId
  | .settleOrder payload _ => payload.clientOrderId

/-- The tables after a call. -/
def engineStep (db : SettlementDb) : EngineCall → SettlementDb
  | .createOrderIntent intent attempts =>
      (Runs.withRetry CallError.shouldRetry
        (fun db attempt => createOrderIntentOnce intent db attempt) maxRetries attempts db).1
  | .markDispatched clientOrderId commit => (Settlement.markDispatched db clientOrderId commit).1
  | .markReconciling clientOrderId commit =>
      (Settlement.markReconciling db clientOrderId commit).1
  | .settleOrder payload attempts =>
      (Runs.withRetry CallError.shouldRetry
        (fun db attempt => settleOrderOnce payload db attempt) maxRetries attempts db).1

/-- The tables before the first order. -/
def SettlementDb.empty : SettlementDb where
  orders := ∅
  entries := []

variable {db : SettlementDb}

/-- An intent that fails on serialization leaves the tables as they were. -/
theorem createOrderIntentOnce_clean (intent : CreateOrderIntent) (db : SettlementDb)
    (attempt : AttemptEnd) (error : CallError)
    (failed : (createOrderIntentOnce intent db attempt).2 = .error error)
    (again : error.shouldRetry = true)
    : (createOrderIntentOnce intent db attempt).1 = db := by
  obtain rfl : error = .serializationFailure := of_decide_eq_true again
  cases attempt with
  | serializationFailure => rfl
  | ends commit =>
      simp only [createOrderIntentOnce] at failed
      cases commit with
      | fails => cases failed
      | succeeds | answerLost =>
          simp only [reduceCtorEq, if_false, if_true] at failed
          split at failed
          · cases failed
          · split at failed <;> cases failed

/-- A settlement that fails on serialization leaves the tables as they were. -/
theorem settleOrderOnce_clean (payload : SettlementPayload) (db : SettlementDb)
    (attempt : AttemptEnd) (error : CallError)
    (failed : (settleOrderOnce payload db attempt).2 = .error error)
    (again : error.shouldRetry = true)
    : (settleOrderOnce payload db attempt).1 = db := by
  obtain rfl : error = .serializationFailure := of_decide_eq_true again
  cases attempt with
  | serializationFailure => rfl
  | ends commit =>
      simp only [settleOrderOnce] at failed
      split at failed <;> cases failed

/-- An intent with its retries writes its order once, or leaves the tables alone. -/
theorem engineStep_createOrderIntent (intent : CreateOrderIntent)
    (attempts : Nat → AttemptEnd)
    : engineStep db (.createOrderIntent intent attempts) = db
      ∨ ∃ written order,
        db.orders.get intent.clientOrderId = none
        ∧ intent.writes db.entries = some (written, order)
        ∧ engineStep db (.createOrderIntent intent attempts)
          = { orders := db.orders.set intent.clientOrderId order
              entries := db.entries ++ written } := by
  obtain ⟨attempt, last⟩ :=
    Runs.withRetry_eq_attempt (createOrderIntentOnce_clean intent) maxRetries attempts db
  rw [engineStep, last]
  cases attempts attempt with
  | serializationFailure => exact .inl rfl
  | ends commit =>
      simp only [createOrderIntentOnce]
      split
      · exact .inl rfl
      · split
        · exact .inl rfl
        · next absent =>
            split
            · exact .inl rfl
            · next written order writes => exact .inr ⟨written, order, absent, writes, rfl⟩

/-- A settlement with its retries is one of its attempts, or leaves the tables alone. -/
theorem engineStep_settleOrder (payload : SettlementPayload) (attempts : Nat → AttemptEnd)
    : engineStep db (.settleOrder payload attempts) = db
      ∨ ∃ commit, engineStep db (.settleOrder payload attempts)
        = (settleOrder db payload commit).1 := by
  obtain ⟨attempt, last⟩ :=
    Runs.withRetry_eq_attempt (settleOrderOnce_clean payload) maxRetries attempts db
  rw [engineStep, last]
  cases attempts attempt with
  | serializationFailure => exact .inl rfl
  | ends commit => exact .inr ⟨commit, rfl⟩

end CrashWave.Settlement

-----------------------------------------------------------------------------------------
-- The books of an order
-----------------------------------------------------------------------------------------

namespace CrashWave.Settlement

open JavaScript

/-- The entries of an order. -/
def entriesOf (entries : List LedgerEntry) (clientOrderId : String) : List LedgerEntry :=
  entries.filter fun entry => entry.clientOrderId = clientOrderId

/-- The debits less the credits of some entries. -/
def total (entries : List LedgerEntry) : ℚ :=
  (entries.map fun entry => entry.debit - entry.credit).sum

/-- The debits less the credits that some entries post to an account. -/
def posted (entries : List LedgerEntry) (account : LedgerAccount) : ℚ :=
  total (entries.filter fun entry => entry.account = account)

/-- The net of an order on an account. -/
def accountNet (db : SettlementDb) (clientOrderId : String) (account : LedgerAccount) : ℚ :=
  posted (entriesOf db.entries clientOrderId) account

/-- The net of an order over all accounts. -/
def orderNet (db : SettlementDb) (clientOrderId : String) : ℚ :=
  total (entriesOf db.entries clientOrderId)

variable {entries written : List LedgerEntry} {clientOrderId : String}

@[simp] theorem entriesOf_nil : entriesOf [] clientOrderId = [] := rfl

@[simp] theorem posted_nil (account : LedgerAccount) : posted [] account = 0 := rfl

@[simp] theorem posted_append (account : LedgerAccount)
    : posted (entries ++ written) account = posted entries account + posted written account := by
  simp [posted, total]

/-- The total is the sum over the three accounts, by induction on the entries. -/
theorem total_eq_posted (entries : List LedgerEntry)
    : total entries
      = posted entries .hotWallet + posted entries .unsettled + posted entries .realizedPnl := by
  induction entries with
  | nil => simp [total]
  | cons entry rest ih =>
      obtain ⟨id, account, debit, credit, memo⟩ := entry
      simp only [total, posted] at ih ⊢
      cases account <;> simp [ih] <;> ring

/-- Entries that all belong to one order. -/
def AllOf (clientOrderId : String) (entries : List LedgerEntry) : Prop :=
  ∀ entry ∈ entries, entry.clientOrderId = clientOrderId

theorem AllOf.append (one : AllOf clientOrderId entries) (other : AllOf clientOrderId written)
    : AllOf clientOrderId (entries ++ written) :=
  fun entry member => (List.mem_append.mp member).elim (one entry) (other entry)

/-- Entries of an order add up with those it has. -/
theorem AllOf.entriesOf_append (own : AllOf clientOrderId written)
    (entries : List LedgerEntry)
    : entriesOf (entries ++ written) clientOrderId = entriesOf entries clientOrderId ++ written
    := by
  rw [entriesOf, List.filter_append, entriesOf]
  congr 1
  exact List.filter_eq_self.mpr fun entry member => decide_eq_true (own entry member)

/-- Entries of an order leave those of any other. -/
theorem AllOf.entriesOf_append_of_ne {other : String} (own : AllOf clientOrderId written)
    (entries : List LedgerEntry) (different : other ≠ clientOrderId)
    : entriesOf (entries ++ written) other = entriesOf entries other := by
  have none : written.filter (fun entry => entry.clientOrderId = other) = [] := by
    rw [List.filter_eq_nil_iff]
    intro entry member
    simpa [own entry member] using different.symm
  rw [entriesOf, List.filter_append, none, List.append_nil, entriesOf]

/-- The engine rounds to eight decimals. -/
theorem toFixed8_eq (amount : ℚ) : toFixed8 amount = toFixed 8 amount := by
  rw [toFixed8, toFixed, round_eq]

/-- A value that the database takes is the rounded one. -/
theorem numeric_finite {value stored : ℚ} (taken : numeric (.finite value) = some stored)
    : stored = toFixed 8 value := by
  rw [← toFixed8_eq]
  simp only [numeric, Option.ite_none_right_eq_some, Option.some.injEq] at taken
  exact taken.2.symm

/-- What an inserted entry posts: its rounded debit less its rounded credit, on its own
account only.
-/
theorem insertEntry_spec {account : LedgerAccount} {debit credit : ℚ} {memo : String}
    (inserted : insertEntry clientOrderId account debit credit memo = some written)
    : AllOf clientOrderId written
      ∧ ∀ other, posted written other
        = if other = account then toFixed 8 debit - toFixed 8 credit else 0 := by
  unfold insertEntry at inserted
  split at inserted
  · next zeros =>
      obtain rfl := Option.some.inj inserted
      refine ⟨by simp [AllOf], fun other => ?_⟩
      simp [zeros]
  · obtain ⟨-, inserted⟩ := Option.ite_none_right_eq_some.mp inserted
    obtain rfl := Option.some.inj inserted
    refine ⟨by simp [AllOf], fun other => ?_⟩
    by_cases same : other = account
    · simp [posted, total, same, toFixed8_eq]
    · simp [posted, total, same, Ne.symm same]

/-- The postings of a settlement. -/
def settlementPostings (wager gross : ℚ) : SettlementStatus → LedgerAccount → ℚ
  | .void, .hotWallet => toFixed 8 wager
  | .loss, .realizedPnl => toFixed 8 wager
  | .win, .hotWallet => toFixed 8 gross
  | .win, .realizedPnl =>
      if wager ≤ gross then - toFixed 8 (gross - wager) else toFixed 8 (wager - gross)
  | _, .unsettled => - toFixed 8 wager
  | _, _ => 0

/-- The entries of a win: its payout and its profit or residual, each where it is not zero. -/
theorem settlementEntries_win (wager gross : ℚ)
    : settlementEntries clientOrderId wager gross .win
      = (if 0 < gross then insertEntry clientOrderId .hotWallet gross 0 "payout"
          else some []).bind fun payout =>
        (insertEntry clientOrderId .unsettled 0 wager "exposure close").bind fun close =>
        (if 0 < gross - wager then
            insertEntry clientOrderId .realizedPnl 0 (gross - wager) "pnl profit"
          else if gross - wager < 0 then
            insertEntry clientOrderId .realizedPnl |gross - wager| 0 "pnl residual"
          else some []).bind fun profit =>
        some (payout ++ close ++ profit) := by
  simp only [settlementEntries, Option.bind_eq_bind]
  split <;> split <;> first | rfl | (split <;> rfl)

/-- A payout is posted to the hot wallet. No row is written for a payout of zero. -/
theorem insertPayout_spec {gross : ℚ} (nonneg : 0 ≤ gross)
    (paid : (if 0 < gross then insertEntry clientOrderId .hotWallet gross 0 "payout"
      else some []) = some written)
    : AllOf clientOrderId written
      ∧ ∀ account, posted written account
        = if account = .hotWallet then toFixed 8 gross else 0 := by
  split at paid
  · simpa [toFixed_zero] using insertEntry_spec paid
  · next none =>
      obtain rfl := Option.some.inj paid
      obtain rfl : gross = 0 := le_antisymm (not_lt.mp none) nonneg
      exact ⟨by simp [AllOf], fun account => by simp [toFixed_zero]⟩

/-- A profit or a residual is posted to the realized profit and loss. No row is written where a
win pays the wager.
-/
theorem insertProfit_spec {wager gross : ℚ}
    (booked : (if 0 < gross - wager then
        insertEntry clientOrderId .realizedPnl 0 (gross - wager) "pnl profit"
      else if gross - wager < 0 then
        insertEntry clientOrderId .realizedPnl |gross - wager| 0 "pnl residual"
      else some []) = some written)
    : AllOf clientOrderId written
      ∧ ∀ account, posted written account
        = if account = .realizedPnl then
            if wager ≤ gross then - toFixed 8 (gross - wager) else toFixed 8 (wager - gross)
          else 0 := by
  split at booked
  · next gain =>
      have covered : wager ≤ gross := (sub_pos.mp gain).le
      simpa [toFixed_zero, covered] using insertEntry_spec booked
  · next noGain =>
      split at booked
      · next residual =>
          have short : ¬ wager ≤ gross := not_le.mpr (sub_neg.mp residual)
          simpa [toFixed_zero, short, abs_of_neg residual] using insertEntry_spec booked
      · next noResidual =>
          obtain rfl := Option.some.inj booked
          obtain rfl : gross = wager := by linarith
          exact ⟨by simp [AllOf], fun account => by simp [toFixed_zero]⟩

/-- A settlement posts to the books of its order what its outcome asks for. -/
theorem settlementEntries_spec {wager gross : ℚ} {status : SettlementStatus}
    (nonneg : 0 ≤ gross)
    (inserted : settlementEntries clientOrderId wager gross status = some written)
    : AllOf clientOrderId written
      ∧ ∀ account, posted written account = settlementPostings wager gross status account := by
  cases status with
  | void =>
      simp only [settlementEntries, Option.bind_eq_bind, Option.bind_eq_some_iff,
        Option.some.injEq] at inserted
      obtain ⟨refund, refunded, close, closed, rfl⟩ := inserted
      obtain ⟨ownRefund, postsRefund⟩ := insertEntry_spec refunded
      obtain ⟨ownClose, postsClose⟩ := insertEntry_spec closed
      refine ⟨ownRefund.append ownClose, fun account => ?_⟩
      rw [posted_append, postsRefund, postsClose]
      cases account <;> simp [settlementPostings, toFixed_zero]
  | loss =>
      simp only [settlementEntries, Option.bind_eq_bind, Option.bind_eq_some_iff,
        Option.some.injEq] at inserted
      obtain ⟨loss, lost, close, closed, rfl⟩ := inserted
      obtain ⟨ownLoss, postsLoss⟩ := insertEntry_spec lost
      obtain ⟨ownClose, postsClose⟩ := insertEntry_spec closed
      refine ⟨ownLoss.append ownClose, fun account => ?_⟩
      rw [posted_append, postsLoss, postsClose]
      cases account <;> simp [settlementPostings, toFixed_zero]
  | win =>
      simp only [settlementEntries_win, Option.bind_eq_some_iff, Option.some.injEq] at inserted
      obtain ⟨payout, paid, close, closed, profit, booked, rfl⟩ := inserted
      obtain ⟨ownClose, postsClose⟩ := insertEntry_spec closed
      obtain ⟨ownPayout, postsPayout⟩ := insertPayout_spec nonneg paid
      obtain ⟨ownProfit, postsProfit⟩ := insertProfit_spec booked
      refine ⟨(ownPayout.append ownClose).append ownProfit, fun account => ?_⟩
      rw [posted_append, posted_append, postsPayout, postsClose, postsProfit]
      cases account <;> simp [settlementPostings, toFixed_zero]

/-- What an intent writes: its row with the rounded wager, the wager on the open exposure and
off the hot wallet.
-/
theorem CreateOrderIntent.writes_spec {intent : CreateOrderIntent} {order : SettlementOrder}
    (writes : intent.writes entries = some (written, order))
    : order.status = .orderIntent
      ∧ order.wagerAmount = toFixed 8 intent.wagerAmount
      ∧ AllOf intent.clientOrderId written
      ∧ posted written .unsettled = order.wagerAmount
      ∧ posted written .hotWallet = - order.wagerAmount
      ∧ posted written .realizedPnl = 0 := by
  simp only [CreateOrderIntent.writes, Option.bind_eq_bind, Option.bind_eq_some_iff,
    Option.ite_none_right_eq_some, Option.some.injEq, Prod.mk.injEq] at writes
  obtain ⟨stored, taken, opened, exposure, locked, lock, -, rfl, rfl⟩ := writes
  obtain rfl := numeric_finite taken
  obtain ⟨ownExposure, postsExposure⟩ := insertEntry_spec exposure
  obtain ⟨ownLock, postsLock⟩ := insertEntry_spec lock
  refine ⟨rfl, rfl, ownExposure.append ownLock, ?_, ?_, ?_⟩ <;>
    simp [postsExposure, postsLock, toFixed_zero]

end CrashWave.Settlement
