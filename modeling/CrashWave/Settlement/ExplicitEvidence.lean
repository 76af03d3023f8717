import CrashWave.Runs.Basic
import CrashWave.Settlement.Reconcilers

/-! Whether an order is settled only as its input or its evidence explicitly states. Each
path fills in what is missing: the worker takes a missing status for a win, and all three
take a missing payout for one of their own.
-/

namespace CrashWave.Settlement

open JavaScript

/-- One order on one of the paths that settle orders. -/
inductive SettlementInput where
  | worker (authority : SettlementAuthority) (item : Value) (commit : Commit)
  | boot (row : OpenOrder) (answer : EvidenceAnswer) (commit : Commit)
  | tick (row : OpenOrder) (answer : EvidenceAnswer) (commit : Commit)

/-- The tables after one order was worked on. -/
def settlementStep (db : SettlementDb) : SettlementInput → SettlementDb
  | .worker authority item commit => (handleSettlement db authority item commit).1
  | .boot row answer commit => (bootReconcileOrder db row answer commit).1
  | .tick row answer commit => (tickOrder db row answer commit).1

/-- An outcome and a payout, as far as they are stated. -/
structure Statement where
  status : Option SettlementStatus
  grossPayout : Option Number

/-- What an item of the worker states. -/
def statedBy (item : Value) : Statement where
  status :=
    if Value.isText "LOSS" (item.getProperty "status") then some .loss
    else if Value.isText "VOID" (item.getProperty "status") then some .void
    else if Value.isText "WIN" (item.getProperty "status") then some .win
    else none
  grossPayout := (item.getPresent "grossPayout").map Value.toNumber

/-- What an answer about evidence states. -/
def EvidenceAnswer.statement (answer : EvidenceAnswer) : Statement where
  status := answer.evidence.bind (·.status.outcome)
  grossPayout := answer.evidence.bind (·.grossPayout)

/-- What an input states of its order. -/
def SettlementInput.statement : SettlementInput → Statement
  | .worker _ item _ => statedBy item
  | .boot _ answer _ | .tick _ answer _ => answer.statement

/-- An order that was not final became settled with this outcome and this payout. -/
def SettledAs (before after : SettlementDb) (clientOrderId : String)
    (status : SettlementStatus) (payout : ℚ) : Prop :=
  ∃ old new,
    before.orders.get clientOrderId = some old
    ∧ old.status.isFinal = false
    ∧ after.orders.get clientOrderId = some new
    ∧ new.status = status.final
    ∧ new.grossPayout = some payout

/-- Whatever the input settles, it settles with the outcome and the payout that it states. -/
def SettlesAsStated (db : SettlementDb) (input : SettlementInput) : Prop :=
  ∀ clientOrderId status payout,
    SettledAs db (settlementStep db input) clientOrderId status payout
    → input.statement.status = some status
      ∧ ∃ gross, input.statement.grossPayout = some gross ∧ numeric gross = some payout

/-- What an input asks the engine to settle. -/
def SettlementInput.offered : SettlementInput → Option (SettlementPayload × Commit)
  | .worker .engine item commit =>
      match item.getProperty "clientOrderId" with
      | some (.string clientOrderId) => some (workerPayload clientOrderId item, commit)
      | _ => none
  | .worker _ _ _ => none
  | .boot row answer commit =>
      answer.evidence.bind fun evidence =>
        evidence.status.outcome.map fun status =>
          (bootPayload row evidence status, commit)
  | .tick row answer commit =>
      answer.evidence.bind fun evidence =>
        evidence.status.outcome.map fun status =>
          (tickPayload row evidence status, commit)

/-- The engine settles the order of the payload: the payload is valid, its order is open,
and the database takes the settlement and commits it.
-/
structure Accepts (db : SettlementDb) (payload : SettlementPayload) (commit : Commit)
    : Prop where
  commits : commit ≠ .fails
  valid : payload.valid = true
  taken
    : ∃ order, db.orders.get payload.clientOrderId = some order
      ∧ order.status.isFinal = false
      ∧ (order.settlementWrites payload db.entries).isSome = true

/-- The input states the outcome and the payout, or nothing of what it offers is settled. -/
def Evidenced (db : SettlementDb) (input : SettlementInput) : Prop :=
  (input.statement.status.isSome = true ∧ input.statement.grossPayout.isSome = true)
  ∨ ∀ payload commit, input.offered = some (payload, commit) → ¬ Accepts db payload commit

variable {db : SettlementDb}

/-- The row that a settlement writes carries its outcome and its payout. -/
theorem settlementWrites_spec {order settled : SettlementOrder}
    {payload : SettlementPayload} {entries written : List LedgerEntry}
    (writes : order.settlementWrites payload entries = some (written, settled))
    : settled.status = payload.status.final
      ∧ settled.grossPayout = numeric payload.grossPayout
      ∧ settled.grossPayout.isSome = true := by
  simp only [SettlementOrder.settlementWrites, Option.bind_eq_bind,
    Option.bind_eq_some_iff, Option.ite_none_right_eq_some, Option.some.injEq,
    Prod.mk.injEq] at writes
  obtain ⟨gross, -, entries, -, payout, paid, multiplier, -, -, -, rfl⟩ := writes
  exact ⟨rfl, paid.symm, rfl⟩

/-- A settlement leaves the tables as they are unless the engine accepts it. -/
theorem settleOrder_of_not_accepts {payload : SettlementPayload} {commit : Commit}
    (refused : ¬ Accepts db payload commit)
    : (settleOrder db payload commit).1 = db := by
  unfold settleOrder
  split
  · rfl
  · next passes =>
      simp only [not_or, Bool.not_eq_false] at passes
      split
      · rfl
      · next order found =>
          split
          · rfl
          · next unsettled =>
              split
              · rfl
              · next written settled writes =>
                  exact absurd
                    ⟨passes.2, passes.1, order, found, by simpa using unsettled,
                      by simp [writes]⟩
                    refused

/-- An accepted settlement writes the row of its order, and no other. -/
theorem settleOrder_of_accepts {payload : SettlementPayload} {commit : Commit}
    (accepts : Accepts db payload commit)
    : ∃ order settled written,
      db.orders.get payload.clientOrderId = some order ∧ order.status.isFinal = false
      ∧ order.settlementWrites payload db.entries = some (written, settled)
      ∧ (settleOrder db payload commit).1
        = { orders := db.orders.set payload.clientOrderId settled
            entries := db.entries ++ written } := by
  obtain ⟨order, found, unsettled, taken⟩ := accepts.taken
  obtain ⟨⟨written, settled⟩, writes⟩ := Option.isSome_iff_exists.mp taken
  refine ⟨order, settled, written, found, unsettled, writes, ?_⟩
  rw [settleOrder, if_neg (by simp [accepts.valid, accepts.commits]), found]
  simp only [unsettled, Bool.false_eq_true, if_false, writes]

/-- An order that keeps its row does not become settled. -/
theorem not_settledAs_of_get_eq {after : SettlementDb} {clientOrderId : String}
    (kept : after.orders.get clientOrderId = db.orders.get clientOrderId)
    (status : SettlementStatus) (payout : ℚ)
    : ¬ SettledAs db after clientOrderId status payout := by
  rintro ⟨old, new, found, unsettled, left, final, -⟩
  rw [kept, found] at left
  obtain rfl := Option.some.inj left
  rw [final] at unsettled
  cases status <;> exact absurd unsettled (by decide)

theorem final_injective : Function.Injective SettlementStatus.final := by
  intro one other same
  cases one <;> cases other <;> first | rfl | cases same

/-- What a call of the engine settles: the order of its payload, with the payload's outcome
and payout, exactly when it is accepted.
-/
theorem settledAs_settleOrder {payload : SettlementPayload} {commit : Commit}
    {clientOrderId : String} {status : SettlementStatus} {payout : ℚ}
    : SettledAs db (settleOrder db payload commit).1 clientOrderId status payout
      ↔ Accepts db payload commit ∧ clientOrderId = payload.clientOrderId
        ∧ status = payload.status ∧ numeric payload.grossPayout = some payout := by
  by_cases accepts : Accepts db payload commit
  · obtain ⟨order, settled, written, found, unsettled, writes, after⟩ :=
      settleOrder_of_accepts accepts
    obtain ⟨final, paid, -⟩ := settlementWrites_spec writes
    rw [after]
    by_cases same : clientOrderId = payload.clientOrderId
    · subst same
      constructor
      · rintro ⟨old, new, -, -, left, asStated, payoutStated⟩
        obtain rfl : settled = new := by simpa using left
        exact ⟨accepts, rfl, final_injective (asStated.symm.trans final),
          paid.symm.trans payoutStated⟩
      · rintro ⟨-, -, rfl, payoutStated⟩
        exact ⟨order, settled, found, unsettled, by simp, final, paid.trans payoutStated⟩
    · refine iff_of_false ?_ fun stated => same stated.2.1
      exact not_settledAs_of_get_eq (db.orders.get_set_of_ne settled same) status payout
  · rw [settleOrder_of_not_accepts accepts]
    exact iff_of_false (not_settledAs_of_get_eq rfl status payout) (fun h => accepts h.1)

/-- Marking an order settles nothing. -/
theorem not_settledAs_markReconciling (marked : String) (commit : Commit)
    (clientOrderId : String) (status : SettlementStatus) (payout : ℚ)
    : ¬ SettledAs db (markReconciling db marked commit).1 clientOrderId status payout := by
  have unchanged : ¬ SettledAs db db clientOrderId status payout :=
    not_settledAs_of_get_eq rfl status payout
  unfold markReconciling
  split
  · next order found =>
      split
      · exact unchanged
      · split
        · by_cases same : clientOrderId = marked
          · subst same
            rintro ⟨old, new, -, -, left, final, -⟩
            obtain rfl : { order with status := .reconciling } = new := by simpa using left
            cases status <;> cases final
          · exact not_settledAs_of_get_eq (db.orders.get_set_of_ne _ same) status payout
        · exact unchanged
  · exact unchanged

/-- The worker hands its item to the engine, or leaves the tables as they are. -/
theorem settlementStep_worker (authority : SettlementAuthority) (item : Value)
    (commit : Commit)
    : settlementStep db (.worker authority item commit)
      = match (SettlementInput.worker authority item commit).offered with
        | some (payload, commit) => (settleOrder db payload commit).1
        | none => db := by
  cases authority with
  | engine =>
      simp only [settlementStep, handleSettlement, SettlementInput.offered]
      split <;> split <;> simp_all
  | _ => rfl

/-- The reconciliation at boot hands evidence of an outcome to the engine; otherwise it
marks the order, unless the search for evidence failed.
-/
theorem settlementStep_boot (row : OpenOrder) (answer : EvidenceAnswer) (commit : Commit)
    : settlementStep db (.boot row answer commit)
      = match (SettlementInput.boot row answer commit).offered with
        | some (payload, commit) => (settleOrder db payload commit).1
        | none =>
            if answer = .rejected then db
            else (markReconciling db row.clientOrderId commit).1 := by
  rcases answer with _ | _ | _ | evidence
  · rfl
  · rfl
  · rfl
  · simp only [settlementStep, bootReconcileOrder, SettlementInput.offered,
      EvidenceAnswer.evidence, Option.bind_some]
    cases evidence.status.outcome <;> simp

/-- The periodic reconciler does the same, and leaves an order that is marked already. -/
theorem settlementStep_tick (row : OpenOrder) (answer : EvidenceAnswer) (commit : Commit)
    : settlementStep db (.tick row answer commit)
      = match (SettlementInput.tick row answer commit).offered with
        | some (payload, commit) => (settleOrder db payload commit).1
        | none =>
            if answer = .rejected
              ∨ row.status = .reconciling
                ∧ answer.evidence.all (·.status ≠ .pending) then db
            else (markReconciling db row.clientOrderId commit).1 := by
  rcases answer with _ | _ | _ | evidence
  · by_cases marked : row.status = .reconciling <;>
      simp [settlementStep, tickOrder, SettlementInput.offered, EvidenceAnswer.evidence, marked]
  · rfl
  · by_cases marked : row.status = .reconciling <;>
      simp [settlementStep, tickOrder, SettlementInput.offered, EvidenceAnswer.evidence, marked]
  · simp only [settlementStep, tickOrder, SettlementInput.offered, EvidenceAnswer.evidence,
      Option.bind_some]
    cases evidence.status.outcome with
    | some status => simp
    | none =>
        by_cases pending : evidence.status = .pending <;>
          by_cases marked : row.status = .reconciling <;> simp [pending, marked]

/-- What an input settles is what it offers to the engine and the engine accepts. -/
theorem settledAs_settlementStep {input : SettlementInput} {clientOrderId : String}
    {status : SettlementStatus} {payout : ℚ}
    : SettledAs db (settlementStep db input) clientOrderId status payout
      ↔ ∃ payload commit, input.offered = some (payload, commit)
        ∧ SettledAs db (settleOrder db payload commit).1 clientOrderId status payout := by
  have unchanged : ¬ SettledAs db db clientOrderId status payout :=
    not_settledAs_of_get_eq rfl status payout
  cases offered : input.offered with
  | some offer =>
      obtain ⟨payload, commit⟩ := offer
      have step : settlementStep db input = (settleOrder db payload commit).1 := by
        cases input with
        | worker => rw [settlementStep_worker, offered]
        | boot => rw [settlementStep_boot, offered]
        | tick => rw [settlementStep_tick, offered]
      rw [step]
      simp
  | none =>
      refine iff_of_false ?_ (by simp)
      cases input with
      | worker =>
          rw [settlementStep_worker, offered]
          exact unchanged
      | boot row answer commit =>
          rw [settlementStep_boot, offered]
          dsimp only
          split
          · exact unchanged
          · exact not_settledAs_markReconciling _ _ _ _ _
      | tick row answer commit =>
          rw [settlementStep_tick, offered]
          dsimp only
          split
          · exact unchanged
          · exact not_settledAs_markReconciling _ _ _ _ _

/-- The worker's payload takes over an outcome and a payout that its item states. -/
theorem workerPayload_of_stated {item : Value} {status : SettlementStatus} {gross : Number}
    (clientOrderId : String) (statesStatus : (statedBy item).status = some status)
    (statesPayout : (statedBy item).grossPayout = some gross)
    : (workerPayload clientOrderId item).status = status
      ∧ (workerPayload clientOrderId item).grossPayout = gross := by
  constructor
  · simp only [statedBy, workerPayload] at statesStatus ⊢
    split at statesStatus
    · next loss => simpa [loss] using statesStatus
    · next notLoss =>
        split at statesStatus
        · next void => simpa [notLoss, void] using statesStatus
        · next notVoid =>
            split at statesStatus
            · simpa [notLoss, notVoid] using statesStatus
            · cases statesStatus
  · obtain ⟨value, found, rfl⟩ := Option.map_eq_some_iff.mp statesPayout
    simp [workerPayload, found]

/-- A payload built from evidence that takes over its outcome and its payout carries what
the answer states.
-/
theorem payload_of_evidence {answer : EvidenceAnswer} {commit offeredCommit : Commit}
    {build : SettlementEvidence → SettlementStatus → SettlementPayload}
    {payload : SettlementPayload} {status : SettlementStatus} {gross : Number}
    (keepsStatus : ∀ evidence status, (build evidence status).status = status)
    (keepsPayout : ∀ evidence status gross, evidence.grossPayout = some gross
      → (build evidence status).grossPayout = gross)
    (offered : (answer.evidence.bind fun evidence =>
      evidence.status.outcome.map fun status => (build evidence status, offeredCommit))
      = some (payload, commit))
    (statesStatus : answer.statement.status = some status)
    (statesPayout : answer.statement.grossPayout = some gross)
    : payload.status = status ∧ payload.grossPayout = gross := by
  obtain ⟨evidence, found, offered⟩ := Option.bind_eq_some_iff.mp offered
  obtain ⟨outcome, stated, built⟩ := Option.map_eq_some_iff.mp offered
  obtain ⟨rfl, -⟩ := Prod.mk.inj built
  simp only [EvidenceAnswer.statement, found, Option.bind_some] at statesStatus statesPayout
  obtain rfl : outcome = status := Option.some.inj (stated.symm.trans statesStatus)
  exact ⟨keepsStatus _ _, keepsPayout _ _ _ statesPayout⟩

/-- The outcome offered to the engine is the stated one, where one is stated, and so is the
payout.
-/
theorem offered_of_statement {input : SettlementInput} {payload : SettlementPayload}
    {commit : Commit} {status : SettlementStatus} {gross : Number}
    (offered : input.offered = some (payload, commit))
    (statesStatus : input.statement.status = some status)
    (statesPayout : input.statement.grossPayout = some gross)
    : payload.status = status ∧ payload.grossPayout = gross := by
  cases input with
  | worker authority item commit' =>
      cases authority with
      | engine =>
          simp only [SettlementInput.offered] at offered
          split at offered
          · obtain ⟨rfl, -⟩ := Prod.mk.inj (Option.some.inj offered)
            exact workerPayload_of_stated _ statesStatus statesPayout
          · cases offered
      | _ => cases offered
  | boot row answer commit' =>
      refine payload_of_evidence (fun _ _ => rfl) ?_ offered statesStatus statesPayout
      intro evidence status gross stated
      simp [bootPayload, stated]
  | tick row answer commit' =>
      refine payload_of_evidence (fun _ _ => rfl) ?_ offered statesStatus statesPayout
      intro evidence status gross stated
      simp [tickPayload, stated]

/-- An input settles as stated exactly when it states both the outcome and the payout, or
settles nothing.
-/
theorem settlesAsStated_iff (input : SettlementInput)
    : SettlesAsStated db input ↔ Evidenced db input := by
  constructor
  · intro law
    by_cases accepted : ∃ payload commit,
        input.offered = some (payload, commit) ∧ Accepts db payload commit
    · obtain ⟨payload, commit, offered, accepts⟩ := accepted
      obtain ⟨order, settled, written, -, -, writes, -⟩ := settleOrder_of_accepts accepts
      obtain ⟨-, paid, stored⟩ := settlementWrites_spec writes
      obtain ⟨payout, payoutStored⟩ := Option.isSome_iff_exists.mp stored
      obtain ⟨statesStatus, gross, statesPayout, -⟩ :=
        law payload.clientOrderId payload.status payout
          (settledAs_settlementStep.mpr ⟨payload, commit, offered,
            settledAs_settleOrder.mpr ⟨accepts, rfl, rfl, paid.symm.trans payoutStored⟩⟩)
      exact .inl ⟨by simp [statesStatus], by simp [statesPayout]⟩
    · right
      intro payload commit offered accepts
      exact accepted ⟨payload, commit, offered, accepts⟩
  · intro evidenced clientOrderId status payout settled
    obtain ⟨payload, commit, offered, settled⟩ := settledAs_settlementStep.mp settled
    obtain ⟨accepts, -, rfl, paid⟩ := settledAs_settleOrder.mp settled
    rcases evidenced with ⟨states, pays⟩ | refused
    · obtain ⟨status, statesStatus⟩ := Option.isSome_iff_exists.mp states
      obtain ⟨gross, statesPayout⟩ := Option.isSome_iff_exists.mp pays
      obtain ⟨rfl, rfl⟩ := offered_of_statement offered statesStatus statesPayout
      exact ⟨statesStatus, _, statesPayout, paid⟩
    · exact absurd accepts (refused payload commit offered)

theorem markReconciling_entries (clientOrderId : String) (commit : Commit)
    : (markReconciling db clientOrderId commit).1.entries = db.entries := by
  unfold markReconciling
  split
  · split
    · rfl
    · split <;> rfl
  · rfl

/-- Boot and tick write the same entries for the same order and evidence. -/
theorem reconcile_entries_eq (row : OpenOrder) (answer : EvidenceAnswer) (commit : Commit)
    : (settlementStep db (.boot row answer commit)).entries
      = (settlementStep db (.tick row answer commit)).entries := by
  have sameOffer : (SettlementInput.boot row answer commit).offered
      = (SettlementInput.tick row answer commit).offered := rfl
  rw [settlementStep_boot, settlementStep_tick, sameOffer]
  cases (SettlementInput.tick row answer commit).offered with
  | some offer => rfl
  | none =>
      dsimp only
      split <;> split <;> simp [markReconciling_entries]

/-- Along any interleaving of worker items and reconciled orders, every settlement is as
stated, and boot and tick agree on the entries of the same evidence, exactly when at every
step the outcome and the payout are stated or nothing is settled.
-/
theorem settlements_asStated_iff (db : SettlementDb) (inputs : List SettlementInput)
    : (Runs.Always settlementStep SettlesAsStated db inputs
        ∧ ∀ db row answer commit,
          (settlementStep db (.boot row answer commit)).entries
            = (settlementStep db (.tick row answer commit)).entries)
      ↔ Runs.Always settlementStep Evidenced db inputs := by
  constructor
  · exact fun ⟨asStated, _⟩ => asStated.mono fun db input => (settlesAsStated_iff input).mp
  · intro evidenced
    refine ⟨evidenced.mono fun db input => (settlesAsStated_iff input).mpr, ?_⟩
    exact fun db row answer commit => reconcile_entries_eq row answer commit

/-- The whole reconciliation at boot is the run of its orders. -/
theorem bootReconcileOpenOrders_fst (answers : ReconcileAnswers) (limit : Nat)
    : (bootReconcileOpenOrders db answers limit).1
      = Runs.run settlementStep db ((bootOrders db limit).map fun row =>
          .boot row (answers.evidence row.clientOrderId)
            (answers.commit row.clientOrderId)) := by
  rw [Runs.run_map]
  exact Runs.tallied_fst
    (fun db row =>
      bootReconcileOrder db row (answers.evidence row.clientOrderId)
        (answers.commit row.clientOrderId))
    BootReconcileResult.count db _ _

/-- A whole tick is the run of its orders. -/
theorem tick_fst (answers : ReconcileAnswers) (cutoff : Int) (batchSize : Nat)
    : (tick db answers cutoff batchSize).1
      = Runs.run settlementStep db ((tickOrders db cutoff batchSize).map fun row =>
          .tick row (answers.evidence row.clientOrderId)
            (answers.commit row.clientOrderId)) := by
  rw [Runs.run_map]
  exact Runs.tallied_fst
    (fun db row =>
      tickOrder db row (answers.evidence row.clientOrderId)
        (answers.commit row.clientOrderId))
    TickResult.count db _ _

/-- One dispatched order with a wager of ten. -/
def dispatchedOrder : SettlementDb where
  orders :=
    (∅ : Map String SettlementOrder).set "order-1"
      { wagerAmount := 10, status := .dispatched, createdAt := 0 }
  entries :=
    [{ clientOrderId := "order-1", account := .unsettled, debit := 10, credit := 0,
       memo := "exposure open" },
      { clientOrderId := "order-1", account := .hotWallet, debit := 0, credit := 10,
        memo := "wager lock" }]

/-- An item without a status settles the order as a win without payout, and evidence of a
win without a payout settles it with the wager.
-/
theorem unstated_settlements
    : let item := SettlementInput.worker .engine
        (.object [("clientOrderId", .string "order-1")]) .succeeds
      let evidence := SettlementInput.boot
        { clientOrderId := "order-1", status := .dispatched, wagerAmount := 10 }
        (.answered (some { status := .win })) .succeeds
      (item.statement.status = none
        ∧ SettledAs dispatchedOrder (settlementStep dispatchedOrder item) "order-1" .win 0
        ∧ ¬ SettlesAsStated dispatchedOrder item)
      ∧ evidence.statement.grossPayout = none
        ∧ SettledAs dispatchedOrder (settlementStep dispatchedOrder evidence) "order-1" .win 10
        ∧ ¬ SettlesAsStated dispatchedOrder evidence := by
  intro item evidence
  have unstated : item.statement.status = none := by decide +kernel
  have unpaid : evidence.statement.grossPayout = none := rfl
  have settled : SettledAs dispatchedOrder (settlementStep dispatchedOrder item) "order-1"
      .win 0 :=
    ⟨_, { wagerAmount := 10, status := .settledWin, grossPayout := some 0,
          exitMultiplier := some 1, createdAt := 0 },
      rfl, rfl, by decide +kernel, rfl, rfl⟩
  have paid : SettledAs dispatchedOrder (settlementStep dispatchedOrder evidence) "order-1"
      .win 10 :=
    ⟨_, { wagerAmount := 10, status := .settledWin, grossPayout := some 10,
          exitMultiplier := some 1, createdAt := 0 },
      rfl, rfl, by decide +kernel, rfl, rfl⟩
  refine ⟨⟨unstated, settled, ?_⟩, unpaid, paid, ?_⟩
  · intro law
    have stated := (law _ _ _ settled).1
    rw [unstated] at stated
    cases stated
  · intro law
    obtain ⟨gross, stated, -⟩ := (law _ _ _ paid).2
    rw [unpaid] at stated
    cases stated

end CrashWave.Settlement
