import CrashWave.Settlement.DoubleEntry

/-! What the reconciliation at boot reports: each order is settled, left open or an error by its
own row, its own entries and its own evidence, and the counts are of these.
-/

namespace CrashWave.Settlement

open JavaScript

-----------------------------------------------------------------------------------------
-- One order does not see the others
-----------------------------------------------------------------------------------------

/-- Tables that are alike for an order: its row, and its entries. -/
structure SameOrder (db other : SettlementDb) (clientOrderId : String) : Prop where
  row : db.orders.get clientOrderId = other.orders.get clientOrderId
  entries : entriesOf db.entries clientOrderId = entriesOf other.entries clientOrderId

namespace SameOrder

variable {db other third : SettlementDb} {clientOrderId : String}

theorem refl (db : SettlementDb) (clientOrderId : String) : SameOrder db db clientOrderId :=
  ⟨rfl, rfl⟩

theorem trans (first : SameOrder db other clientOrderId)
    (second : SameOrder other third clientOrderId) : SameOrder db third clientOrderId :=
  ⟨first.row.trans second.row, first.entries.trans second.entries⟩

/-- Only the entries of an order are weighed for it. -/
theorem balanced_append (same : SameOrder db other clientOrderId) (written : List LedgerEntry)
    : balanced (db.entries ++ written) clientOrderId
      = balanced (other.entries ++ written) clientOrderId := by
  have entries := same.entries
  unfold entriesOf at entries
  simp only [balanced, List.filter_append, entries]

/-- What a settlement of the order writes is the same. -/
theorem settlementWrites (order : SettlementOrder) (payload : SettlementPayload)
    (same : SameOrder db other payload.clientOrderId)
    : order.settlementWrites payload db.entries
      = order.settlementWrites payload other.entries := by
  simp only [SettlementOrder.settlementWrites, same.balanced_append]

end SameOrder

variable {db other : SettlementDb}

/-- A settlement writes entries of its order only. -/
theorem settlementWrites_own {order settled : SettlementOrder} {payload : SettlementPayload}
    {entries written : List LedgerEntry} (valid : payload.valid = true)
    (writes : order.settlementWrites payload entries = some (written, settled))
    : AllOf payload.clientOrderId written := by
  obtain ⟨gross, paid, inserted, -⟩ := settlementWrites_entries writes
  simp only [SettlementPayload.valid, paid, decide_eq_true_eq] at valid
  have nonneg : 0 ≤ gross := by
    have ordered := of_decide_eq_true valid.2.1
    simpa using ordered
  exact (settlementEntries_spec nonneg inserted).1

/-- A settlement leaves the other orders. -/
theorem settleOrder_other (db : SettlementDb) (payload : SettlementPayload) (commit : Commit)
    {clientOrderId : String} (differs : clientOrderId ≠ payload.clientOrderId)
    : SameOrder (settleOrder db payload commit).1 db clientOrderId := by
  by_cases accepts : Accepts db payload commit
  · obtain ⟨order, settled, written, -, -, writes, after⟩ := settleOrder_of_accepts accepts
    rw [after]
    exact ⟨db.orders.get_set_of_ne settled differs,
      (settlementWrites_own accepts.valid writes).entriesOf_append_of_ne db.entries differs⟩
  · rw [settleOrder_of_not_accepts accepts]
    exact .refl db clientOrderId

/-- A settlement answers the same for tables that are alike for its order, and leaves them so. -/
theorem settleOrder_same {payload : SettlementPayload}
    (same : SameOrder db other payload.clientOrderId) (commit : Commit)
    : (settleOrder db payload commit).2 = (settleOrder other payload commit).2
      ∧ SameOrder (settleOrder db payload commit).1 (settleOrder other payload commit).1
        payload.clientOrderId := by
  unfold settleOrder
  split
  · exact ⟨rfl, same⟩
  · next passes =>
      simp only [not_or, Bool.not_eq_false] at passes
      rw [same.row]
      cases found : other.orders.get payload.clientOrderId with
      | none => exact ⟨rfl, same⟩
      | some order =>
          dsimp only
          split
          · exact ⟨rfl, same⟩
          · rw [same.settlementWrites order payload]
            cases writes : order.settlementWrites payload other.entries with
            | none => exact ⟨rfl, same⟩
            | some result =>
                obtain ⟨written, settled⟩ := result
                have own := settlementWrites_own passes.1 writes
                refine ⟨rfl, ?_, ?_⟩
                · rw [Map.get_set_self, Map.get_set_self]
                · rw [own.entriesOf_append, own.entriesOf_append, same.entries]

/-- A mark leaves the other orders. -/
theorem markReconciling_other (db : SettlementDb) (marked : String) (commit : Commit)
    {clientOrderId : String} (differs : clientOrderId ≠ marked)
    : SameOrder (markReconciling db marked commit).1 db clientOrderId := by
  unfold markReconciling
  split
  · split
    · exact .refl db clientOrderId
    · split
      · exact ⟨db.orders.get_set_of_ne _ differs, rfl⟩
      · exact .refl db clientOrderId
  · exact .refl db clientOrderId

/-- A mark answers the same for tables that are alike for its order, and leaves them so. -/
theorem markReconciling_same {clientOrderId : String}
    (same : SameOrder db other clientOrderId) (commit : Commit)
    : (markReconciling db clientOrderId commit).2 = (markReconciling other clientOrderId commit).2
      ∧ SameOrder (markReconciling db clientOrderId commit).1
        (markReconciling other clientOrderId commit).1 clientOrderId := by
  unfold markReconciling
  rw [same.row]
  cases other.orders.get clientOrderId with
  | none => exact ⟨rfl, same⟩
  | some order =>
      dsimp only
      split
      · exact ⟨rfl, same⟩
      · split
        · refine ⟨rfl, ?_, same.entries⟩
          rw [Map.get_set_self, Map.get_set_self]
        · exact ⟨rfl, same⟩

/-- An order of the reconciliation leaves the others. -/
theorem bootReconcileOrder_other (db : SettlementDb) (row : OpenOrder) (answer : EvidenceAnswer)
    (commit : Commit) {clientOrderId : String} (differs : clientOrderId ≠ row.clientOrderId)
    : SameOrder (bootReconcileOrder db row answer commit).1 db clientOrderId := by
  have marked := markReconciling_other db row.clientOrderId commit differs
  unfold bootReconcileOrder
  dsimp only
  split
  · exact .refl db clientOrderId
  · split
    · exact settleOrder_other db (bootPayload row _ _) commit differs
    · exact marked
  · exact marked

/-- What becomes of an order is the same in tables that are alike for it. -/
theorem bootReconcileOrder_same {row : OpenOrder} (same : SameOrder db other row.clientOrderId)
    (answer : EvidenceAnswer) (commit : Commit)
    : (bootReconcileOrder db row answer commit).2 = (bootReconcileOrder other row answer commit).2
      ∧ SameOrder (bootReconcileOrder db row answer commit).1
        (bootReconcileOrder other row answer commit).1 row.clientOrderId := by
  obtain ⟨thrown, marked⟩ := markReconciling_same same commit
  unfold bootReconcileOrder
  dsimp only
  split
  · exact ⟨rfl, same⟩
  · next evidence =>
      split
      · next status _ =>
          have settles : SameOrder db other
              (bootPayload row evidence status).clientOrderId := same
          obtain ⟨answers, settled⟩ := settleOrder_same settles commit
          exact ⟨by rw [answers], settled⟩
      · exact ⟨by rw [thrown], marked⟩
  · exact ⟨by rw [thrown], marked⟩

-----------------------------------------------------------------------------------------
-- A whole reconciliation
-----------------------------------------------------------------------------------------

/-- One order with what the world answers about it. -/
def bootStep (answers : ReconcileAnswers) (db : SettlementDb) (row : OpenOrder)
    : SettlementDb × BootOutcome :=
  bootReconcileOrder db row (answers.evidence row.clientOrderId)
    (answers.commit row.clientOrderId)

/-- What becomes of each order when they are worked through one after the other. -/
def bootOutcomes (answers : ReconcileAnswers)
    : SettlementDb → List OpenOrder → List (OpenOrder × BootOutcome)
  | _, [] => []
  | db, row :: rest =>
      (row, (bootStep answers db row).2) :: bootOutcomes answers (bootStep answers db row).1 rest

/-- The tables after that. -/
def bootTables (answers : ReconcileAnswers) (db : SettlementDb) (rows : List OpenOrder)
    : SettlementDb :=
  Runs.run (fun db row => (bootStep answers db row).1) db rows

variable {answers : ReconcileAnswers}

/-- An order that is not among the rows is left, by run induction. -/
theorem bootTables_other (rows : List OpenOrder) {clientOrderId : String}
    (absent : clientOrderId ∉ rows.map (·.clientOrderId))
    : SameOrder (bootTables answers db rows) db clientOrderId := by
  induction rows generalizing db with
  | nil => exact .refl db clientOrderId
  | cons row rest ih =>
      rw [List.map_cons, List.mem_cons, not_or] at absent
      exact (ih absent.2).trans (bootReconcileOrder_other db row _ _ absent.1)

/-- An order among the rows is left as its own step leaves it: the steps before do not touch it,
and the steps after do not either.
-/
theorem bootTables_own {rows : List OpenOrder}
    (distinct : (rows.map (·.clientOrderId)).Nodup) {row : OpenOrder} (member : row ∈ rows)
    : SameOrder (bootTables answers db rows) (bootStep answers db row).1 row.clientOrderId := by
  induction rows generalizing db with
  | nil => cases member
  | cons first rest ih =>
      rw [List.map_cons, List.nodup_cons] at distinct
      rcases List.mem_cons.mp member with rfl | later
      · exact bootTables_other rest distinct.1
      · have differs : row.clientOrderId ≠ first.clientOrderId := by
          intro same
          exact distinct.1 (same ▸ List.mem_map_of_mem later)
        have untouched : SameOrder (bootStep answers db first).1 db row.clientOrderId :=
          bootReconcileOrder_other db first _ _ differs
        exact (ih distinct.2 later).trans (bootReconcileOrder_same untouched _ _).2

/-- What becomes of an order is what its own step makes of it in the tables at the start, by
induction on the rows.
-/
theorem bootOutcomes_eq (db : SettlementDb) (answers : ReconcileAnswers) {rows : List OpenOrder}
    (distinct : (rows.map (·.clientOrderId)).Nodup)
    : bootOutcomes answers db rows = rows.map fun row => (row, (bootStep answers db row).2) := by
  suffices general : ∀ start, (∀ row ∈ rows, SameOrder start db row.clientOrderId)
      → bootOutcomes answers start rows = rows.map fun row => (row, (bootStep answers db row).2) by
    exact general db fun row _ => .refl db row.clientOrderId
  induction rows with
  | nil => exact fun _ _ => rfl
  | cons first rest ih =>
      intro start same
      rw [List.map_cons, List.nodup_cons] at distinct
      obtain ⟨sameFirst, sameRest⟩ := List.forall_mem_cons.mp same
      have own : (bootStep answers start first).2 = (bootStep answers db first).2 :=
        (bootReconcileOrder_same sameFirst _ _).1
      rw [bootOutcomes, List.map_cons, own]
      congr 1
      apply ih distinct.2
      intro row member
      have differs : row.clientOrderId ≠ first.clientOrderId := by
        intro equal
        exact distinct.1 (equal ▸ List.mem_map_of_mem member)
      exact (bootReconcileOrder_other start first _ _ differs).trans (sameRest row member)

/-- The reconciliation works through its rows and counts what becomes of them, by run
induction.
-/
theorem bootReconcileOpenOrders_eq (db : SettlementDb) (answers : ReconcileAnswers) (limit : Nat)
    : bootReconcileOpenOrders db answers limit
      = (bootTables answers db (bootOrders db limit),
          ((bootOutcomes answers db (bootOrders db limit)).map Prod.snd).foldl
            BootReconcileResult.count { opened := (bootOrders db limit).length }) := by
  suffices general : ∀ (rows : List OpenOrder) db (result : BootReconcileResult),
      rows.foldl
          (fun (state : SettlementDb × BootReconcileResult) row =>
            ((bootStep answers state.1 row).1, state.2.count (bootStep answers state.1 row).2))
          (db, result)
        = (bootTables answers db rows,
            ((bootOutcomes answers db rows).map Prod.snd).foldl BootReconcileResult.count
              result) from
    general _ db _
  intro rows
  induction rows with
  | nil => exact fun _ _ => rfl
  | cons row rest ih => exact fun db result => ih _ _

/-- The counts after some outcomes: each of them is counted once, and none as voided. -/
theorem foldl_count (outcomes : List BootOutcome) (result : BootReconcileResult)
    : outcomes.foldl BootReconcileResult.count result
      = { result with
          settled := result.settled + outcomes.count .settled
          stillOpen := result.stillOpen + outcomes.count .stillOpen
          errors := result.errors + outcomes.count .error } := by
  induction outcomes generalizing result with
  | nil => rfl
  | cons outcome rest ih =>
      rw [List.foldl_cons, ih]
      cases outcome <;> simp [BootReconcileResult.count] <;> omega

theorem count_outcomes (outcomes : List BootOutcome)
    : outcomes.count .settled + outcomes.count .stillOpen + outcomes.count .error
      = outcomes.length := by
  induction outcomes with
  | nil => rfl
  | cons outcome rest ih =>
      rw [List.length_cons, ← ih]
      cases outcome <;> simp <;> omega

theorem bootOutcomes_length (answers : ReconcileAnswers) (rows : List OpenOrder)
    : (bootOutcomes answers db rows).length = rows.length := by
  induction rows generalizing db with
  | nil => rfl
  | cons row rest ih => rw [bootOutcomes, List.length_cons, List.length_cons, ih]

-----------------------------------------------------------------------------------------
-- The orders that are scanned
-----------------------------------------------------------------------------------------

/-- The statuses of the orders that are scanned at boot. -/
def OrderStatus.isOpen (status : OrderStatus) : Bool :=
  status ∉ [.settledWin, .settledLoss, .void, .failed]

/-- The rows that are scanned are those of open orders in the table. -/
theorem mem_bootOrders {limit : Nat} {row : OpenOrder} (member : row ∈ bootOrders db limit)
    : ∃ order, db.orders.get row.clientOrderId = some order ∧ order.status = row.status
      ∧ row.status.isOpen = true := by
  simp only [bootOrders, openOrders, List.mem_map] at member
  obtain ⟨⟨clientOrderId, order⟩, taken, rfl⟩ := member
  have sorted := List.mem_of_mem_take taken
  rw [List.mem_insertionSort, List.mem_filter] at sorted
  exact ⟨order, Map.mem_entries_iff.mp sorted.1, rfl, sorted.2⟩

/-- No order is scanned twice. -/
theorem bootOrders_distinct (db : SettlementDb) (limit : Nat)
    : ((bootOrders db limit).map (·.clientOrderId)).Nodup := by
  simp only [bootOrders, openOrders, List.map_map, Function.comp_def]
  have keys : (db.orders.entries.map Prod.fst).Nodup := db.orders.unique
  refine List.Nodup.sublist ((List.take_sublist _ _).map _) ?_
  refine ((List.perm_insertionSort _ _).map _).nodup_iff.mpr ?_
  exact keys.sublist (List.filter_sublist.map _)

/-- As many orders are scanned as are open, up to the limit. -/
theorem bootOrders_length (db : SettlementDb) (limit : Nat)
    : (bootOrders db limit).length
      = min limit (db.orders.entries.countP fun entry => entry.2.status.isOpen) := by
  simp only [bootOrders, openOrders, List.length_map, List.length_take,
    List.length_insertionSort, List.countP_eq_length_filter]
  rfl

-----------------------------------------------------------------------------------------
-- What the status of an order decides
-----------------------------------------------------------------------------------------

/-- The tables with an order in another status. -/
def SettlementDb.withStatus (db : SettlementDb) (clientOrderId : String) (status : OrderStatus)
    : SettlementDb :=
  { db with orders := db.orders.modify clientOrderId fun order => { order with status } }

theorem get_withStatus {clientOrderId : String} {order : SettlementOrder}
    (found : db.orders.get clientOrderId = some order) (status : OrderStatus)
    : (db.withStatus clientOrderId status).orders.get clientOrderId
      = some { order with status } := by
  simp [SettlementDb.withStatus, Map.get_modify, found]

/-- Only the last status is kept. -/
theorem withStatus_withStatus (db : SettlementDb) (clientOrderId : String)
    (first second : OrderStatus)
    : (db.withStatus clientOrderId first).withStatus clientOrderId second
      = db.withStatus clientOrderId second := by
  simp only [SettlementDb.withStatus, Map.modify, List.map_map]
  congr 2
  apply List.map_congr_left
  intro entry member
  by_cases same : entry.1 = clientOrderId <;> simp [same]

/-- The engine settles an open order exactly when it settles it in status `RECONCILING`, unless
it was never dispatched.
-/
theorem accepts_iff {payload : SettlementPayload} {commit : Commit} {order : SettlementOrder}
    (found : db.orders.get payload.clientOrderId = some order)
    (stillOpen : order.status.isOpen = true)
    : Accepts db payload commit
      ↔ commit ≠ .fails ∧ payload.valid = true ∧ order.status ≠ .orderIntent
        ∧ (SettlementOrder.settlementWrites { order with status := .reconciling } payload
            db.entries).isSome = true := by
  have unsettled : order.status.isFinal = false := by
    revert stillOpen
    cases order.status <;> decide
  have writes : order.status ≠ .orderIntent
      → order.settlementWrites payload db.entries
        = SettlementOrder.settlementWrites { order with status := .reconciling } payload
          db.entries := by
    intro dispatched
    have becomes : order.status.mayBecome payload.status.final
        = OrderStatus.mayBecome .reconciling payload.status.final := by
      revert stillOpen dispatched
      cases order.status <;> cases payload.status <;> decide
    simp only [SettlementOrder.settlementWrites, becomes]
  constructor
  · intro accepts
    obtain ⟨own, foundOwn, -, taken⟩ := accepts.taken
    obtain rfl := Option.some.inj (found.symm.trans foundOwn)
    have dispatched : order.status ≠ .orderIntent := by
      intro intent
      obtain ⟨result, written⟩ := Option.isSome_iff_exists.mp taken
      simp only [SettlementOrder.settlementWrites, Option.bind_eq_bind,
        Option.bind_eq_some_iff, Option.ite_none_right_eq_some, intent] at written
      obtain ⟨-, -, -, -, -, -, -, -, ⟨-, becomes⟩, -⟩ := written
      revert becomes
      cases payload.status <;> decide
    rw [writes dispatched] at taken
    exact ⟨accepts.commits, accepts.valid, dispatched, taken⟩
  · rintro ⟨commits, valid, dispatched, taken⟩
    rw [← writes dispatched] at taken
    exact ⟨commits, valid, order, found, unsettled, taken⟩

/-- What the engine answers for an open order. -/
theorem settleOrder_thrown_iff {payload : SettlementPayload} {order : SettlementOrder}
    (commit : Commit) (found : db.orders.get payload.clientOrderId = some order)
    (stillOpen : order.status.isOpen = true)
    : (settleOrder db payload commit).2 = .thrown
      ↔ ¬ (Accepts db payload commit ∧ commit = .succeeds) := by
  have unsettled : order.status.isFinal = false := by
    revert stillOpen
    cases order.status <;> decide
  by_cases accepts : Accepts db payload commit
  · obtain ⟨own, foundOwn, -, taken⟩ := accepts.taken
    obtain rfl := Option.some.inj (found.symm.trans foundOwn)
    obtain ⟨⟨written, settled⟩, writes⟩ := Option.isSome_iff_exists.mp taken
    have commits := accepts.commits
    rw [settleOrder, if_neg (by simp [accepts.valid, commits]), found]
    simp only [unsettled, Bool.false_eq_true, if_false, writes]
    cases commit <;> simp_all
  · refine iff_of_true ?_ fun settles => accepts settles.1
    unfold settleOrder
    split
    · rfl
    · next passes =>
        simp only [not_or, Bool.not_eq_false] at passes
        simp only [found, unsettled, Bool.false_eq_true, if_false]
        cases writes : order.settlementWrites payload db.entries with
        | none => rfl
        | some result =>
            exact absurd ⟨passes.2, passes.1, order, found, unsettled, by simp [writes]⟩ accepts

/-- The row of an order is void. -/
def isVoid (row : Option SettlementOrder) : Bool := row.any fun order => order.status = .void

theorem isVoid_of_isOpen {order : SettlementOrder} (stillOpen : order.status.isOpen = true)
    : isVoid (some order) = false := by
  revert stillOpen
  simp only [isVoid, Option.any_some]
  cases order.status <;> decide

/-- A mark makes no order void. -/
theorem isVoid_markReconciling {clientOrderId : String} {order : SettlementOrder}
    (found : db.orders.get clientOrderId = some order) (stillOpen : order.status.isOpen = true)
    (commit : Commit)
    : isVoid ((markReconciling db clientOrderId commit).1.orders.get clientOrderId) = false := by
  have kept : isVoid (db.orders.get clientOrderId) = false := by
    rw [found]
    exact isVoid_of_isOpen stillOpen
  unfold markReconciling
  rw [found]
  dsimp only
  split
  · exact kept
  · split
    · rw [Map.get_set_self]
      rfl
    · exact kept

/-- A settlement makes an open order void exactly when it is accepted and states that. -/
theorem isVoid_settleOrder {payload : SettlementPayload} {order : SettlementOrder}
    (commit : Commit) (found : db.orders.get payload.clientOrderId = some order)
    (stillOpen : order.status.isOpen = true)
    : isVoid ((settleOrder db payload commit).1.orders.get payload.clientOrderId) = true
      ↔ payload.status = .void ∧ Accepts db payload commit := by
  by_cases accepts : Accepts db payload commit
  · obtain ⟨own, settled, written, -, -, writes, after⟩ := settleOrder_of_accepts accepts
    obtain ⟨final, -⟩ := settlementWrites_spec writes
    rw [after]
    dsimp only
    rw [Map.get_set_self]
    simp only [isVoid, Option.any_some, final, decide_eq_true_eq, accepts, and_true]
    cases payload.status <;> simp [SettlementStatus.final]
  · rw [settleOrder_of_not_accepts accepts, found, isVoid_of_isOpen stillOpen]
    simp [accepts]

/-- There is evidence of a final outcome for an order. -/
def finalEvidence (answers : ReconcileAnswers) (row : OpenOrder) (evidence : SettlementEvidence)
    (status : SettlementStatus) : Prop :=
  (answers.evidence row.clientOrderId).evidence = some evidence
  ∧ evidence.status.outcome = some status

/-- Evidence of a final outcome is handed to the engine. -/
theorem bootStep_of_finalEvidence {row : OpenOrder} {evidence : SettlementEvidence}
    {status : SettlementStatus} (final : finalEvidence answers row evidence status)
    : bootStep answers db row
      = ((settleOrder db (bootPayload row evidence status)
            (answers.commit row.clientOrderId)).1,
          if (settleOrder db (bootPayload row evidence status)
              (answers.commit row.clientOrderId)).2 = .thrown then .error
          else .settled) := by
  obtain ⟨answered, outcome⟩ := final
  unfold bootStep bootReconcileOrder
  cases answer : answers.evidence row.clientOrderId with
  | noProvider => simp [answer, EvidenceAnswer.evidence] at answered
  | rejected => simp [answer, EvidenceAnswer.evidence] at answered
  | answered found =>
      rw [answer] at answered
      obtain rfl : found = some evidence := answered
      simp only [outcome]

/-- Without it the order is marked, or left where the search for evidence failed. -/
theorem bootStep_of_no_finalEvidence (db : SettlementDb) {row : OpenOrder}
    (none : ∀ evidence status, ¬ finalEvidence answers row evidence status)
    : (bootStep answers db row).1 = db
      ∨ (bootStep answers db row).1
        = (markReconciling db row.clientOrderId (answers.commit row.clientOrderId)).1 := by
  unfold bootStep bootReconcileOrder
  cases answer : answers.evidence row.clientOrderId with
  | noProvider => exact .inr rfl
  | rejected => exact .inl rfl
  | answered found =>
      cases found with
      | none => exact .inr rfl
      | some evidence =>
          cases outcome : evidence.status.outcome with
          | none =>
              right
              simp only [outcome]
          | some status =>
              refine absurd ⟨?_, outcome⟩ (none evidence status)
              rw [answer]
              rfl

/-- The evidence of an order states that it is void, and the engine settles it so. -/
def SettledAsVoid (db : SettlementDb) (answers : ReconcileAnswers) (row : OpenOrder) : Prop :=
  ∃ evidence, finalEvidence answers row evidence .void
    ∧ Accepts db (bootPayload row evidence .void) (answers.commit row.clientOrderId)

/-- An open order is void after its step exactly then. -/
theorem isVoid_bootStep {row : OpenOrder} {order : SettlementOrder}
    (found : db.orders.get row.clientOrderId = some order)
    (stillOpen : order.status.isOpen = true)
    : isVoid ((bootStep answers db row).1.orders.get row.clientOrderId) = true
      ↔ SettledAsVoid db answers row := by
  by_cases final : ∃ evidence status, finalEvidence answers row evidence status
  · obtain ⟨evidence, status, final⟩ := final
    rw [bootStep_of_finalEvidence final]
    have foundPayload : db.orders.get (bootPayload row evidence status).clientOrderId
        = some order := found
    have settles := isVoid_settleOrder (answers.commit row.clientOrderId)
      foundPayload stillOpen
    refine settles.trans ?_
    constructor
    · rintro ⟨states, accepts⟩
      obtain rfl : status = .void := states
      exact ⟨evidence, final, accepts⟩
    · rintro ⟨other, voids, accepts⟩
      obtain rfl := Option.some.inj (voids.1.symm.trans final.1)
      obtain rfl := Option.some.inj (voids.2.symm.trans final.2)
      exact ⟨rfl, accepts⟩
  · simp only [not_exists] at final
    refine iff_of_false ?_ fun settled => final _ _ settled.choose_spec.1
    rw [Bool.not_eq_true]
    rcases bootStep_of_no_finalEvidence db final with same | marked
    · rw [same, found]
      exact isVoid_of_isOpen stillOpen
    · rw [marked]
      exact isVoid_markReconciling found stillOpen _

/-- The evidence of an order is final, and the engine would settle it and answer so. -/
def Settles (db : SettlementDb) (answers : ReconcileAnswers) (row : OpenOrder) : Prop :=
  ∃ evidence status, finalEvidence answers row evidence status
    ∧ Accepts db (bootPayload row evidence status) (answers.commit row.clientOrderId)
    ∧ answers.commit row.clientOrderId = .succeeds

/-- An open order with final evidence is no error exactly then. -/
theorem bootStep_error_iff {row : OpenOrder} {order : SettlementOrder}
    (found : db.orders.get row.clientOrderId = some order)
    (stillOpen : order.status.isOpen = true) {evidence : SettlementEvidence}
    {status : SettlementStatus} (final : finalEvidence answers row evidence status)
    : (bootStep answers db row).2 = .error ↔ ¬ Settles db answers row := by
  have foundPayload : db.orders.get (bootPayload row evidence status).clientOrderId
      = some order := found
  have thrown := settleOrder_thrown_iff (answers.commit row.clientOrderId)
    foundPayload stillOpen
  have error : (bootStep answers db row).2 = .error
      ↔ (settleOrder db (bootPayload row evidence status)
          (answers.commit row.clientOrderId)).2 = .thrown := by
    rw [bootStep_of_finalEvidence final]
    simp
  rw [error, thrown, not_iff_not]
  constructor
  · rintro ⟨accepts, succeeds⟩
    exact ⟨evidence, status, final, accepts, succeeds⟩
  · rintro ⟨own, outcome, ownFinal, accepts, succeeds⟩
    obtain rfl := Option.some.inj (ownFinal.1.symm.trans final.1)
    obtain rfl := Option.some.inj (ownFinal.2.symm.trans final.2)
    exact ⟨accepts, succeeds⟩

/-- An open order is settled in its status exactly when it was dispatched and is settled in
status `RECONCILING`.
-/
theorem settles_iff {row : OpenOrder} {order : SettlementOrder}
    (found : db.orders.get row.clientOrderId = some order)
    (stillOpen : order.status.isOpen = true)
    : Settles db answers row
      ↔ order.status ≠ .orderIntent
        ∧ Settles (db.withStatus row.clientOrderId .reconciling) answers row := by
  have accepted : ∀ evidence status,
      Accepts db (bootPayload row evidence status) (answers.commit row.clientOrderId)
      ↔ order.status ≠ .orderIntent
        ∧ Accepts (db.withStatus row.clientOrderId .reconciling) (bootPayload row evidence status)
          (answers.commit row.clientOrderId) := by
    intro evidence status
    have foundPayload : db.orders.get (bootPayload row evidence status).clientOrderId
        = some order := found
    have marked : (db.withStatus row.clientOrderId .reconciling).orders.get
        (bootPayload row evidence status).clientOrderId
        = some { order with status := .reconciling } :=
      get_withStatus found .reconciling
    rw [accepts_iff foundPayload stillOpen, accepts_iff marked rfl]
    simp only [SettlementDb.withStatus, ne_eq, reduceCtorEq, not_false_eq_true, true_and]
    tauto
  constructor
  · rintro ⟨evidence, status, final, accepts, succeeds⟩
    obtain ⟨dispatched, accepts⟩ := (accepted evidence status).mp accepts
    exact ⟨dispatched, evidence, status, final, accepts, succeeds⟩
  · rintro ⟨dispatched, evidence, status, final, accepts, succeeds⟩
    exact ⟨evidence, status, final, (accepted evidence status).mpr ⟨dispatched, accepts⟩,
      succeeds⟩

-----------------------------------------------------------------------------------------
-- What is reported
-----------------------------------------------------------------------------------------

/-- The orders that were open and are void afterwards. -/
def voidedOrders (before after : SettlementDb) : Nat :=
  before.orders.entries.countP fun entry =>
    entry.2.status.isOpen && isVoid (after.orders.get entry.1)

/-- The report adds up to the orders that were scanned, which are the open ones up to the limit;
it counts as voided the orders that were settled so; and no order with final evidence is an
error in its status that would be none in another open one.
-/
structure BootAccounts (db : SettlementDb) (answers : ReconcileAnswers) (limit : Nat)
    : Prop where
  scanned : (bootReconcileOpenOrders db answers limit).2.opened
    = min limit (db.orders.entries.countP fun entry => entry.2.status.isOpen)
  total :
    let report := (bootReconcileOpenOrders db answers limit).2
    report.settled + report.voided + report.stillOpen + report.errors = report.opened
  voided : (bootReconcileOpenOrders db answers limit).2.voided
    = voidedOrders db (bootReconcileOpenOrders db answers limit).1
  final : ∀ row evidence status,
    (row, .error) ∈ bootOutcomes answers db (bootOrders db limit)
    → finalEvidence answers row evidence status
    → ∀ other : OrderStatus, other.isOpen = true
      → (bootStep answers (db.withStatus row.clientOrderId other) row).2 = .error

/-- The report always adds up. -/
theorem bootReconcileOpenOrders_total (db : SettlementDb) (answers : ReconcileAnswers)
    (limit : Nat)
    : let report := (bootReconcileOpenOrders db answers limit).2
      report.opened = (bootOrders db limit).length ∧ report.voided = 0
      ∧ report.settled + report.voided + report.stillOpen + report.errors = report.opened := by
  have counted := count_outcomes
    ((bootOutcomes answers db (bootOrders db limit)).map Prod.snd)
  rw [List.length_map, bootOutcomes_length] at counted
  rw [bootReconcileOpenOrders_eq, foldl_count]
  refine ⟨rfl, rfl, ?_⟩
  dsimp only
  omega

/-- No open order becomes void exactly when none of the scanned ones is settled so. -/
theorem voidedOrders_eq_zero_iff (limit : Nat)
    : voidedOrders db (bootReconcileOpenOrders db answers limit).1 = 0
      ↔ ∀ row ∈ bootOrders db limit, ¬ SettledAsVoid db answers row := by
  have distinct := bootOrders_distinct db limit
  simp only [voidedOrders, List.countP_eq_zero, Bool.and_eq_true, not_and,
    bootReconcileOpenOrders_eq]
  constructor
  · intro none row member settled
    obtain ⟨order, found, status, stillOpen⟩ := mem_bootOrders member
    rw [← status] at stillOpen
    refine none (row.clientOrderId, order) (Map.mem_entries_iff.mpr found) stillOpen ?_
    rw [(bootTables_own distinct member).row]
    exact (isVoid_bootStep found stillOpen).mpr settled
  · rintro none ⟨clientOrderId, order⟩ entry stillOpen void
    have found := Map.mem_entries_iff.mp entry
    by_cases scanned : clientOrderId ∈ (bootOrders db limit).map (·.clientOrderId)
    · obtain ⟨row, member, rfl⟩ := List.mem_map.mp scanned
      rw [(bootTables_own distinct member).row] at void
      exact none row member ((isVoid_bootStep found stillOpen).mp void)
    · rw [(bootTables_other _ scanned).row, found, isVoid_of_isOpen stillOpen] at void
      cases void

/-- The report is right exactly when no scanned order is settled as void, and none that was never
dispatched has final evidence that would settle it in status `RECONCILING`.
-/
theorem bootAccounts_iff (db : SettlementDb) (answers : ReconcileAnswers) (limit : Nat)
    : BootAccounts db answers limit
      ↔ ∀ row ∈ bootOrders db limit, ¬ SettledAsVoid db answers row
        ∧ (row.status = .orderIntent
          → ¬ Settles (db.withStatus row.clientOrderId .reconciling) answers row) := by
  have distinct := bootOrders_distinct db limit
  obtain ⟨opened, none, total⟩ := bootReconcileOpenOrders_total db answers limit
  have outcomes := bootOutcomes_eq db answers distinct
  constructor
  · intro accounts row member
    have counted := accounts.voided
    rw [none] at counted
    refine ⟨(voidedOrders_eq_zero_iff limit).mp counted.symm row member, ?_⟩
    intro intent settles
    obtain ⟨order, found, status, stillOpen⟩ := mem_bootOrders member
    rw [← status] at stillOpen intent
    obtain ⟨evidence, outcome, final, -⟩ := id settles
    -- the order is an error as it is, and would be settled once it is `RECONCILING`
    have refused : ¬ Settles db answers row := fun now =>
      ((settles_iff found stillOpen).mp now).1 intent
    have error : (row, .error) ∈ bootOutcomes answers db (bootOrders db limit) := by
      rw [outcomes]
      refine List.mem_map.mpr ⟨row, member, ?_⟩
      rw [(bootStep_error_iff found stillOpen final).mpr refused]
    have other := accounts.final row evidence outcome error final .reconciling rfl
    exact (bootStep_error_iff (get_withStatus found .reconciling) rfl final).mp other settles
  · intro clear
    refine ⟨opened.trans (bootOrders_length db limit), total, ?_, ?_⟩
    · rw [none, eq_comm, voidedOrders_eq_zero_iff]
      exact fun row member => (clear row member).1
    · intro row evidence status error final other otherOpen
      rw [outcomes] at error
      obtain ⟨own, member, same⟩ := List.mem_map.mp error
      obtain ⟨rfl, ends⟩ := Prod.mk.inj same
      obtain ⟨order, found, ownStatus, stillOpen⟩ := mem_bootOrders member
      rw [← ownStatus] at stillOpen
      have refused := (bootStep_error_iff found stillOpen final).mp ends
      refine (bootStep_error_iff (get_withStatus found other) otherOpen final).mpr ?_
      intro settles
      obtain ⟨-, reconciled⟩ := (settles_iff (get_withStatus found other) otherOpen).mp settles
      rw [withStatus_withStatus] at reconciled
      by_cases intent : own.status = .orderIntent
      · exact (clear own member).2 intent reconciled
      · rw [← ownStatus] at intent
        exact refused ((settles_iff found stillOpen).mpr ⟨intent, reconciled⟩)

/-- A dispatched order, and one whose intent was never dispatched. -/
def twoOpenOrders : SettlementDb where
  orders :=
    dispatchedOrder.orders.set "order-2"
      { wagerAmount := 5, status := .orderIntent, createdAt := 1 }
  entries :=
    dispatchedOrder.entries
      ++ [{ clientOrderId := "order-2", account := .unsettled, debit := 5, credit := 0,
            memo := "exposure open" },
          { clientOrderId := "order-2", account := .hotWallet, debit := 0, credit := 5,
            memo := "wager lock" }]

/-- The first one was void, and the second one won. -/
def voidAndWon : ReconcileAnswers where
  evidence clientOrderId :=
    .answered (some { status := if clientOrderId = "order-1" then .void else .win })
  commit _ := .succeeds

/-- The order that is settled as void is counted as settled, and the one that was never
dispatched is an error, although its evidence would settle it in status `RECONCILING`.
-/
theorem void_not_counted
    : (bootReconcileOpenOrders twoOpenOrders voidAndWon 200).2
        = { opened := 2, settled := 1, errors := 1 }
      ∧ voidedOrders twoOpenOrders (bootReconcileOpenOrders twoOpenOrders voidAndWon 200).1 = 1
      ∧ (bootReconcileOpenOrders (twoOpenOrders.withStatus "order-2" .reconciling) voidAndWon
          200).2
        = { opened := 2, settled := 2 }
      ∧ ¬ BootAccounts twoOpenOrders voidAndWon 200 := by
  have report : (bootReconcileOpenOrders twoOpenOrders voidAndWon 200).2
      = { opened := 2, settled := 1, errors := 1 } := by decide +kernel
  have voided : voidedOrders twoOpenOrders
      (bootReconcileOpenOrders twoOpenOrders voidAndWon 200).1 = 1 := by decide +kernel
  refine ⟨report, voided, by decide +kernel, fun accounts => ?_⟩
  have counted := accounts.voided
  rw [report, voided] at counted
  cases counted

end CrashWave.Settlement
