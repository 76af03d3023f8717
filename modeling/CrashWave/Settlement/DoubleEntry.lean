import CrashWave.Runs.Basic
import CrashWave.Settlement.Books
import CrashWave.Settlement.ExplicitEvidence

/-! Double-entry settlement over every sequence of engine calls. The books of an open order
hold its wager as exposure, a settlement closes them once, and nothing moves them afterwards.
They come out even unless a win below the wager is paid half a unit of the last decimal: its
payout and its residual are then both rounded up, and the tolerance of the balance check lets
that pass.
-/

namespace CrashWave.Settlement

open JavaScript

/-- What a call does to the tables: nothing, a new order, another open status of its order,
or its settlement.
-/
inductive EngineEffect (db : SettlementDb) (call : EngineCall) : SettlementDb → Prop where
  | unchanged : EngineEffect db call db
  | intended {intent : CreateOrderIntent} {attempts : Nat → AttemptEnd}
      {written : List LedgerEntry} {order : SettlementOrder}
      (made : call = .createOrderIntent intent attempts)
      (absent : db.orders.get intent.clientOrderId = none)
      (writes : intent.writes db.entries = some (written, order))
      : EngineEffect db call
          { orders := db.orders.set intent.clientOrderId order
            entries := db.entries ++ written }
  | marked {order : SettlementOrder} {status : OrderStatus}
      (found : db.orders.get call.clientOrderId = some order)
      (unsettled : order.status.isFinal = false) (stillOpen : status.isFinal = false)
      : EngineEffect db call
          { db with orders := db.orders.set call.clientOrderId { order with status } }
  | settled {payload : SettlementPayload} {attempts : Nat → AttemptEnd}
      {order closed : SettlementOrder} {gross : ℚ} {written : List LedgerEntry}
      (made : call = .settleOrder payload attempts)
      (found : db.orders.get payload.clientOrderId = some order)
      (unsettled : order.status.isFinal = false)
      (paid : payload.grossPayout = .finite gross) (nonneg : 0 ≤ gross)
      (inserted : settlementEntries payload.clientOrderId order.wagerAmount gross
        payload.status = some written)
      (final : closed.status = payload.status.final)
      (wager : closed.wagerAmount = order.wagerAmount)
      : EngineEffect db call
          { orders := db.orders.set payload.clientOrderId closed
            entries := db.entries ++ written }

/-- What a settlement writes, in terms of the amount that it pays. -/
theorem settlementWrites_entries {order settled : SettlementOrder}
    {payload : SettlementPayload} {entries written : List LedgerEntry}
    (writes : order.settlementWrites payload entries = some (written, settled))
    : ∃ gross, payload.grossPayout = .finite gross
      ∧ settlementEntries payload.clientOrderId order.wagerAmount gross payload.status
        = some written
      ∧ settled.status = payload.status.final
      ∧ settled.wagerAmount = order.wagerAmount
      ∧ settled.grossPayout = some (toFixed 8 gross) := by
  simp only [SettlementOrder.settlementWrites, Option.bind_eq_bind,
    Option.bind_eq_some_iff, Option.ite_none_right_eq_some, Option.some.injEq,
    Prod.mk.injEq] at writes
  obtain ⟨gross, finite, entries, inserted, payout, paid, multiplier, -, -, rfl, rfl⟩ := writes
  have isFinite : payload.grossPayout = .finite gross := by
    cases found : payload.grossPayout <;> simp_all [Number.finiteValue]
  rw [isFinite] at paid
  exact ⟨gross, isFinite, inserted, rfl, rfl, by rw [numeric_finite paid]⟩

variable {db : SettlementDb}

/-- A mark starts from an open status and leaves an open one. -/
theorem markDispatched_effect (clientOrderId : String) (commit : Commit)
    : EngineEffect db (.markDispatched clientOrderId commit)
        (markDispatched db clientOrderId commit).1 := by
  unfold markDispatched
  split
  · next order found =>
      split
      · exact .unchanged
      · next moves =>
          simp only [not_or, ne_eq, Decidable.not_not] at moves
          exact .marked found (by rw [moves.2]; rfl) rfl
  · exact .unchanged

theorem markReconciling_effect (clientOrderId : String) (commit : Commit)
    : EngineEffect db (.markReconciling clientOrderId commit)
        (markReconciling db clientOrderId commit).1 := by
  unfold markReconciling
  split
  · next order found =>
      split
      · exact .unchanged
      · next moves =>
          split
          · refine .marked found ?_ rfl
            simp only [OrderStatus.marksReconciling, not_or, Bool.not_eq_false] at moves
            cases status : order.status <;> simp_all [OrderStatus.isFinal]
          · exact .unchanged
  · exact .unchanged

/-- Every call has one of these effects. -/
theorem engineStep_effect (call : EngineCall)
    : EngineEffect db call (engineStep db call) := by
  cases call with
  | createOrderIntent intent attempts =>
      rcases engineStep_createOrderIntent intent attempts with
        same | ⟨written, order, absent, writes, after⟩
      · rw [same]
        exact .unchanged
      · rw [after]
        exact .intended rfl absent writes
  | markDispatched clientOrderId commit => exact markDispatched_effect clientOrderId commit
  | markReconciling clientOrderId commit => exact markReconciling_effect clientOrderId commit
  | settleOrder payload attempts =>
      rcases engineStep_settleOrder payload attempts with same | ⟨commit, after⟩
      · rw [same]
        exact .unchanged
      · rw [after]
        by_cases accepts : Accepts db payload commit
        · obtain ⟨order, settled, written, found, unsettled, writes, after⟩ :=
            settleOrder_of_accepts accepts
          obtain ⟨gross, paid, inserted, final, wager, -⟩ := settlementWrites_entries writes
          rw [after]
          refine .settled rfl found unsettled paid ?_ inserted final wager
          have valid := accepts.valid
          simp only [SettlementPayload.valid, paid, decide_eq_true_eq] at valid
          exact of_decide_eq_true valid.2.1
        · rw [settleOrder_of_not_accepts accepts]
          exact .unchanged

/-- The books of an open order: its wager, which is on the scale of the ledger, stands as
exposure and is off the hot wallet.
-/
structure OpenBooks (db : SettlementDb) (clientOrderId : String) (wager : ℚ) : Prop where
  onScale : OnScale 8 wager
  exposure : accountNet db clientOrderId .unsettled = wager
  locked : accountNet db clientOrderId .hotWallet = - wager
  unrealized : accountNet db clientOrderId .realizedPnl = 0

/-- Every order without a settlement has the books of an open order, and what is no order has
none.
-/
structure OpenBooked (db : SettlementDb) : Prop where
  unordered : ∀ clientOrderId, db.orders.get clientOrderId = none
    → entriesOf db.entries clientOrderId = []
  unsettled : ∀ clientOrderId order, db.orders.get clientOrderId = some order
    → order.status.isFinal = false → OpenBooks db clientOrderId order.wagerAmount

/-- The books of an order are even, and its exposure is closed. -/
structure ClosedBooks (db : SettlementDb) (clientOrderId : String) : Prop where
  even : orderNet db clientOrderId = 0
  closed : accountNet db clientOrderId .unsettled = 0

/-- Books that are read from the same entries are the same. -/
theorem OpenBooks.congr {after : SettlementDb} {clientOrderId : String} {wager : ℚ}
    (books : OpenBooks db clientOrderId wager)
    (same : entriesOf after.entries clientOrderId = entriesOf db.entries clientOrderId)
    : OpenBooks after clientOrderId wager := by
  obtain ⟨onScale, exposure, locked, unrealized⟩ := books
  unfold accountNet at exposure locked unrealized
  constructor <;> simpa only [accountNet, same]

theorem OpenBooks.even {clientOrderId : String} {wager : ℚ}
    (books : OpenBooks db clientOrderId wager) : orderNet db clientOrderId = 0 := by
  have exposure := books.exposure
  have locked := books.locked
  have unrealized := books.unrealized
  unfold accountNet at exposure locked unrealized
  rw [orderNet, total_eq_posted, exposure, locked, unrealized]
  ring

theorem openBooked_empty : OpenBooked .empty where
  unordered _ _ := rfl
  unsettled _ _ found := by cases found

variable {call : EngineCall} {after : SettlementDb}

/-- A call that writes the row of one order, and entries of that order only, keeps the open
books of all others.
-/
theorem OpenBooked.write (booked : OpenBooked db) {clientOrderId : String}
    {order : SettlementOrder} {entries : List LedgerEntry}
    (others : ∀ other ≠ clientOrderId, entriesOf entries other = entriesOf db.entries other)
    (own : order.status.isFinal = false
      → OpenBooks { db with entries } clientOrderId order.wagerAmount)
    : OpenBooked { orders := db.orders.set clientOrderId order, entries } := by
  constructor
  · intro other none
    have differs : other ≠ clientOrderId := by
      rintro rfl
      simp at none
    rw [Map.get_set_of_ne _ _ differs] at none
    rw [others other differs]
    exact booked.unordered other none
  · apply Map.forall_get_set
    · intro unsettled
      exact (own unsettled).congr rfl
    · intro other differs row found unsettled
      exact (booked.unsettled other row found unsettled).congr (others other differs)

/-- A call keeps the books of the open orders: those of its own order by what it writes, all
others because it writes nothing of them.
-/
theorem EngineEffect.openBooked (effect : EngineEffect db call after)
    (booked : OpenBooked db) : OpenBooked after := by
  cases effect with
  | unchanged => exact booked
  | @intended intent attempts written order made absent writes =>
      obtain ⟨-, wager, own, exposure, locked, unrealized⟩ := intent.writes_spec writes
      have before := booked.unordered intent.clientOrderId absent
      refine booked.write (fun other differs => own.entriesOf_append_of_ne _ differs) ?_
      intro _
      constructor
      · rw [wager]
        exact toFixed_onScale
      all_goals rw [accountNet, own.entriesOf_append, before, List.nil_append]
      · exact exposure
      · exact locked
      · exact unrealized
  | @marked order status found unsettled stillOpen =>
      refine booked.write (fun _ _ => rfl) ?_
      intro _
      exact (booked.unsettled _ order found unsettled).congr rfl
  | @settled payload attempts order closed gross written made found unsettled paid nonneg
      inserted final wager =>
      obtain ⟨own, -⟩ := settlementEntries_spec nonneg inserted
      refine booked.write (fun other differs => own.entriesOf_append_of_ne _ differs) ?_
      intro open'
      rw [final] at open'
      cases status : payload.status <;> rw [status] at open' <;> cases open'

/-- The books of an order right after its settlement: what was open and what was posted. -/
theorem OpenBooks.settled {payload : SettlementPayload} {wager gross : ℚ}
    {written : List LedgerEntry} (books : OpenBooks db payload.clientOrderId wager)
    (orders : Map String SettlementOrder) (nonneg : 0 ≤ gross)
    (inserted : settlementEntries payload.clientOrderId wager gross payload.status
      = some written)
    : let after : SettlementDb := { orders, entries := db.entries ++ written }
      accountNet after payload.clientOrderId .unsettled = 0
      ∧ accountNet after payload.clientOrderId .hotWallet
        = settlementPostings wager gross payload.status .hotWallet - wager
      ∧ accountNet after payload.clientOrderId .realizedPnl
        = settlementPostings wager gross payload.status .realizedPnl := by
  obtain ⟨onScale, exposure, locked, unrealized⟩ := books
  obtain ⟨own, posts⟩ := settlementEntries_spec nonneg inserted
  unfold accountNet at exposure locked unrealized
  simp only [accountNet, own.entriesOf_append, posted_append, posts, exposure, locked,
    unrealized]
  refine ⟨?_, by ring, by ring⟩
  rw [← toFixed_eq_self_iff] at onScale
  cases payload.status <;> simp [settlementPostings, onScale]

/-- A settlement comes out even, unless it pays a win below the wager half a unit of the last
decimal.
-/
theorem settlementPostings_even {wager gross : ℚ} {status : SettlementStatus}
    (onScale : OnScale 8 wager)
    (untied : status = .win → gross < wager → ¬ Halfway 8 gross)
    : settlementPostings wager gross status .hotWallet
        + settlementPostings wager gross status .realizedPnl
      = wager := by
  have stored : toFixed 8 wager = wager := toFixed_eq_self_iff.mpr onScale
  cases status with
  | win =>
      by_cases covered : wager ≤ gross
      · simp only [settlementPostings, if_pos covered, toFixed_sub onScale]
        ring
      · have clear := untied rfl (not_le.mp covered)
        simp only [settlementPostings, if_neg covered, toFixed_complement onScale clear]
        ring
  | loss => simp [settlementPostings, stored]
  | void => simp [settlementPostings, stored]

/-- Such a win comes out one unit of the last decimal above its wager. -/
theorem settlementPostings_tied {wager gross : ℚ} (onScale : OnScale 8 wager)
    (short : gross < wager) (half : Halfway 8 gross)
    : settlementPostings wager gross .win .hotWallet
        + settlementPostings wager gross .win .realizedPnl
      = wager + 1 / 10 ^ 8 := by
  simp only [settlementPostings, if_neg (not_le.mpr short),
    toFixed_complement_of_halfway onScale half]
  ring

/-- A settlement that pays a win does not pay, below the wager, half a unit of the eighth
decimal.
-/
def Untied (db : SettlementDb) : EngineCall → Prop
  | .settleOrder payload _ =>
      ∀ order gross, db.orders.get payload.clientOrderId = some order
        → payload.grossPayout = .finite gross → payload.status = .win
        → gross < order.wagerAmount → ¬ Halfway 8 gross
  | _ => True

/-- The books of every settled order are closed. -/
def ClosedBooked (db : SettlementDb) : Prop :=
  ∀ clientOrderId order, db.orders.get clientOrderId = some order
    → order.status.isFinal = true → ClosedBooks db clientOrderId

/-- A final order keeps its row and its entries. -/
def SettledStays (before after : SettlementDb) : Prop :=
  ∀ clientOrderId order, before.orders.get clientOrderId = some order
    → order.status.isFinal = true
    → after.orders.get clientOrderId = some order
      ∧ entriesOf after.entries clientOrderId = entriesOf before.entries clientOrderId

/-- No call touches a final order. -/
theorem EngineEffect.settledStays (effect : EngineEffect db call after)
    : SettledStays db after := by
  intro clientOrderId order found final
  cases effect with
  | unchanged => exact ⟨found, rfl⟩
  | @intended intent attempts written row made absent writes =>
      obtain ⟨-, -, own, -⟩ := intent.writes_spec writes
      have other : clientOrderId ≠ intent.clientOrderId := by
        rintro rfl
        rw [absent] at found
        cases found
      exact ⟨by rw [Map.get_set_of_ne _ _ other, found], own.entriesOf_append_of_ne _ other⟩
  | @marked row status present unsettled stillOpen =>
      have other : clientOrderId ≠ call.clientOrderId := by
        rintro rfl
        obtain rfl := Option.some.inj (found.symm.trans present)
        rw [final] at unsettled
        cases unsettled
      exact ⟨by rw [Map.get_set_of_ne _ _ other, found], rfl⟩
  | @settled payload attempts row closed gross written made present unsettled paid nonneg
      inserted final' wager =>
      obtain ⟨own, -⟩ := settlementEntries_spec nonneg inserted
      have other : clientOrderId ≠ payload.clientOrderId := by
        rintro rfl
        obtain rfl := Option.some.inj (found.symm.trans present)
        rw [final] at unsettled
        cases unsettled
      exact ⟨by rw [Map.get_set_of_ne _ _ other, found], own.entriesOf_append_of_ne _ other⟩

theorem ClosedBooks.congr {clientOrderId : String} (books : ClosedBooks db clientOrderId)
    (same : entriesOf after.entries clientOrderId = entriesOf db.entries clientOrderId)
    : ClosedBooks after clientOrderId where
  even := by simpa only [orderNet, same] using books.even
  closed := by simpa only [accountNet, same] using books.closed

/-- A call that writes the row of one order, and entries of that order only, keeps the closed
books of all others.
-/
theorem ClosedBooked.write (closedBooks : ClosedBooked db) {clientOrderId : String}
    {order : SettlementOrder} {entries : List LedgerEntry}
    (others : ∀ other ≠ clientOrderId, entriesOf entries other = entriesOf db.entries other)
    (own : order.status.isFinal = true → ClosedBooks { db with entries } clientOrderId)
    : ClosedBooked { orders := db.orders.set clientOrderId order, entries } := by
  apply Map.forall_get_set
  · intro final
    exact (own final).congr rfl
  · intro other differs row found final
    exact (closedBooks other row found final).congr (others other differs)

/-- A call that is not tied keeps the books of the settled orders closed: an order that becomes
final in it is settled by it.
-/
theorem EngineEffect.closedBooked (effect : EngineEffect db call after)
    (booked : OpenBooked db) (closedBooks : ClosedBooked db) (untied : Untied db call)
    : ClosedBooked after := by
  cases effect with
  | unchanged => exact closedBooks
  | @intended intent attempts written row made absent writes =>
      obtain ⟨opened, -, own, -⟩ := intent.writes_spec writes
      refine closedBooks.write (fun other differs => own.entriesOf_append_of_ne _ differs) ?_
      intro final
      rw [opened] at final
      cases final
  | @marked row status present unsettled stillOpen =>
      refine closedBooks.write (fun _ _ => rfl) ?_
      intro final
      rw [stillOpen] at final
      cases final
  | @settled payload attempts row closed gross written made present unsettled paid nonneg
      inserted becomes wager =>
      obtain ⟨own, -⟩ := settlementEntries_spec nonneg inserted
      refine closedBooks.write (fun other differs => own.entriesOf_append_of_ne _ differs) ?_
      intro _
      have books := booked.unsettled _ row present unsettled
      obtain ⟨exposure, wallet, pnl⟩ := books.settled db.orders nonneg inserted
      refine ⟨?_, exposure⟩
      rw [made] at untied
      have even := settlementPostings_even books.onScale (untied row gross present paid)
      unfold accountNet at exposure wallet pnl
      rw [orderNet, total_eq_posted, exposure, wallet, pnl]
      linarith

/-- The order of a call becomes final in it. -/
def settlesNow (before after : SettlementDb) (clientOrderId : String) : Bool :=
  (after.orders.get clientOrderId).any (·.status.isFinal)
    && !(before.orders.get clientOrderId).any (·.status.isFinal)

/-- Keeps the ids of the orders in the order of their settlements. -/
def settlementLog (log : List String) (db : SettlementDb) (call : EngineCall) : List String :=
  if settlesNow db (engineStep db call) call.clientOrderId then log ++ [call.clientOrderId]
  else log

/-- The tables after a call, with the settlements so far. -/
def bookedStep : SettlementDb × List String → EngineCall → SettlementDb × List String :=
  Runs.watched engineStep settlementLog

/-- Double entry after a call: all books are even, the exposure of every settled order is
closed, no order is settled twice, and no final order was touched.
-/
structure DoubleEntry (state : SettlementDb × List String) (call : EngineCall) : Prop where
  even : ∀ clientOrderId, orderNet (bookedStep state call).1 clientOrderId = 0
  closed : ∀ clientOrderId order,
    (bookedStep state call).1.orders.get clientOrderId = some order
    → order.status.isFinal = true
    → accountNet (bookedStep state call).1 clientOrderId .unsettled = 0
  once : (bookedStep state call).2.Nodup
  stays : SettledStays state.1 (bookedStep state call).1

/-- What the calls keep: the books of open and of settled orders, and a log of settlements
that names final orders once.
-/
structure Booked (state : SettlementDb × List String) : Prop where
  open' : OpenBooked state.1
  closed : ClosedBooked state.1
  logged : ∀ clientOrderId ∈ state.2, ∃ order,
    state.1.orders.get clientOrderId = some order ∧ order.status.isFinal = true
  once : state.2.Nodup

theorem booked_empty : Booked (.empty, []) where
  open' := openBooked_empty
  closed _ _ found := by cases found
  logged _ member := by cases member
  once := List.nodup_nil

theorem Booked.even {state : SettlementDb × List String} (booked : Booked state)
    (clientOrderId : String) : orderNet state.1 clientOrderId = 0 := by
  cases found : state.1.orders.get clientOrderId with
  | none =>
      rw [orderNet, booked.open'.unordered clientOrderId found]
      rfl
  | some order =>
      cases final : order.status.isFinal with
      | false => exact (booked.open'.unsettled clientOrderId order found final).even
      | true => exact (booked.closed clientOrderId order found final).even

/-- A call that is not tied keeps the books, by its effect. -/
theorem booked_step {state : SettlementDb × List String} (booked : Booked state)
    {call : EngineCall} (untied : Untied state.1 call) : Booked (bookedStep state call) := by
  have effect : EngineEffect state.1 call (engineStep state.1 call) := engineStep_effect call
  have logged : ∀ clientOrderId ∈ state.2, ∃ order,
      (engineStep state.1 call).orders.get clientOrderId = some order
      ∧ order.status.isFinal = true := by
    intro clientOrderId member
    obtain ⟨order, found, final⟩ := booked.logged clientOrderId member
    exact ⟨order, (effect.settledStays clientOrderId order found final).1, final⟩
  constructor
  · exact effect.openBooked booked.open'
  · exact effect.closedBooked booked.open' booked.closed untied
  · intro clientOrderId member
    simp only [bookedStep, Runs.watched, settlementLog] at member ⊢
    split at member
    · next now =>
        rcases List.mem_append.mp member with earlier | last
        · exact logged clientOrderId earlier
        · rw [List.mem_singleton.mp last]
          simp only [settlesNow, Bool.and_eq_true, Option.any_eq_true] at now
          exact now.1
    · exact logged clientOrderId member
  · simp only [bookedStep, Runs.watched, settlementLog]
    split
    · next now =>
        simp only [settlesNow, Bool.and_eq_true, Bool.not_eq_true', Option.any_eq_false] at now
        refine List.nodup_append.mpr ⟨booked.once, List.nodup_singleton _, ?_⟩
        intro earlier member last same equal
        rw [equal, List.mem_singleton.mp same] at member
        obtain ⟨order, found, final⟩ := booked.logged _ member
        exact absurd final (by simpa using now.2 order found)
    · exact booked.once

/-- In every sequence of engine calls none of which is tied, double entry holds after every
call, by run induction.
-/
theorem doubleEntry_of_untied (calls : List EngineCall)
    (untied : Runs.Always bookedStep (fun state call => Untied state.1 call)
      (.empty, []) calls)
    : Runs.Always bookedStep DoubleEntry (.empty, []) calls := by
  refine Runs.Always.of_invariant ?_ untied booked_empty
  intro state call booked untied
  have next := booked_step booked untied
  have effect : EngineEffect state.1 call (engineStep state.1 call) := engineStep_effect call
  refine ⟨⟨next.even, ?_, next.once, ?_⟩, next⟩
  · exact fun clientOrderId order found final => (next.closed _ order found final).closed
  · exact effect.settledStays

/-- An order that is made, dispatched and settled as a win, at the first attempts. -/
def wonOrder (wager gross : ℚ) : List EngineCall :=
  [.createOrderIntent { clientOrderId := "order-1", wagerAmount := wager, createdAt := 0 }
      fun _ => .ends .succeeds,
    .markDispatched "order-1" .succeeds,
    .settleOrder
      { clientOrderId := "order-1", status := .win, grossPayout := .finite gross,
        multiplier := .finite (3 / 2) }
      fun _ => .ends .succeeds]

theorem doubleEntry_of_wonOrder
    : Runs.Always bookedStep DoubleEntry (.empty, []) (wonOrder 2 3) := by
  refine doubleEntry_of_untied _ ⟨trivial, trivial, ?_, trivial⟩
  intro order gross found paid win below
  cases paid
  decide +kernel

/-- A win that pays 0.001953125 on a wager of 2 is booked with 0.00195313 and 1.99804688: the
books of the settled order are off by one unit of the eighth decimal.
-/
theorem tied_win_uneven
    : ¬ Runs.Always bookedStep DoubleEntry (.empty, []) (wonOrder 2 (1 / 512)) := by
  intro law
  have even := law.2.2.1.even "order-1"
  have uneven : orderNet (Runs.run bookedStep (.empty, []) (wonOrder 2 (1 / 512))).1 "order-1"
      = 1 / 10 ^ 8 := by decide +kernel
  rw [wonOrder, Runs.run_cons, Runs.run_cons, Runs.run_cons, Runs.run_nil, even] at uneven
  norm_num at uneven

end CrashWave.Settlement
