import CrashWave.Settlement.DoubleEntry

/-! The amounts of a settled order. The payload states an outcome and a payout that nothing
ties together: the entries of a loss and of a refund are made from the wager alone, while the
stored payout is the stated one.
-/

namespace CrashWave.Settlement

open JavaScript

/-- The amounts that a settlement leaves for an order agree: what came back to the hot wallet,
the realized profit and the stored payout, each less the wager, are the payout less the wager.
-/
structure AmountsAgree (after : SettlementDb) (clientOrderId : String) (wager gross : ℚ)
    : Prop where
  wallet : accountNet after clientOrderId .hotWallet = gross - wager
  realized : - accountNet after clientOrderId .realizedPnl = gross - wager
  stored : ∃ order, after.orders.get clientOrderId = some order
    ∧ order.grossPayout = some gross

/-- The payout that an outcome implies: of no more than eight decimals for a win, nothing for
a loss, and the wager for a refund.
-/
def ImpliedPayout (wager gross : ℚ) : SettlementStatus → Prop
  | .win => OnScale 8 gross
  | .loss => gross = 0
  | .void => gross = wager

/-- The books agree with a payout exactly when it is the implied one; and then the payout is
on the scale, so that it is stored as it is.
-/
theorem settlementPostings_agree {wager gross : ℚ} {status : SettlementStatus}
    (onScale : OnScale 8 wager)
    : (settlementPostings wager gross status .hotWallet - wager = gross - wager
        ∧ - settlementPostings wager gross status .realizedPnl = gross - wager
        ∧ toFixed 8 gross = gross)
      ↔ ImpliedPayout wager gross status := by
  have kept : toFixed 8 wager = wager := toFixed_eq_self_iff.mpr onScale
  cases status with
  | win =>
      simp only [ImpliedPayout, settlementPostings]
      constructor
      · exact fun agree => toFixed_eq_self_iff.mp agree.2.2
      · intro exact
        have paid : toFixed 8 gross = gross := toFixed_eq_self_iff.mpr exact
        refine ⟨by rw [paid], ?_, paid⟩
        split
        · rw [toFixed_sub onScale, paid]
          ring
        · rw [toFixed_complement onScale exact.not_halfway, paid]
          ring
  | loss =>
      simp only [ImpliedPayout, settlementPostings, kept]
      constructor
      · intro agree
        linarith [agree.1]
      · rintro rfl
        exact ⟨rfl, by ring, toFixed_zero 8⟩
  | void =>
      simp only [ImpliedPayout, settlementPostings, kept]
      constructor
      · intro agree
        linarith [agree.1]
      · rintro rfl
        exact ⟨rfl, by ring, kept⟩

/-- After any sequence of engine calls, the amounts that an accepted settlement leaves agree
exactly when its payout is the one that its outcome implies.
-/
theorem settled_amounts_agree_iff (calls : List EngineCall) (payload : SettlementPayload)
    (commit : Commit) (order : SettlementOrder) (gross : ℚ)
    (accepts : Accepts (Runs.run engineStep .empty calls) payload commit)
    (found : (Runs.run engineStep .empty calls).orders.get payload.clientOrderId = some order)
    (paid : payload.grossPayout = .finite gross)
    : AmountsAgree (settleOrder (Runs.run engineStep .empty calls) payload commit).1
        payload.clientOrderId order.wagerAmount gross
      ↔ ImpliedPayout order.wagerAmount gross payload.status := by
  have booked : OpenBooked (Runs.run engineStep .empty calls) :=
    Runs.run_invariant (fun db call booked => (engineStep_effect call).openBooked booked) calls
      openBooked_empty
  obtain ⟨row, settled, written, present, unsettled, writes, after⟩ :=
    settleOrder_of_accepts accepts
  obtain rfl := Option.some.inj (found.symm.trans present)
  obtain ⟨amount, finite, inserted, -, -, stored⟩ := settlementWrites_entries writes
  obtain rfl := Number.finite.inj (paid.symm.trans finite)
  have nonneg : 0 ≤ gross := by
    have valid := accepts.valid
    simp only [SettlementPayload.valid, paid, decide_eq_true_eq] at valid
    exact of_decide_eq_true valid.2.1
  have books := booked.unsettled _ order found unsettled
  obtain ⟨-, wallet, realized⟩ :=
    books.settled
      ((Runs.run engineStep .empty calls).orders.set payload.clientOrderId settled) nonneg
      inserted
  rw [after, ← settlementPostings_agree books.onScale]
  constructor
  · intro agree
    refine ⟨wallet ▸ agree.wallet, realized ▸ agree.realized, ?_⟩
    obtain ⟨held, row, same⟩ := agree.stored
    obtain rfl : settled = held := by simpa using row
    exact Option.some.inj (stored.symm.trans same)
  · rintro ⟨walletAgrees, realizedAgrees, exact⟩
    refine ⟨wallet.trans walletAgrees, ?_, settled, by simp, by rw [stored, exact]⟩
    rw [realized, realizedAgrees]

/-- An order of ten that was dispatched. -/
def dispatchedCalls : List EngineCall := (wonOrder 10 0).take 2

/-- Its row. -/
def dispatchedRow : SettlementOrder where
  wagerAmount := 10
  status := .dispatched
  createdAt := 0

/-- A settlement of that order. -/
def settlementOf (status : SettlementStatus) (gross : ℚ) : SettlementPayload where
  clientOrderId := "order-1"
  status
  grossPayout := .finite gross
  multiplier := 1

theorem dispatchedCalls_accepts (status : SettlementStatus)
    : Accepts (Runs.run engineStep .empty dispatchedCalls) (settlementOf status 4) .succeeds := by
  cases status <;>
    exact ⟨by decide, by decide +kernel,
      dispatchedRow, by decide +kernel, rfl, by decide +kernel⟩

theorem settled_win_agrees
    : AmountsAgree
        (settleOrder (Runs.run engineStep .empty dispatchedCalls) (settlementOf .win 4)
          .succeeds).1
        "order-1" 10 4 :=
  (settled_amounts_agree_iff dispatchedCalls (settlementOf .win 4) .succeeds
    dispatchedRow 4
    (dispatchedCalls_accepts .win) (by decide +kernel) rfl).mpr ⟨4 * 10 ^ 8, by norm_num⟩

/-- A loss that states a payout of four on a wager of ten is accepted: the hot wallet is down
by ten, and the stored payout is four.
-/
theorem loss_with_payout_disagrees
    : Accepts (Runs.run engineStep .empty dispatchedCalls) (settlementOf .loss 4) .succeeds
      ∧ ¬ AmountsAgree
        (settleOrder (Runs.run engineStep .empty dispatchedCalls) (settlementOf .loss 4)
          .succeeds).1
        "order-1" 10 4 := by
  refine ⟨dispatchedCalls_accepts .loss, fun agree => ?_⟩
  have lost : accountNet
      (settleOrder (Runs.run engineStep .empty dispatchedCalls) (settlementOf .loss 4)
        .succeeds).1
      "order-1" .hotWallet = -10 := by decide +kernel
  rw [agree.wallet] at lost
  norm_num at lost

end CrashWave.Settlement
