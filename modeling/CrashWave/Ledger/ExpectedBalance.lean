import CrashWave.Types
import Mathlib.Algebra.BigOperators.Group.List.Basic
import Mathlib.Algebra.Order.Ring.Rat
import Mathlib.Data.List.Sort
import Mathlib.Data.Rat.Floor
import Mathlib.Tactic.Ring

/-! The expected balance from the bets on record: by one query over all of them, or by pages of
the repository. Amounts are as their numeric columns have them.
-/

namespace CrashWave.Ledger

/-- The columns of a row of `bets` that the expected balance rests on. -/
structure BalanceBet where
  id : String
  state : BetState
  createdAt : Int
  pnl : Option ℚ := none
  balanceBefore : Option ℚ := none
  deriving DecidableEq

/-- The columns of `balance_snapshots` as the migrations create it. -/
def migratedColumns : List String :=
  ["id", "session_id", "bet_id", "round_id", "balance", "unit", "source", "observed_at",
    "created_at"]

/-- A row of a table `balance_snapshots` that has the column `captured_at`. -/
structure BalanceSnapshot where
  balance : ℚ
  capturedAt : Int

/-- `settledStates`. -/
def settledStates : List BetState := [.cashedOut, .lost, .failed, .reconciled]

/-- The bet is in one of them. -/
def BalanceBet.settled (bet : BalanceBet) : Bool := bet.state ∈ settledStates

/-- `Math.round(amount * 100) / 100`. -/
def cents (amount : ℚ) : ℚ := ⌊amount * 100 + 1 / 2⌋ / 100

/-- The sum of what is known of the profits. -/
def totalPnl (bets : List BalanceBet) : ℚ := (bets.map fun bet => bet.pnl.getD 0).sum

-----------------------------------------------------------------------------------------
-- The query
-----------------------------------------------------------------------------------------

/-- `created_at DESC`. -/
abbrev LaterFirst (one other : BalanceBet) : Prop := other.createdAt ≤ one.createdAt

/-- The balance before the latest bet that has one. -/
def latestBalance (bets : List BalanceBet) : Option ℚ :=
  ((bets.filter (·.balanceBefore.isSome)).insertionSort LaterFirst).head?.bind (·.balanceBefore)

/-- The baseline and the total of the query. -/
def balanceQuery (snapshot : Option BalanceSnapshot) (bets : List BalanceBet) : Option ℚ × ℚ :=
  match snapshot with
  | some snap =>
      (some snap.balance,
        totalPnl (bets.filter fun bet => bet.settled && decide (snap.capturedAt < bet.createdAt)))
  | none => (latestBalance bets, totalPnl (bets.filter (·.settled)))

/-- `computeExpectedBalance` with a pool, with the code of the error. The query names `captured_at`
and fails on a table without it. The balance of the tracker stands in for a baseline.
-/
def queriedBalance (columns : List String) (snapshot : Option BalanceSnapshot)
    (bets : List BalanceBet) (currentBalance : Option ℚ) : Except String ℚ :=
  if "captured_at" ∉ columns then .error "RECONCILE_COMPUTE_FAILED"
  else
    match balanceQuery snapshot bets with
    | (none, _) => .ok (currentBalance.getD 0)
    | (some baseline, total) => .ok (cents (baseline + total))

-----------------------------------------------------------------------------------------
-- The pages of the repository
-----------------------------------------------------------------------------------------

/-- `created_at ASC, id ASC`. -/
abbrev OlderFirst (one other : BalanceBet) : Prop :=
  one.createdAt < other.createdAt ∨ (one.createdAt = other.createdAt ∧ one.id ≤ other.id)

/-- The bets of a state in the order of their pages. -/
def ofState (bets : List BalanceBet) (state : BetState) : List BalanceBet :=
  (bets.filter fun bet => bet.state = state).insertionSort OlderFirst

/-- `findByStatePaged`. -/
def findByStatePaged (bets : List BalanceBet) (state : BetState) (limit offset : Nat)
    : List BalanceBet :=
  ((ofState bets state).drop offset).take limit

/-- The running total, and the first balance that was met. -/
structure BalanceTally where
  totalPnl : ℚ := 0
  baselineBalance : Option ℚ := none

/-- A bet of a page is counted. -/
def BalanceTally.count (tally : BalanceTally) (bet : BalanceBet) : BalanceTally where
  totalPnl := tally.totalPnl + bet.pnl.getD 0
  baselineBalance := tally.baselineBalance.or bet.balanceBefore

/-- `pageSize`. -/
def pageSize : Nat := 1000

/-- The last offset that is read. -/
def safetyStop : Nat := 1000000

/-- The pages of one state from an offset on, until one is not full or the offset is beyond the
safety stop.
-/
def countPages (page : Nat → Nat → List BalanceBet) (offset : Nat) (tally : BalanceTally)
    : BalanceTally :=
  let bets := page pageSize offset
  if bets.isEmpty then tally
  else
    let tally := bets.foldl BalanceTally.count tally
    if bets.length < pageSize then tally
    else if safetyStop < offset + pageSize then tally
    else countPages page (offset + pageSize) tally
termination_by safetyStop - offset
decreasing_by
  have positive : 0 < pageSize := by decide
  omega

/-- The tally over all settled states. -/
def tallyPages (bets : List BalanceBet) : BalanceTally :=
  settledStates.foldl (fun tally state => countPages (findByStatePaged bets state) 0 tally) {}

/-- `computeExpectedBalance` without a pool. -/
def pagedBalance (bets : List BalanceBet) (currentBalance : Option ℚ) : ℚ :=
  let tally := tallyPages bets
  match tally.baselineBalance with
  | none => currentBalance.getD 0
  | some baseline => cents (baseline + tally.totalPnl)

-----------------------------------------------------------------------------------------
-- What the pages count
-----------------------------------------------------------------------------------------

/-- The bets of a state before its safety stop. -/
def countedOf (bets : List BalanceBet) (state : BetState) : List BalanceBet :=
  (ofState bets state).take (safetyStop + pageSize)

/-- The bets that the pages count, state by state. -/
def countedBets (bets : List BalanceBet) : List BalanceBet :=
  settledStates.flatMap (countedOf bets)

/-- The bets behind the safety stops. -/
def skippedBets (bets : List BalanceBet) : List BalanceBet :=
  settledStates.flatMap fun state => (ofState bets state).drop (safetyStop + pageSize)

/-- The first balance before a bet of a list. -/
def firstBalance (bets : List BalanceBet) : Option ℚ := bets.findSome? (·.balanceBefore)

/-- Counting a list adds its total, and meets its first balance. -/
theorem foldl_count (tally : BalanceTally) (bets : List BalanceBet)
    : bets.foldl BalanceTally.count tally
      = { totalPnl := tally.totalPnl + totalPnl bets
          baselineBalance := tally.baselineBalance.or (firstBalance bets) } := by
  induction bets generalizing tally with
  | nil => simp [totalPnl, firstBalance]
  | cons bet rest ih =>
      rw [List.foldl_cons, ih]
      have first : firstBalance (bet :: rest) = bet.balanceBefore.or (firstBalance rest) := by
        unfold firstBalance
        cases found : bet.balanceBefore <;> simp [found]
      simp only [BalanceTally.count, totalPnl, List.map_cons, List.sum_cons, first,
        Option.or_assoc, add_assoc]

/-- The pages from an offset on count what is left before the safety stop, by induction on the
number of pages up to it.
-/
theorem countPages_eq (bets : List BalanceBet) (state : BetState) (pages : Nat)
    {offset : Nat} (before : offset + pageSize * pages = safetyStop) (tally : BalanceTally)
    : countPages (findByStatePaged bets state) offset tally
      = (((ofState bets state).drop offset).take (pageSize * pages + pageSize)).foldl
          BalanceTally.count tally := by
  have positive : 0 < pageSize := by decide
  have page : ((ofState bets state).drop offset).take pageSize
      = findByStatePaged bets state pageSize offset := rfl
  rw [countPages]
  dsimp only
  induction pages generalizing offset tally with
  | zero =>
      rw [Nat.mul_zero, Nat.add_zero] at before
      rw [Nat.mul_zero, Nat.zero_add, page,
        if_pos (show safetyStop < offset + pageSize by omega), ite_self]
      split
      · next empty => rw [List.isEmpty_iff.mp empty, List.foldl_nil]
      · rfl
  | succ pages ih =>
      rw [Nat.mul_succ] at before
      have whole : ((ofState bets state).drop offset).take (pageSize * (pages + 1) + pageSize)
          = findByStatePaged bets state pageSize offset
            ++ (((ofState bets state).drop (offset + pageSize)).take
              (pageSize * pages + pageSize)) := by
        rw [← page, ← List.drop_drop, ← List.take_add, Nat.mul_succ, Nat.add_comm pageSize]
      rw [whole, List.foldl_append]
      split
      · next empty =>
          have beyond : (ofState bets state).drop offset = [] := by
            have none := List.isEmpty_iff.mp empty
            rw [← page, List.take_eq_nil_iff] at none
            exact none.resolve_left (by omega)
          rw [List.isEmpty_iff.mp empty, ← List.drop_drop, beyond]
          simp
      · split
        · next short =>
            have beyond : (ofState bets state).drop (offset + pageSize) = [] := by
              rw [← page, List.length_take, List.length_drop] at short
              exact List.drop_eq_nil_of_le (by omega)
            rw [beyond]
            simp
        · rw [if_neg (by omega), countPages]
          exact ih (by omega) _ rfl

/-- The pages of a state count its bets before the safety stop. -/
theorem countPages_zero (bets : List BalanceBet) (state : BetState) (tally : BalanceTally)
    : countPages (findByStatePaged bets state) 0 tally
      = (countedOf bets state).foldl BalanceTally.count tally :=
  countPages_eq bets state 1000 rfl tally

/-- The tally over the states is that of what is counted. -/
theorem tallyPages_eq (bets : List BalanceBet)
    : tallyPages bets
      = { totalPnl := totalPnl (countedBets bets)
          baselineBalance := firstBalance (countedBets bets) } := by
  have counted : tallyPages bets = (countedBets bets).foldl BalanceTally.count {} := by
    rw [tallyPages, countedBets, List.foldl_flatMap]
    simp only [countPages_zero]
  rw [counted, foldl_count]
  simp

-----------------------------------------------------------------------------------------
-- Both ways against the earliest settled bet
-----------------------------------------------------------------------------------------

theorem totalPnl_append (bets others : List BalanceBet)
    : totalPnl (bets ++ others) = totalPnl bets + totalPnl others := by
  simp [totalPnl]

/-- Each bet of a state is counted or skipped, once. -/
theorem totalPnl_ofState (bets : List BalanceBet) (state : BetState)
    : totalPnl (countedOf bets state)
        + totalPnl ((ofState bets state).drop (safetyStop + pageSize))
      = totalPnl (bets.filter fun bet => bet.state = state) := by
  rw [countedOf, ← totalPnl_append, List.take_append_drop]
  exact ((List.perm_insertionSort OlderFirst _).map _).sum_eq

/-- Each settled bet is in one of the settled states, by induction on the bets. -/
theorem totalPnl_settled (bets : List BalanceBet)
    : totalPnl (bets.filter (·.settled))
      = (settledStates.map fun state =>
          totalPnl (bets.filter fun bet => bet.state = state)).sum := by
  induction bets with
  | nil => simp [totalPnl]
  | cons bet rest ih =>
      simp only [settledStates, List.map_cons, List.map_nil, List.sum_cons, List.sum_nil,
        List.filter_cons, BalanceBet.settled] at ih ⊢
      cases state : bet.state <;>
        simp only [List.mem_cons, List.not_mem_nil, reduceCtorEq, or_false, or_true, or_self,
          decide_true, decide_false, if_true, if_false, Bool.false_eq_true, totalPnl,
          List.map_cons, List.sum_cons] at ih ⊢ <;>
        rw [ih] <;> ring

/-- The profits of the settled bets are those that the pages count, and those that they skip. -/
theorem totalPnl_counted_skipped (bets : List BalanceBet)
    : totalPnl (bets.filter (·.settled))
      = totalPnl (countedBets bets) + totalPnl (skippedBets bets) := by
  rw [totalPnl_settled]
  simp only [countedBets, skippedBets, settledStates, List.flatMap_cons, List.flatMap_nil,
    List.append_nil, totalPnl_append, List.map_cons, List.map_nil, List.sum_cons, List.sum_nil,
    ← totalPnl_ofState]
  ring

/-- The balance before the earliest settled bet that has one. -/
def earliestBalance (bets : List BalanceBet) : Option ℚ :=
  firstBalance ((bets.filter (·.settled)).insertionSort OlderFirst)

/-- Both ways give the balance before the earliest settled bet, and the profits of all settled
ones, each once, rounded to cents.
-/
def ExpectsBalance (columns : List String) (bets : List BalanceBet) (currentBalance : Option ℚ)
    : Prop :=
  ∀ baseline, earliestBalance bets = some baseline →
    queriedBalance columns none bets currentBalance
        = .ok (cents (baseline + totalPnl (bets.filter (·.settled))))
    ∧ pagedBalance bets currentBalance
        = cents (baseline + totalPnl (bets.filter (·.settled)))

/-- An amount by which an expected balance may be wrong, since rounding hides it. -/
def Hidden (expected error : ℚ) : Prop := cents (expected + error) = cents expected

/-- The balance before the latest bet that has one stands for that before the earliest settled
one; so does the first that the pages meet, with the profits behind the safety stops missing;
and where the pages meet none, the balance of the tracker is the expected one.
-/
structure BaselinesAgree (bets : List BalanceBet) (currentBalance : Option ℚ) (baseline : ℚ)
    : Prop where
  latest : ∀ latest, latestBalance bets = some latest →
    Hidden (baseline + totalPnl (bets.filter (·.settled))) (latest - baseline)
  first : ∀ first, firstBalance (countedBets bets) = some first →
    Hidden (baseline + totalPnl (bets.filter (·.settled)))
      (first - baseline - totalPnl (skippedBets bets))
  unmet : firstBalance (countedBets bets) = none →
    currentBalance.getD 0 = cents (baseline + totalPnl (bets.filter (·.settled)))

/-- Where a settled bet has a balance, so does some bet. -/
theorem latestBalance_isSome {bets : List BalanceBet} {baseline : ℚ}
    (earliest : earliestBalance bets = some baseline)
    : ∃ latest, latestBalance bets = some latest := by
  obtain ⟨bet, member, before⟩ := List.exists_of_findSome?_eq_some earliest
  rw [List.mem_insertionSort, List.mem_filter] at member
  have listed : bet ∈ (bets.filter (·.balanceBefore.isSome)).insertionSort LaterFirst := by
    rw [List.mem_insertionSort, List.mem_filter, before]
    exact ⟨member.1, rfl⟩
  unfold latestBalance
  cases sorted : (bets.filter (·.balanceBefore.isSome)).insertionSort LaterFirst with
  | nil =>
      rw [sorted] at listed
      cases listed
  | cons first rest =>
      have inSorted : first ∈ (bets.filter (·.balanceBefore.isSome)).insertionSort LaterFirst := by
        rw [sorted]
        exact List.mem_cons_self
      rw [List.mem_insertionSort, List.mem_filter] at inSorted
      exact Option.isSome_iff_exists.mp inSorted.2

/-- The query gives the expected balance exactly if it finds its column and the latest balance
stands for the earliest.
-/
theorem queriedBalance_right_iff (columns : List String) {bets : List BalanceBet}
    {currentBalance : Option ℚ} {baseline : ℚ} (earliest : earliestBalance bets = some baseline)
    : queriedBalance columns none bets currentBalance
        = .ok (cents (baseline + totalPnl (bets.filter (·.settled))))
      ↔ "captured_at" ∈ columns
        ∧ ∀ latest, latestBalance bets = some latest →
          Hidden (baseline + totalPnl (bets.filter (·.settled))) (latest - baseline) := by
  obtain ⟨latest, found⟩ := latestBalance_isSome earliest
  have moved : baseline + totalPnl (bets.filter (·.settled)) + (latest - baseline)
      = latest + totalPnl (bets.filter (·.settled)) := by ring
  by_cases column : "captured_at" ∈ columns
  · simp only [queriedBalance, column, balanceQuery, found, Option.some.injEq, forall_eq', Hidden,
      moved, not_true_eq_false, if_false, Except.ok.injEq, true_and]
  · simp only [queriedBalance, column, not_false_eq_true, if_true, reduceCtorEq, false_and]

/-- The pages give it exactly if the first balance that they meet stands for it, with what they
skip.
-/
theorem pagedBalance_right_iff (bets : List BalanceBet) (currentBalance : Option ℚ)
    (baseline : ℚ)
    : pagedBalance bets currentBalance
        = cents (baseline + totalPnl (bets.filter (·.settled)))
      ↔ (∀ first, firstBalance (countedBets bets) = some first →
          Hidden (baseline + totalPnl (bets.filter (·.settled)))
            (first - baseline - totalPnl (skippedBets bets)))
        ∧ (firstBalance (countedBets bets) = none →
          currentBalance.getD 0 = cents (baseline + totalPnl (bets.filter (·.settled)))) := by
  simp only [pagedBalance, tallyPages_eq]
  cases met : firstBalance (countedBets bets) with
  | none => simp
  | some first =>
      have moved : baseline + totalPnl (bets.filter (·.settled))
            + (first - baseline - totalPnl (skippedBets bets))
          = first + totalPnl (countedBets bets) := by
        rw [totalPnl_counted_skipped]
        ring
      simp only [Option.some.injEq, forall_eq', Hidden, moved, reduceCtorEq, false_implies,
        and_true]

/-- A loss of 700 from a balance of 5000, and then a win of 700. -/
def lossThenWin : List BalanceBet :=
  [{ id := "bet-1", state := .lost, createdAt := 1, pnl := some (-700),
     balanceBefore := some 5000 },
   { id := "bet-2", state := .cashedOut, createdAt := 2, pnl := some 700,
     balanceBefore := some 4300 }]

end CrashWave.Ledger
