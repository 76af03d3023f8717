import CrashWave.Core.DryRun.VirtualLedger
import CrashWave.JavaScript.RelatedMaps
import CrashWave.Runs.Basic
import Mathlib.Tactic.Linarith
import Mathlib.Tactic.Ring

/-! Conservation in the ledger of virtual trades: what a trade takes from the balance when it
is opened comes back, or is lost, when it is resolved, once.
-/

namespace CrashWave.DryRun

open JavaScript

-----------------------------------------------------------------------------------------
-- Sequences of calls
-----------------------------------------------------------------------------------------

/-- A call on the ledger. -/
inductive TradeCall where
  | openTrade (virtualTradeId signalId roundId : String) (stake target : ℚ)
  | resolveRound (roundId : String) (crashPoint : Number)

/-- The id of the trade that a call opens. -/
def TradeCall.opens : TradeCall → Option String
  | .openTrade virtualTradeId _ _ _ _ => some virtualTradeId
  | .resolveRound _ _ => none

/-- No stake is negative, and no target is below 1. -/
def TradeCall.Priced : TradeCall → Prop
  | .openTrade _ _ _ stake target => 0 ≤ stake ∧ 1 ≤ target
  | .resolveRound _ _ => True

/-- A ledger, the number of trades that were opened on it, and the ids of those that were
resolved, as often as they were.
-/
structure TradeHistory where
  ledger : VirtualTradeLedger
  opened : Nat := 0
  resolved : List String := []

namespace TradeHistory

/-- A trade is still open. -/
def isOpen (history : TradeHistory) (id : String) : Bool :=
  (history.ledger.trades.get id).any fun trade => trade.status = .open

/-- One trade of a round, which `resolveRound` resolves if it is open. -/
def resolveTrade (crashPoint : Number) (history : TradeHistory) (id : String)
    : TradeHistory :=
  { history with
    ledger := history.ledger.resolveTrade crashPoint id
    resolved := if history.isOpen id then history.resolved ++ [id] else history.resolved }

/-- A call. -/
def step (history : TradeHistory) : TradeCall → TradeHistory
  | .openTrade virtualTradeId signalId roundId stake target =>
      match
        history.ledger.openTrade
          { virtualTradeId, signalId, roundId, stake := .finite stake, target := .finite target }
      with
      | none => history
      | some ledger => { history with ledger, opened := history.opened + 1 }
  | .resolveRound roundId crashPoint =>
      ((history.ledger.byRound.get roundId).getD []).foldl (resolveTrade crashPoint) history

/-- The ledger after the resolution of a round, by induction on its trades. -/
theorem resolveRound_ledger (history : TradeHistory) (roundId : String) (crashPoint : Number)
    : (history.step (.resolveRound roundId crashPoint)).ledger
      = history.ledger.resolveRound roundId crashPoint := by
  rw [step, VirtualTradeLedger.resolveRound]
  generalize (history.ledger.byRound.get roundId).getD [] = ids
  induction ids generalizing history with
  | nil => rfl
  | cons id rest ih => exact ih (history.resolveTrade crashPoint id)

end TradeHistory

-----------------------------------------------------------------------------------------
-- What is conserved
-----------------------------------------------------------------------------------------

/-- The stake of an open trade. -/
def openStake (trade : VirtualTrade) : ℚ :=
  if trade.status = .open then trade.stake.finiteValue.getD 0 else 0

/-- The stakes of all open trades. -/
def openStakes (ledger : VirtualTradeLedger) : ℚ := ledger.trades.total openStake

/-- The number of open trades. -/
def openTrades (ledger : VirtualTradeLedger) : Nat :=
  ledger.trades.total fun trade => if trade.status = .open then 1 else 0

/-- What is conserved from an initial balance: the money, the number of trades, and that no
trade is resolved twice.
-/
structure Conserved (initial : ℚ) (history : TradeHistory) : Prop where
  money : ∃ balance netPnl : ℚ,
    history.ledger.balance = .finite balance
    ∧ history.ledger.netPnl = .finite netPnl
    ∧ balance + openStakes history.ledger = initial + netPnl
    ∧ (0 ≤ initial → 0 ≤ balance)
  counts : history.ledger.wins + history.ledger.losses + openTrades history.ledger
    = history.opened
  once : history.resolved.Nodup

/-- What the resolution of a trade needs: priced trades, finite marks, and that what was
resolved is closed.
-/
structure Kept (initial : ℚ) (history : TradeHistory) : Prop
    extends Conserved initial history where
  priced : ∀ id trade, history.ledger.trades.get id = some trade
    → ∃ stake target : ℚ, trade.stake = .finite stake ∧ trade.target = .finite target
      ∧ 0 ≤ stake ∧ 1 ≤ target
  closed : ∀ id ∈ history.resolved, ∃ trade, history.ledger.trades.get id = some trade
    ∧ trade.status ≠ .open
  marks : ∃ peak drawdown : ℚ, history.ledger.peakEquity = .finite peak
    ∧ history.ledger.maxDrawdown = .finite drawdown

/-- The drawdown mark goes up or stays, and both marks stay finite. -/
theorem updateDrawdown_marks {ledger : VirtualTradeLedger} {balance peak drawdown : ℚ}
    (balanced : ledger.balance = .finite balance) (peaked : ledger.peakEquity = .finite peak)
    (drawn : ledger.maxDrawdown = .finite drawdown)
    : ∃ nextPeak next : ℚ, ledger.updateDrawdown.peakEquity = .finite nextPeak
      ∧ ledger.updateDrawdown.maxDrawdown = .finite next ∧ drawdown ≤ next := by
  obtain ⟨nextPeak, raised⟩ : ∃ nextPeak : ℚ,
      (if ledger.peakEquity < ledger.balance then ledger.balance else ledger.peakEquity)
        = .finite nextPeak := by
    split
    · exact ⟨balance, balanced⟩
    · exact ⟨peak, peaked⟩
  obtain ⟨current, is⟩ : ∃ current : ℚ,
      (if 0 < Number.finite nextPeak then (.finite nextPeak - ledger.balance) / .finite nextPeak
        else 0)
        = .finite current := by
    split
    · next positive =>
        have nonzero : nextPeak ≠ 0 := by
          have value : ((0 : Nat) : ℚ) < nextPeak := of_decide_eq_true positive
          rintro rfl
          simp at value
        refine ⟨(nextPeak + -balance) / nextPeak, ?_⟩
        rw [balanced]
        exact if_pos nonzero
    · exact ⟨_, rfl⟩
  refine ⟨nextPeak, if drawdown < current then current else drawdown, raised, ?_, ?_⟩
  · simp only [VirtualTradeLedger.updateDrawdown]
    rw [raised, is, drawn]
    change (if Number.lt (.finite drawdown) (.finite current) = true then _ else _) = _
    simp only [Number.lt, decide_eq_true_eq]
    split <;> rfl
  · split
    · next above => exact above.le
    · exact le_rfl

-----------------------------------------------------------------------------------------
-- Steps
-----------------------------------------------------------------------------------------

variable {initial : ℚ} {history : TradeHistory} {id : String}

/-- An open trade is closed with a gain: its stake goes over into the profit. -/
theorem kept_close (kept : Kept initial history) {trade : VirtualTrade}
    (found : history.ledger.trades.get id = some trade) (isOpen : trade.status = .open)
    {stake gain : ℚ} (staked : trade.stake = .finite stake) (nonneg : 0 ≤ gain)
    {status : VirtualTradeStatus} (ended : status ≠ .open) (pnl : Option Number)
    {balance netPnl : Number} (balanced : balance = history.ledger.balance + .finite gain)
    (netted : netPnl = history.ledger.netPnl + .finite (gain - stake)) {wins losses : Nat}
    (counted : wins + losses = history.ledger.wins + history.ledger.losses + 1)
    : let ledger : VirtualTradeLedger :=
        VirtualTradeLedger.updateDrawdown
          { history.ledger with
            trades := history.ledger.trades.set id { trade with status, pnl }
            balance, netPnl, wins, losses }
      Kept initial { history with ledger, resolved := history.resolved ++ [id] }
      ∧ history.ledger.maxDrawdown ≤ ledger.maxDrawdown := by
  obtain ⟨⟨⟨held, net, heldIs, netIs, money, positive⟩, counts, once⟩, priced, closed, peak,
    drawdown, peakIs, drawdownIs⟩ := kept
  rw [heldIs] at balanced
  rw [netIs] at netted
  have open' : openStake trade = stake := by
    rw [openStake, if_pos isOpen, staked]
    rfl
  have stakes := Map.total_set_of_some found { trade with status, pnl } openStake
  have opens := Map.total_set_of_some found { trade with status, pnl }
    fun trade => if trade.status = .open then 1 else 0
  rw [open', openStake, if_neg ended] at stakes
  rw [if_pos isOpen, if_neg ended] at opens
  let written : VirtualTradeLedger :=
    { history.ledger with
      trades := history.ledger.trades.set id { trade with status, pnl }
      balance, netPnl, wins, losses }
  have writtenBalance : written.balance = .finite (held + gain) := balanced
  obtain ⟨nextPeak, next, peakNext, drawdownNext, raised⟩ :=
    updateDrawdown_marks writtenBalance peakIs drawdownIs
  refine ⟨⟨⟨⟨held + gain, net + (gain - stake), balanced, netted, ?_, ?_⟩, ?_, ?_⟩, ?_, ?_,
    nextPeak, next, peakNext, drawdownNext⟩, ?_⟩
  · change held + gain + written.trades.total openStake = _
    unfold openStakes at money
    linarith
  · intro start
    exact add_nonneg (positive start) nonneg
  · change wins + losses + written.trades.total _ = history.opened
    unfold openTrades at counts
    change written.trades.total _ + 1 = _ at opens
    omega
  · rw [List.nodup_append]
    refine ⟨once, List.nodup_singleton _, ?_⟩
    intro other member last is same
    obtain rfl : other = id := same.trans (List.mem_singleton.mp is)
    obtain ⟨held, there, shut⟩ := closed other member
    rw [found] at there
    obtain rfl := Option.some.inj there
    exact shut isOpen
  · apply Map.forall_get_set
    · exact priced id trade found
    · intro other _ held there
      exact priced other held there
  · intro other member
    change ∃ held, written.trades.get other = some held ∧ _
    by_cases same : other = id
    · refine ⟨{ trade with status, pnl }, ?_, ended⟩
      rw [same, Map.get_set_self]
    · rw [Map.get_set_of_ne _ _ same]
      rcases List.mem_append.mp member with before | last
      · exact closed other before
      · exact absurd (List.mem_singleton.mp last) same
  · rw [drawdownIs]
    change Number.finite drawdown ≤ written.updateDrawdown.maxDrawdown
    rw [drawdownNext]
    exact decide_eq_true raised

/-- The resolution of one trade keeps all, and the drawdown mark does not go down. -/
theorem kept_resolveTrade (kept : Kept initial history) (crashPoint : Number) (id : String)
    : Kept initial (history.resolveTrade crashPoint id)
      ∧ history.ledger.maxDrawdown ≤ (history.resolveTrade crashPoint id).ledger.maxDrawdown := by
  have stays : history.ledger.maxDrawdown ≤ history.ledger.maxDrawdown := by
    obtain ⟨peak, drawdown, -, drawdownIs⟩ := kept.marks
    rw [drawdownIs]
    exact decide_eq_true le_rfl
  rw [TradeHistory.resolveTrade, VirtualTradeLedger.resolveTrade, TradeHistory.isOpen]
  cases found : history.ledger.trades.get id with
  | none => exact ⟨kept, stays⟩
  | some trade =>
      obtain ⟨stake, target, staked, aimed, nonneg, high⟩ := kept.priced id trade found
      by_cases isOpen : trade.status = .open
      · have one : (some trade).any (fun trade => trade.status = .open) = true :=
          decide_eq_true isOpen
        rw [if_pos one]
        dsimp only
        rw [if_neg (not_not.mpr isOpen)]
        by_cases won : trade.target ≤ crashPoint
        · rw [if_pos won]
          refine kept_close kept found isOpen staked (mul_nonneg nonneg (by linarith)) (by simp)
            _ ?_ ?_ (by ring)
          · rw [staked, aimed]
            rfl
          · rw [staked, aimed, sub_eq_add_neg]
            rfl
        · rw [if_neg won]
          obtain ⟨⟨held, net, heldIs, -⟩, -⟩ := kept.toConserved
          refine kept_close kept found isOpen staked le_rfl (by simp) _ ?_ ?_ (by ring)
          · rw [heldIs]
            exact congrArg Number.finite (add_zero held).symm
          · rw [staked, zero_sub]
            rfl
      · have other : (some trade).any (fun trade => trade.status = .open) = false :=
          decide_eq_false isOpen
        rw [other]
        dsimp only
        rw [if_pos isOpen]
        exact ⟨kept, stays⟩

/-- A trade with a new id is opened within the balance: its stake goes over into the open
stakes.
-/
theorem kept_open (kept : Kept initial history) {trade : VirtualTrade}
    (isOpen : trade.status = .open)
    (fresh : history.ledger.trades.get trade.virtualTradeId = none) {stake target : ℚ}
    (staked : trade.stake = .finite stake) (aimed : trade.target = .finite target)
    (nonneg : 0 ≤ stake) (high : 1 ≤ target) {ledger : VirtualTradeLedger}
    (opens : history.ledger.openTrade trade = some ledger)
    : Kept initial { history with ledger, opened := history.opened + 1 }
      ∧ history.ledger.maxDrawdown ≤ ledger.maxDrawdown := by
  obtain ⟨⟨⟨held, net, heldIs, netIs, money, -⟩, counts, once⟩, priced, closed, peak,
    drawdown, peakIs, drawdownIs⟩ := kept
  simp only [VirtualTradeLedger.openTrade, Option.ite_none_left_eq_some,
    Option.some.injEq] at opens
  obtain ⟨-, within, made⟩ := opens
  have covered : stake ≤ held := by
    rw [heldIs, staked] at within
    by_contra above
    exact within (decide_eq_true (lt_of_not_ge above))
  have stakes := Map.total_set_of_none fresh trade openStake
  have opened := Map.total_set_of_none fresh trade
    fun trade => if trade.status = .open then 1 else 0
  rw [openStake, if_pos isOpen, staked] at stakes
  rw [if_pos isOpen] at opened
  let written : VirtualTradeLedger :=
    { history.ledger with
      trades := history.ledger.trades.set trade.virtualTradeId trade
      byRound :=
        history.ledger.byRound.set trade.roundId
          ((history.ledger.byRound.get trade.roundId).getD [] ++ [trade.virtualTradeId])
      bySignal :=
        if trade.signalId ≠ "" then trade.signalId :: history.ledger.bySignal
        else history.ledger.bySignal
      balance := history.ledger.balance - trade.stake }
  have after : written.updateDrawdown = ledger := made
  subst after
  have balanced : written.balance = .finite (held - stake) := by
    change history.ledger.balance - trade.stake = _
    rw [heldIs, staked, sub_eq_add_neg]
    rfl
  obtain ⟨nextPeak, next, peakNext, drawdownNext, raised⟩ :=
    updateDrawdown_marks balanced peakIs drawdownIs
  refine ⟨⟨⟨⟨held - stake, net, balanced, netIs, ?_, ?_⟩, ?_, once⟩, ?_, ?_, nextPeak, next,
    peakNext, drawdownNext⟩, ?_⟩
  · change held - stake + written.trades.total openStake = _
    change written.trades.total openStake = _ + stake at stakes
    unfold openStakes at money
    linarith
  · intro start
    linarith
  · change history.ledger.wins + history.ledger.losses + written.trades.total _
      = history.opened + 1
    unfold openTrades at counts
    change written.trades.total _ = _ + 1 at opened
    omega
  · apply Map.forall_get_set
    · exact ⟨stake, target, staked, aimed, nonneg, high⟩
    · intro other _ row there
      exact priced other row there
  · intro other member
    obtain ⟨row, there, shut⟩ := closed other member
    refine ⟨row, ?_, shut⟩
    change written.trades.get other = some row
    rw [Map.get_set_of_ne _ _ ?_]
    · exact there
    · rintro rfl
      rw [fresh] at there
      cases there
  · rw [drawdownIs, drawdownNext]
    exact decide_eq_true raised

/-- A trade is opened under an id that the ledger has not seen. -/
def FreshTrade (history : TradeHistory) : TradeCall → Prop
  | .openTrade virtualTradeId _ _ _ _ => history.ledger.trades.get virtualTradeId = none
  | .resolveRound _ _ => True

/-- The resolutions of a round keep all, by induction on its trades. -/
theorem kept_resolveRound (kept : Kept initial history) (crashPoint : Number)
    (ids : List String)
    : Kept initial (ids.foldl (TradeHistory.resolveTrade crashPoint) history)
      ∧ history.ledger.maxDrawdown
        ≤ (ids.foldl (TradeHistory.resolveTrade crashPoint) history).ledger.maxDrawdown := by
  induction ids generalizing history with
  | nil =>
      obtain ⟨peak, drawdown, -, drawdownIs⟩ := kept.marks
      refine ⟨kept, ?_⟩
      rw [List.foldl_nil, drawdownIs]
      exact decide_eq_true le_rfl
  | cons id rest ih =>
      obtain ⟨next, raised⟩ := kept_resolveTrade kept crashPoint id
      obtain ⟨last, raisedMore⟩ := ih next
      exact ⟨last, Number.le_trans raised raisedMore⟩

/-- A call with a sound price and a new id keeps all. -/
theorem kept_step (kept : Kept initial history) {call : TradeCall} (priced : call.Priced)
    (fresh : FreshTrade history call)
    : Kept initial (history.step call)
      ∧ history.ledger.maxDrawdown ≤ (history.step call).ledger.maxDrawdown := by
  cases call with
  | openTrade virtualTradeId signalId roundId stake target =>
      rw [TradeHistory.step]
      split
      · exact kept_resolveRound kept 0 []
      · next ledger opens =>
          exact kept_open kept rfl (by exact fresh) rfl rfl priced.1 priced.2 opens
  | resolveRound roundId crashPoint => exact kept_resolveRound kept crashPoint _

-----------------------------------------------------------------------------------------
-- Runs
-----------------------------------------------------------------------------------------

/-- A call makes no trade but the one that it opens. -/
theorem step_absent {other : String} (absent : history.ledger.trades.get other = none)
    {call : TradeCall} (differs : call.opens ≠ some other)
    : (history.step call).ledger.trades.get other = none := by
  cases call with
  | openTrade virtualTradeId signalId roundId stake target =>
      rw [TradeHistory.step]
      split
      · exact absent
      · next ledger opens =>
          have key : other ≠ virtualTradeId := fun same => differs (by rw [same]; rfl)
          change ledger.trades.get other = none
          rw [(openTrade_opens opens).trades, Map.get_set_of_ne _ _ key]
          exact absent
  | resolveRound roundId crashPoint =>
      rw [TradeHistory.resolveRound_ledger]
      exact resolveRound_absent absent roundId crashPoint

/-- Distinct ids are new ones when their turn comes. -/
theorem always_fresh {calls : List TradeCall}
    (absent : ∀ id ∈ calls.filterMap TradeCall.opens, history.ledger.trades.get id = none)
    (distinct : (calls.filterMap TradeCall.opens).Nodup)
    : Runs.Always TradeHistory.step FreshTrade history calls := by
  have unused : Runs.Always TradeHistory.step
      (fun history call =>
        ∀ id, call.opens = some id → history.ledger.trades.get id = none) history calls :=
    .of_nodup (fun _ _ _ absent differs => step_absent absent differs) absent distinct
  refine unused.mono fun history call fresh => ?_
  cases call with
  | openTrade virtualTradeId => exact fresh virtualTradeId rfl
  | resolveRound => trivial

theorem kept_new (initial : ℚ) : Kept initial { ledger := .new (.finite initial) } := by
  refine ⟨⟨⟨initial, 0, rfl, rfl, ?_, id⟩, rfl, List.nodup_nil⟩, ?_, ?_, initial, 0, rfl, rfl⟩
  · change initial + Map.total ∅ openStake = initial + 0
    rfl
  · intro id trade found
    cases found
  · intro id member
    cases member

/-- Conservation, for every sequence of calls with distinct trade ids, no negative stake and
no target below 1: after every call the balance and the open stakes make up the initial balance
and the profit, all opened trades are won, lost or open, none was resolved twice, the balance
is not negative, and the drawdown mark has not gone down.
-/
theorem ledger_conserves (initial : ℚ) (calls : List TradeCall)
    (priced : ∀ call ∈ calls, call.Priced)
    (distinct : (calls.filterMap TradeCall.opens).Nodup)
    : Runs.Always TradeHistory.step
        (fun history call =>
          Conserved initial (history.step call)
          ∧ history.ledger.maxDrawdown ≤ (history.step call).ledger.maxDrawdown)
        { ledger := .new (.finite initial) } calls := by
  have fresh : Runs.Always TradeHistory.step FreshTrade
      { ledger := .new (.finite initial) } calls :=
    always_fresh (fun _ _ => rfl) distinct
  have sound : Runs.Always TradeHistory.step (fun _ call => call.Priced)
      { ledger := .new (.finite initial) } calls :=
    .of_forall_mem fun call member _ => priced call member
  refine .of_invariant ?_ (fresh.and sound) (kept_new initial)
  rintro history call kept ⟨new, sound⟩
  obtain ⟨next, raised⟩ := kept_step kept sound new
  exact ⟨⟨next.toConserved, raised⟩, next⟩

/-- Two trades in one round, of which one is won and one is lost. -/
def wonAndLost : List TradeCall :=
  [.openTrade "vt-1" "signal-1" "round-1" 700 (13 / 10),
    .openTrade "vt-2" "signal-2" "round-1" 300 5, .resolveRound "round-1" 2,
    .resolveRound "round-1" 2]

theorem wonAndLost_conserves
    : Runs.Always TradeHistory.step
        (fun history call =>
          Conserved 10000 (history.step call)
          ∧ history.ledger.maxDrawdown ≤ (history.step call).ledger.maxDrawdown)
        { ledger := .new (.finite 10000) } wonAndLost := by
  refine ledger_conserves 10000 wonAndLost ?_ (by decide)
  intro call member
  simp only [wonAndLost, List.mem_cons, List.not_mem_nil, or_false] at member
  rcases member with rfl | rfl | rfl | rfl
  · exact ⟨by norm_num, by norm_num⟩
  · exact ⟨by norm_num, by norm_num⟩
  · trivial
  · trivial

end CrashWave.DryRun
