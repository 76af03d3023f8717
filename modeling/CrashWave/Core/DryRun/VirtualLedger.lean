import CrashWave.JavaScript.Map
import CrashWave.JavaScript.Number

/-! The in-memory ledger of virtual trades. -/

namespace CrashWave.DryRun

open JavaScript

/-- The life of a virtual trade; the source cancels none. -/
inductive VirtualTradeStatus where
  | «open»
  | win
  | loss
  deriving DecidableEq

/-- A virtual trade, with the fields that the ledger reads. -/
structure VirtualTrade where
  virtualTradeId : String
  signalId : String
  roundId : String
  stake : Number
  target : Number
  status : VirtualTradeStatus := .open
  pnl : Option Number := none
  deriving DecidableEq

/-- The ledger. -/
structure VirtualTradeLedger where
  trades : Map String VirtualTrade := ∅
  byRound : Map String (List String) := ∅
  bySignal : List String := []
  balance : Number
  peakEquity : Number
  maxDrawdown : Number := 0
  wins : Nat := 0
  losses : Nat := 0
  netPnl : Number := 0

/-- A new ledger. -/
def VirtualTradeLedger.new (initialBalance : Number) : VirtualTradeLedger where
  balance := initialBalance
  peakEquity := initialBalance

/-- `updateDrawdown`. -/
def VirtualTradeLedger.updateDrawdown (ledger : VirtualTradeLedger) : VirtualTradeLedger :=
  let peakEquity :=
    if ledger.peakEquity < ledger.balance then ledger.balance else ledger.peakEquity
  let drawdown :=
    if 0 < peakEquity then (peakEquity - ledger.balance) / peakEquity else 0
  { ledger with
    peakEquity := peakEquity
    maxDrawdown := if ledger.maxDrawdown < drawdown then drawdown else ledger.maxDrawdown }

/-- `openTrade`: nothing for a signal that has traded, or beyond the balance. -/
def VirtualTradeLedger.openTrade (ledger : VirtualTradeLedger) (trade : VirtualTrade)
    : Option VirtualTradeLedger :=
  if trade.signalId ≠ "" ∧ trade.signalId ∈ ledger.bySignal then none
  else if ledger.balance < trade.stake then none
  else
    let ids := (ledger.byRound.get trade.roundId).getD []
    some
      (VirtualTradeLedger.updateDrawdown
        { ledger with
          trades := ledger.trades.set trade.virtualTradeId trade
          byRound := ledger.byRound.set trade.roundId (ids ++ [trade.virtualTradeId])
          bySignal :=
            if trade.signalId ≠ "" then trade.signalId :: ledger.bySignal
            else ledger.bySignal
          balance := ledger.balance - trade.stake })

/-- Resolves one trade of a round, if it is still open. -/
def VirtualTradeLedger.resolveTrade (ledger : VirtualTradeLedger) (crashPoint : Number)
    (id : String) : VirtualTradeLedger :=
  match ledger.trades.get id with
  | none => ledger
  | some trade =>
      if trade.status ≠ .open then ledger
      else if trade.target ≤ crashPoint then
        let payout := trade.stake * trade.target
        let pnl := payout - trade.stake
        VirtualTradeLedger.updateDrawdown
          { ledger with
            trades := ledger.trades.set id { trade with status := .win, pnl := some pnl }
            balance := ledger.balance + payout
            wins := ledger.wins + 1
            netPnl := ledger.netPnl + pnl }
      else
        let pnl := trade.stake.neg
        VirtualTradeLedger.updateDrawdown
          { ledger with
            trades := ledger.trades.set id { trade with status := .loss, pnl := some pnl }
            losses := ledger.losses + 1
            netPnl := ledger.netPnl + pnl }

/-- `resolveRound`. -/
def VirtualTradeLedger.resolveRound (ledger : VirtualTradeLedger) (roundId : String)
    (crashPoint : Number) : VirtualTradeLedger :=
  ((ledger.byRound.get roundId).getD []).foldl
    (fun ledger id => ledger.resolveTrade crashPoint id) ledger

theorem openTrade_eq_none_iff (ledger : VirtualTradeLedger) (trade : VirtualTrade)
    : ledger.openTrade trade = none
      ↔ trade.signalId ≠ "" ∧ trade.signalId ∈ ledger.bySignal ∨ ledger.balance < trade.stake := by
  rw [VirtualTradeLedger.openTrade]
  by_cases traded : trade.signalId ≠ "" ∧ trade.signalId ∈ ledger.bySignal
  · rw [if_pos traded]
    exact iff_of_true rfl (.inl traded)
  · rw [if_neg traded]
    by_cases short : ledger.balance < trade.stake
    · rw [if_pos short]
      exact iff_of_true rfl (.inr short)
    · rw [if_neg short]
      exact iff_of_false (Option.some_ne_none _) (not_or.mpr ⟨traded, short⟩)

/-- A trade that is opened is entered, listed under its round, and changes no profit. -/
structure Opens (ledger : VirtualTradeLedger) (trade : VirtualTrade)
    (after : VirtualTradeLedger) : Prop where
  trades : after.trades = ledger.trades.set trade.virtualTradeId trade
  byRound
    : after.byRound
      = ledger.byRound.set trade.roundId
        ((ledger.byRound.get trade.roundId).getD [] ++ [trade.virtualTradeId])
  netPnl : after.netPnl = ledger.netPnl

theorem openTrade_opens {ledger after : VirtualTradeLedger} {trade : VirtualTrade}
    (opened : ledger.openTrade trade = some after) : Opens ledger trade after := by
  simp only [VirtualTradeLedger.openTrade, Option.ite_none_left_eq_some,
    Option.some.injEq] at opened
  obtain ⟨-, -, rfl⟩ := opened
  exact ⟨rfl, rfl, rfl⟩

/-- What a trade brings at a crash point. -/
def VirtualTrade.pnlAt (trade : VirtualTrade) (crashPoint : Number) : Number :=
  if trade.target ≤ crashPoint then trade.stake * trade.target - trade.stake
  else trade.stake.neg

/-- An open trade is resolved: it is closed, and its profit is added. -/
structure Resolves (ledger : VirtualTradeLedger) (crashPoint : Number) (id : String)
    (trade : VirtualTrade) (after : VirtualTradeLedger) : Prop where
  trades
    : ∃ closed : VirtualTrade, closed.status ≠ .open
      ∧ after.trades = ledger.trades.set id closed
  byRound : after.byRound = ledger.byRound
  netPnl : after.netPnl = ledger.netPnl + trade.pnlAt crashPoint

theorem resolveTrade_resolves {ledger : VirtualTradeLedger} {id : String}
    {trade : VirtualTrade} (entered : ledger.trades.get id = some trade)
    (isOpen : trade.status = .open) (crashPoint : Number)
    : Resolves ledger crashPoint id trade (ledger.resolveTrade crashPoint id) := by
  unfold VirtualTradeLedger.resolveTrade
  rw [entered]
  dsimp only
  rw [if_neg (not_not.mpr isOpen)]
  split
  · next won =>
      refine ⟨⟨_, VirtualTradeStatus.noConfusion, rfl⟩, rfl, ?_⟩
      rw [VirtualTrade.pnlAt, if_pos won]
      rfl
  · next lost =>
      refine ⟨⟨_, VirtualTradeStatus.noConfusion, rfl⟩, rfl, ?_⟩
      rw [VirtualTrade.pnlAt, if_neg lost]
      rfl

/-- A trade that is not open is not resolved. -/
theorem resolveTrade_of_not_open {ledger : VirtualTradeLedger} {id : String}
    (settled : ∀ trade, ledger.trades.get id = some trade → trade.status ≠ .open)
    (crashPoint : Number) : ledger.resolveTrade crashPoint id = ledger := by
  unfold VirtualTradeLedger.resolveTrade
  split
  · rfl
  · next trade entered => rw [if_pos (settled trade entered)]

/-- A trade is resolved, or nothing happens. -/
theorem VirtualTradeLedger.resolveTrade_cases (ledger : VirtualTradeLedger) (crashPoint : Number)
    (id : String)
    : (∃ trade, ledger.trades.get id = some trade ∧ trade.status = .open
        ∧ Resolves ledger crashPoint id trade (ledger.resolveTrade crashPoint id))
      ∨ ledger.resolveTrade crashPoint id = ledger := by
  by_cases waits : ∃ trade, ledger.trades.get id = some trade ∧ trade.status = .open
  · obtain ⟨trade, entered, isOpen⟩ := waits
    exact .inl ⟨trade, entered, isOpen, resolveTrade_resolves entered isOpen crashPoint⟩
  · refine .inr (resolveTrade_of_not_open ?_ crashPoint)
    intro trade entered isOpen
    exact waits ⟨trade, entered, isOpen⟩

/-- What each resolution keeps holds after those of a round, by induction on its trades. -/
theorem resolveRound_invariant (kept : VirtualTradeLedger → Prop) {crashPoint : Number}
    (keeps : ∀ ledger id, kept ledger → kept (ledger.resolveTrade crashPoint id))
    {ledger : VirtualTradeLedger} (initial : kept ledger) (roundId : String)
    : kept (ledger.resolveRound roundId crashPoint) := by
  rw [VirtualTradeLedger.resolveRound]
  generalize (ledger.byRound.get roundId).getD [] = ids
  induction ids generalizing ledger with
  | nil => exact initial
  | cons id rest ih => exact ih (keeps ledger id initial)

/-- Resolving a round leaves the rounds of all trades. -/
theorem resolveRound_byRound (ledger : VirtualTradeLedger) (roundId : String)
    (crashPoint : Number) : (ledger.resolveRound roundId crashPoint).byRound = ledger.byRound := by
  refine resolveRound_invariant (fun after => after.byRound = ledger.byRound) ?_ rfl roundId
  intro after id same
  rcases after.resolveTrade_cases crashPoint id with ⟨trade, -, -, resolves⟩ | unchanged
  · exact resolves.byRound.trans same
  · rw [unchanged, same]

/-- Resolving a trade makes no other one. -/
theorem resolveTrade_absent {ledger : VirtualTradeLedger} {other : String}
    (absent : ledger.trades.get other = none) (crashPoint : Number) (id : String)
    : (ledger.resolveTrade crashPoint id).trades.get other = none := by
  rcases ledger.resolveTrade_cases crashPoint id with ⟨trade, entered, -, resolves⟩ | unchanged
  · obtain ⟨closed, -, trades⟩ := resolves.trades
    have differs : other ≠ id := by
      rintro rfl
      rw [absent] at entered
      cases entered
    rw [trades, Map.get_set_of_ne _ _ differs]
    exact absent
  · rw [unchanged]
    exact absent

/-- Neither does resolving a round. -/
theorem resolveRound_absent {ledger : VirtualTradeLedger} {other : String}
    (absent : ledger.trades.get other = none) (roundId : String) (crashPoint : Number)
    : (ledger.resolveRound roundId crashPoint).trades.get other = none :=
  resolveRound_invariant (fun after => after.trades.get other = none)
    (fun _ id still => resolveTrade_absent still crashPoint id) absent roundId

end CrashWave.DryRun
