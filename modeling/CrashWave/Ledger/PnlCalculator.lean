import Mathlib.Data.Rat.Floor
import Mathlib.Tactic.Ring
import CrashWave.Drawdowns.Basic
import CrashWave.Streaks.Basic

/-! Profits and losses of settled bets: the equity curve, its drawdowns and the summary, each of
them in a loop of its own. Numbers are those of an ordered field.
-/

namespace CrashWave.Ledger.Pnl

open Drawdowns Streaks

inductive PnlOutcome where
  | win
  | loss
  | failed
  | unknown
  deriving DecidableEq

/-- `PnlEntry`, with the fields that the calculator reads. -/
structure PnlEntry (K : Type*) where
  betId : String
  outcome : PnlOutcome
  pnl : K
  timestamp : String
  deriving DecidableEq

structure EquityPoint (K : Type*) where
  timestamp : String
  cumulativePnl : K
  peakPnl : K
  currentDrawdown : K
  betId : String
  deriving DecidableEq

structure Drawdown (K : Type*) where
  maxDrawdown : K
  currentDrawdown : K
  deriving DecidableEq

inductive StreakType where
  | win
  | loss
  | none
  deriving DecidableEq

structure PnlSummary (K : Type*) where
  totalBets : Nat
  wins : Nat
  losses : Nat
  failed : Nat
  unknown : Nat
  grossProfit : K
  grossLoss : K
  netPnl : K
  hitRate : K
  breakEvenHitRate : K
  maxDrawdown : K
  currentDrawdown : K
  averageWin : K
  averageLoss : K
  expectedValue : K
  winStreakMax : Nat
  lossStreakMax : Nat
  currentStreak : Nat
  currentStreakType : StreakType
  deriving DecidableEq

structure PnlCalculator (K : Type*) where
  stake : K
  target : K

variable {K : Type*} [Field K] [LinearOrder K]

-----------------------------------------------------------------------------------------
-- The equity curve and its drawdown
-----------------------------------------------------------------------------------------

/-- What the entry adds to the cumulative profit; one that failed or is unknown changes nothing. -/
def PnlEntry.counted (entry : PnlEntry K) : K :=
  if entry.outcome = .win ∨ entry.outcome = .loss then entry.pnl else 0

/-- The variables of the loop of `buildEquityCurve`. -/
structure EquityLoop (K : Type*) where
  curve : List (EquityPoint K)
  cumulativePnl : K
  peakPnl : K

def EquityLoop.turn (loop : EquityLoop K) (entry : PnlEntry K) : EquityLoop K :=
  let cumulativePnl :=
    if entry.outcome = .win ∨ entry.outcome = .loss then loop.cumulativePnl + entry.pnl
    else loop.cumulativePnl
  let peakPnl := max loop.peakPnl cumulativePnl
  {
    curve := loop.curve ++ [{
      timestamp := entry.timestamp
      cumulativePnl
      peakPnl
      currentDrawdown := peakPnl - cumulativePnl
      betId := entry.betId
    }]
    cumulativePnl
    peakPnl
  }

def equityLoop (entries : List (PnlEntry K)) : EquityLoop K :=
  entries.foldl EquityLoop.turn { curve := [], cumulativePnl := 0, peakPnl := 0 }

def buildEquityCurve (entries : List (PnlEntry K)) : List (EquityPoint K) :=
  (equityLoop entries).curve

/-- The variables of the loop of `computeDrawdown`. -/
structure DrawdownLoop (K : Type*) where
  cumulativePnl : K
  peakPnl : K
  maxDrawdown : K

def DrawdownLoop.turn (loop : DrawdownLoop K) (entry : PnlEntry K) : DrawdownLoop K :=
  let cumulativePnl :=
    if entry.outcome = .win ∨ entry.outcome = .loss then loop.cumulativePnl + entry.pnl
    else loop.cumulativePnl
  let peakPnl := max loop.peakPnl cumulativePnl
  {
    cumulativePnl
    peakPnl
    maxDrawdown := max loop.maxDrawdown (peakPnl - cumulativePnl)
  }

def drawdownLoop (entries : List (PnlEntry K)) : DrawdownLoop K :=
  entries.foldl DrawdownLoop.turn { cumulativePnl := 0, peakPnl := 0, maxDrawdown := 0 }

def computeDrawdown (entries : List (PnlEntry K)) : Drawdown K :=
  let loop := drawdownLoop entries
  {
    maxDrawdown := loop.maxDrawdown
    currentDrawdown := loop.peakPnl - loop.cumulativePnl
  }

def computeDrawdownFromCurve (curve : List (EquityPoint K)) : Drawdown K :=
  match curve.getLast? with
  | none => { maxDrawdown := 0, currentDrawdown := 0 }
  | some last =>
      {
        maxDrawdown := (curve.map (·.currentDrawdown)).max?.getD 0
        currentDrawdown := last.currentDrawdown
      }

-----------------------------------------------------------------------------------------
-- The summary
-----------------------------------------------------------------------------------------

namespace PnlCalculator

variable (calculator : PnlCalculator K)

def getBreakEvenHitRate : K := 1 / calculator.target

def calculateExpectedValue (hitRate : K) : K :=
  calculator.stake * (hitRate * calculator.target - 1)

end PnlCalculator

/-- The variables of the loop of `computeSummary`. -/
structure SummaryLoop (K : Type*) [Field K] where
  wins : Nat := 0
  losses : Nat := 0
  failed : Nat := 0
  unknown : Nat := 0
  grossProfit : K := 0
  grossLoss : K := 0
  winStreakMax : Nat := 0
  lossStreakMax : Nat := 0
  currentWinStreak : Nat := 0
  currentLossStreak : Nat := 0

def SummaryLoop.turn (loop : SummaryLoop K) (entry : PnlEntry K) : SummaryLoop K :=
  match entry.outcome with
  | .win =>
      { loop with
        wins := loop.wins + 1
        grossProfit := loop.grossProfit + entry.pnl
        currentWinStreak := loop.currentWinStreak + 1
        currentLossStreak := 0
        winStreakMax := max loop.winStreakMax (loop.currentWinStreak + 1) }
  | .loss =>
      { loop with
        losses := loop.losses + 1
        grossLoss := loop.grossLoss + entry.pnl
        currentLossStreak := loop.currentLossStreak + 1
        currentWinStreak := 0
        lossStreakMax := max loop.lossStreakMax (loop.currentLossStreak + 1) }
  | .failed =>
      { loop with
        failed := loop.failed + 1
        currentWinStreak := 0
        currentLossStreak := 0 }
  | .unknown =>
      { loop with
        unknown := loop.unknown + 1
        currentWinStreak := 0
        currentLossStreak := 0 }

def summaryLoop (entries : List (PnlEntry K)) : SummaryLoop K :=
  entries.foldl SummaryLoop.turn {}

namespace PnlCalculator

variable (calculator : PnlCalculator K)

def emptySummary : PnlSummary K where
  totalBets := 0
  wins := 0
  losses := 0
  failed := 0
  unknown := 0
  grossProfit := 0
  grossLoss := 0
  netPnl := 0
  hitRate := 0
  breakEvenHitRate := calculator.getBreakEvenHitRate
  maxDrawdown := 0
  currentDrawdown := 0
  averageWin := 0
  averageLoss := 0
  expectedValue := 0
  winStreakMax := 0
  lossStreakMax := 0
  currentStreak := 0
  currentStreakType := .none

def computeSummary (entries : List (PnlEntry K)) : PnlSummary K :=
  if entries = [] then calculator.emptySummary
  else
    let loop := summaryLoop entries
    let hitRate : K :=
      if 0 < loop.wins + loop.losses then loop.wins / (loop.wins + loop.losses : Nat) else 0
    let drawdown := computeDrawdown entries
    {
      totalBets := entries.length
      wins := loop.wins
      losses := loop.losses
      failed := loop.failed
      unknown := loop.unknown
      grossProfit := loop.grossProfit
      grossLoss := loop.grossLoss
      netPnl := loop.grossProfit + loop.grossLoss
      hitRate
      breakEvenHitRate := calculator.getBreakEvenHitRate
      maxDrawdown := drawdown.maxDrawdown
      currentDrawdown := drawdown.currentDrawdown
      averageWin := if 0 < loop.wins then loop.grossProfit / loop.wins else 0
      averageLoss := if 0 < loop.losses then loop.grossLoss / loop.losses else 0
      expectedValue := calculator.calculateExpectedValue hitRate
      winStreakMax := loop.winStreakMax
      lossStreakMax := loop.lossStreakMax
      currentStreak :=
        if 0 < loop.currentWinStreak then loop.currentWinStreak else loop.currentLossStreak
      currentStreakType :=
        if 0 < loop.currentWinStreak then .win
        else if 0 < loop.currentLossStreak then .loss
        else .none
    }

end PnlCalculator

-----------------------------------------------------------------------------------------
-- The loops
-----------------------------------------------------------------------------------------

/-- The cumulative profits, from nothing before the first bet on. -/
def profitCurve (entries : List (PnlEntry K)) : List K :=
  0 :: (buildEquityCurve entries).map (·.cumulativePnl)

theorem equityLoop_concat (entries : List (PnlEntry K)) (entry : PnlEntry K)
    : equityLoop (entries ++ [entry]) = (equityLoop entries).turn entry := by
  rw [equityLoop, List.foldl_append, ← equityLoop]
  rfl

theorem drawdownLoop_concat (entries : List (PnlEntry K)) (entry : PnlEntry K)
    : drawdownLoop (entries ++ [entry]) = (drawdownLoop entries).turn entry := by
  rw [drawdownLoop, List.foldl_append, ← drawdownLoop]
  rfl

omit [LinearOrder K] in
theorem profit_turn (cumulativePnl : K) (entry : PnlEntry K)
    : (if entry.outcome = .win ∨ entry.outcome = .loss then cumulativePnl + entry.pnl
        else cumulativePnl)
      = cumulativePnl + entry.counted := by
  rw [PnlEntry.counted]
  split
  · rfl
  · rw [add_zero]

variable [IsStrictOrderedRing K] {entries : List (PnlEntry K)}

/-- Both loops keep the sum of what counts, and the peak and the largest fall of the curve; the
drawdowns of its points are the falls from the peak.
-/
structure EquityInvariant (equity : EquityLoop K) (drawdown : DrawdownLoop K) (total : K)
    (curve : List K) : Prop where
  cumulativePnl : equity.cumulativePnl = total
  cumulativePnl' : drawdown.cumulativePnl = total
  peakPnl : drawdown.peakPnl = equity.peakPnl
  last : curve.getLast? = some total
  peak : IsPeak curve equity.peakPnl
  fall : LargestFall curve drawdown.maxDrawdown
  falls : IsPeak (0 :: equity.curve.map (·.currentDrawdown)) drawdown.maxDrawdown
  nonneg : ∀ point ∈ equity.curve, 0 ≤ point.currentDrawdown
  current : ∀ point, equity.curve.getLast? = some point →
    point.currentDrawdown = equity.peakPnl - total

/-- One entry more. -/
theorem EquityInvariant.turn {equity : EquityLoop K} {drawdown : DrawdownLoop K} {total : K}
    {curve : List K} (inv : EquityInvariant equity drawdown total curve) (entry : PnlEntry K)
    : EquityInvariant (equity.turn entry) (drawdown.turn entry) (total + entry.counted)
        (curve ++ [total + entry.counted]) := by
  have cumulative : (equity.turn entry).cumulativePnl = total + entry.counted := by
    rw [← inv.cumulativePnl, ← profit_turn]
    rfl
  have cumulative' : (drawdown.turn entry).cumulativePnl = total + entry.counted := by
    rw [← inv.cumulativePnl', ← profit_turn]
    rfl
  have peak : (equity.turn entry).peakPnl = max equity.peakPnl (total + entry.counted) := by
    rw [← cumulative]
    rfl
  have peak' : (drawdown.turn entry).peakPnl = max equity.peakPnl (total + entry.counted) := by
    rw [← cumulative', ← inv.peakPnl]
    rfl
  have fallen : (drawdown.turn entry).maxDrawdown
      = max drawdown.maxDrawdown
          (max equity.peakPnl (total + entry.counted) - (total + entry.counted)) := by
    rw [← peak', ← cumulative']
    rfl
  have points : (equity.turn entry).curve = equity.curve ++ [{
      timestamp := entry.timestamp
      cumulativePnl := total + entry.counted
      peakPnl := max equity.peakPnl (total + entry.counted)
      currentDrawdown := max equity.peakPnl (total + entry.counted) - (total + entry.counted)
      betId := entry.betId
    }] := by
    rw [← peak, ← cumulative]
    rfl
  constructor
  · exact cumulative
  · exact cumulative'
  · rw [peak', peak]
  · rw [List.getLast?_concat]
  · rw [peak]
    exact inv.peak.concat _
  · rw [fallen]
    exact inv.fall.concat inv.peak _
  · rw [fallen, points, List.map_append, ← List.cons_append]
    exact inv.falls.concat _
  · rw [points]
    intro point among
    rcases List.mem_append.mp among with earlier | now
    · exact inv.nonneg point earlier
    · rw [List.mem_singleton.mp now]
      exact sub_nonneg.mpr (le_max_right _ _)
  · rw [points, peak]
    intro point last
    rw [List.getLast?_concat] at last
    obtain rfl := Option.some_inj.mp last
    rfl

theorem equityInvariant (entries : List (PnlEntry K))
    : EquityInvariant (equityLoop entries) (drawdownLoop entries) (entries.map (·.counted)).sum
        (profitCurve entries) := by
  induction entries using List.reverseRecOn with
  | nil =>
      have peak : IsPeak [(0 : K)] 0 := isPeak_singleton 0
      exact ⟨rfl, rfl, rfl, rfl, peak, largestFall_singleton 0, peak, by simp [equityLoop],
        by simp [equityLoop]⟩
  | append_singleton entries entry ih =>
      have next := ih.turn entry
      have curve : profitCurve (entries ++ [entry])
          = profitCurve entries ++ [(entries.map (·.counted)).sum + entry.counted] := by
        rw [← next.cumulativePnl]
        rw [profitCurve, buildEquityCurve, equityLoop_concat, profitCurve, buildEquityCurve]
        simp [EquityLoop.turn]
      rw [equityLoop_concat, drawdownLoop_concat, curve, List.map_append, List.sum_append,
        List.map_singleton, List.sum_singleton]
      exact next

/-- The drawdown of the entries can be read off their equity curve. -/
theorem computeDrawdown_eq (entries : List (PnlEntry K))
    : computeDrawdown entries = computeDrawdownFromCurve (buildEquityCurve entries) := by
  have inv := equityInvariant entries
  rw [computeDrawdownFromCurve]
  cases last : (buildEquityCurve entries).getLast? with
  | none =>
      have empty : buildEquityCurve entries = [] := List.getLast?_eq_none_iff.mp last
      have flat : profitCurve entries = [0] := by rw [profitCurve, empty, List.map_nil]
      have peak := inv.peak.1
      have total := inv.last
      have falls := inv.falls.1
      rw [flat] at peak total
      rw [show (equityLoop entries).curve = [] from empty] at falls
      have peak : (equityLoop entries).peakPnl = 0 := List.mem_singleton.mp peak
      have falls : (drawdownLoop entries).maxDrawdown = 0 := List.mem_singleton.mp falls
      have total : (entries.map (·.counted)).sum = 0 := (Option.some_inj.mp total).symm
      rw [computeDrawdown, falls, inv.peakPnl, peak, inv.cumulativePnl', total, sub_zero]
  | some point =>
      have current := inv.current point last
      -- Nothing but the drawdowns is needed for their maximum, as none of them is negative.
      have greatest : ((buildEquityCurve entries).map (·.currentDrawdown)).max?
          = some (drawdownLoop entries).maxDrawdown := by
        have among : point ∈ buildEquityCurve entries := List.mem_of_getLast? last
        refine List.max?_eq_some_iff.mpr ⟨?_, fun fall inside => ?_⟩
        · rcases List.mem_cons.mp inv.falls.1 with zero | inside
          · have least := inv.nonneg point among
            have most := inv.falls.2 (List.mem_cons_of_mem _ (List.mem_map_of_mem among))
            rw [zero] at most ⊢
            rw [← le_antisymm most least]
            exact List.mem_map_of_mem among
          · exact inside
        · exact inv.falls.2 (List.mem_cons_of_mem _ inside)
      simp only [greatest, Option.getD_some, current]
      rw [computeDrawdown, inv.peakPnl, inv.cumulativePnl']

-----------------------------------------------------------------------------------------
-- What the summary says
-----------------------------------------------------------------------------------------

/-- The variables of the summary's loop count and total the entries, and keep their streaks. -/
structure SummaryInvariant (entries : List (PnlEntry K)) (loop : SummaryLoop K) : Prop where
  counted : loop.wins + loop.losses + loop.failed + loop.unknown = entries.length
  total : loop.grossProfit + loop.grossLoss = (entries.map (·.counted)).sum
  currentWin : loop.currentWinStreak = currentRun (·.outcome = .win) entries
  currentLoss : loop.currentLossStreak = currentRun (·.outcome = .loss) entries
  win : LongestRun (·.outcome = .win) entries loop.winStreakMax
  loss : LongestRun (·.outcome = .loss) entries loop.lossStreakMax

omit [IsStrictOrderedRing K] [LinearOrder K] in
theorem SummaryLoop.count_turn (loop : SummaryLoop K) (entry : PnlEntry K)
    : (loop.turn entry).wins + (loop.turn entry).losses + (loop.turn entry).failed
        + (loop.turn entry).unknown
      = loop.wins + loop.losses + loop.failed + loop.unknown + 1 := by
  cases outcome : entry.outcome <;> simp only [SummaryLoop.turn, outcome] <;> omega

omit [IsStrictOrderedRing K] [LinearOrder K] in
theorem SummaryLoop.total_turn (loop : SummaryLoop K) (entry : PnlEntry K)
    : (loop.turn entry).grossProfit + (loop.turn entry).grossLoss
      = loop.grossProfit + loop.grossLoss + entry.counted := by
  cases outcome : entry.outcome <;> simp [SummaryLoop.turn, PnlEntry.counted, outcome] <;> ring

omit [IsStrictOrderedRing K] [LinearOrder K] in
theorem summaryInvariant (entries : List (PnlEntry K))
    : SummaryInvariant entries (summaryLoop entries) := by
  induction entries using List.reverseRecOn with
  | nil => exact ⟨rfl, add_zero 0, rfl, rfl, longestRun_nil, longestRun_nil⟩
  | append_singleton entries entry ih =>
      have next : summaryLoop (entries ++ [entry]) = (summaryLoop entries).turn entry := by
        rw [summaryLoop, List.foldl_append, ← summaryLoop]
        rfl
      have wins : currentRun (·.outcome = .win) (entries ++ [entry])
          = if entry.outcome = .win then (summaryLoop entries).currentWinStreak + 1 else 0 := by
        simp only [currentRun_concat, ih.currentWin, decide_eq_true_eq]
      have losses : currentRun (·.outcome = .loss) (entries ++ [entry])
          = if entry.outcome = .loss then (summaryLoop entries).currentLossStreak + 1 else 0 := by
        simp only [currentRun_concat, ih.currentLoss, decide_eq_true_eq]
      have win := ih.win.concat entry
      have loss := ih.loss.concat entry
      rw [wins] at win
      rw [losses] at loss
      rw [next]
      constructor
      · rw [SummaryLoop.count_turn, ih.counted, List.length_append, List.length_singleton]
      · rw [SummaryLoop.total_turn, ih.total, List.map_append, List.sum_append,
          List.map_singleton, List.sum_singleton]
      · rw [wins]
        cases outcome : entry.outcome <;> simp [SummaryLoop.turn, outcome]
      · rw [losses]
        cases outcome : entry.outcome <;> simp [SummaryLoop.turn, outcome]
      · cases outcome : entry.outcome <;> simpa [SummaryLoop.turn, outcome] using win
      · cases outcome : entry.outcome <;> simpa [SummaryLoop.turn, outcome] using loss

/-- The summary counts all entries, nets what the curve ends with, and has the largest fall of the
curve and the longest streaks; the drawdown is that of the curve.
-/
structure SummaryLaw (entries : List (PnlEntry K)) (summary : PnlSummary K) : Prop where
  drawdown : computeDrawdown entries = computeDrawdownFromCurve (buildEquityCurve entries)
  totalBets : summary.totalBets = entries.length
  counted : summary.wins + summary.losses + (summary.failed + summary.unknown) = summary.totalBets
  netPnl : (profitCurve entries).getLast? = some summary.netPnl
  maxDrawdown : LargestFall (profitCurve entries) summary.maxDrawdown
  winStreakMax : LongestRun (·.outcome = .win) entries summary.winStreakMax
  lossStreakMax : LongestRun (·.outcome = .loss) entries summary.lossStreakMax

theorem computeSummary_law (calculator : PnlCalculator K) (entries : List (PnlEntry K))
    : SummaryLaw entries (calculator.computeSummary entries) := by
  have equity := equityInvariant entries
  have loop := summaryInvariant entries
  have drawdown := computeDrawdown_eq entries
  rw [PnlCalculator.computeSummary]
  split
  · next empty =>
      subst empty
      exact ⟨drawdown, rfl, rfl, equity.last, equity.fall, loop.win, loop.loss⟩
  · refine ⟨drawdown, rfl, ?_, ?_, equity.fall, loop.win, loop.loss⟩
    · rw [← loop.counted]
      exact (Nat.add_assoc _ _ _).symm
    · rw [equity.last, ← loop.total]

/-- A bet that is won and one that is lost. -/
theorem computeSummary_two
    : let entries : List (PnlEntry ℚ) :=
        [⟨"b1", .win, 210, "2026-01-01T00:00:00.000Z"⟩,
          ⟨"b2", .loss, -700, "2026-01-01T00:01:00.000Z"⟩]
      SummaryLaw entries ((⟨700, 1.3⟩ : PnlCalculator ℚ).computeSummary entries) := by
  intro entries
  exact computeSummary_law _ entries

/-- A first bet that is lost falls from the profit before it, not from a point of the curve. -/
theorem maxDrawdown_first_loss
    : let calculator : PnlCalculator ℚ := ⟨700, 1.3⟩
      let entries : List (PnlEntry ℚ) := [⟨"b1", .loss, -700, "2026-01-01T00:00:00.000Z"⟩]
      (calculator.computeSummary entries).maxDrawdown = 700
        ∧ LargestFall ((buildEquityCurve entries).map (·.cumulativePnl)) 0 := by
  intro calculator entries
  have curve : (buildEquityCurve entries).map (·.cumulativePnl) = [-700] := by decide +kernel
  refine ⟨by decide +kernel, ?_⟩
  rw [curve]
  exact largestFall_singleton _

end CrashWave.Ledger.Pnl
