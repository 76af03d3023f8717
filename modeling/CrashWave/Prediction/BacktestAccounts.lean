import Mathlib.Algebra.Order.Group.MinMax
import CrashWave.Prediction.BacktestEngine

/-! The accounts and the days of a backtest: profits add up, the drawdown is the largest fall of the
profits, and a day has no entry once its maximum is reached.
-/

namespace CrashWave.Backtest

open JavaScript Drawdowns CrashWave.History CrashWave.Prediction

/-- The cumulative profits, from nothing before the first decision on. -/
def profitCurve (decisions : List BacktestDecision) : List ℚ := 0 :: decisions.map (·.cumulativePnl)

/-- The entries of a day. -/
def entriesOn (decisions : List BacktestDecision) (day : String) : Nat :=
  decisions.countP fun decision => decision.entered ∧ dayKey decision.timestamp = day

variable {σ : Type} {predict : σ → PredictRequest → Except String (σ × PredictionSignal)}
  {config : BacktestConfig} {initialBalance : ℚ} {start : σ} {rounds : List HistoricalRound}
  {loop : Loop σ} {count : Nat} {current : HistoricalRound} {result : BacktestResult}
  {decisions : List BacktestDecision} {decision : BacktestDecision}

theorem profitCurve_concat
    : profitCurve (decisions ++ [decision])
      = profitCurve decisions ++ [decision.cumulativePnl] := by
  rw [profitCurve, List.map_append, ← List.cons_append]
  rfl

-----------------------------------------------------------------------------------------
-- Profits and drawdown
-----------------------------------------------------------------------------------------

/-- The loop's amounts are those of its decisions. -/
structure Accounts (initialBalance : ℚ) (loop : Loop σ) : Prop where
  total : loop.cumulativePnl = (loop.decisions.map (·.pnl)).sum
  each : ∀ index decision, loop.decisions[index]? = some decision →
    decision.cumulativePnl = ((loop.decisions.take (index + 1)).map (·.pnl)).sum
  equity : loop.equity = initialBalance + loop.cumulativePnl
  last : (profitCurve loop.decisions).getLast? = some loop.cumulativePnl
  peak : IsPeak (profitCurve loop.decisions) (loop.peakEquity - initialBalance)
  fall : LargestFall (profitCurve loop.decisions) loop.maxDrawdown

theorem Accounts.initial (predictor : σ) (initialBalance : ℚ)
    : Accounts initialBalance
        { predictor, equity := initialBalance, peakEquity := initialBalance } where
  total := rfl
  each := by
    intro index decision found
    cases found
  equity := (add_zero initialBalance).symm
  last := rfl
  peak := by
    rw [sub_self]
    exact isPeak_singleton 0
  fall := largestFall_singleton 0

theorem Accounts.forecast (accounts : Accounts initialBalance loop) (predictor : σ)
    (current : HistoricalRound)
    : Accounts initialBalance (loop.forecast predictor current) := by
  unfold Loop.forecast Loop.newDay
  split <;> exact { accounts with }

/-- The largest profit so far is not below the present one. -/
theorem Accounts.cumulativePnl_le (accounts : Accounts initialBalance loop)
    : loop.cumulativePnl ≤ loop.peakEquity - initialBalance :=
  accounts.peak.2 (List.mem_of_getLast? accounts.last)

/-- Entered or skipped, the accounts go on by the profit of the decision. -/
structure Settled (initialBalance : ℚ) (loop settled : Loop σ) (pnl : ℚ) : Prop where
  cumulativePnl : settled.cumulativePnl = loop.cumulativePnl + pnl
  equity : settled.equity = initialBalance + settled.cumulativePnl
  peak : settled.peakEquity - initialBalance
    = max (loop.peakEquity - initialBalance) settled.cumulativePnl
  fall : settled.maxDrawdown
    = max loop.maxDrawdown (settled.peakEquity - initialBalance - settled.cumulativePnl)

theorem Accounts.account (accounts : Accounts initialBalance loop) (config : BacktestConfig)
    (current : HistoricalRound) (signal : PredictionSignal)
    : Settled initialBalance loop (loop.account config initialBalance current signal)
        (loop.decision config initialBalance current signal).pnl := by
  rw [Loop.account, Loop.decision]
  cases simulateRisk signal loop.ctx config with
  | none =>
      refine ⟨rfl, rfl, ?_, ?_⟩
      · simp only [Loop.enter]
        rw [← max_sub_sub_right, add_sub_cancel_left]
      · simp only [Loop.enter]
        rw [sub_sub]
  | some reason =>
      have below := accounts.cumulativePnl_le
      have stays := accounts.fall.sub_le accounts.peak accounts.last
      exact ⟨(add_zero _).symm, accounts.equity, (max_eq_left below).symm, (max_eq_left stays).symm⟩

/-- The cumulative profit of one decision more is the sum with it, and the others' stay. -/
theorem each_concat
    (each : ∀ index made, decisions[index]? = some made →
      made.cumulativePnl = ((decisions.take (index + 1)).map (·.pnl)).sum)
    (total : decision.cumulativePnl = ((decisions ++ [decision]).map (·.pnl)).sum)
    (index : Nat) (made : BacktestDecision) (found : (decisions ++ [decision])[index]? = some made)
    : made.cumulativePnl = (((decisions ++ [decision]).take (index + 1)).map (·.pnl)).sum := by
  rcases lt_or_ge index decisions.length with earlier | later
  · rw [List.getElem?_append_left earlier] at found
    rw [each index made found, List.take_append_of_le_length earlier]
  · have inside := (List.getElem?_eq_some_iff.mp found).1
    rw [List.length_append, List.length_singleton] at inside
    obtain rfl : index = decisions.length := by omega
    rw [List.getElem?_concat_length] at found
    obtain rfl := Option.some_inj.mp found
    have whole : (decisions ++ [decision]).take (decisions.length + 1) = decisions ++ [decision] :=
      List.take_of_length_le List.length_append.le
    rw [whole, total]

theorem Accounts.settle (accounts : Accounts initialBalance loop) (current : HistoricalRound)
    (signal : PredictionSignal)
    : Accounts initialBalance (loop.settle config initialBalance current signal) := by
  have settled := accounts.account config current signal
  set decision := loop.decision config initialBalance current signal with isDecision
  have cumulative : decision.cumulativePnl
      = (loop.account config initialBalance current signal).cumulativePnl := rfl
  have total : decision.cumulativePnl = ((loop.decisions ++ [decision]).map (·.pnl)).sum := by
    rw [cumulative, settled.cumulativePnl, accounts.total, List.map_append, List.sum_append]
    rw [List.map_singleton, List.sum_singleton]
  have curve : profitCurve (loop.settle config initialBalance current signal).decisions
      = profitCurve loop.decisions ++ [decision.cumulativePnl] :=
    profitCurve_concat
  refine {
    total := cumulative.symm.trans total
    each := ?_
    equity := settled.equity
    last := ?_
    peak := ?_
    fall := ?_
  }
  · exact each_concat accounts.each total
  · rw [curve, List.getLast?_concat]
    exact congrArg some cumulative
  · have next := accounts.peak.concat decision.cumulativePnl
    rw [cumulative, ← settled.peak, ← cumulative, ← curve] at next
    exact next
  · have next := accounts.fall.concat accounts.peak decision.cumulativePnl
    rw [cumulative, ← settled.peak, ← settled.fall, ← cumulative, ← curve] at next
    exact next

-----------------------------------------------------------------------------------------
-- Days
-----------------------------------------------------------------------------------------

/-- The day of a round. -/
def roundDay (round : HistoricalRound) : String := dayKey (roundTimestamp round)

theorem entriesOn_concat (day : String)
    : entriesOn (decisions ++ [decision]) day
      = entriesOn decisions day
        + if decision.entered ∧ dayKey decision.timestamp = day then 1 else 0 := by
  rw [entriesOn, List.countP_append, List.countP_singleton]
  simp only [decide_eq_true_eq]
  rfl

/-- What the counter of the day and the decisions have in common. -/
structure Days (config : BacktestConfig) (rounds : List HistoricalRound) (count : Nat)
    (loop : Loop σ) : Prop where
  seen : ∀ decision ∈ loop.decisions, dayKey decision.timestamp ≤ loop.lastDay
  ahead : loop.decisions ≠ [] → ∀ index current, minHistory + count ≤ index →
    rounds[index]? = some current → loop.lastDay ≤ roundDay current
  today : loop.dailyEntries = entriesOn loop.decisions loop.lastDay
  bounded : ∀ day entries, entries < entriesOn loop.decisions day →
    ¬ config.maxDailyEntries ≤ .finite entries

theorem forecast_lastDay (loop : Loop σ) (predictor : σ) (current : HistoricalRound)
    : (loop.forecast predictor current).lastDay = roundDay current := by
  unfold Loop.forecast Loop.newDay
  split
  · rfl
  · next same => exact (not_not.mp same).symm

/-- At a new day the counter starts again, and there is no entry of it before. -/
theorem Days.dailyEntries (days : Days config rounds count loop) (predictor : σ)
    (found : rounds[minHistory + count]? = some current)
    : (loop.forecast predictor current).dailyEntries
      = entriesOn loop.decisions (roundDay current) := by
  unfold Loop.forecast Loop.newDay
  split
  · next changed =>
    refine (List.countP_eq_zero.mpr ?_).symm
    intro decision made counted
    have onDay := (of_decide_eq_true counted).2
    have after := days.ahead (List.ne_nil_of_mem made) _ _ le_rfl found
    exact changed (le_antisymm (onDay.symm.trans_le (days.seen decision made)) after)
  · next same =>
    have same : roundDay current = loop.lastDay := not_not.mp same
    rw [same]
    exact days.today

/-- The counter goes up with an entry, which has a day that is not full. -/
theorem settle_dailyEntries (config : BacktestConfig) (initialBalance : ℚ) (loop : Loop σ)
    (current : HistoricalRound) (signal : PredictionSignal)
    : (loop.settle config initialBalance current signal).dailyEntries
        = loop.dailyEntries
          + (if (loop.decision config initialBalance current signal).entered then 1 else 0)
      ∧ ((loop.decision config initialBalance current signal).entered →
          ¬ config.maxDailyEntries ≤ .finite loop.dailyEntries) := by
  rw [Loop.settle, Loop.account, Loop.decision]
  cases risk : simulateRisk signal loop.ctx config with
  | none =>
      refine ⟨rfl, fun _ full => ?_⟩
      have full : config.maxDailyEntries ≤ .finite loop.ctx.dailyEntries := full
      rw [simulateRisk] at risk
      simp only [full, if_true] at risk
      split_ifs at risk
  | some reason => exact ⟨rfl, fun entered => absurd entered Bool.false_ne_true⟩

theorem settle_lastDay (loop : Loop σ) (current : HistoricalRound) (signal : PredictionSignal)
    : (loop.settle config initialBalance current signal).lastDay = loop.lastDay := by
  rw [Loop.settle, Loop.account]
  cases simulateRisk signal loop.ctx config <;> rfl

/-- The days of the rounds do not go back. -/
theorem roundDay_le (sorted : (rounds.map roundDay).Pairwise (· ≤ ·)) {index later : Nat}
    {current next : HistoricalRound} (before : index < later)
    (found : rounds[index]? = some current) (found' : rounds[later]? = some next)
    : roundDay current ≤ roundDay next := by
  obtain ⟨inside, rfl⟩ := List.getElem?_eq_some_iff.mp found
  obtain ⟨inside', rfl⟩ := List.getElem?_eq_some_iff.mp found'
  exact List.pairwise_iff_getElem.mp (List.pairwise_map.mp sorted) index later inside inside' before

theorem Days.settle (days : Days config rounds count loop)
    (sorted : (rounds.map roundDay).Pairwise (· ≤ ·)) (predictor : σ)
    (found : rounds[minHistory + count]? = some current) (signal : PredictionSignal)
    : Days config rounds (count + 1)
        ((loop.forecast predictor current).settle config initialBalance current signal) := by
  obtain ⟨counter, room⟩ := settle_dailyEntries config initialBalance
    (loop.forecast predictor current) current signal
  have lastDay : ((loop.forecast predictor current).settle config initialBalance current
      signal).lastDay = roundDay current :=
    (settle_lastDay _ current signal).trans (forecast_lastDay loop predictor current)
  have pushed : ((loop.forecast predictor current).settle config initialBalance current
      signal).decisions
      = loop.decisions
        ++ [(loop.forecast predictor current).decision config initialBalance current signal] :=
    congrArg (· ++ _) (forecast_decisions loop predictor current)
  rw [days.dailyEntries predictor found] at counter room
  have onDay : dayKey ((loop.forecast predictor current).decision config initialBalance current
      signal).timestamp = roundDay current := rfl
  generalize (loop.forecast predictor current).decision config initialBalance current signal
    = decision at counter room pushed onDay
  refine { seen := ?_, ahead := ?_, today := ?_, bounded := ?_ }
  · intro made among
    rw [pushed] at among
    rw [lastDay]
    rcases List.mem_append.mp among with earlier | now
    · exact (days.seen made earlier).trans
        (days.ahead (List.ne_nil_of_mem earlier) _ _ le_rfl found)
    · rw [List.mem_singleton.mp now, onDay]
  · intro _ index next later found'
    rw [lastDay]
    exact roundDay_le sorted (by omega) found found'
  · rw [counter, pushed, lastDay, entriesOn_concat, onDay]
    simp only [and_true]
  · intro day entries fewer
    rw [pushed, entriesOn_concat, onDay] at fewer
    rcases Nat.lt_or_ge entries (entriesOn loop.decisions day) with earlier | reached
    · exact days.bounded day entries earlier
    · split at fewer
      · next counted =>
        obtain ⟨entered, rfl⟩ := counted
        obtain rfl : entries = entriesOn loop.decisions (roundDay current) := by omega
        exact room entered
      · omega

-----------------------------------------------------------------------------------------
-- The whole run
-----------------------------------------------------------------------------------------

theorem loopTo_accounts (within : minHistory + count ≤ rounds.length ∨ count = 0)
    (ran : loopTo predict config initialBalance start rounds count = .ok loop)
    : Accounts initialBalance loop := by
  refine loopTo_invariant (fun _ => Accounts initialBalance) ?_ ?_ within ran
  · exact Accounts.initial start initialBalance
  · intro _ before current predictor signal _ accounts
    exact (accounts.forecast predictor current).settle current signal

theorem loopTo_days (sorted : (rounds.map roundDay).Pairwise (· ≤ ·))
    (within : minHistory + count ≤ rounds.length ∨ count = 0)
    (ran : loopTo predict config initialBalance start rounds count = .ok loop)
    : Days config rounds count loop := by
  refine loopTo_invariant (Days config rounds) ?_ ?_ within ran
  · exact {
      seen := fun _ none => absurd none List.not_mem_nil
      ahead := fun none => absurd rfl none
      today := rfl
      bounded := fun _ _ none => absurd none (Nat.not_lt_zero _)
    }
  · intro _ before current predictor signal found days
    exact days.settle sorted predictor found signal

/-- A verdict takes nothing from its round but the name and the time, and nothing from later rounds;
the default engine takes nothing from its clock either. The profits add up, the drawdown is the
largest fall of the profits from nothing on, and a day is entered only below its maximum.
-/
theorem backtest_law (config : BacktestConfig) (initialBalance : ℚ)
    : (∀ {σ : Type} (predict : σ → PredictRequest → Except String (σ × PredictionSignal))
        (start : σ) (rounds rounds' : List HistoricalRound) (i : Nat)
        (result result' : BacktestResult),
        rounds.take i = rounds'.take i → rounds[i]?.map known = rounds'[i]?.map known →
        run predict config initialBalance start rounds = .ok result →
        run predict config initialBalance start rounds' = .ok result' →
        result.verdictAt i = result'.verdictAt i)
      ∧ (∀ (engine : PredictionEngine) (moments moments' : Nat → Moment)
        (rounds rounds' : List HistoricalRound) (i : Nat), engine.registry = .create →
        rounds.take i = rounds'.take i → rounds[i]?.map known = rounds'[i]?.map known →
        ∃ result result',
          run engine.predict config initialBalance moments rounds = .ok result
          ∧ run engine.predict config initialBalance moments' rounds' = .ok result'
          ∧ result.verdictAt i = result'.verdictAt i)
      ∧ ∀ {σ : Type} (predict : σ → PredictRequest → Except String (σ × PredictionSignal))
        (start : σ) (rounds : List HistoricalRound) (result : BacktestResult),
        run predict config initialBalance start rounds = .ok result →
        result.decisions.length = rounds.length - minHistory
        ∧ result.metrics.totalPnl = (result.decisions.map (·.pnl)).sum
        ∧ (∀ index decision, result.decisions[index]? = some decision →
            decision.cumulativePnl = ((result.decisions.take (index + 1)).map (·.pnl)).sum)
        ∧ LargestFall (profitCurve result.decisions) result.metrics.maxDrawdown
        ∧ ((rounds.map roundDay).Pairwise (· ≤ ·) → ∀ day,
            (∀ entries, entries < entriesOn result.decisions day →
              ¬ config.maxDailyEntries ≤ .finite entries)
            ∧ ∀ maximum : Nat, config.maxDailyEntries = .finite maximum →
              entriesOn result.decisions day ≤ maximum) := by
  refine ⟨?_, ?_, ?_⟩
  · intro σ predict start rounds rounds' i result result' agree here ran ran'
    exact verdictAt_same consistent_eq rfl agree here ran ran'
  · intro engine moments moments' rounds rounds' i fresh agree here
    have answers : ∀ state request, ∃ answer, engine.predict state request = .ok answer :=
      fun state request => ⟨_, predict_of_create fresh state request⟩
    obtain ⟨result, ran⟩ := run_of_answers answers config initialBalance moments rounds
    obtain ⟨result', ran'⟩ := run_of_answers answers config initialBalance moments' rounds'
    exact ⟨result, result', ran, ran',
      verdictAt_same (consistent_of_create fresh) trivial agree here ran ran'⟩
  · intro σ predict start rounds result ran
    obtain ⟨loop, ranLoop, rfl⟩ := run_ok ran
    have within : minHistory + (rounds.length - minHistory) ≤ rounds.length
        ∨ rounds.length - minHistory = 0 := by omega
    have accounts := loopTo_accounts within ranLoop
    refine ⟨loopTo_length within ranLoop, accounts.total, accounts.each, accounts.fall, ?_⟩
    intro sorted day
    have bounded := (loopTo_days sorted within ranLoop).bounded day
    refine ⟨bounded, ?_⟩
    intro maximum isMaximum
    refine not_lt.mp fun more => bounded maximum more ?_
    rw [isMaximum]
    exact decide_eq_true le_rfl

/-- Rounds of one day; the engine finds nothing in them. -/
def quietRound : HistoricalRound where
  id := some "r"
  externalRoundId := some "e"
  crashPoint := 1
  createdAt := "2026-01-01T00:00:00.000Z"

def quietEngine : PredictionEngine where
  buildVector := fun _ id timestamp => {
    roundId := id
    timestamp
    featureVersion := featureVersionV2
    values := fun _ => none
    sampleSize := 0
    dataQualityScore := 1
    missingFeatureCount := 0
  }
  detect := fun _ _ => { name := "neutral", anomalyState := false, confidence := 1 }

/-- At most half an entry a day, of a stake that is lost below 2. -/
def halfEntry : BacktestConfig where
  target := .finite 1.3
  entryProbabilityThreshold := 0
  minConfidence := 0
  cashoutTarget := 2
  stake := 1
  maxDailyEntries := .finite 0.5
  maxDrawdownPct := 50
  modelName := "baseline-statistical"
  modelVersion := "1.0.0"

/-- A whole entry comes through, and its loss is a drawdown though nothing of the decisions' curve
falls.
-/
theorem first_loss_over_half
    : ∃ result,
        run quietEngine.predict halfEntry 10000 (fun _ => { uuid := "u", now := 0 })
          (List.replicate 31 quietRound) = .ok result
        ∧ ((List.replicate 31 quietRound).map roundDay).Pairwise (· ≤ ·)
        ∧ halfEntry.maxDailyEntries < .finite (entriesOn result.decisions "2026-01-01")
        ∧ ¬ LargestFall (result.decisions.map (·.cumulativePnl)) result.metrics.maxDrawdown := by
  have computed : (run quietEngine.predict halfEntry 10000 (fun _ => { uuid := "u", now := 0 })
      (List.replicate 31 quietRound)).toOption.map (fun result =>
        (result.decisions.map (·.cumulativePnl), result.metrics.maxDrawdown,
          entriesOn result.decisions "2026-01-01"))
      = some ([-1], 1, 1) := by
    decide +kernel
  cases ran : run quietEngine.predict halfEntry 10000 (fun _ => { uuid := "u", now := 0 })
      (List.replicate 31 quietRound) with
  | error message =>
      rw [ran] at computed
      cases computed
  | ok result =>
      rw [ran] at computed
      obtain ⟨curve, rest⟩ := Prod.mk.inj (Option.some_inj.mp computed)
      obtain ⟨fall, entries⟩ := Prod.mk.inj rest
      refine ⟨result, rfl, ?_, ?_, ?_⟩
      · rw [List.map_replicate]
        exact List.pairwise_replicate.mpr (Or.inr le_rfl)
      · rw [entries]
        exact decide_eq_true (by norm_num)
      · intro largest
        rw [curve, fall] at largest
        obtain ⟨i, j, high, low, _, atHigh, atLow, far⟩ := largest.attained
        obtain rfl := List.mem_singleton.mp (List.mem_of_getElem? atHigh)
        obtain rfl := List.mem_singleton.mp (List.mem_of_getElem? atLow)
        exact absurd far (by norm_num)

end CrashWave.Backtest
