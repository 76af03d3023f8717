import Mathlib.Algebra.BigOperators.Group.List.Basic
import Mathlib.Data.Rat.Floor
import Mathlib.Data.String.Basic
import CrashWave.Drawdowns.Basic
import CrashWave.Prediction.PredictionEngine

/-! `BacktestEngine`: the simulated entries over a sequence of rounds. What is decided on a round is
what was known before it. Amounts are exact.
-/

namespace CrashWave.Backtest

open JavaScript Drawdowns CrashWave.History CrashWave.Prediction

structure BacktestConfig where
  target : Number
  entryProbabilityThreshold : Number
  minConfidence : Number
  cashoutTarget : ℚ
  stake : ℚ
  maxDailyEntries : Number
  maxDrawdownPct : Number
  modelName : String
  modelVersion : String

inductive Outcome where
  | win
  | loss
  | skip
  deriving DecidableEq

/-- The reasons of a rejection. -/
inductive RiskRejection where
  | staleSignal
  | lowProbability
  | lowConfidence
  | dailyEntryLimit
  | maxDrawdown
  | insufficientBalance
  deriving DecidableEq

structure BacktestDecision where
  roundId : Option String
  timestamp : String
  signal : PredictionSignal
  riskApproved : Bool
  riskRejectionReason : Option RiskRejection
  entered : Bool
  outcome : Outcome
  pnl : ℚ
  cumulativePnl : ℚ
  drawdown : ℚ
  deriving DecidableEq

structure Metrics where
  totalRounds : Nat
  signalsGenerated : Nat
  signalsAccepted : Nat
  signalsRejected : Nat
  wins : Nat
  losses : Nat
  hitRate : ℚ
  totalPnl : ℚ
  maxDrawdown : ℚ
  profitFactor : ℚ
  expectedValue : ℚ
  exposure : ℚ
  deriving DecidableEq

structure BacktestResult where
  decisions : List BacktestDecision
  metrics : Metrics
  deriving DecidableEq

-----------------------------------------------------------------------------------------
-- The simulated risk
-----------------------------------------------------------------------------------------

structure SimulatedRiskContext where
  dailyEntries : Nat
  equity : ℚ
  peakEquity : ℚ

def isSignalExpired (signal : PredictionSignal) (now : Number) : Bool :=
  signal.expiresAt.getTime ≤ now

def isSignalFresh (signal : PredictionSignal) (maxAgeMs now : Number) : Bool :=
  if isSignalExpired signal now then false
  else now - signal.timestamp.getTime ≤ maxAgeMs

/-- The reason of the rejection; none approves. -/
def simulateRisk (signal : PredictionSignal) (ctx : SimulatedRiskContext) (config : BacktestConfig)
    : Option RiskRejection :=
  let dd := ctx.peakEquity - ctx.equity
  let ddPct := if 0 < ctx.peakEquity then dd / ctx.peakEquity * 100 else 0
  if !isSignalFresh signal 120000 signal.timestamp.getTime then some .staleSignal
  else if signal.probability < config.entryProbabilityThreshold then some .lowProbability
  else if signal.confidence < config.minConfidence then some .lowConfidence
  else if config.maxDailyEntries ≤ .finite ctx.dailyEntries then some .dailyEntryLimit
  else if config.maxDrawdownPct ≤ .finite ddPct then some .maxDrawdown
  else if ctx.equity < config.stake then some .insufficientBalance
  else none

-----------------------------------------------------------------------------------------
-- The loop
-----------------------------------------------------------------------------------------

/-- `current.startedAt ?? current.crashedAt ?? current.createdAt`. -/
def roundTimestamp (round : HistoricalRound) : String :=
  (round.startedAt.orElse fun _ => round.crashedAt).getD round.createdAt

/-- `ts.slice(0, 10)`. -/
def dayKey (ts : String) : String := String.ofList (ts.toList.take 10)

def minHistory : Nat := 30

/-- The variables of the loop, and the state of the predictor. -/
structure Loop (σ : Type) where
  predictor : σ
  decisions : List BacktestDecision := []
  dailyEntries : Nat := 0
  cumulativePnl : ℚ := 0
  equity : ℚ
  peakEquity : ℚ
  maxDrawdown : ℚ := 0
  wins : Nat := 0
  losses : Nat := 0
  signalsGenerated : Nat := 0
  signalsAccepted : Nat := 0
  signalsRejected : Nat := 0
  lastDay : String := ""

section Definitions

variable {σ : Type} (predict : σ → PredictRequest → Except String (σ × PredictionSignal))
  (config : BacktestConfig) (initialBalance : ℚ)

def Loop.newDay (loop : Loop σ) (day : String) : Loop σ :=
  if day ≠ loop.lastDay then { loop with dailyEntries := 0, lastDay := day } else loop

def Loop.ctx (loop : Loop σ) : SimulatedRiskContext where
  dailyEntries := loop.dailyEntries
  equity := loop.equity
  peakEquity := loop.peakEquity

/-- The outcome and the profit of an entry. -/
def trade (current : HistoricalRound) : Outcome × ℚ :=
  if .finite config.cashoutTarget ≤ current.crashPoint then
    (.win, config.stake * (config.cashoutTarget - 1))
  else (.loss, -config.stake)

def Loop.enter (loop : Loop σ) (entry : Outcome × ℚ) : Loop σ :=
  let cumulativePnl := loop.cumulativePnl + entry.2
  let equity := initialBalance + cumulativePnl
  let peakEquity := max loop.peakEquity equity
  { loop with
    signalsAccepted := loop.signalsAccepted + 1
    dailyEntries := loop.dailyEntries + 1
    wins := if entry.1 = .win then loop.wins + 1 else loop.wins
    losses := if entry.1 = .win then loop.losses else loop.losses + 1
    cumulativePnl
    equity
    peakEquity
    maxDrawdown := max loop.maxDrawdown (peakEquity - equity) }

/-- The accounts after the signal. -/
def Loop.account (loop : Loop σ) (current : HistoricalRound) (signal : PredictionSignal) : Loop σ :=
  match simulateRisk signal loop.ctx config with
  | none => loop.enter initialBalance (trade config current)
  | some _ => { loop with signalsRejected := loop.signalsRejected + 1 }

/-- What is pushed on the decisions. -/
def Loop.decision (loop : Loop σ) (current : HistoricalRound) (signal : PredictionSignal)
    : BacktestDecision :=
  let risk := simulateRisk signal loop.ctx config
  let entry := if risk = none then trade config current else (.skip, 0)
  let settled := loop.account config initialBalance current signal
  {
    roundId := current.id
    timestamp := roundTimestamp current
    signal
    riskApproved := risk = none
    riskRejectionReason := risk
    entered := risk = none
    outcome := entry.1
    pnl := entry.2
    cumulativePnl := settled.cumulativePnl
    drawdown := settled.peakEquity - settled.equity
  }

/-- The turn from the signal on. -/
def Loop.settle (loop : Loop σ) (current : HistoricalRound) (signal : PredictionSignal) : Loop σ :=
  { loop.account config initialBalance current signal with
    decisions := loop.decisions ++ [loop.decision config initialBalance current signal] }

def predictRequest (prior : List HistoricalRound) (current : HistoricalRound) : PredictRequest where
  priorRounds := prior
  targetRoundId := current.id
  timestamp := roundTimestamp current
  target := config.target
  modelName := config.modelName
  modelVersion := config.modelVersion

/-- The turn of the loop at `i`. -/
def turn (rounds : List HistoricalRound) (loop : Loop σ) (i : Nat) : Except String (Loop σ) :=
  match rounds[i]? with
  | none => .ok loop
  | some current => do
      let prior := rounds.take i
      let loop := loop.newDay (dayKey (roundTimestamp current))
      let (predictor, signal) ← predict loop.predictor (predictRequest config prior current)
      return { loop with predictor, signalsGenerated := loop.signalsGenerated + 1 }.settle config
        initialBalance current signal

/-- The loop over the first rounds that have enough history. -/
def loopTo (start : σ) (rounds : List HistoricalRound) (count : Nat) : Except String (Loop σ) :=
  (List.range' minHistory count).foldlM (turn predict config initialBalance rounds)
    { predictor := start, equity := initialBalance, peakEquity := initialBalance }

def Loop.metrics (loop : Loop σ) (rounds : List HistoricalRound) : Metrics :=
  let pnls := loop.decisions.map (·.pnl)
  let settled : ℚ := (loop.wins + loop.losses : Nat)
  let grossWin := (pnls.filter (0 < ·)).sum
  let grossLoss := |(pnls.filter (· < 0)).sum|
  {
    totalRounds := rounds.length
    signalsGenerated := loop.signalsGenerated
    signalsAccepted := loop.signalsAccepted
    signalsRejected := loop.signalsRejected
    wins := loop.wins
    losses := loop.losses
    hitRate := if 0 < loop.wins + loop.losses then loop.wins / settled else 0
    totalPnl := loop.cumulativePnl
    maxDrawdown := loop.maxDrawdown
    profitFactor :=
      if 0 < grossLoss then grossWin / grossLoss else if 0 < grossWin then 999 else 0
    expectedValue := if 0 < loop.wins + loop.losses then loop.cumulativePnl / settled else 0
    exposure := settled / max 1 ((rounds.length : ℚ) - minHistory)
  }

def run (start : σ) (rounds : List HistoricalRound) : Except String BacktestResult := do
  let loop ← loopTo predict config initialBalance start rounds (rounds.length - minHistory)
  return { decisions := loop.decisions, metrics := loop.metrics rounds }

end Definitions

-----------------------------------------------------------------------------------------
-- One turn
-----------------------------------------------------------------------------------------

variable {σ : Type} {predict : σ → PredictRequest → Except String (σ × PredictionSignal)}
  {config : BacktestConfig} {initialBalance : ℚ} {start start' : σ}
  {rounds rounds' : List HistoricalRound} {loop loop' next next' : Loop σ} {i count : Nat}
  {current : HistoricalRound}

/-- The loop when the signal has come. -/
def Loop.forecast (loop : Loop σ) (predictor : σ) (current : HistoricalRound) : Loop σ :=
  let loop := loop.newDay (dayKey (roundTimestamp current))
  { loop with predictor, signalsGenerated := loop.signalsGenerated + 1 }

theorem newDay_predictor (loop : Loop σ) (day : String)
    : (loop.newDay day).predictor = loop.predictor := by
  unfold Loop.newDay
  split <;> rfl

theorem forecast_decisions (loop : Loop σ) (predictor : σ) (current : HistoricalRound)
    : (loop.forecast predictor current).decisions = loop.decisions := by
  unfold Loop.forecast Loop.newDay
  split <;> rfl

theorem turn_of_none (absent : rounds[i]? = none)
    : turn predict config initialBalance rounds loop i = .ok loop := by
  rw [turn, absent]

/-- A turn that passes has a signal from what was known, and settles it. -/
theorem turn_ok (found : rounds[i]? = some current)
    (ran : turn predict config initialBalance rounds loop i = .ok next)
    : ∃ predictor signal,
        predict loop.predictor (predictRequest config (rounds.take i) current)
          = .ok (predictor, signal)
        ∧ next = (loop.forecast predictor current).settle config initialBalance current signal := by
  rw [turn, found] at ran
  simp only [newDay_predictor] at ran
  cases asked : predict loop.predictor (predictRequest config (rounds.take i) current) with
  | error message =>
      rw [asked] at ran
      cases ran
  | ok answer =>
      rw [asked] at ran
      exact ⟨answer.1, answer.2, rfl, (Except.ok.inj ran).symm⟩

theorem loopTo_zero
    : loopTo predict config initialBalance start rounds 0
      = .ok { predictor := start, equity := initialBalance, peakEquity := initialBalance } :=
  rfl

/-- A loop with one round more has its last turn behind it. -/
theorem loopTo_succ
    (ran : loopTo predict config initialBalance start rounds (count + 1) = .ok next)
    : ∃ loop, loopTo predict config initialBalance start rounds count = .ok loop
        ∧ turn predict config initialBalance rounds loop (minHistory + count) = .ok next := by
  rw [loopTo, List.range'_1_concat, List.foldlM_append] at ran
  rw [loopTo]
  cases before : (List.range' minHistory count).foldlM (turn predict config initialBalance rounds)
      { predictor := start, equity := initialBalance, peakEquity := initialBalance } with
  | error message =>
      rw [before] at ran
      cases ran
  | ok loop =>
      rw [before] at ran
      refine ⟨loop, rfl, ?_⟩
      exact (bind_pure (turn predict config initialBalance rounds loop _)).symm.trans ran

/-- What holds at the start and is kept by every turn holds of the loop over any of the rounds. -/
theorem loopTo_invariant (Inv : Nat → Loop σ → Prop)
    (initial
      : Inv 0 { predictor := start, equity := initialBalance, peakEquity := initialBalance })
    (kept : ∀ count loop current predictor signal, rounds[minHistory + count]? = some current →
      Inv count loop →
      Inv (count + 1)
        ((loop.forecast predictor current).settle config initialBalance current signal))
    (within : minHistory + count ≤ rounds.length ∨ count = 0)
    (ran : loopTo predict config initialBalance start rounds count = .ok loop)
    : Inv count loop := by
  induction count generalizing loop with
  | zero =>
      obtain rfl := Except.ok.inj ran
      exact initial
  | succ count ih =>
      obtain ⟨before, ranBefore, turned⟩ := loopTo_succ ran
      have inside : minHistory + count < rounds.length := by omega
      have found := List.getElem?_eq_getElem inside
      obtain ⟨predictor, signal, _, rfl⟩ := turn_ok found turned
      exact kept count before _ predictor signal found (ih (Or.inl inside.le) ranBefore)

/-- The loop over the first rounds has the first decisions of the loop over more of them. -/
theorem loopTo_prefix {more : Nat}
    (ran : loopTo predict config initialBalance start rounds (count + more) = .ok next)
    : ∃ loop, loopTo predict config initialBalance start rounds count = .ok loop
        ∧ loop.decisions <+: next.decisions := by
  induction more generalizing next with
  | zero => exact ⟨next, ran, List.prefix_rfl⟩
  | succ more ih =>
      rw [← Nat.add_assoc] at ran
      obtain ⟨before, ranBefore, turned⟩ := loopTo_succ ran
      obtain ⟨loop, ranLoop, earlier⟩ := ih ranBefore
      refine ⟨loop, ranLoop, earlier.trans ?_⟩
      cases found : rounds[minHistory + (count + more)]? with
      | none =>
          rw [turn_of_none found] at turned
          obtain rfl := Except.ok.inj turned
          exact List.prefix_rfl
      | some current =>
          obtain ⟨predictor, signal, _, rfl⟩ := turn_ok found turned
          rw [Loop.settle, forecast_decisions]
          exact List.prefix_append _ _

theorem loopTo_length (within : minHistory + count ≤ rounds.length ∨ count = 0)
    (ran : loopTo predict config initialBalance start rounds count = .ok loop)
    : loop.decisions.length = count := by
  refine loopTo_invariant (fun count loop => loop.decisions.length = count) rfl ?_ within ran
  intro count loop current predictor signal _ known
  rw [Loop.settle, forecast_decisions, List.length_append, known]
  rfl

/-- The loop that a result comes from. -/
theorem run_ok {result : BacktestResult}
    (ran : run predict config initialBalance start rounds = .ok result)
    : ∃ loop, loopTo predict config initialBalance start rounds (rounds.length - minHistory)
          = .ok loop
        ∧ result = { decisions := loop.decisions, metrics := loop.metrics rounds } := by
  rw [run] at ran
  cases looped : loopTo predict config initialBalance start rounds (rounds.length - minHistory) with
  | error message =>
      rw [looped] at ran
      cases ran
  | ok loop =>
      rw [looped] at ran
      exact ⟨loop, rfl, (Except.ok.inj ran).symm⟩

/-- A decision of a result is that of the loop over the rounds before its own. -/
theorem decision_at {result : BacktestResult}
    (ran : run predict config initialBalance start rounds = .ok result)
    (found : rounds[minHistory + count]? = some current)
    : ∃ loop predictor signal,
        loopTo predict config initialBalance start rounds count = .ok loop
        ∧ predict loop.predictor (predictRequest config (rounds.take (minHistory + count)) current)
          = .ok (predictor, signal)
        ∧ result.decisions[count]?
          = some ((loop.forecast predictor current).decision config initialBalance current
              signal) := by
  have inside := (List.getElem?_eq_some_iff.mp found).1
  obtain ⟨last, ranLast, rfl⟩ := run_ok ran
  have split : rounds.length - minHistory
      = count + 1 + (rounds.length - minHistory - (count + 1)) := by omega
  rw [split] at ranLast
  obtain ⟨next, ranNext, later, whole⟩ := loopTo_prefix ranLast
  obtain ⟨loop, ranLoop, turned⟩ := loopTo_succ ranNext
  obtain ⟨predictor, signal, asked, rfl⟩ := turn_ok found turned
  refine ⟨loop, predictor, signal, ranLoop, asked, ?_⟩
  have length := loopTo_length (Or.inl inside.le) ranLoop
  rw [← whole, Loop.settle, forecast_decisions, List.append_assoc, ← length,
    List.getElem?_append_right le_rfl, Nat.sub_self]
  rfl

-----------------------------------------------------------------------------------------
-- Two runs
-----------------------------------------------------------------------------------------

/-- The same forecast under two names and times. -/
structure SameForecast (signal signal' : PredictionSignal) : Prop where
  probability : signal.probability = signal'.probability
  confidence : signal.confidence = signal'.confidence
  fresh : isSignalFresh signal 120000 signal.timestamp.getTime
    = isSignalFresh signal' 120000 signal'.timestamp.getTime

/-- From states that correspond, the predictor answers the same request with the same forecast. -/
def Consistent (predict : σ → PredictRequest → Except String (σ × PredictionSignal))
    (same : σ → σ → Prop) : Prop :=
  ∀ state state' request next next' signal signal', same state state' →
    predict state request = .ok (next, signal) → predict state' request = .ok (next', signal') →
    same next next' ∧ SameForecast signal signal'

/-- What later turns read of two loops is the same. -/
structure SameStanding (same : σ → σ → Prop) (loop loop' : Loop σ) : Prop where
  predictor : same loop.predictor loop'.predictor
  dailyEntries : loop.dailyEntries = loop'.dailyEntries
  cumulativePnl : loop.cumulativePnl = loop'.cumulativePnl
  equity : loop.equity = loop'.equity
  peakEquity : loop.peakEquity = loop'.peakEquity
  lastDay : loop.lastDay = loop'.lastDay

variable {same : σ → σ → Prop} {signal signal' : PredictionSignal} {current' : HistoricalRound}
  {predictor predictor' : σ}

theorem SameStanding.ctx (standing : SameStanding same loop loop') : loop.ctx = loop'.ctx := by
  rw [Loop.ctx, Loop.ctx, standing.dailyEntries, standing.equity, standing.peakEquity]

theorem simulateRisk_same (forecast : SameForecast signal signal') (ctx : SimulatedRiskContext)
    (config : BacktestConfig)
    : simulateRisk signal ctx config = simulateRisk signal' ctx config := by
  rw [simulateRisk, simulateRisk, forecast.fresh, forecast.probability, forecast.confidence]

/-- The same risk of the same standing. -/
theorem risk_same (config : BacktestConfig) (standing : SameStanding same loop loop')
    (forecast : SameForecast signal signal')
    : simulateRisk signal loop.ctx config = simulateRisk signal' loop'.ctx config := by
  rw [standing.ctx, simulateRisk_same forecast]

/-- The time of the round is all that the standing before its settlement takes from it. -/
theorem SameStanding.forecast (standing : SameStanding same loop loop')
    (time : roundTimestamp current = roundTimestamp current') (agree : same predictor predictor')
    : SameStanding same (loop.forecast predictor current) (loop'.forecast predictor' current') := by
  unfold Loop.forecast Loop.newDay
  rw [time, standing.lastDay]
  split
  · exact { standing with predictor := agree, dailyEntries := rfl, lastDay := rfl }
  · exact { standing with predictor := agree }

theorem SameStanding.settle (standing : SameStanding same loop loop')
    (forecast : SameForecast signal signal') (current : HistoricalRound)
    : SameStanding same (loop.settle config initialBalance current signal)
        (loop'.settle config initialBalance current signal') := by
  have risk := risk_same config standing forecast
  unfold Loop.settle Loop.account
  rw [risk]
  cases simulateRisk signal' loop'.ctx config with
  | some reason => exact { standing with }
  | none =>
      have cumulative := standing.cumulativePnl
      have peak := standing.peakEquity
      have entries := standing.dailyEntries
      exact {
        predictor := standing.predictor
        dailyEntries := by simp only [Loop.enter, entries]
        cumulativePnl := by simp only [Loop.enter, cumulative]
        equity := by simp only [Loop.enter, cumulative]
        peakEquity := by simp only [Loop.enter, cumulative, peak]
        lastDay := standing.lastDay
      }

theorem SameStanding.turn (standing : SameStanding same loop loop')
    (consistent : Consistent predict same) (prior : rounds.take i = rounds'.take i)
    (agree : rounds[i]? = rounds'[i]?)
    (ran : turn predict config initialBalance rounds loop i = .ok next)
    (ran' : turn predict config initialBalance rounds' loop' i = .ok next')
    : SameStanding same next next' := by
  cases found : rounds[i]? with
  | none =>
      rw [turn_of_none found] at ran
      rw [turn_of_none (agree.symm.trans found)] at ran'
      obtain rfl := Except.ok.inj ran
      obtain rfl := Except.ok.inj ran'
      exact standing
  | some current =>
      obtain ⟨predictor, signal, asked, rfl⟩ := turn_ok found ran
      obtain ⟨predictor', signal', asked', rfl⟩ := turn_ok (agree.symm.trans found) ran'
      rw [← prior] at asked'
      obtain ⟨after, forecast⟩ := consistent _ _ _ _ _ _ _ standing.predictor asked asked'
      exact (standing.forecast rfl after).settle forecast current

/-- Rounds that agree leave two loops in the same standing. -/
theorem loopTo_same (consistent : Consistent predict same) (alike : same start start')
    (agree : rounds.take (minHistory + count) = rounds'.take (minHistory + count))
    (ran : loopTo predict config initialBalance start rounds count = .ok loop)
    (ran' : loopTo predict config initialBalance start' rounds' count = .ok loop')
    : SameStanding same loop loop' := by
  induction count generalizing loop loop' with
  | zero =>
      obtain rfl := Except.ok.inj ran
      obtain rfl := Except.ok.inj ran'
      exact ⟨alike, rfl, rfl, rfl, rfl, rfl⟩
  | succ count ih =>
      obtain ⟨before, ranBefore, turned⟩ := loopTo_succ ran
      obtain ⟨before', ranBefore', turned'⟩ := loopTo_succ ran'
      have earlier : rounds.take (minHistory + count) = rounds'.take (minHistory + count) := by
        have shorter := congrArg (List.take (minHistory + count)) agree
        rwa [List.take_take, List.take_take, min_eq_left (by omega)] at shorter
      have now : rounds[minHistory + count]? = rounds'[minHistory + count]? := by
        have inside : minHistory + count < minHistory + (count + 1) := by omega
        have entry := congrArg (fun taken => taken[minHistory + count]?) agree
        simpa only [List.getElem?_take_of_lt inside] using entry
      exact (ih earlier ranBefore ranBefore').turn consistent earlier now turned turned'

-----------------------------------------------------------------------------------------
-- What is decided on a round
-----------------------------------------------------------------------------------------

/-- The part of a decision that comes before the crash. -/
structure Verdict where
  probability : Number
  riskApproved : Bool
  riskRejectionReason : Option RiskRejection
  entered : Bool
  deriving DecidableEq

def BacktestDecision.verdict (decision : BacktestDecision) : Verdict where
  probability := decision.signal.probability
  riskApproved := decision.riskApproved
  riskRejectionReason := decision.riskRejectionReason
  entered := decision.entered

/-- The verdict on the round at `i`; there is none on the rounds that are history only. -/
def BacktestResult.verdictAt (result : BacktestResult) (i : Nat) : Option Verdict :=
  if i < minHistory then none else result.decisions[i - minHistory]?.map (·.verdict)

/-- The identifier of a round and the time that its features are dated with. -/
def known (round : HistoricalRound) : Option String × String := (round.id, roundTimestamp round)

theorem verdictAt_none {result : BacktestResult}
    (ran : run predict config initialBalance start rounds = .ok result) (absent : rounds[i]? = none)
    : result.verdictAt i = none := by
  obtain ⟨loop, ranLoop, rfl⟩ := run_ok ran
  have beyond := List.getElem?_eq_none_iff.mp absent
  rw [BacktestResult.verdictAt]
  split
  · rfl
  · have length := loopTo_length (by omega) ranLoop
    have past : loop.decisions[i - minHistory]? = none := List.getElem?_eq_none (by omega)
    rw [past, Option.map_none]

/-- Rounds that agree before `i` and on what is known at `i` have the same verdict there. -/
theorem verdictAt_same {result result' : BacktestResult} (consistent : Consistent predict same)
    (alike : same start start') (agree : rounds.take i = rounds'.take i)
    (here : rounds[i]?.map known = rounds'[i]?.map known)
    (ran : run predict config initialBalance start rounds = .ok result)
    (ran' : run predict config initialBalance start' rounds' = .ok result')
    : result.verdictAt i = result'.verdictAt i := by
  cases found : rounds[i]? with
  | none =>
      have found' : rounds'[i]? = none := by
        rwa [found, Option.map_none, eq_comm, Option.map_eq_none_iff] at here
      rw [verdictAt_none ran found, verdictAt_none ran' found']
  | some current =>
      rw [found, Option.map_some, eq_comm, Option.map_eq_some_iff] at here
      obtain ⟨current', found', facts⟩ := here
      rw [BacktestResult.verdictAt, BacktestResult.verdictAt]
      split
      · rfl
      next enough =>
        obtain ⟨count, rfl⟩ := Nat.exists_eq_add_of_le (not_lt.mp enough)
        obtain ⟨loop, predictor, signal, ranLoop, asked, decided⟩ := decision_at ran found
        obtain ⟨loop', predictor', signal', ranLoop', asked', decided'⟩ := decision_at ran' found'
        have id : current'.id = current.id := congrArg Prod.fst facts
        have time : roundTimestamp current' = roundTimestamp current := congrArg Prod.snd facts
        have standing := loopTo_same consistent alike agree ranLoop ranLoop'
        have request : predictRequest config (rounds'.take (minHistory + count)) current'
            = predictRequest config (rounds.take (minHistory + count)) current := by
          rw [predictRequest, predictRequest, agree, id, time]
        rw [request] at asked'
        obtain ⟨after, forecast⟩ := consistent _ _ _ _ _ _ _ standing.predictor asked asked'
        have risk := risk_same config (standing.forecast time.symm after) forecast
        rw [Nat.add_sub_cancel_left, decided, decided', Option.map_some, Option.map_some]
        refine congrArg some ?_
        unfold BacktestDecision.verdict Loop.decision
        rw [risk, forecast.probability]

/-- A predictor is consistent with itself. -/
theorem consistent_eq : Consistent predict Eq := by
  rintro state _ request next next' signal signal' rfl asked asked'
  obtain ⟨rfl, rfl⟩ := Prod.mk.inj (Except.ok.inj (asked.symm.trans asked'))
  exact ⟨rfl, rfl, rfl, rfl⟩

/-- The signals of the default engine are fresh at their own time, whenever that is. -/
theorem baseline_fresh (moment : Moment) (features : FeatureVector) (target : Number)
    (regime : Option Regime)
    : let signal := toSignal (BaselineStatisticalModel.predict moment features target regime)
      isSignalFresh signal 120000 signal.timestamp.getTime = true := by
  have expires : ¬ (Number.finite ((moment.now + 60000 : Int) : ℚ)) ≤ .finite (moment.now : ℚ) := by
    intro passed
    have passed : ((moment.now + 60000 : Int) : ℚ) ≤ moment.now := of_decide_eq_true passed
    have := Int.cast_le.mp passed
    omega
  have age : Number.finite (moment.now : ℚ) - .finite (moment.now : ℚ) ≤ 120000 := by
    have zero : Number.finite (moment.now : ℚ) - .finite (moment.now : ℚ) = .finite 0 :=
      congrArg Number.finite (add_neg_cancel _)
    rw [zero]
    have nonneg : (0 : ℚ) ≤ (120000 : Nat) := Nat.cast_nonneg 120000
    exact decide_eq_true nonneg
  dsimp only
  rw [isSignalFresh, isSignalExpired]
  simp only [toSignal, BaselineStatisticalModel.predict, DateText.getTime, expires, age,
    decide_false, decide_true, Bool.false_eq_true, if_false]

/-- Whatever the moments are, the default engine is consistent. -/
theorem consistent_of_create {engine : PredictionEngine} (fresh : engine.registry = .create)
    : Consistent engine.predict fun _ _ => True := by
  intro state state' request next next' signal signal' _ asked asked'
  rw [predict_of_create fresh] at asked asked'
  obtain ⟨-, rfl⟩ := Prod.mk.inj (Except.ok.inj asked)
  obtain ⟨-, rfl⟩ := Prod.mk.inj (Except.ok.inj asked')
  exact ⟨trivial, rfl, rfl, (baseline_fresh _ _ _ _).trans (baseline_fresh _ _ _ _).symm⟩

/-- A predictor that always answers lets every turn pass. -/
theorem turn_of_answers (answers : ∀ state request, ∃ answer, predict state request = .ok answer)
    (config : BacktestConfig) (initialBalance : ℚ) (rounds : List HistoricalRound) (loop : Loop σ)
    (i : Nat)
    : ∃ next, turn predict config initialBalance rounds loop i = .ok next := by
  cases found : rounds[i]? with
  | none => exact ⟨loop, turn_of_none found⟩
  | some current =>
      obtain ⟨answer, asked⟩ := answers (loop.newDay (dayKey (roundTimestamp current))).predictor
        (predictRequest config (rounds.take i) current)
      rw [turn, found]
      simp only [asked]
      exact ⟨_, rfl⟩

theorem run_of_answers (answers : ∀ state request, ∃ answer, predict state request = .ok answer)
    (config : BacktestConfig) (initialBalance : ℚ) (start : σ) (rounds : List HistoricalRound)
    : ∃ result, run predict config initialBalance start rounds = .ok result := by
  have looped : ∀ count,
      ∃ loop, loopTo predict config initialBalance start rounds count = .ok loop := by
    intro count
    induction count with
    | zero => exact ⟨_, loopTo_zero⟩
    | succ count ih =>
        obtain ⟨loop, ranLoop⟩ := ih
        obtain ⟨next, turned⟩ :=
          turn_of_answers answers config initialBalance rounds loop (minHistory + count)
        refine ⟨next, ?_⟩
        rw [loopTo] at ranLoop ⊢
        rw [List.range'_1_concat, List.foldlM_append, ranLoop]
        exact (bind_pure (turn predict config initialBalance rounds loop _)).trans turned
  obtain ⟨loop, ranLoop⟩ := looped (rounds.length - minHistory)
  rw [run, ranLoop]
  exact ⟨_, rfl⟩

end CrashWave.Backtest
