import CrashWave.Core.DryRun.VirtualLedger

/-! The dry-run controller: its running flag, its risk gate and its daily limit. -/

namespace CrashWave.DryRun

open JavaScript

/-- The configuration of the controller. -/
structure DryRunConfig where
  stake : Number := 700
  target : Number := .finite (13 / 10)
  maxDailyVirtualTrades : Number := 100
  minProbability : Number := .finite (35 / 100)
  minConfidence : Number := .finite (3 / 10)

/-- A signal offered to the controller. -/
structure DryRunSignal where
  signalId : String
  roundId : String
  probability : Number
  confidence : Number
  target : Number
  stake : Option Number

/-- The controller. A day is a count of days since the epoch. -/
structure DryRunController where
  cfg : DryRunConfig := {}
  ledger : VirtualTradeLedger
  running : Bool := false
  dailyTrades : Nat := 0
  dailyKey : Int := 0
  predictions : Nat := 0
  signals : Nat := 0
  signalsAccepted : Nat := 0
  signalsRejected : Nat := 0
  roundsObserved : Nat := 0

/-- `new Date().toISOString().slice(0, 10)`, as a count of days since the epoch. -/
def utcDay (now : ℤ) : ℤ := now / 86400000

/-- The constructor, next to a ledger that other controllers may share. -/
def DryRunController.new (cfg : DryRunConfig) (ledger : VirtualTradeLedger) (now : ℤ)
    : DryRunController where
  cfg
  ledger
  dailyKey := utcDay now

namespace DryRunController

/-- `start`. -/
def start (controller : DryRunController) : DryRunController :=
  { controller with running := true }

/-- `stop`. -/
def stop (controller : DryRunController) : DryRunController :=
  { controller with running := false }

/-- `recordPrediction`. -/
def recordPrediction (controller : DryRunController) : DryRunController :=
  { controller with predictions := controller.predictions + 1 }

/-- `onRoundCompleted`. -/
def onRoundCompleted (controller : DryRunController) (roundId : String)
    (crashPoint : Number) : DryRunController :=
  if !controller.running then controller
  else
    { controller with
      roundsObserved := controller.roundsObserved + 1
      ledger := controller.ledger.resolveRound roundId crashPoint }

/-- `rollDaily`. -/
def rollDaily (controller : DryRunController) (today : Int) : DryRunController :=
  if today ≠ controller.dailyKey then
    { controller with dailyKey := today, dailyTrades := 0 }
  else controller

/-- A rejected signal. -/
def reject (controller : DryRunController) : DryRunController :=
  { controller with signalsRejected := controller.signalsRejected + 1 }

/-- The trade that a signal asks for. -/
def tradeOf (controller : DryRunController) (signal : DryRunSignal) (id : String)
    : VirtualTrade where
  virtualTradeId := id
  signalId := signal.signalId
  roundId := signal.roundId
  stake := signal.stake.getD controller.cfg.stake
  target :=
    if signal.target = 0 ∨ signal.target = .nan then controller.cfg.target
    else signal.target

/-- `evaluateAndSimulate` on a given day: the controller after it, and the trade that was
opened.
-/
def evaluateAndSimulate (controller : DryRunController) (today : Int) (newId : String)
    (signal : DryRunSignal) : DryRunController × Option VirtualTrade :=
  if !controller.running then (controller, none)
  else
    let counted := rollDaily { controller with signals := controller.signals + 1 } today
    if signal.probability < counted.cfg.minProbability then (counted.reject, none)
    else if signal.confidence < counted.cfg.minConfidence then (counted.reject, none)
    else if counted.cfg.maxDailyVirtualTrades ≤ .finite counted.dailyTrades then
      (counted.reject, none)
    else
      let trade := counted.tradeOf signal newId
      match counted.ledger.openTrade trade with
      | none => (counted.reject, none)
      | some ledger =>
          ({ counted with
              ledger := ledger
              dailyTrades := counted.dailyTrades + 1
              signalsAccepted := counted.signalsAccepted + 1 },
            some trade)

/-- A signal that is counted on a given day. -/
def received (controller : DryRunController) (today : Int) : DryRunController :=
  rollDaily { controller with signals := controller.signals + 1 } today

theorem received_eq (controller : DryRunController) (today : Int)
    : rollDaily { controller with signals := controller.signals + 1 } today
      = controller.received today := rfl

/-- The trades of the day, before a further one on a given day. -/
def tradesOn (controller : DryRunController) (today : Int) : Nat :=
  if today ≠ controller.dailyKey then 0 else controller.dailyTrades

/-- The gates that a signal passes on a given day. -/
structure Accepts (controller : DryRunController) (today : Int)
    (signal : DryRunSignal) : Prop where
  running : controller.running = true
  probable : ¬ signal.probability < controller.cfg.minProbability
  confident : ¬ signal.confidence < controller.cfg.minConfidence
  withinDay : ¬ controller.cfg.maxDailyVirtualTrades ≤ .finite (controller.tradesOn today)
  untraded : ¬ (signal.signalId ≠ "" ∧ signal.signalId ∈ controller.ledger.bySignal)
  covered : ¬ controller.ledger.balance < signal.stake.getD controller.cfg.stake

/-- A signal that is received is counted on its day, and changes nothing else that a gate looks
at.
-/
structure Receives (controller : DryRunController) (today : Int) (after : DryRunController)
    : Prop where
  cfg : after.cfg = controller.cfg
  ledger : after.ledger = controller.ledger
  running : after.running = controller.running
  dailyTrades : after.dailyTrades = controller.tradesOn today
  signals : after.signals = controller.signals + 1
  signalsAccepted : after.signalsAccepted = controller.signalsAccepted
  signalsRejected : after.signalsRejected = controller.signalsRejected

theorem received_spec (controller : DryRunController) (today : Int)
    : Receives controller today (controller.received today) := by
  unfold received rollDaily
  split
  · next moved => exact ⟨rfl, rfl, rfl, (if_pos moved).symm, rfl, rfl, rfl⟩
  · next same => exact ⟨rfl, rfl, rfl, (if_neg same).symm, rfl, rfl, rfl⟩

/-- The ways in which a signal is evaluated. -/
inductive Evaluates (controller : DryRunController) (today : Int) (newId : String)
    (signal : DryRunSignal) : DryRunController × Option VirtualTrade → Prop where
  | ignored (stopped : controller.running = false)
    : Evaluates controller today newId signal (controller, none)
  | rejected (running : controller.running = true)
    (refuses : ¬ controller.Accepts today signal)
    : Evaluates controller today newId signal ((controller.received today).reject, none)
  | accepted (ledger : VirtualTradeLedger) (accepts : controller.Accepts today signal)
    (opened
      : (controller.received today).ledger.openTrade
          ((controller.received today).tradeOf signal newId)
        = some ledger)
    : Evaluates controller today newId signal
        ({ controller.received today with
            ledger := ledger
            dailyTrades := (controller.received today).dailyTrades + 1
            signalsAccepted := (controller.received today).signalsAccepted + 1 },
          some ((controller.received today).tradeOf signal newId))

/-- Every evaluation goes one of these ways, by following its branches. -/
theorem evaluateAndSimulate_evaluates (controller : DryRunController) (today : Int)
    (newId : String) (signal : DryRunSignal)
    : Evaluates controller today newId signal
        (controller.evaluateAndSimulate today newId signal) := by
  obtain ⟨cfg, ledger, -, trades, -⟩ := controller.received_spec today
  have staked : ((controller.received today).tradeOf signal newId).stake
      = signal.stake.getD controller.cfg.stake := by
    rw [← cfg]
    rfl
  have refusedIff := openTrade_eq_none_iff (controller.received today).ledger
    ((controller.received today).tradeOf signal newId)
  rw [staked, ledger] at refusedIff
  unfold evaluateAndSimulate
  split
  · next stopped => exact .ignored (by simpa using stopped)
  · next running =>
      have running' : controller.running = true := by simpa using running
      dsimp only
      rw [received_eq]
      split
      · next improbable =>
          rw [cfg] at improbable
          exact .rejected running' fun accepts => accepts.probable improbable
      next probable =>
        split
        · next unsure =>
            rw [cfg] at unsure
            exact .rejected running' fun accepts => accepts.confident unsure
        next confident =>
          split
          · next full =>
              rw [cfg, trades] at full
              exact .rejected running' fun accepts => accepts.withinDay full
          next withinDay =>
            rw [cfg] at probable confident withinDay
            rw [trades] at withinDay
            split
            · next refused =>
                refine .rejected running' fun accepts => ?_
                rw [ledger] at refused
                rcases refusedIff.mp refused with traded | short
                · exact accepts.untraded traded
                · exact accepts.covered short
            · next after opened =>
                have opens := mt refusedIff.mpr (by simp [← ledger, opened])
                rw [not_or] at opens
                exact .accepted after
                  ⟨running', probable, confident, withinDay, opens.1, opens.2⟩ opened

theorem evaluateAndSimulate_stopped {controller : DryRunController} {today : Int}
    {newId : String} {signal : DryRunSignal} (stopped : controller.running = false)
    : controller.evaluateAndSimulate today newId signal = (controller, none) := by
  simp [evaluateAndSimulate, stopped]

/-- Evaluating a signal leaves the running flag. -/
@[simp] theorem evaluateAndSimulate_running (controller : DryRunController) (today : Int)
    (newId : String) (signal : DryRunSignal)
    : (controller.evaluateAndSimulate today newId signal).1.running
      = controller.running := by
  have evaluates := controller.evaluateAndSimulate_evaluates today newId signal
  generalize controller.evaluateAndSimulate today newId signal = result at evaluates ⊢
  cases evaluates with
  | ignored => rfl
  | rejected => exact (controller.received_spec today).running
  | accepted => exact (controller.received_spec today).running

@[simp] theorem onRoundCompleted_running (controller : DryRunController)
    (roundId : String) (crashPoint : Number)
    : (controller.onRoundCompleted roundId crashPoint).running = controller.running := by
  unfold onRoundCompleted
  split <;> rfl

end DryRunController

end CrashWave.DryRun
