import CrashWave.Core.DryRun.DryRunController
import CrashWave.Runs.Basic
import Mathlib.Data.List.Count

/-! The accounts of the dry-run controller: every signal is counted as accepted or rejected, and
no UTC day sees more accepted trades than the limit.
-/

namespace CrashWave.DryRun

open JavaScript Runs

/-- What happens to the controller, with the time that passes in between. -/
inductive ControllerEvent where
  | elapsed (milliseconds : Nat)
  | started
  | stopped
  | signalled (newId : String) (signal : DryRunSignal)
  | crashed (roundId : String) (crashPoint : Number)

/-- The controller and the clock, how many signals were offered while the controller ran, and the
days on which one was answered with a trade.
-/
structure ControllerHistory where
  controller : DryRunController
  now : ℤ
  offered : Nat := 0
  acceptedOn : List ℤ := []

namespace ControllerHistory

def new (cfg : DryRunConfig) (ledger : VirtualTradeLedger) (now : ℤ) : ControllerHistory where
  controller := .new cfg ledger now
  now

def next (history : ControllerHistory) : ControllerEvent → ControllerHistory
  | .elapsed milliseconds => { history with now := history.now + milliseconds }
  | .started => { history with controller := history.controller.start }
  | .stopped => { history with controller := history.controller.stop }
  | .signalled newId signal =>
      let today := utcDay history.now
      let offered := history.offered + history.controller.running.toNat
      match history.controller.evaluateAndSimulate today newId signal with
      | (controller, none) => { history with controller, offered }
      | (controller, some _) =>
          { history with controller, offered, acceptedOn := today :: history.acceptedOn }
  | .crashed roundId crashPoint =>
      { history with controller := history.controller.onRoundCompleted roundId crashPoint }

end ControllerHistory

/-- The controller's count is that of its day, which is the last one with a trade, and no day is
over the limit.
-/
structure DaysCounted (limit : Nat) (now : ℤ) (controller : DryRunController)
    (acceptedOn : List ℤ) : Prop where
  limited : controller.cfg.maxDailyVirtualTrades = .finite limit
  today : acceptedOn.count controller.dailyKey = controller.dailyTrades
  within : ∀ day, acceptedOn.count day ≤ limit
  past : ∀ day ∈ acceptedOn, day ≤ controller.dailyKey
  current : controller.dailyKey ≤ utcDay now

/-- Every signal that was offered to the running controller was counted, and once more as accepted
or as rejected; those accepted are the ones that were answered with a trade.
-/
structure SignalsCounted (controller : DryRunController) (offered : Nat) (acceptedOn : List ℤ)
    : Prop where
  received : controller.signals = offered
  answered : offered = controller.signalsAccepted + controller.signalsRejected
  accepted : controller.signalsAccepted = acceptedOn.length

/-- Changes of anything else keep the counts. -/
theorem SignalsCounted.congr {controller after : DryRunController} {offered : Nat}
    {acceptedOn : List ℤ} (counted : SignalsCounted controller offered acceptedOn)
    (signals : after.signals = controller.signals)
    (accepted : after.signalsAccepted = controller.signalsAccepted)
    (rejected : after.signalsRejected = controller.signalsRejected)
    : SignalsCounted after offered acceptedOn := by
  refine ⟨?_, ?_, ?_⟩
  · rw [signals, counted.received]
  · rw [accepted, rejected, counted.answered]
  · rw [accepted, counted.accepted]

namespace DaysCounted

variable {limit : Nat} {now : ℤ} {controller after : DryRunController} {acceptedOn : List ℤ}

/-- Changes of anything else keep the counts. -/
theorem congr (counted : DaysCounted limit now controller acceptedOn)
    (cfg : after.cfg = controller.cfg) (dailyKey : after.dailyKey = controller.dailyKey)
    (dailyTrades : after.dailyTrades = controller.dailyTrades)
    : DaysCounted limit now after acceptedOn := by
  refine ⟨?_, ?_, counted.within, ?_, ?_⟩
  · rw [cfg, counted.limited]
  · rw [dailyKey, dailyTrades, counted.today]
  · rw [dailyKey]
    exact counted.past
  · rw [dailyKey]
    exact counted.current

theorem elapsed (counted : DaysCounted limit now controller acceptedOn) (milliseconds : Nat)
    : DaysCounted limit (now + milliseconds) controller acceptedOn := by
  have later : utcDay now ≤ utcDay (now + milliseconds) :=
    Int.ediv_le_ediv (by decide) (by omega)
  exact ⟨counted.limited, counted.today, counted.within, counted.past,
    counted.current.trans later⟩

/-- A signal that is received moves the controller to the day, on which there is no trade yet if
it is a new one.
-/
theorem received (counted : DaysCounted limit now controller acceptedOn)
    : DaysCounted limit now (controller.received (utcDay now)) acceptedOn
      ∧ (controller.received (utcDay now)).dailyKey = utcDay now := by
  unfold DryRunController.received DryRunController.rollDaily
  split
  · next moved =>
      have newDay : controller.dailyKey < utcDay now :=
        lt_of_le_of_ne counted.current (Ne.symm moved)
      have untraded : utcDay now ∉ acceptedOn := by
        intro traded
        exact absurd (counted.past _ traded) (not_le.mpr newDay)
      refine ⟨⟨counted.limited, ?_, counted.within, ?_, le_rfl⟩, rfl⟩
      · exact List.count_eq_zero_of_not_mem untraded
      · intro day traded
        exact (counted.past day traded).trans newDay.le
  · next same =>
      rw [not_not] at same
      exact ⟨counted.congr rfl rfl rfl, same.symm⟩

/-- Below the limit a trade of the controller's day can be accepted. -/
theorem accept (counted : DaysCounted limit now controller acceptedOn)
    (withinDay : ¬ controller.cfg.maxDailyVirtualTrades ≤ .finite controller.dailyTrades)
    (cfg : after.cfg = controller.cfg) (dailyKey : after.dailyKey = controller.dailyKey)
    (dailyTrades : after.dailyTrades = controller.dailyTrades + 1)
    : DaysCounted limit now after (controller.dailyKey :: acceptedOn) := by
  have room : controller.dailyTrades < limit := by
    by_contra full
    refine withinDay ?_
    rw [counted.limited]
    exact decide_eq_true (Nat.cast_le.mpr (not_lt.mp full))
  refine ⟨?_, ?_, ?_, ?_, ?_⟩
  · rw [cfg, counted.limited]
  · rw [dailyKey, dailyTrades, List.count_cons_self, counted.today]
  · intro day
    rw [List.count_cons]
    split
    · next same =>
        obtain rfl : controller.dailyKey = day := eq_of_beq same
        rw [counted.today]
        omega
    · exact counted.within day
  · rw [dailyKey]
    exact List.forall_mem_cons.mpr ⟨le_rfl, counted.past⟩
  · rw [dailyKey]
    exact counted.current

end DaysCounted

/-- What the accounts keep over every event. -/
structure Accounted (limit : Nat) (history : ControllerHistory) : Prop where
  days : DaysCounted limit history.now history.controller history.acceptedOn
  signals : SignalsCounted history.controller history.offered history.acceptedOn

variable {limit : Nat} {history : ControllerHistory}

theorem accounted_new (cfg : DryRunConfig) (limit : Nat) (ledger : VirtualTradeLedger) (now : ℤ)
    : Accounted limit (.new { cfg with maxDailyVirtualTrades := .finite limit } ledger now) where
  days :=
    { limited := rfl
      today := rfl
      within := fun _ => Nat.zero_le limit
      past := fun _ traded => absurd traded List.not_mem_nil
      current := le_rfl }
  signals := ⟨rfl, rfl, rfl⟩

/-- A signal keeps the accounts, by the ways in which it is evaluated. -/
theorem Accounted.signalled (accounted : Accounted limit history) (newId : String)
    (signal : DryRunSignal)
    : Accounted limit (history.next (.signalled newId signal)) := by
  obtain ⟨days, offered, answered, accepted⟩ := accounted
  obtain ⟨days', sameDay⟩ := days.received
  obtain ⟨cfg, -, -, trades, signals, signalsAccepted, signalsRejected⟩ :=
    history.controller.received_spec (utcDay history.now)
  have evaluates :=
    history.controller.evaluateAndSimulate_evaluates (utcDay history.now) newId signal
  rw [ControllerHistory.next]
  generalize history.controller.evaluateAndSimulate (utcDay history.now) newId signal = outcome
    at evaluates ⊢
  cases evaluates with
  | ignored stopped =>
      rw [stopped]
      exact ⟨days, offered, answered, accepted⟩
  | rejected running =>
      rw [running]
      refine ⟨days'.congr rfl rfl rfl, ?_, ?_, ?_⟩
      · simp only [DryRunController.reject, signals, offered, Bool.toNat_true]
      · simp only [DryRunController.reject, signalsAccepted, signalsRejected, answered,
          Bool.toNat_true]
        omega
      · simp only [DryRunController.reject, signalsAccepted, accepted]
  | accepted ledger accepts =>
      have withinDay := accepts.withinDay
      rw [← cfg, ← trades] at withinDay
      have kept : DaysCounted limit history.now
          { history.controller.received (utcDay history.now) with
            ledger := ledger
            dailyTrades := (history.controller.received (utcDay history.now)).dailyTrades + 1
            signalsAccepted :=
              (history.controller.received (utcDay history.now)).signalsAccepted + 1 }
          ((history.controller.received (utcDay history.now)).dailyKey :: history.acceptedOn) :=
        days'.accept withinDay rfl rfl rfl
      rw [sameDay] at kept
      rw [accepts.running]
      refine ⟨kept, ?_, ?_, ?_⟩
      · simp only [signals, offered, Bool.toNat_true]
      · simp only [signalsAccepted, signalsRejected, answered, Bool.toNat_true]
        omega
      · simp only [signalsAccepted, accepted, List.length_cons]

/-- So does every other event. -/
theorem Accounted.next (accounted : Accounted limit history) (event : ControllerEvent)
    : Accounted limit (history.next event) := by
  cases event with
  | elapsed milliseconds => exact ⟨accounted.days.elapsed milliseconds, accounted.signals⟩
  | started => exact ⟨accounted.days.congr rfl rfl rfl, accounted.signals.congr rfl rfl rfl⟩
  | stopped => exact ⟨accounted.days.congr rfl rfl rfl, accounted.signals.congr rfl rfl rfl⟩
  | signalled newId signal => exact accounted.signalled newId signal
  | crashed roundId crashPoint =>
      rw [ControllerHistory.next, DryRunController.onRoundCompleted]
      split
      · exact accounted
      · exact ⟨accounted.days.congr rfl rfl rfl, accounted.signals.congr rfl rfl rfl⟩

/-- Over every sequence of signals and crashes, whatever time passes in between, the signals
received, which are those offered to the running controller, are the ones answered with a trade and
those rejected, and no UTC day has more accepted trades than the limit.
-/
theorem signals_accounted (cfg : DryRunConfig) (limit : Nat) (ledger : VirtualTradeLedger)
    (now : ℤ) (events : List ControllerEvent)
    : let history :=
        run ControllerHistory.next
          (.new { cfg with maxDailyVirtualTrades := .finite limit } ledger now) events
      history.controller.signals = history.offered
      ∧ history.offered
        = history.controller.signalsAccepted + history.controller.signalsRejected
      ∧ history.controller.signalsAccepted = history.acceptedOn.length
      ∧ ∀ day, history.acceptedOn.count day ≤ limit := by
  intro history
  have accounted : Accounted limit history :=
    run_invariant (fun _ event accounted => accounted.next event) events
      (accounted_new cfg limit ledger now)
  exact ⟨accounted.signals.received, accounted.signals.answered, accounted.signals.accepted,
    accounted.days.within⟩

/-- Five signals around midnight with a limit of one: the first comes before the start, and of the
others the two that are the first ones of their days are accepted.
-/
def aroundMidnight : List ControllerEvent :=
  let signal (id : String) : ControllerEvent :=
    .signalled id
      {
        signalId := id
        roundId := id
        probability := 1
        confidence := 1
        target := 2
        stake := some 1
      }
  [signal "s0", .started, signal "s1", .crashed "s1" 3, signal "s2", .elapsed 86400000,
    signal "s3", signal "s4"]

theorem aroundMidnight_accounted
    : let history :=
        run ControllerHistory.next
          (.new { maxDailyVirtualTrades := .finite (1 : Nat) } (.new 100) 0) aroundMidnight
      history.offered = 4 ∧ history.controller.signalsRejected = 2
        ∧ history.controller.signals = history.offered
        ∧ history.offered
          = history.controller.signalsAccepted + history.controller.signalsRejected
        ∧ ∀ day, history.acceptedOn.count day ≤ 1 := by
  obtain ⟨received, answered, -, within⟩ :=
    signals_accounted {} 1 (.new 100) 0 aroundMidnight
  exact ⟨by decide +kernel, by decide +kernel, received, answered, within⟩

end CrashWave.DryRun
