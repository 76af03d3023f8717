import CrashWave.Core.DryRun.DryRunController
import CrashWave.Runs.Basic

/-! The dry-run executor, and when the profits that it reports are those of the virtual ledger.
The ledger keeps a list of trades for each round, the executor one pending signal.
-/

namespace CrashWave.DryRun

open JavaScript

-----------------------------------------------------------------------------------------
-- The executor
-----------------------------------------------------------------------------------------

inductive DryRunOutcome where
  | win
  | loss
  | void
  deriving DecidableEq

/-- What the executor reports of a signal. -/
structure DryRunExecution where
  signalId : String
  roundId : String
  stake : Number
  targetMultiplier : Number
  entryMultiplier : Option Number := none
  exitMultiplier : Option Number := none
  outcome : DryRunOutcome
  pnl : Number

/-- A signal whose round is not over. -/
structure PendingExecution where
  signal : DryRunSignal
  stake : Number
  target : Number

/-- What is reported of a pending signal when its round is over. -/
def PendingExecution.completed (execution : PendingExecution) (roundId : String)
    (crashMultiplier : Number) : DryRunExecution :=
  let win := execution.target ≤ crashMultiplier
  { signalId := execution.signal.signalId
    roundId := roundId
    stake := execution.stake
    targetMultiplier := execution.target
    entryMultiplier := some 1
    exitMultiplier := some (if win then execution.target else crashMultiplier)
    outcome := if win then .win else .loss
    pnl := if win then execution.stake * (execution.target - 1) else execution.stake.neg }

/-- The executor. -/
structure DryRunExecutor where
  controller : DryRunController
  pending : Map String PendingExecution := ∅

namespace DryRunExecutor

/-- `executeSignal` on a given day. The default target of the source is for a signal without
one, which its type excludes.
-/
def executeSignal (executor : DryRunExecutor) (today : Int) (newId : String)
    (signal : DryRunSignal) : DryRunExecutor × Option DryRunExecution :=
  match executor.controller.evaluateAndSimulate today newId signal with
  | (controller, none) => ({ executor with controller }, none)
  | (controller, some _) =>
      let stake := signal.stake.getD 700
      let target := signal.target
      ({ controller, pending := executor.pending.set signal.roundId { signal, stake, target } },
        some
          { signalId := signal.signalId
            roundId := signal.roundId
            stake := stake
            targetMultiplier := target
            outcome := .void
            pnl := 0 })

/-- `onRoundComplete`. -/
def onRoundComplete (executor : DryRunExecutor) (roundId : String) (crashMultiplier : Number)
    : DryRunExecutor × List DryRunExecution :=
  let after : DryRunExecutor :=
    { controller := executor.controller.onRoundCompleted roundId crashMultiplier
      pending := executor.pending.delete roundId }
  match executor.pending.get roundId with
  | none => (after, [])
  | some execution => (after, [execution.completed roundId crashMultiplier])

end DryRunExecutor

-----------------------------------------------------------------------------------------
-- Its runs
-----------------------------------------------------------------------------------------

/-- What happens to the executor, and to its controller. -/
inductive ExecutorEvent where
  | started
  | stopped
  | signalled (today : Int) (newId : String) (signal : DryRunSignal)
  | crashed (roundId : String) (crashMultiplier : Number)

/-- The id that the next virtual trade is given. -/
def ExecutorEvent.newId : ExecutorEvent → Option String
  | .signalled _ newId _ => some newId
  | _ => none

/-- The executor, and the executions that it has reported. -/
structure ExecutorHistory where
  executor : DryRunExecutor
  reported : List DryRunExecution := []

namespace ExecutorHistory

def next (history : ExecutorHistory) : ExecutorEvent → ExecutorHistory
  | .started =>
      { history with
        executor := { history.executor with controller := history.executor.controller.start } }
  | .stopped =>
      { history with
        executor := { history.executor with controller := history.executor.controller.stop } }
  | .signalled today newId signal =>
      let (executor, execution) := history.executor.executeSignal today newId signal
      { executor, reported := history.reported ++ execution.toList }
  | .crashed roundId crashMultiplier =>
      let (executor, executions) := history.executor.onRoundComplete roundId crashMultiplier
      { executor, reported := history.reported ++ executions }

/-- A new executor on a controller with a new ledger. -/
def new (controller : DryRunController) (balance : Number) : ExecutorHistory where
  executor := { controller := { controller with ledger := .new balance } }

/-- The ledger of the controller. -/
def ledger (history : ExecutorHistory) : VirtualTradeLedger :=
  history.executor.controller.ledger

end ExecutorHistory

/-- The sum of the profits of executions. -/
def totalPnl (executions : List DryRunExecution) : Number :=
  executions.foldl (fun total execution => total + execution.pnl) 0

/-- The executor has reported the profit of the ledger, which starts with none. -/
def ExecutorHistory.Balanced (history : ExecutorHistory) : Prop :=
  totalPnl history.reported = history.ledger.netPnl

instance (history : ExecutorHistory) : Decidable history.Balanced :=
  inferInstanceAs (Decidable (_ = _))

/-- The executor and the ledger see the same trade in a signal. -/
structure DryRunExecutor.Matches (executor : DryRunExecutor) (signal : DryRunSignal) : Prop where
  alone : executor.pending.get signal.roundId = none
  staked : signal.stake.getD 700 = signal.stake.getD executor.controller.cfg.stake
  bounded : ∀ negative, signal.stake.getD 700 ≠ .infinity negative
  aimed
    : signal.target = 0 ∨ signal.target = .nan → executor.controller.cfg.target = signal.target

/-- A signal that is accepted is seen alike, and no round with a pending signal is over while
the controller is stopped.
-/
def DryRunExecutor.Meets (executor : DryRunExecutor) : ExecutorEvent → Prop
  | .signalled today _ signal => executor.controller.Accepts today signal → executor.Matches signal
  | .crashed roundId _ =>
      executor.controller.running = false → executor.pending.get roundId = none
  | _ => True

-----------------------------------------------------------------------------------------
-- Rounds
-----------------------------------------------------------------------------------------

/-- A trade that is entered and over. -/
def VirtualTradeLedger.Closed (ledger : VirtualTradeLedger) (id : String) : Prop :=
  ∃ trade, ledger.trades.get id = some trade ∧ trade.status ≠ .open

/-- The executor waits for a round exactly where the ledger has an open trade in it: only its
last one, with the same stake and target.
-/
inductive RoundAgrees (ledger : VirtualTradeLedger) (roundId : String)
    : Option PendingExecution → List String → Prop where
  | settled {ids : List String} (closed : ∀ id ∈ ids, ledger.Closed id)
    : RoundAgrees ledger roundId none ids
  | waiting {execution : PendingExecution} {before : List String} {id : String}
    {trade : VirtualTrade} (closed : ∀ other ∈ before, ledger.Closed other)
    (entered : ledger.trades.get id = some trade) (isOpen : trade.status = .open)
    (own : trade.roundId = roundId) (staked : trade.stake = execution.stake)
    (aimed : trade.target = execution.target)
    (bounded : ∀ negative, execution.stake ≠ .infinity negative)
    : RoundAgrees ledger roundId (some execution) (before ++ [id])

/-- So it is for every round. -/
def RoundsAgree (ledger : VirtualTradeLedger) (pending : Map String PendingExecution) : Prop :=
  ∀ roundId,
    RoundAgrees ledger roundId (pending.get roundId) ((ledger.byRound.get roundId).getD [])

section Frame

variable {ledger after : VirtualTradeLedger} {changed : String}

/-- A closed trade stays closed when one that is not is changed. -/
theorem VirtualTradeLedger.Closed.frame {id : String} (closed : ledger.Closed id)
    (others : ∀ other ≠ changed, after.trades.get other = ledger.trades.get other)
    (notClosed : ¬ ledger.Closed changed) : after.Closed id := by
  have differs : id ≠ changed := by
    rintro rfl
    exact notClosed closed
  obtain ⟨trade, entered, shut⟩ := closed
  exact ⟨trade, (others id differs).trans entered, shut⟩

/-- A round still agrees when a trade is changed that is not closed, and is none of it. -/
theorem RoundAgrees.frame {roundId : String} {execution : Option PendingExecution}
    {ids : List String} (agrees : RoundAgrees ledger roundId execution ids)
    (others : ∀ other ≠ changed, after.trades.get other = ledger.trades.get other)
    (foreign
      : ∀ trade, ledger.trades.get changed = some trade
        → trade.status = .open ∧ trade.roundId ≠ roundId)
    : RoundAgrees after roundId execution ids := by
  have notClosed : ¬ ledger.Closed changed := by
    rintro ⟨trade, entered, shut⟩
    exact shut (foreign trade entered).1
  cases agrees with
  | settled closed => exact .settled fun id member => (closed id member).frame others notClosed
  | @waiting _ before id trade closed entered isOpen own staked aimed bounded =>
      have differs : id ≠ changed := by
        rintro rfl
        exact (foreign trade entered).2 own
      exact .waiting (fun other member => (closed other member).frame others notClosed)
        ((others id differs).trans entered) isOpen own staked aimed bounded

/-- The resolution of closed trades does nothing, by induction on them. -/
theorem resolve_closed {ids : List String} (closed : ∀ id ∈ ids, ledger.Closed id)
    (crashPoint : Number)
    : ids.foldl (fun ledger id => ledger.resolveTrade crashPoint id) ledger = ledger := by
  induction ids with
  | nil => rfl
  | cons id rest ih =>
      obtain ⟨⟨trade, entered, shut⟩, others⟩ := List.forall_mem_cons.mp closed
      rw [List.foldl_cons, resolveTrade_of_not_open ?_ crashPoint]
      · exact ih others
      · intro same again
        rw [entered] at again
        rwa [← Option.some.inj again]

/-- A new trade in a round without one is waited for. -/
theorem RoundsAgree.opened {pending : Map String PendingExecution} {trade : VirtualTrade}
    {execution : PendingExecution} (agree : RoundsAgree ledger pending)
    (opens : Opens ledger trade after) (isOpen : trade.status = .open)
    (fresh : ledger.trades.get trade.virtualTradeId = none)
    (alone : pending.get trade.roundId = none) (staked : trade.stake = execution.stake)
    (aimed : trade.target = execution.target)
    (bounded : ∀ negative, execution.stake ≠ .infinity negative)
    : RoundsAgree after (pending.set trade.roundId execution) := by
  have others : ∀ other ≠ trade.virtualTradeId,
      after.trades.get other = ledger.trades.get other := by
    intro other differs
    rw [opens.trades, Map.get_set_of_ne _ _ differs]
  have foreign : ∀ roundId held, ledger.trades.get trade.virtualTradeId = some held
      → held.status = .open ∧ held.roundId ≠ roundId := by
    intro roundId held entered
    rw [fresh] at entered
    cases entered
  intro roundId
  by_cases same : roundId = trade.roundId
  · subst same
    have before := (agree trade.roundId).frame others (foreign trade.roundId)
    rw [alone] at before
    rw [opens.byRound, Map.get_set_self, Map.get_set_self, Option.getD_some]
    cases before with
    | settled closed =>
        refine .waiting closed ?_ isOpen rfl staked aimed bounded
        rw [opens.trades, Map.get_set_self]
  · rw [opens.byRound, Map.get_set_of_ne _ _ same, Map.get_set_of_ne _ _ same]
    exact (agree roundId).frame others (foreign roundId)

/-- A round that is over brings the ledger what its pending signal brings, and is waited for no
longer.
-/
theorem RoundsAgree.resolved {pending : Map String PendingExecution}
    (agree : RoundsAgree ledger pending) (roundId : String) (crashMultiplier : Number)
    : RoundsAgree (ledger.resolveRound roundId crashMultiplier) (pending.delete roundId)
      ∧ (ledger.resolveRound roundId crashMultiplier).netPnl
        = ((pending.get roundId).map fun execution =>
            ledger.netPnl + (execution.completed roundId crashMultiplier).pnl).getD
          ledger.netPnl := by
  have own := agree roundId
  rw [VirtualTradeLedger.resolveRound]
  generalize waits : pending.get roundId = waiting at own ⊢
  generalize lists : (ledger.byRound.get roundId).getD [] = ids at own ⊢
  cases own with
  | settled closed =>
      rw [resolve_closed closed]
      refine ⟨fun other => ?_, rfl⟩
      by_cases same : other = roundId
      · rw [same, Map.get_delete_self, lists]
        exact .settled closed
      · rw [Map.get_delete_of_ne _ same]
        exact agree other
  | @waiting execution before id trade closed entered isOpen own staked aimed bounded =>
      rw [List.foldl_append, resolve_closed closed, List.foldl_cons, List.foldl_nil]
      obtain ⟨⟨resolved, notOpen, trades⟩, byRound, netPnl⟩ :=
        resolveTrade_resolves entered isOpen crashMultiplier
      have others : ∀ other ≠ id,
          (ledger.resolveTrade crashMultiplier id).trades.get other
            = ledger.trades.get other := by
        intro other differs
        rw [trades, Map.get_set_of_ne _ _ differs]
      have notClosed : ¬ ledger.Closed id := by
        rintro ⟨held, found, shut⟩
        rw [entered] at found
        exact shut (Option.some.inj found ▸ isOpen)
      refine ⟨fun other => ?_, ?_⟩
      · rw [byRound]
        by_cases same : other = roundId
        · rw [same, Map.get_delete_self, lists]
          refine .settled fun listed member => ?_
          rcases List.mem_append.mp member with earlier | last
          · exact (closed listed earlier).frame others notClosed
          · rw [List.mem_singleton.mp last]
            exact ⟨resolved, by rw [trades, Map.get_set_self], notOpen⟩
        · rw [Map.get_delete_of_ne _ same]
          refine (agree other).frame others ?_
          intro held found
          obtain rfl : trade = held := Option.some.inj (entered.symm.trans found)
          exact ⟨isOpen, fun round => same (round.symm.trans own)⟩
      · rw [netPnl, Option.map_some, Option.getD_some, VirtualTrade.pnlAt,
          PendingExecution.completed, staked, aimed]
        dsimp only
        rw [Number.mul_sub_self bounded]

end Frame

-----------------------------------------------------------------------------------------
-- Steps
-----------------------------------------------------------------------------------------

/-- The executor and the ledger agree on every round and on the profit. -/
structure Agrees (history : ExecutorHistory) : Prop where
  rounds : RoundsAgree history.ledger history.executor.pending
  balanced : history.Balanced

theorem agrees_new (controller : DryRunController) (balance : Number)
    : Agrees (.new controller balance) where
  rounds := fun _ => .settled fun _ member => absurd member List.not_mem_nil
  balanced := rfl

theorem totalPnl_append (executions : List DryRunExecution) (execution : DryRunExecution)
    : totalPnl (executions ++ [execution]) = totalPnl executions + execution.pnl := by
  simp only [totalPnl, List.foldl_append, List.foldl_cons, List.foldl_nil]

/-- The id of a signal's trade is new to the ledger. -/
def ExecutorHistory.Fresh (history : ExecutorHistory) (event : ExecutorEvent) : Prop :=
  ∀ id, event.newId = some id → history.ledger.trades.get id = none

variable {history : ExecutorHistory}

/-- Changes of anything else keep the agreement. -/
theorem Agrees.congr {after : ExecutorHistory} (agrees : Agrees history)
    (ledger : after.ledger = history.ledger)
    (pending : after.executor.pending = history.executor.pending)
    (reported : after.reported = history.reported) : Agrees after := by
  refine ⟨?_, ?_⟩
  · rw [ledger, pending]
    exact agrees.rounds
  · rw [ExecutorHistory.Balanced, ledger, reported]
    exact agrees.balanced

/-- A signal leaves the ledger, the pending executions and the reports, or it opens its trade, is
pending and is reported without a profit.
-/
theorem ExecutorHistory.next_signalled (history : ExecutorHistory) (today : Int) (newId : String)
    (signal : DryRunSignal)
    : let after := history.next (.signalled today newId signal)
      (after.ledger = history.ledger
          ∧ after.executor.pending = history.executor.pending
          ∧ after.reported = history.reported)
        ∨ history.executor.controller.Accepts today signal
          ∧ Opens history.ledger
            ((history.executor.controller.received today).tradeOf signal newId) after.ledger
          ∧ after.executor.pending
            = history.executor.pending.set signal.roundId
                { signal, stake := signal.stake.getD 700, target := signal.target }
          ∧ ∃ execution : DryRunExecution, execution.pnl = 0
            ∧ after.reported = history.reported ++ [execution] := by
  have evaluates :=
    history.executor.controller.evaluateAndSimulate_evaluates today newId signal
  have received := history.executor.controller.received_spec today
  rw [ExecutorHistory.next, DryRunExecutor.executeSignal]
  generalize history.executor.controller.evaluateAndSimulate today newId signal = result
    at evaluates ⊢
  cases evaluates with
  | ignored => exact .inl ⟨rfl, rfl, List.append_nil _⟩
  | rejected => exact .inl ⟨received.ledger, rfl, List.append_nil _⟩
  | accepted ledger accepts opened =>
      rw [received.ledger] at opened
      exact .inr ⟨accepts, openTrade_opens opened, rfl, _, rfl, rfl⟩

/-- A signal that is seen alike keeps the agreement, by the ways in which it is evaluated. -/
theorem Agrees.signalled (agrees : Agrees history) {today : Int} {newId : String}
    {signal : DryRunSignal} (fresh : history.ledger.trades.get newId = none)
    (matched : history.executor.controller.Accepts today signal
      → history.executor.Matches signal)
    : Agrees (history.next (.signalled today newId signal)) := by
  rcases history.next_signalled today newId signal with
    ⟨ledger, pending, reported⟩ | ⟨accepts, opens, pending, execution, none, reported⟩
  · exact agrees.congr ledger pending reported
  · have received := history.executor.controller.received_spec today
    obtain ⟨alone, staked, bounded, aimed⟩ := matched accepts
    refine ⟨?_, ?_⟩
    · rw [pending]
      refine agrees.rounds.opened opens rfl fresh alone ?_ ?_ bounded
      · rw [staked, ← received.cfg]
        rfl
      · rw [DryRunController.tradeOf]
        dsimp only
        split
        · next unaimed =>
            rw [received.cfg]
            exact aimed unaimed
        · rfl
    · rw [ExecutorHistory.Balanced, reported, totalPnl_append, none, opens.netPnl,
        Number.add_zero]
      exact agrees.balanced

/-- So does a crash, while the controller runs or where no signal is pending. -/
theorem Agrees.crashed (agrees : Agrees history) {roundId : String}
    (meets : history.executor.controller.running = false
      → history.executor.pending.get roundId = none)
    (crashMultiplier : Number)
    : Agrees (history.next (.crashed roundId crashMultiplier)) := by
  obtain ⟨rounds, netPnl⟩ := agrees.rounds.resolved roundId crashMultiplier
  have balanced : totalPnl history.reported = history.ledger.netPnl := agrees.balanced
  rw [ExecutorHistory.next, DryRunExecutor.onRoundComplete, DryRunController.onRoundCompleted]
  cases running : history.executor.controller.running with
  | true =>
      cases waits : history.executor.pending.get roundId with
      | none =>
          rw [waits] at netPnl
          refine ⟨rounds, ?_⟩
          change totalPnl (history.reported ++ []) = _
          rw [List.append_nil, balanced]
          exact netPnl.symm
      | some execution =>
          rw [waits] at netPnl
          refine ⟨rounds, ?_⟩
          change totalPnl (history.reported ++ [_]) = _
          rw [totalPnl_append, balanced]
          exact netPnl.symm
  | false =>
      have idle := meets running
      rw [idle]
      refine ⟨fun other => ?_, ?_⟩
      · change RoundAgrees history.ledger other
          ((history.executor.pending.delete roundId).get other)
          ((history.ledger.byRound.get other).getD [])
        by_cases same : other = roundId
        · subst same
          rw [Map.get_delete_self, ← idle]
          exact agrees.rounds other
        · rw [Map.get_delete_of_ne _ same]
          exact agrees.rounds other
      · change totalPnl (history.reported ++ []) = _
        rw [List.append_nil]
        exact balanced

/-- So does every event that meets the condition. -/
theorem Agrees.next (agrees : Agrees history) {event : ExecutorEvent}
    (fresh : history.Fresh event) (meets : history.executor.Meets event)
    : Agrees (history.next event) := by
  cases event with
  | started => exact agrees.congr rfl rfl rfl
  | stopped => exact agrees.congr rfl rfl rfl
  | signalled today newId signal => exact agrees.signalled (fresh newId rfl) meets
  | crashed roundId crashMultiplier => exact agrees.crashed meets crashMultiplier

-----------------------------------------------------------------------------------------
-- Runs
-----------------------------------------------------------------------------------------

/-- An event makes no trade but the one that it names. -/
theorem next_absent {id : String} (absent : history.ledger.trades.get id = none)
    {event : ExecutorEvent} (differs : event.newId ≠ some id)
    : (history.next event).ledger.trades.get id = none := by
  cases event with
  | started => exact absent
  | stopped => exact absent
  | signalled today newId signal =>
      rcases history.next_signalled today newId signal with ⟨ledger, -⟩ | ⟨-, opens, -⟩
      · rw [ledger]
        exact absent
      · have key : id ≠ newId := fun same => differs (congrArg some same.symm)
        rw [opens.trades]
        exact (Map.get_set_of_ne _ _ key).trans absent
  | crashed roundId crashMultiplier =>
      have same : (history.next (.crashed roundId crashMultiplier)).ledger
          = (history.executor.controller.onRoundCompleted roundId crashMultiplier).ledger := by
        rw [ExecutorHistory.next, DryRunExecutor.onRoundComplete]
        cases history.executor.pending.get roundId <;> rfl
      rw [same, DryRunController.onRoundCompleted]
      split
      · exact absent
      · exact resolveRound_absent absent roundId crashMultiplier

/-- Distinct ids are new ones when their turn comes. -/
theorem always_fresh_id (controller : DryRunController) (balance : Number)
    {events : List ExecutorEvent} (distinct : (events.filterMap ExecutorEvent.newId).Nodup)
    : Runs.Always ExecutorHistory.next ExecutorHistory.Fresh (.new controller balance) events :=
  .of_nodup (fun _ _ _ absent differs => next_absent absent differs) (fun _ _ => rfl) distinct

/-- Over every sequence of signals and crashes, with distinct ids for the virtual trades, in
which every accepted signal is seen alike and no round with a pending signal is over while the
controller is stopped, the profits that the executor has reported are at every moment that of
the ledger.
-/
theorem executions_agree (controller : DryRunController) (balance : Number)
    (events : List ExecutorEvent) (distinct : (events.filterMap ExecutorEvent.newId).Nodup)
    (meets : Runs.Always ExecutorHistory.next
      (fun history event => history.executor.Meets event) (.new controller balance) events)
    : Runs.Always ExecutorHistory.next (fun history event => (history.next event).Balanced)
        (.new controller balance) events := by
  refine ((always_fresh_id controller balance distinct).and meets).of_invariant ?_
    (agrees_new controller balance)
  rintro history event agrees ⟨fresh, meets⟩
  have next := agrees.next fresh meets
  exact ⟨next.balanced, next⟩

/-- A signal that passes the gates of a new controller, of amounts that doubles hold exactly. -/
def strongSignal (signalId roundId : String) : DryRunSignal where
  signalId
  roundId
  probability := .finite (7 / 10)
  confidence := .finite (7 / 10)
  target := .finite (3 / 2)
  stake := none

/-- A controller with the default configuration, which runs on a given day. -/
def runningController : DryRunController :=
  (DryRunController.new {} (.new 10000) 0).start

theorem twoRounds_agree
    : Runs.Always ExecutorHistory.next (fun history event => (history.next event).Balanced)
        (.new runningController 10000)
        [.signalled 0 "vt-1" (strongSignal "s1" "r1"), .crashed "r1" 2,
          .signalled 0 "vt-2" (strongSignal "s2" "r2"), .crashed "r2" 1] := by
  refine executions_agree runningController 10000 _ (by decide) ⟨?_, ?_, ?_, ?_, trivial⟩
  · intro _
    exact ⟨rfl, rfl, by decide, by decide +kernel⟩
  · change _ = false → _
    decide +kernel
  · intro _
    exact ⟨by decide +kernel, by decide +kernel, by decide, by decide +kernel⟩
  · change _ = false → _
    decide +kernel

/-- Of two signals in one round the executor reports the second one alone. -/
theorem twoSignals_disagree
    : ¬ Runs.Always ExecutorHistory.next (fun history event => (history.next event).Balanced)
        (.new runningController 10000)
        [.signalled 0 "vt-1" (strongSignal "s1" "r1"),
          .signalled 0 "vt-2" (strongSignal "s2" "r1"), .crashed "r1" 1] := by
  decide +kernel

end CrashWave.DryRun
