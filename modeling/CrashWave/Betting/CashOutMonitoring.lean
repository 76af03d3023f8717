import CrashWave.JavaScript.Number
import CrashWave.Runs.Basic
import CrashWave.Types

/-! `CashOutController` for one bet, and its monitor in every order of ticks, crash, abort, answers
and the safety timer: each is a step of its own, so that they race. The monitor requests and
resolves once. A lost bet is resolved, but does not count as complete.
-/

namespace CrashWave.Betting

open JavaScript

/-- What the adapter answers about a confirmation. -/
structure CashOutResult where
  success : Bool
  multiplier : Option Number := none
  pnl : Option Number := none
  error : Option String := none
  deriving DecidableEq

/-- `CashOutMonitorResult`. -/
structure CashOutMonitorResult where
  success : Bool
  finalState : BetState
  pnl : Option Number := none
  cashOutMultiplier : Option Number := none
  error : Option String := none
  deriving DecidableEq

/-- `CashOutControllerState`. -/
structure CashOutControllerState where
  betId : String
  roundId : String
  triggered : Bool := false
  confirmed : Bool := false
  triggeredAtMultiplier : Option Number := none
  confirmedAtMultiplier : Option Number := none
  pnl : Option Number := none
  error : Option String := none
  triggeredAt : Option Int := none
  confirmedAt : Option Int := none
  deriving DecidableEq

/-- Where `executeCashOut` stands: it awaits the request or the confirmation, or has returned
a result that is not handled yet.
-/
inductive CashOutFlight where
  | grounded
  | requesting
  | confirming
  | returned (result : CashOutResult)
  | handled
  deriving DecidableEq

/-- The controller with the variables of its monitor, and what it has asked for, been told
and answered: the bets of its cash-out requests, the confirmations of the adapter, and the
results its promise was resolved with.
-/
structure CashOutController where
  targetMultiplier : Number := .finite (13 / 10)
  state : CashOutControllerState
  aborted : Bool := false
  /-- The monitor's promise exists. -/
  monitoring : Bool := false
  cashOutInFlight : Bool := false
  resolved : Bool := false
  flight : CashOutFlight := .grounded
  requests : List (String × String) := []
  confirmations : List CashOutResult := []
  results : List CashOutMonitorResult := []
  deriving DecidableEq

namespace CashOutController

variable (controller : CashOutController)

/-- `isComplete`. -/
def isComplete : Bool := controller.state.confirmed || controller.state.error.isSome

/-- `monitor`; another call is given the promise that exists. -/
def monitor : CashOutController := { controller with monitoring := true }

/-- `abort`. -/
def abort : CashOutController := { controller with aborted := true }

/-- `resolveOnce`. -/
def resolveOnce (result : CashOutMonitorResult) : CashOutController :=
  if controller.resolved then controller
  else { controller with resolved := true, results := controller.results ++ [result] }

/-- The callback of a tick, up to the call of `requestCashOut`. -/
def onTick (multiplier : Number) (now : Int) : CashOutController :=
  if !controller.monitoring || controller.resolved || controller.aborted then controller
  else if controller.targetMultiplier ≤ multiplier ∧ controller.cashOutInFlight = false
      ∧ controller.state.triggered = false then
    { controller with
      cashOutInFlight := true
      state :=
        { controller.state with
          triggered := true
          triggeredAtMultiplier := some multiplier
          triggeredAt := some now }
      flight := .requesting
      requests := controller.requests ++ [(controller.state.betId, controller.state.roundId)] }
  else controller

/-- The callback of a crash; a cash-out that is in flight is left to complete. -/
def onCrash : CashOutController :=
  if !controller.monitoring || controller.resolved then controller
  else if controller.cashOutInFlight then controller
  else if !controller.state.triggered then
    controller.resolveOnce { success := false, finalState := .lost }
  else controller

/-- `executeCashOut` returns a failure. -/
def returnFailure (error : String) : CashOutController :=
  { controller with flight := .returned { success := false, error := some error } }

/-- `requestCashOut` is answered, or rejects with a message. -/
def requestSettled (answer : Except String Bool) : CashOutController :=
  match controller.flight with
  | .requesting =>
      match answer with
      | .ok true => { controller with flight := .confirming }
      | .ok false => controller.returnFailure "Cash-out request was rejected by adapter"
      | .error message => controller.returnFailure message
  | _ => controller

/-- `waitForCashOutConfirmation` is answered, or rejects or times out with a message. -/
def confirmationSettled (answer : Except String CashOutResult) : CashOutController :=
  match controller.flight with
  | .confirming =>
      match answer with
      | .ok result =>
          { controller with
            flight := .returned result
            confirmations := controller.confirmations ++ [result] }
      | .error message => controller.returnFailure message
  | _ => controller

/-- The handler of the result of `executeCashOut`, which never rejects. -/
def handleResult (now : Int) : CashOutController :=
  match controller.flight with
  | .returned result =>
      let landed := { controller with flight := .handled }
      if controller.resolved then landed
      else if result.success then
        { landed with
          state :=
            { controller.state with
              confirmed := true
              confirmedAtMultiplier := result.multiplier
              pnl := result.pnl
              confirmedAt := some now } }.resolveOnce
          { success := true
            finalState := .cashedOut
            pnl := some (result.pnl.getD 0)
            cashOutMultiplier := result.multiplier }
      else
        let error := result.error.getD "Cash-out failed"
        { landed with state := { controller.state with error := some error } }.resolveOnce
          { success := false, finalState := .failed, error := some error }
  | _ => controller

/-- The safety timer of the monitor fires. -/
def safetyTimeout : CashOutController :=
  if !controller.monitoring || controller.resolved then controller
  else
    controller.resolveOnce
      { success := false
        finalState := .unknown
        error := some "Cash-out monitor safety timeout exceeded" }

end CashOutController

/-- What happens to a controller. -/
inductive CashOutInput where
  | monitor
  | abort
  | tick (multiplier : Number) (now : Int)
  | crash (crashPoint : Number)
  | requestSettled (answer : Except String Bool)
  | confirmationSettled (answer : Except String CashOutResult)
  | handleResult (now : Int)
  | safetyTimeout

/-- One step. -/
def cashOutStep (controller : CashOutController) : CashOutInput → CashOutController
  | .monitor => controller.monitor
  | .abort => controller.abort
  | .tick multiplier now => controller.onTick multiplier now
  | .crash _ => controller.onCrash
  | .requestSettled answer => controller.requestSettled answer
  | .confirmationSettled answer => controller.confirmationSettled answer
  | .handleResult now => controller.handleResult now
  | .safetyTimeout => controller.safetyTimeout

/-- `new CashOutController(betId, roundId, ..)`. -/
def CashOutController.new (betId roundId : String) (targetMultiplier : Number)
    : CashOutController where
  targetMultiplier
  state := { betId, roundId }

end CrashWave.Betting

-----------------------------------------------------------------------------------------
-- The monitor in every order of events
-----------------------------------------------------------------------------------------

namespace CrashWave.Betting

open JavaScript Runs

namespace CashOutController

variable {controller : CashOutController}

/-- What a result of the monitor says about the controller. -/
def Explains (controller : CashOutController) (result : CashOutMonitorResult) : Prop :=
  match result.finalState with
  | .cashedOut =>
      controller.isComplete = true ∧ ∃ answer ∈ controller.confirmations, answer.success = true
  | .failed => controller.isComplete = true
  | .lost => controller.isComplete = false ∧ controller.state.triggered = false
  | .unknown => True
  | _ => False

/-- The cash-out is requested when it is triggered and flies from then on, and a success that
`executeCashOut` returned is one that the adapter confirmed.
-/
structure Requested (controller : CashOutController) : Prop where
  requested : controller.requests.length = if controller.state.triggered then 1 else 0
  inFlight : controller.cashOutInFlight = controller.state.triggered
  flying : controller.flight ≠ .grounded → controller.state.triggered = true
  returned
    : ∀ result, controller.flight = .returned result → result.success = true
      → result ∈ controller.confirmations

/-- The monitor has a result when it is resolved, is not complete before, and its result
explains the controller.
-/
structure Coherent (controller : CashOutController) : Prop extends Requested controller where
  resolvedOnce : controller.results.length = if controller.resolved then 1 else 0
  pending : controller.resolved = false → controller.isComplete = false
  explained : ∀ result ∈ controller.results, controller.Explains result

/-- The cash-out is requested at most once and the monitor resolved at most once; it is
resolved as lost only if the cash-out was never triggered, and as cashed out only if the
adapter reported success; it is complete from its resolution as cashed out or failed, and not
before it is resolved or if the bet was lost.
-/
structure Lawful (controller : CashOutController) : Prop where
  requestedOnce : controller.requests.length ≤ 1
  resolvedOnce : controller.results.length ≤ 1
  lost
    : ∀ result ∈ controller.results, result.finalState = .lost
      → controller.state.triggered = false ∧ controller.isComplete = false
  cashedOut
    : ∀ result ∈ controller.results, result.finalState = .cashedOut
      → ∃ answer ∈ controller.confirmations, answer.success = true
  complete
    : ∀ result ∈ controller.results,
        result.finalState = .cashedOut ∨ result.finalState = .failed
        → controller.isComplete = true
  incomplete : controller.results = [] → controller.isComplete = false

/-- A coherent controller is lawful. -/
theorem Coherent.lawful (coherent : Coherent controller) : Lawful controller := by
  refine ⟨?_, ?_, ?_, ?_, ?_, ?_⟩
  · rw [coherent.requested]
    split <;> decide
  · rw [coherent.resolvedOnce]
    split <;> decide
  · intro result member lost
    have explained := coherent.explained result member
    simp only [Explains, lost] at explained
    exact explained.symm
  · intro result member cashedOut
    have explained := coherent.explained result member
    simp only [Explains, cashedOut] at explained
    exact explained.2
  · rintro result member (cashedOut | failed)
    · have explained := coherent.explained result member
      simp only [Explains, cashedOut] at explained
      exact explained.1
    · have explained := coherent.explained result member
      simpa only [Explains, failed] using explained
  · intro none
    refine coherent.pending ?_
    have count := coherent.resolvedOnce
    rw [none] at count
    cases resolved : controller.resolved with
    | false => rfl
    | true =>
        rw [resolved] at count
        cases count

theorem Coherent.results_eq_nil (coherent : Coherent controller)
    (notResolved : controller.resolved = false) : controller.results = [] := by
  have count := coherent.resolvedOnce
  rw [notResolved] at count
  exact List.length_eq_zero_iff.mp count

-----------------------------------------------------------------------------------------
-- Steps
-----------------------------------------------------------------------------------------

/-- Resolving a monitor for the first time with a result that explains it keeps it coherent. -/
theorem Requested.resolveOnce {result : CashOutMonitorResult} (requested : Requested controller)
    (notResolved : controller.resolved = false) (none : controller.results = [])
    (explains : controller.Explains result)
    : Coherent (controller.resolveOnce result) := by
  rw [CashOutController.resolveOnce, if_neg (by simp [notResolved])]
  refine ⟨⟨requested.requested, requested.inFlight, requested.flying, requested.returned⟩,
    by simp [none], by simp, ?_⟩
  intro other member
  rw [none, List.nil_append, List.mem_singleton] at member
  exact member ▸ explains

theorem Coherent.fly {flight : CashOutFlight} (coherent : Coherent controller)
    (triggered : controller.state.triggered = true)
    (returned : ∀ result, flight = .returned result → result.success = true
      → result ∈ controller.confirmations)
    : Coherent { controller with flight } :=
  ⟨⟨coherent.requested, coherent.inFlight, fun _ => triggered, returned⟩,
    coherent.resolvedOnce, coherent.pending, coherent.explained⟩

theorem Coherent.returnFailure (coherent : Coherent controller)
    (triggered : controller.state.triggered = true) (error : String)
    : Coherent (controller.returnFailure error) := by
  refine coherent.fly triggered fun result failure success => ?_
  cases failure
  cases success

/-- The callbacks of a crash and of the timer go on only where the monitor is not resolved. -/
theorem not_resolved_of_ready
    (ready : ¬ (!controller.monitoring || controller.resolved) = true)
    : controller.resolved = false := by
  simp only [Bool.or_eq_true, not_or, Bool.not_eq_true] at ready
  exact ready.2

/-- A tick triggers the cash-out at most once. -/
theorem coherent_onTick (coherent : Coherent controller) (multiplier : Number) (now : Int)
    : Coherent (controller.onTick multiplier now) := by
  unfold onTick
  split
  · exact coherent
  · next ready =>
      split
      · next reached =>
          have notResolved : controller.resolved = false := by
            refine not_resolved_of_ready fun waits => ready ?_
            rw [waits, Bool.true_or]
          have none := coherent.results_eq_nil notResolved
          have first := coherent.requested
          rw [reached.2.2] at first
          refine ⟨⟨?_, rfl, fun _ => rfl, fun _ flight => by cases flight⟩,
            coherent.resolvedOnce, coherent.pending, by simp [none]⟩
          rw [List.length_append, first]
          rfl
      · exact coherent

/-- A crash resolves the monitor as lost only where nothing was triggered. -/
theorem coherent_onCrash (coherent : Coherent controller) : Coherent controller.onCrash := by
  unfold onCrash
  split
  · exact coherent
  · next ready =>
      split
      · exact coherent
      · split
        · next untriggered =>
            have notResolved := not_resolved_of_ready ready
            have none := coherent.results_eq_nil notResolved
            refine coherent.toRequested.resolveOnce notResolved none ?_
            exact ⟨coherent.pending notResolved, by simpa using untriggered⟩
        · exact coherent

/-- A further confirmation does not change what a result explains. -/
theorem Explains.confirmed {other : CashOutMonitorResult} {flight : CashOutFlight}
    (explains : controller.Explains other) (result : CashOutResult)
    : Explains
        { controller with flight, confirmations := controller.confirmations ++ [result] }
        other := by
  revert explains
  unfold Explains
  cases other.finalState with
  | cashedOut =>
      rintro ⟨complete, answer, member, success⟩
      exact ⟨complete, answer, List.mem_append_left _ member, success⟩
  | _ => exact id

/-- The answer to the request leaves the controller coherent. -/
theorem coherent_requestSettled (coherent : Coherent controller)
    (answer : Except String Bool) : Coherent (controller.requestSettled answer) := by
  unfold requestSettled
  split
  · next requesting =>
      have triggered := coherent.flying (by simp [requesting])
      split
      · exact coherent.fly triggered fun result flight => by cases flight
      · exact coherent.returnFailure triggered _
      · exact coherent.returnFailure triggered _
  · exact coherent

/-- A confirmation is on record when it is returned. -/
theorem coherent_confirmationSettled (coherent : Coherent controller)
    (answer : Except String CashOutResult)
    : Coherent (controller.confirmationSettled answer) := by
  unfold confirmationSettled
  split
  · next confirming =>
      have triggered := coherent.flying (by simp [confirming])
      split
      · next result =>
          refine ⟨⟨coherent.requested, coherent.inFlight, fun _ => triggered, ?_⟩,
            coherent.resolvedOnce, coherent.pending, ?_⟩
          · intro other returned _
            cases returned
            exact List.mem_append_right _ (List.mem_singleton_self result)
          · intro other member
            exact (coherent.explained other member).confirmed result
      · exact coherent.returnFailure triggered _
  · exact coherent

/-- The handler resolves the monitor by what was returned, unless it is resolved. -/
theorem coherent_handleResult (coherent : Coherent controller) (now : Int)
    : Coherent (controller.handleResult now) := by
  unfold handleResult
  split
  · next result returned =>
      have triggered := coherent.flying (by simp [returned])
      dsimp only
      split
      · exact coherent.fly triggered fun other flight => by cases flight
      · next unresolved =>
          have notResolved : controller.resolved = false := by simpa using unresolved
          have none := coherent.results_eq_nil notResolved
          split
          · next success =>
              refine Requested.resolveOnce ?_ notResolved none
                ⟨rfl, result, coherent.returned result returned success, success⟩
              exact ⟨coherent.requested, coherent.inFlight, fun _ => triggered,
                fun _ flight => by cases flight⟩
          · refine Requested.resolveOnce ?_ notResolved none ?_
            · exact ⟨coherent.requested, coherent.inFlight, fun _ => triggered,
                fun _ flight => by cases flight⟩
            · exact Bool.or_true _
  · exact coherent

/-- The safety timer resolves the monitor as unknown. -/
theorem coherent_safetyTimeout (coherent : Coherent controller)
    : Coherent controller.safetyTimeout := by
  unfold safetyTimeout
  split
  · exact coherent
  · next ready =>
      have notResolved := not_resolved_of_ready ready
      have none := coherent.results_eq_nil notResolved
      exact coherent.toRequested.resolveOnce notResolved none trivial

/-- Every step keeps the controller coherent. -/
theorem coherent_cashOutStep (input : CashOutInput) (coherent : Coherent controller)
    : Coherent (cashOutStep controller input) := by
  cases input with
  | monitor => exact ⟨⟨coherent.requested, coherent.inFlight, coherent.flying,
      coherent.returned⟩, coherent.resolvedOnce, coherent.pending, coherent.explained⟩
  | abort => exact ⟨⟨coherent.requested, coherent.inFlight, coherent.flying,
      coherent.returned⟩, coherent.resolvedOnce, coherent.pending, coherent.explained⟩
  | tick multiplier now => exact coherent_onTick coherent multiplier now
  | crash crashPoint => exact coherent_onCrash coherent
  | requestSettled answer => exact coherent_requestSettled coherent answer
  | confirmationSettled answer => exact coherent_confirmationSettled coherent answer
  | handleResult now => exact coherent_handleResult coherent now
  | safetyTimeout => exact coherent_safetyTimeout coherent

theorem coherent_new (betId roundId : String) (targetMultiplier : Number)
    : Coherent (.new betId roundId targetMultiplier) :=
  ⟨⟨rfl, rfl, fun flight => absurd rfl flight, fun _ flight => by cases flight⟩, rfl,
    fun _ => rfl, fun _ member => by cases member⟩

-----------------------------------------------------------------------------------------
-- Runs
-----------------------------------------------------------------------------------------

@[simp] theorem resolveOnce_resolved (controller : CashOutController)
    (result : CashOutMonitorResult) : (controller.resolveOnce result).resolved = true := by
  unfold resolveOnce
  split
  · assumption
  · rfl

/-- A resolved monitor stays resolved. -/
theorem resolved_cashOutStep (input : CashOutInput) (resolved : controller.resolved = true)
    : (cashOutStep controller input).resolved = true := by
  cases input with
  | monitor => exact resolved
  | abort => exact resolved
  | tick multiplier now => simp [cashOutStep, onTick, resolved]
  | crash crashPoint => simp [cashOutStep, onCrash, resolved]
  | requestSettled answer =>
      simp only [cashOutStep, requestSettled]
      split
      · split <;> exact resolved
      · exact resolved
  | confirmationSettled answer =>
      simp only [cashOutStep, confirmationSettled]
      split
      · split <;> exact resolved
      · exact resolved
  | handleResult now =>
      simp only [cashOutStep, handleResult]
      split
      · rw [if_pos resolved]
        exact resolved
      · exact resolved
  | safetyTimeout => simp [cashOutStep, safetyTimeout, resolved]

theorem resolved_safetyTimeout (monitoring : controller.monitoring = true)
    : controller.safetyTimeout.resolved = true := by
  unfold safetyTimeout
  cases resolved : controller.resolved with
  | true => simp [resolved]
  | false => simp [monitoring]

/-- Every run of a controller is lawful, and once the safety timer of its monitor has fired
the monitor has been resolved exactly once.
-/
theorem cashOut_lawful (betId roundId : String) (targetMultiplier : Number)
    (inputs : List CashOutInput)
    : let start := CashOutController.new betId roundId targetMultiplier
      Lawful (run cashOutStep start inputs)
      ∧ ∀ before after, inputs = before ++ .safetyTimeout :: after
        → (run cashOutStep start before).monitoring = true
        → (run cashOutStep start inputs).results.length = 1 := by
  intro start
  have coherent : ∀ inputs, Coherent (run cashOutStep start inputs) := fun inputs =>
    run_invariant (fun _ => coherent_cashOutStep) inputs (coherent_new ..)
  refine ⟨(coherent inputs).lawful, ?_⟩
  rintro before after rfl monitoring
  have resolved
      : (run cashOutStep start (before ++ .safetyTimeout :: after)).resolved = true := by
    rw [run, List.foldl_append, List.foldl_cons]
    have stays : ∀ (controller : CashOutController) (input : CashOutInput),
        controller.resolved = true → (cashOutStep controller input).resolved = true :=
      fun _ => resolved_cashOutStep
    exact run_invariant stays after (resolved_safetyTimeout monitoring)
  rw [(coherent _).resolvedOnce, resolved]
  rfl

/-- A crash next to the request of a cash-out leaves the round to its confirmation; the timer
that fires later adds nothing.
-/
theorem cashOut_confirmed_after_crash
    : let start := CashOutController.new "bet-1" "r1" (.finite (13 / 10))
      let before : List CashOutInput :=
        [.monitor, .tick (.finite (3 / 2)) 1, .crash (.finite (8 / 5)),
          .requestSettled (.ok true),
          .confirmationSettled (.ok { success := true, multiplier := some (.finite (3 / 2)) }),
          .handleResult 2]
      let ended := run cashOutStep start (before ++ [.safetyTimeout])
      Lawful ended ∧ ended.results.length = 1
      ∧ ended.results.map (·.finalState) = [.cashedOut] ∧ ended.isComplete = true := by
  intro start before ended
  have lawful := cashOut_lawful "bet-1" "r1" (.finite (13 / 10)) (before ++ [.safetyTimeout])
  exact ⟨lawful.1, lawful.2 before [] rfl (by decide +kernel), by decide +kernel,
    by decide +kernel⟩

/-- A round that crashes before the target resolves the monitor as lost, and leaves the
controller incomplete.
-/
theorem lost_is_incomplete
    : let start := CashOutController.new "bet-1" "r1" (.finite (13 / 10))
      let ended := run cashOutStep start [.monitor, .crash (.finite (23 / 20))]
      ended.resolved = true ∧ ended.results.map (·.finalState) = [.lost]
      ∧ ended.isComplete = false := by
  decide +kernel

end CashOutController

end CrashWave.Betting
