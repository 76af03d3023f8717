import CrashWave.Core.StateMachine.BetAccounting

/-! No second bet while one is unresolved. A monitor follows the bet of a run of sends;
entry stays closed unless a reconciliation ends without resolving the bet.
-/

namespace CrashWave.StateMachine

open JavaScript Runs

/-- What a run has done with its latest bet: nothing is unresolved, a placement was
entered, or that placement was confirmed.
-/
inductive BetWatch where
  | settled
  | placed
  | confirmed
  deriving DecidableEq

/-- The events that settle what became of a bet. -/
def resolvesBet : StateMachineEvent → Bool
  | .cashOutConfirmed _ _ | .roundCrashed _ | .betPlacementFailed _ | .reset
  | .reconciliationComplete .cashedOut | .reconciliationComplete .lost => true
  | _ => false

/-- The send is accepted and enters `BET_PLACING`. -/
def placesBet (machine : BettingStateMachine) (input : Int × StateMachineEvent) : Prop :=
  (send machine input.1 input.2).accepted = true
  ∧ (send machine input.1 input.2).newState = .betPlacing

/-- The send is an accepted `BET_CONFIRMED`. -/
def confirmsBet (machine : BettingStateMachine) (input : Int × StateMachineEvent) : Prop :=
  (send machine input.1 input.2).accepted = true ∧ input.2.type = .betConfirmed

/-- Follows the bet: a placement starts it, an accepted confirmation and an accepted
resolving event move it on, rejected events say nothing.
-/
def BetWatch.next (watch : BetWatch) (accepted : Bool) (newState : BettingState)
    (event : StateMachineEvent) : BetWatch :=
  if accepted = true ∧ newState = .betPlacing then .placed
  else if accepted = true ∧ resolvesBet event = true then .settled
  else if accepted = true ∧ event.type = .betConfirmed ∧ watch = .placed then .confirmed
  else watch

/-- The monitor of a run of sends. -/
def watchBet (watch : BetWatch) (machine : BettingStateMachine)
    (input : Int × StateMachineEvent) : BetWatch :=
  watch.next (send machine input.1 input.2).accepted (send machine input.1 input.2).newState
    input.2

/-- While a bet is unresolved no placement is entered, and after its confirmation no
further `BET_CONFIRMED` is accepted.
-/
def NoSecondBet (watched : BettingStateMachine × BetWatch)
    (input : Int × StateMachineEvent) : Prop :=
  (watched.2 ≠ .settled → ¬ placesBet watched.1 input)
  ∧ (watched.2 = .confirmed → ¬ confirmsBet watched.1 input)

/-- A reconciliation of an unresolved bet neither ends `UNKNOWN` nor is declared complete
while the context records no open bet.
-/
def ReconciliationResolves (watched : BettingStateMachine × BetWatch)
    (input : Int × StateMachineEvent) : Prop :=
  watched.2 ≠ .settled
  → watched.1.state = .reconciling
  → input.2 ≠ .reconciliationComplete .unknown
    ∧ (input.2 = .recoveryComplete → watched.1.context.openBetExists = true)

instance (machine : BettingStateMachine) (input : Int × StateMachineEvent)
    : Decidable (placesBet machine input) :=
  inferInstanceAs (Decidable (_ ∧ _))

instance (machine : BettingStateMachine) (input : Int × StateMachineEvent)
    : Decidable (confirmsBet machine input) :=
  inferInstanceAs (Decidable (_ ∧ _))

instance (watched : BettingStateMachine × BetWatch) (input : Int × StateMachineEvent)
    : Decidable (NoSecondBet watched input) :=
  inferInstanceAs (Decidable (_ ∧ _))

instance (watched : BettingStateMachine × BetWatch) (input : Int × StateMachineEvent)
    : Decidable (ReconciliationResolves watched input) :=
  inferInstanceAs (Decidable (_ → _))

/-- The states in which a bet may be unresolved, by whether the context records it. -/
def unresolvedState : BettingState → Bool → Bool
  | .betPlacing, openBetExists => !openBetExists
  | .error, _ | .reconciling, _ | .halted, _ => true
  | .betActive, openBetExists | .cashOutArmed, openBetExists
  | .cashOutRequested, openBetExists | .observing, openBetExists
  | .paused, openBetExists => openBetExists
  | _, _ => false

/-- The event types that can resolve a bet. -/
def EventType.mayResolve : EventType → Bool
  | .cashOutConfirmed | .roundCrashed | .betPlacementFailed | .reset
  | .reconciliationComplete => true
  | _ => false

/-- Every rule of the table taken from a state of an unresolved bet resolves it, or enters
no placement and stays in such a state, keeping a recorded bet on record; a confirmation
is not among those taken with a recorded bet. Checked on the table for both flags.
-/
theorem transitionRules_unresolved
    : ∀ rule ∈ transitionRules, ∀ openBetExists hasBetId : Bool,
        unresolvedState rule.fromState openBetExists = true
        → (rule.toState.isEntry = true → openBetExists = false)
        → (rule.event = .recoveryComplete → openBetExists = true)
        → rule.toState ≠ .betPlacing
          ∧ (openBetExists = true → rule.event ≠ .betConfirmed)
          ∧ (rule.event.mayResolve = true
            ∨ (let after := (betFlagsAfter rule.event ⟨openBetExists, hasBetId⟩).openBetExists
              unresolvedState rule.toState after = true
              ∧ (rule.event = .betConfirmed ∨ openBetExists = true → after = true))) := by
  decide

theorem reconciliationRules_fromState
    : ∀ rule ∈ transitionRules,
        rule.event = .reconciliationComplete ∨ rule.event = .recoveryComplete
        → rule.fromState = .reconciling := by
  decide

/-- An event that may resolve does resolve, unless it is a reconciliation ending
`UNKNOWN`.
-/
theorem resolvesBet_of_mayResolve {event : StateMachineEvent}
    (may : event.type.mayResolve = true) (known : event ≠ .reconciliationComplete .unknown)
    : resolvesBet event = true := by
  cases event with
  | reconciliationComplete resolution =>
      cases resolution with
      | unknown => exact absurd rfl known
      | cashedOut | lost => rfl
  | cashOutConfirmed | roundCrashed | betPlacementFailed | reset => rfl
  | _ => exact absurd may Bool.false_ne_true

/-- Either nothing is unresolved, or the machine is in a state of an unresolved bet, with
the bet on record once it was confirmed.
-/
def BetWatched (watched : BettingStateMachine × BetWatch) : Prop :=
  watched.2 = .settled
  ∨ (unresolvedState watched.1.state watched.1.context.openBetExists = true
    ∧ (watched.2 = .confirmed → watched.1.context.openBetExists = true))

theorem placementRules_unresolved
    : ∀ rule ∈ transitionRules, rule.toState = .betPlacing → ∀ hasBetId : Bool,
        unresolvedState rule.toState
          (betFlagsAfter rule.event ⟨false, hasBetId⟩).openBetExists = true := by
  decide

/-- The open-bet flag after a taken rule, through the flags of its event type. -/
theorem taken_openBetExists {now : Int} {event : StateMachineEvent}
    {context : StateMachineContext} {rule : TransitionRule} (kind : rule.event = event.type)
    : (applySideEffects now event rule.toState
        (preloadContextFromEvent event context)).openBetExists
      = (betFlagsAfter rule.event context.betFlags).openBetExists := by
  have flags := applySideEffects_betFlags now event rule.toState
    (preloadContextFromEvent event context)
  rw [preload_betFlags, ← kind] at flags
  exact congrArg BetFlags.openBetExists flags

/-- One watched send from a settled bet keeps the watch right: it can only start to follow
a placement, which is entered without a recorded bet.
-/
theorem betWatched_of_settled {machine : BettingStateMachine}
    (input : Int × StateMachineEvent)
    : BetWatched (watched sendStep watchBet (machine, .settled) input) := by
  obtain ⟨now, event⟩ := input
  have sends := send_sends machine now event
  simp only [watched, sendStep, watchBet, SendOutcome.newState]
  generalize (send machine now event).machine = after at *
  generalize (send machine now event).accepted = flag at *
  cases sends with
  | ignored | escalated => exact .inl (by simp [BetWatch.next])
  | taken rule listed fromState kind passed =>
      by_cases placing : rule.toState = .betPlacing
      · refine .inr ⟨?_, by simp [BetWatch.next, placing]⟩
        have isEntry : rule.toState.isEntry = true := by
          rw [placing]
          rfl
        have noOpenBet := noOpenBet_of_taken listed fromState kind passed isEntry
        have flags : machine.context.betFlags
            = ⟨false, machine.context.currentBetId.isSome⟩ := by
          rw [StateMachineContext.betFlags, noOpenBet]
        rw [taken_openBetExists kind, flags]
        exact placementRules_unresolved rule listed placing _
      · exact .inl (by simp [BetWatch.next, placing])

/-- The end of a reconciliation that resolves does so by the rule that takes it. -/
theorem ReconciliationResolves.of_taken {machine : BettingStateMachine} {watch : BetWatch}
    {input : Int × StateMachineEvent} {rule : TransitionRule}
    (resolves : ReconciliationResolves (machine, watch) input) (unsettled : watch ≠ .settled)
    (listed : rule ∈ transitionRules) (fromState : rule.fromState = machine.state)
    (completes : rule.event = .reconciliationComplete ∨ rule.event = .recoveryComplete)
    : input.2 ≠ .reconciliationComplete .unknown
      ∧ (input.2 = .recoveryComplete → machine.context.openBetExists = true) :=
  resolves unsettled (fromState.symm.trans (reconciliationRules_fromState rule listed completes))

/-- Events of the type of a completed recovery are that event. -/
theorem eq_recoveryComplete_of_type {event : StateMachineEvent}
    (recovery : event.type = .recoveryComplete)
    : event = .recoveryComplete := by
  cases event <;> first | rfl | exact absurd recovery (by simp [StateMachineEvent.type])

/-- One watched send while a bet is unresolved enters no placement, accepts no second
confirmation and keeps the watch right, given that reconciliations resolve. The taken
rules are settled by the table.
-/
theorem noSecondBet_of_unresolved {machine : BettingStateMachine} {watch : BetWatch}
    {input : Int × StateMachineEvent} (unsettled : watch ≠ .settled)
    (inv : BetWatched (machine, watch))
    (resolves : ReconciliationResolves (machine, watch) input)
    : NoSecondBet (machine, watch) input
      ∧ BetWatched (watched sendStep watchBet (machine, watch) input) := by
  obtain ⟨now, event⟩ := input
  obtain ⟨state, recorded⟩ := inv.resolve_left unsettled
  have sends := send_sends machine now event
  simp only [NoSecondBet, watched, sendStep, watchBet, placesBet, confirmsBet,
    SendOutcome.newState]
  generalize (send machine now event).machine = after at *
  generalize (send machine now event).accepted = flag at *
  cases sends with
  | ignored =>
      refine ⟨by simp, .inr ?_⟩
      simpa [BetWatch.next, preload_openBetExists] using ⟨state, recorded⟩
  | escalated entered started killed =>
      have unresolving : resolvesBet event = false := by
        cases event <;> first | rfl | exact absurd started (by simp [StateMachineEvent.type])
      refine ⟨by simp [started], .inr ⟨rfl, ?_⟩⟩
      simpa [BetWatch.next, unresolving, started, preload_openBetExists] using recorded
  | taken rule listed fromState kind passed =>
      have entryClosed : rule.toState.isEntry = true
          → machine.context.openBetExists = false :=
        noOpenBet_of_taken listed fromState kind passed
      have recovers : rule.event = .recoveryComplete
          → machine.context.openBetExists = true := by
        intro recovery
        refine (resolves.of_taken unsettled listed fromState (.inr recovery)).2 ?_
        exact eq_recoveryComplete_of_type (kind.symm.trans recovery)
      rw [← fromState] at state
      obtain ⟨notPlacing, unconfirmed, kept⟩ := transitionRules_unresolved rule listed
        machine.context.openBetExists machine.context.currentBetId.isSome state entryClosed
        recovers
      rw [kind] at unconfirmed
      refine ⟨⟨by simp [notPlacing], fun confirmed => ?_⟩, ?_⟩
      · simpa using unconfirmed (recorded confirmed)
      · rcases kept with may | ⟨next, onRecord⟩
        · have known : event ≠ .reconciliationComplete .unknown := by
            intro unknown
            refine (resolves.of_taken unsettled listed fromState (.inl ?_)).1 unknown
            rw [kind, unknown]
            rfl
          rw [kind] at may
          exact .inl (by simp [BetWatch.next, notPlacing, resolvesBet_of_mayResolve may known])
        · have onRecord' : rule.event = .betConfirmed
                ∨ machine.context.openBetExists = true
              → (betFlagsAfter rule.event machine.context.betFlags).openBetExists = true :=
            onRecord
          by_cases resolved : resolvesBet event = true
          · exact .inl (by simp [BetWatch.next, notPlacing, resolved])
          · refine .inr ⟨?_, ?_⟩
            · rw [taken_openBetExists kind]
              exact next
            · rw [taken_openBetExists kind]
              intro confirmed
              apply onRecord'
              by_cases confirms : event.type = .betConfirmed
              · exact .inl (kind.trans confirms)
              · exact .inr (recorded (by
                  simpa [BetWatch.next, notPlacing, resolved, confirms] using confirmed))

/-- In every run of sends whose reconciliations resolve the bet they are about, no second
placement is entered and no second confirmation accepted while a bet is unresolved.
-/
theorem noSecondBet_of_reconciliationResolves (machine : BettingStateMachine)
    (inputs : List (Int × StateMachineEvent))
    (resolves : Always (watched sendStep watchBet) ReconciliationResolves
      (machine, .settled) inputs)
    : Always (watched sendStep watchBet) NoSecondBet (machine, .settled) inputs := by
  have initial : BetWatched (machine, .settled) := .inl rfl
  refine Always.of_invariant ?_ resolves initial
  rintro ⟨state, watch⟩ input inv lawful
  by_cases settled : watch = .settled
  · subst settled
    refine ⟨⟨fun contradiction => absurd rfl contradiction, ?_⟩,
      betWatched_of_settled input⟩
    intro confirmed
    exact absurd confirmed (by simp)
  · exact noSecondBet_of_unresolved settled inv lawful

/-- Two rounds in a row: the first bet is confirmed and lost, the second is placed. -/
theorem noSecondBet_over_two_rounds
    : let inputs := confirmedEntry
        ++ [(6, .roundCrashed 2), (7, .outcomeRecorded), (8, .cooldownElapsed),
          (9000, .roundStarted "r2" startingRound), (9001, .riskApproved),
          (9002, .entryChecksPassed)]
      (run sendStep fundedMachine inputs).state = .betPlacing
      ∧ Always (watched sendStep watchBet) NoSecondBet (fundedMachine, .settled) inputs := by
  intro inputs
  refine ⟨by decide +kernel, noSecondBet_of_reconciliationResolves fundedMachine inputs ?_⟩
  decide +kernel

/-- The events up to a placement whose outcome stays open. -/
def openPlacement : List (Int × StateMachineEvent) :=
  [(0, .browserReady), (1, .gameLoaded), (2, .roundStarted "r1" startingRound),
    (3, .riskApproved), (4, .entryChecksPassed)]

/-- The events of the next round, up to its placement. -/
def nextPlacement : List (Int × StateMachineEvent) :=
  [(20, .roundStarted "r2" startingRound), (21, .riskApproved), (22, .entryChecksPassed)]

/-- A placement that times out and is recovered from, and a confirmed bet whose
reconciliation ends `UNKNOWN`, both let a second bet be placed.
-/
theorem unresolved_bet_reopens_entry
    : ¬ Always (watched sendStep watchBet) NoSecondBet (fundedMachine, .settled)
        (openPlacement
          ++ [(10, .betPlacementTimeout), (11, .recover), (12, .recoveryComplete)]
          ++ nextPlacement)
      ∧ ¬ Always (watched sendStep watchBet) NoSecondBet (fundedMachine, .settled)
        (confirmedEntry
          ++ [(10, .reconcile none), (11, .reconciliationComplete .unknown)]
          ++ nextPlacement) := by
  refine ⟨?_, ?_⟩ <;> decide +kernel

end CrashWave.StateMachine
