import CrashWave.Core.StateMachine.UnresolvedBets

/-! How far an emergency halt holds: sent in a state that lists it, it keeps bets out until
an accepted reset; sent in any other state it is dropped.
-/

namespace CrashWave.StateMachine

open JavaScript Runs

/-- The states in which a halt takes the machine to `HALTED`, or finds it there. -/
def BettingState.takesHalt : BettingState → Bool
  | .error | .observing | .paused | .reconciling | .betActive | .halted => true
  | _ => false

/-- The send is accepted and enters a state with a bet: `BET_PLACING` or `BET_ACTIVE`. -/
def entersBet (machine : BettingStateMachine) (input : Int × StateMachineEvent) : Prop :=
  (send machine input.1 input.2).accepted = true
  ∧ ((send machine input.1 input.2).newState = .betPlacing
    ∨ (send machine input.1 input.2).newState = .betActive)

/-- The send is an accepted `RESET`. -/
def acceptsReset (machine : BettingStateMachine) (input : Int × StateMachineEvent) : Prop :=
  (send machine input.1 input.2).accepted = true ∧ input.2 = .reset

instance (machine : BettingStateMachine) (input : Int × StateMachineEvent)
    : Decidable (entersBet machine input) :=
  inferInstanceAs (Decidable (_ ∧ _))

instance (machine : BettingStateMachine) (input : Int × StateMachineEvent)
    : Decidable (acceptsReset machine input) :=
  inferInstanceAs (Decidable (_ ∧ _))

/-- Whether a halt has been sent, accepted or not, since the last accepted reset. -/
def watchHalt (haltSent : Bool) (machine : BettingStateMachine)
    (input : Int × StateMachineEvent) : Bool :=
  if acceptsReset machine input then false
  else haltSent || decide (input.2.type = .halt)

/-- After a halt no state with a bet is entered. -/
def HaltHolds (watched : BettingStateMachine × Bool) (input : Int × StateMachineEvent)
    : Prop :=
  watched.2 = true → ¬ entersBet watched.1 input

/-- Halts are sent only in states that take them. -/
def HaltTaken (watched : BettingStateMachine × Bool) (input : Int × StateMachineEvent)
    : Prop :=
  input.2.type = .halt → watched.1.state.takesHalt = true

instance (watched : BettingStateMachine × Bool) (input : Int × StateMachineEvent)
    : Decidable (HaltHolds watched input) :=
  inferInstanceAs (Decidable (_ → _))

instance (watched : BettingStateMachine × Bool) (input : Int × StateMachineEvent)
    : Decidable (HaltTaken watched input) :=
  inferInstanceAs (Decidable (_ → _))

theorem halted_of_takesHalt {machine : BettingStateMachine} {now : Int} {reason : String}
    (takes : machine.state.takesHalt = true)
    : (send machine now (.halt reason)).machine.state = .halted := by
  obtain ⟨state, context⟩ := machine
  cases state with
  | error | observing | paused | reconciling | betActive | halted => rfl
  | _ => exact absurd takes Bool.false_ne_true

theorem haltedRules_reset
    : ∀ rule ∈ transitionRules, rule.fromState = .halted →
        rule.event = .reset ∧ rule.toState = .idle := by
  decide

/-- A send to a halted machine is an accepted reset, or leaves it halted and accepts
nothing, by the ways a send can go.
-/
theorem halted_send {machine : BettingStateMachine} {input : Int × StateMachineEvent}
    (halted : machine.state = .halted)
    : (acceptsReset machine input ∧ ¬ entersBet machine input)
      ∨ ((sendStep machine input).state = .halted ∧ ¬ entersBet machine input) := by
  obtain ⟨now, event⟩ := input
  have sends := send_sends machine now event
  simp only [acceptsReset, entersBet, sendStep, SendOutcome.newState]
  generalize (send machine now event).machine = after at *
  generalize (send machine now event).accepted = flag at *
  cases sends with
  | ignored => exact .inr ⟨halted, by simp⟩
  | escalated entered =>
      rw [halted] at entered
      exact absurd entered (by simp)
  | taken rule listed fromState kind passed =>
      obtain ⟨reset, idle⟩ := haltedRules_reset rule listed (fromState.trans halted)
      rw [kind] at reset
      have isReset : event = .reset := by
        cases event <;> first | rfl | exact absurd reset (by simp [StateMachineEvent.type])
      exact .inl ⟨⟨rfl, isReset⟩, by simp [idle]⟩

/-- While a sent halt is in force the machine is halted. -/
def HaltInForce (watched : BettingStateMachine × Bool) : Prop :=
  watched.2 = true → watched.1.state = .halted

/-- One watched send keeps the halt in force and enters no bet under it, given that halts
are sent where they are taken.
-/
theorem haltHolds_step {watching : BettingStateMachine × Bool}
    {input : Int × StateMachineEvent} (inv : HaltInForce watching)
    (taken : HaltTaken watching input)
    : HaltHolds watching input ∧ HaltInForce (watched sendStep watchHalt watching input) := by
  obtain ⟨machine, haltSent⟩ := watching
  constructor
  · intro sent
    rcases halted_send (inv sent) with reset | stays
    · exact reset.2
    · exact stays.2
  · intro sent
    simp only [watched, watchHalt] at sent
    split at sent
    · exact absurd sent Bool.false_ne_true
    · next notReset =>
        rcases Bool.or_eq_true_iff.mp sent with before | halts
        · rcases halted_send (inv before) with reset | stays
          · exact absurd reset.1 notReset
          · exact stays.1
        · obtain ⟨now, event⟩ := input
          cases event with
          | halt reason => exact halted_of_takesHalt (taken rfl)
          | _ => exact absurd halts (by simp [StateMachineEvent.type])

theorem sendStep_dropped_halt {machine : BettingStateMachine} {now : Int} {reason : String}
    (drops : machine.state.takesHalt = false)
    : sendStep machine (now, .halt reason) = machine := by
  obtain ⟨state, context⟩ := machine
  cases state <;> first | rfl | exact absurd drops Bool.noConfusion

/-- A dropped halt does not hold along a run on which a bet follows it. -/
theorem not_haltHolds_of_dropped {machine : BettingStateMachine} {now : Int}
    {reason : String} {before after : List (Int × StateMachineEvent)}
    (drops : (run sendStep machine before).state.takesHalt = false)
    (bets : ¬ Always (watched sendStep watchHalt) HaltHolds
      (run sendStep machine before, true) after)
    : ¬ Always (watched sendStep watchHalt) HaltHolds (machine, false)
        (before ++ (now, .halt reason) :: after) := by
  intro holds
  have rest := (always_append.mp holds).2.2
  have reached := run_watched_fst sendStep watchHalt (machine, false) before
  generalize run (watched sendStep watchHalt) (machine, false) before = middle at *
  obtain ⟨reachedMachine, haltSent⟩ := middle
  subst reached
  have dropped : watched sendStep watchHalt (run sendStep machine before, haltSent)
      (now, .halt reason) = (run sendStep machine before, true) := by
    simp [watched, watchHalt, acceptsReset, StateMachineEvent.type,
      sendStep_dropped_halt drops]
  rw [dropped] at rest
  exact bets rest

/-- A whole round of a bet that is cashed out, through every state that drops a halt, and
the beginning of the next one.
-/
def roundTrip : List (Int × StateMachineEvent) :=
  confirmedEntry
    ++ [(6, .multiplierReachedTarget 2), (7, .cashOutTriggered), (8, .cashOutConfirmed 2 10),
      (9, .outcomeRecorded), (10, .cooldownElapsed), (9000, .roundStarted "r2" startingRound),
      (9001, .riskApproved), (9002, .entryChecksPassed)]

/-- How far along the round trip a state that drops halts is reached. -/
def roundTripPosition : BettingState → Nat
  | .readyToObserve => 1
  | .entryEvaluating => 3
  | .entryApproved => 4
  | .betPlacing => 5
  | .cashOutArmed => 7
  | .cashOutRequested => 8
  | .roundComplete => 9
  | .resultRecorded => 10
  | .cooldown => 11
  | _ => 0

/-- In every run that sends its halts in states that take them, no bet is entered after a
halt until a reset is accepted. From every other state a run of a fresh machine goes on
to a bet after the halt, without any reset.
-/
theorem halt_holds_iff_taken (machine : BettingStateMachine)
    (inputs : List (Int × StateMachineEvent))
    : (Always (watched sendStep watchHalt) HaltTaken (machine, false) inputs
        → Always (watched sendStep watchHalt) HaltHolds (machine, false) inputs)
      ∧ ∀ state : BettingState, state.takesHalt = false → ∀ reason : String,
        ∃ before after : List (Int × StateMachineEvent),
          (run sendStep fundedMachine before).state = state
          ∧ (∀ input ∈ before ++ after, input.2 ≠ .reset)
          ∧ ¬ Always (watched sendStep watchHalt) HaltHolds (fundedMachine, false)
            (before ++ (0, .halt reason) :: after) := by
  constructor
  · intro taken
    have initial : HaltInForce (machine, false) := fun sent => absurd sent Bool.false_ne_true
    exact Always.of_invariant (fun _ _ => haltHolds_step) taken initial
  · intro state drops reason
    have reached : (run sendStep fundedMachine
        (roundTrip.take (roundTripPosition state))).state = state := by
      cases state <;> first | exact absurd drops Bool.noConfusion | decide +kernel
    refine ⟨roundTrip.take (roundTripPosition state),
      roundTrip.drop (roundTripPosition state), reached, ?_, ?_⟩
    · rw [List.take_append_drop]
      decide
    · refine not_haltHolds_of_dropped (by rw [reached]; exact drops) ?_
      cases state <;> first | exact absurd drops Bool.noConfusion | decide +kernel

/-- A halt sent to an active bet is taken; the round that follows it is not entered. -/
theorem halt_holds_from_active_bet
    : Always (watched sendStep watchHalt) HaltHolds (fundedMachine, false)
        (confirmedEntry ++ (6, .halt "operator") :: roundTrip) :=
  (halt_holds_iff_taken fundedMachine _).1 (by decide +kernel)

/-- A halt sent in `ENTRY_APPROVED` is dropped, and the bet is placed right after it. -/
theorem halt_dropped_before_placement
    : ¬ Always (watched sendStep watchHalt) HaltHolds (fundedMachine, false)
        (confirmedEntry.take 4 ++ [(4, .halt "operator"), (5, .entryChecksPassed)]) := by
  decide +kernel

end CrashWave.StateMachine
