import CrashWave.Core.StateMachine.BetAccounting

/-! What a rejected event leaves behind: the round of a `ROUND_STARTED` is copied into the context
before the machine looks for a rule. And crashes of the round while a bet is in play: the table has
a row for them in two of the three states.
-/

namespace CrashWave.StateMachine

open JavaScript Runs

variable {machine : BettingStateMachine} {now : Int} {event : StateMachineEvent}

/-- A send that is rejected leaves the state and the whole context as they were. -/
def RejectionKeeps (machine : BettingStateMachine) : Call → Prop
  | .send now event =>
      (send machine now event).accepted = false → (send machine now event).machine = machine
  | .updateContext _ => True

/-- The event brings no round, or the one that is on record, or one that is entered: the
machine waits for a round, and the kill switch is engaged or the entry is open for it.
-/
def BringsNoStrayRound (machine : BettingStateMachine) : Call → Prop
  | .send now (.roundStarted roundId roundState) =>
      let event := StateMachineEvent.roundStarted roundId roundState
      (machine.context.currentRoundId = some roundId
        ∧ machine.context.roundState = some roundState)
      ∨ ((machine.state = .observing ∨ machine.state = .cooldown)
        ∧ (machine.context.killSwitch = true
          ∨ EntryOpen now (preloadContextFromEvent event machine.context) event))
  | .send _ _ | .updateContext _ => True

/-- A rejected event leaves the machine with the context that was preloaded from it. -/
theorem machine_of_rejected (rejected : (send machine now event).accepted = false)
    : (send machine now event).machine
      = { machine with context := preloadContextFromEvent event machine.context } := by
  have sends := send_sends machine now event
  generalize (send machine now event).machine = after at *
  generalize (send machine now event).accepted = flag at *
  cases sends with
  | ignored => rfl
  | escalated => cases rejected
  | taken => cases rejected

/-- So it keeps the machine exactly when it is accepted or preloads nothing new. -/
theorem rejectionKeeps_iff
    : RejectionKeeps machine (.send now event)
      ↔ (send machine now event).accepted = true
        ∨ preloadContextFromEvent event machine.context = machine.context := by
  rw [RejectionKeeps]
  cases accepted : (send machine now event).accepted with
  | true => simp
  | false =>
      obtain ⟨state, context⟩ := machine
      simp [machine_of_rejected accepted]

/-- Only a `ROUND_STARTED` preloads anything: its round. -/
theorem preload_roundStarted_iff {roundId : String} {roundState : RoundState}
    {context : StateMachineContext}
    : preloadContextFromEvent (.roundStarted roundId roundState) context = context
      ↔ context.currentRoundId = some roundId ∧ context.roundState = some roundState := by
  cases context
  simp [preloadContextFromEvent, eq_comm]

theorem roundRules_entry
    : ∀ rule ∈ transitionRules, rule.event = .roundStarted →
        (rule.fromState = .observing ∨ rule.fromState = .cooldown)
        ∧ rule.toState.isEntry = true := by
  decide

/-- The rule that a machine which waits for a round has for its start. -/
theorem findTransitions_roundStarted {state : BettingState}
    (waits : state = .observing ∨ state = .cooldown)
    : ∃ rule, findTransitions state .roundStarted = [rule] ∧ rule.requiresGuard = true := by
  rcases waits with rfl | rfl
  · exact ⟨_, rfl, rfl⟩
  · exact ⟨_, rfl, rfl⟩

/-- The guard of a round start permits every open entry. -/
theorem guardCanEvaluateEntry_of_open {context : StateMachineContext}
    (started : event.type = .roundStarted) (entry : EntryOpen now context event)
    : guardCanEvaluateEntry now context event = .permitted := by
  cases event with
  | roundStarted roundId roundState =>
      have valid : guardRoundValid context (some roundId) = .permitted := entry.roundValid
      simp only [guardCanEvaluateEntry, valid]
      exact guardAllEntryConditions_eq_permitted.mpr entry
  | _ => cases started

/-- A round start is accepted exactly while the machine waits for a round and either enters it
or escalates to `ERROR`, by the ways a send can go.
-/
theorem accepted_roundStarted_iff (started : event.type = .roundStarted)
    : (send machine now event).accepted = true
      ↔ (machine.state = .observing ∨ machine.state = .cooldown)
        ∧ (machine.context.killSwitch = true
          ∨ EntryOpen now (preloadContextFromEvent event machine.context) event) := by
  constructor
  · intro accepted
    have sends := send_sends machine now event
    generalize (send machine now event).machine = after at *
    generalize (send machine now event).accepted = flag at *
    cases sends with
    | ignored => cases accepted
    | escalated entered _ killed => exact ⟨entered, .inl killed⟩
    | taken rule listed fromState kind passed =>
        obtain ⟨waits, entry⟩ := roundRules_entry rule listed (kind.trans started)
        rw [fromState] at waits
        exact ⟨waits, .inr (entryOpen_of_taken listed fromState kind passed entry)⟩
  · intro waiting
    obtain ⟨waits, entered⟩ := waiting
    obtain ⟨rule, found, guarded⟩ := findTransitions_roundStarted waits
    have evaluated : evaluateGuard now machine.state
        (preloadContextFromEvent event machine.context) event
        = guardCanEvaluateEntry now (preloadContextFromEvent event machine.context) event := by
      rcases waits with state | state <;> simp [evaluateGuard, state, started]
    have escalates : shouldTransitionToErrorOnGuardFailure machine.state
        (preloadContextFromEvent event machine.context) event
        = machine.context.killSwitch := by
      rw [shouldTransitionToErrorOnGuardFailure, if_pos ⟨waits, started⟩, preload_killSwitch]
    simp only [send, started, found, guarded, if_true, evaluated, escalates]
    rcases entered with killed | entry
    · split
      · rfl
      · rw [if_pos killed]
    · rw [guardCanEvaluateEntry_of_open started entry]
      rfl

/-- Along every sequence of calls the rejected events leave the machine as it was exactly when
no event brings a stray round.
-/
theorem rejections_keep_iff (machine : BettingStateMachine) (calls : List Call)
    : Always call RejectionKeeps machine calls
      ↔ Always call BringsNoStrayRound machine calls := by
  refine always_congr ?_ machine calls
  intro machine next
  cases next with
  | updateContext overrides => exact Iff.rfl
  | send now event =>
      rw [rejectionKeeps_iff]
      cases event with
      | roundStarted roundId roundState =>
          rw [accepted_roundStarted_iff rfl, preload_roundStarted_iff, or_comm]
          exact Iff.rfl
      | _ => exact iff_of_true (.inr rfl) trivial

/-- A round that starts before the browser is ready is rejected, and its id stays. -/
theorem stray_round_kept
    : ¬ Always call RejectionKeeps (createStateMachine "s1")
      [.send 0 (.roundStarted "r1" startingRound)] := by
  intro kept
  have unchanged := congrArg (·.context.currentRoundId) (kept.1 (by decide))
  exact absurd unchanged (by decide)

end CrashWave.StateMachine

-----------------------------------------------------------------------------------------
-- Crashes of the round
-----------------------------------------------------------------------------------------

namespace CrashWave.StateMachine

open JavaScript Runs

/-- A crash that is sent while a bet is in play is accepted, and leaves no open bet. -/
def CrashCloses (machine : BettingStateMachine) : Call → Prop
  | .send now (.roundCrashed crashPoint) =>
      machine.state.holdsBet = true →
        (send machine now (.roundCrashed crashPoint)).accepted = true
        ∧ (send machine now (.roundCrashed crashPoint)).machine.context.openBetExists = false
  | .send _ _ | .updateContext _ => True

/-- A crash does not find the cash-out armed. -/
def CrashUnarmed (machine : BettingStateMachine) : Call → Prop
  | .send _ (.roundCrashed _) => machine.state ≠ .cashOutArmed
  | .send _ _ | .updateContext _ => True

theorem crashRules_fromState
    : ∀ rule ∈ transitionRules, rule.event = .roundCrashed →
        rule.fromState = .betActive ∨ rule.fromState = .cashOutRequested := by
  decide

/-- The rule for a crash completes the round without a guard. -/
theorem findTransitions_roundCrashed {state : BettingState}
    (closes : state = .betActive ∨ state = .cashOutRequested)
    : ∃ rule, findTransitions state .roundCrashed = [rule] ∧ rule.requiresGuard = false := by
  rcases closes with rfl | rfl
  · exact ⟨_, rfl, rfl⟩
  · exact ⟨_, rfl, rfl⟩

/-- A crash is accepted exactly in the two states that the table lists for it. -/
theorem accepted_roundCrashed_iff {machine : BettingStateMachine} {now : Int}
    {crashPoint : Number}
    : (send machine now (.roundCrashed crashPoint)).accepted = true
      ↔ machine.state = .betActive ∨ machine.state = .cashOutRequested := by
  constructor
  · intro accepted
    have sends := send_sends machine now (.roundCrashed crashPoint)
    generalize (send machine now (.roundCrashed crashPoint)).machine = after at *
    generalize (send machine now (.roundCrashed crashPoint)).accepted = flag at *
    cases sends with
    | ignored => cases accepted
    | escalated _ started => cases started
    | taken rule listed fromState kind =>
        rw [← fromState]
        exact crashRules_fromState rule listed kind
  · intro closes
    obtain ⟨rule, found, unguarded⟩ := findTransitions_roundCrashed closes
    simp [send, StateMachineEvent.type, found, unguarded, takeTransition]

/-- An accepted crash leaves no open bet, whatever the rule. -/
theorem openBetExists_of_crash {machine : BettingStateMachine} {now : Int}
    {crashPoint : Number}
    (accepted : (send machine now (.roundCrashed crashPoint)).accepted = true)
    : (send machine now (.roundCrashed crashPoint)).machine.context.openBetExists = false := by
  have sends := send_sends machine now (.roundCrashed crashPoint)
  generalize (send machine now (.roundCrashed crashPoint)).machine = after at *
  generalize (send machine now (.roundCrashed crashPoint)).accepted = flag at *
  cases sends with
  | ignored => cases accepted
  | escalated _ started => cases started
  | taken rule =>
      have flags := congrArg (·.openBetExists)
        (applySideEffects_betFlags now (.roundCrashed crashPoint) rule.toState
          (preloadContextFromEvent (.roundCrashed crashPoint) machine.context))
      exact flags

/-- Along every sequence of calls the crashes close the rounds in play exactly when none of them
finds the cash-out armed.
-/
theorem crashes_close_iff (machine : BettingStateMachine) (calls : List Call)
    : Always call CrashCloses machine calls ↔ Always call CrashUnarmed machine calls := by
  refine always_congr ?_ machine calls
  intro machine next
  cases next with
  | updateContext overrides => exact Iff.rfl
  | send now event =>
      cases event with
      | roundCrashed crashPoint =>
          constructor
          · intro closes armed
            have inPlay : machine.state.holdsBet = true := by
              rw [armed]
              rfl
            have listed := accepted_roundCrashed_iff.mp (closes inPlay).1
            rw [armed] at listed
            rcases listed with other | other <;> cases other
          · intro unarmed inPlay
            have listed : machine.state = .betActive ∨ machine.state = .cashOutRequested := by
              cases state : machine.state with
              | betActive => exact .inl rfl
              | cashOutRequested => exact .inr rfl
              | cashOutArmed => exact absurd state unarmed
              | _ => simp [state, BettingState.holdsBet] at inPlay
            have accepted : (send machine now (.roundCrashed crashPoint)).accepted = true :=
              accepted_roundCrashed_iff.mpr listed
            exact ⟨accepted, openBetExists_of_crash accepted⟩
      | _ => exact Iff.rfl

/-- A round that crashes after its bet has reached the target, and before the cash-out is
triggered, is not closed.
-/
theorem armed_crash_ignored
    : ¬ Always call CrashCloses fundedMachine
      [.send 0 .browserReady, .send 1 .gameLoaded, .send 2 (.roundStarted "r1" startingRound),
        .send 3 .riskApproved, .send 4 .entryChecksPassed, .send 5 (.betConfirmed "b1"),
        .send 6 (.multiplierReachedTarget 2), .send 7 (.roundCrashed 2)] := by
  intro closes
  obtain ⟨_, _, _, _, _, _, _, closes, _⟩ := closes
  obtain ⟨accepted, _⟩ := closes (by decide +kernel)
  exact absurd accepted (by decide +kernel)

end CrashWave.StateMachine
