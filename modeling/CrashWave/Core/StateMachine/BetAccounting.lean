import CrashWave.Core.StateMachine.EntryGuards

/-! Bet accounting: which states record an open bet, in every context reachable by sends. -/

namespace CrashWave.StateMachine

open JavaScript Runs

/-- The machine after one send; a run of sends folds this over times and events. -/
def sendStep (machine : BettingStateMachine) (input : Int × StateMachineEvent)
    : BettingStateMachine :=
  (send machine input.1 input.2).machine

/-- The states in which a confirmed bet is in play. -/
def BettingState.holdsBet : BettingState → Bool
  | .betActive | .cashOutArmed | .cashOutRequested => true
  | _ => false

/-- The states that are never left with an open bet on record. -/
def BettingState.holdsNoBet : BettingState → Bool
  | .idle | .readyToObserve | .entryEvaluating | .entryApproved | .betPlacing
  | .roundComplete | .resultRecorded | .cooldown => true
  | _ => false

/-- The bet flags a state admits. The remaining states admit any: a bet may have been left
open by an interruption.
-/
def accountedFlags (state : BettingState) (flags : BetFlags) : Bool :=
  (state.holdsBet → flags.openBetExists ∧ flags.hasBetId)
  ∧ (state.holdsNoBet → flags.openBetExists = false)

/-- The machine's bet flags are admitted by its state. -/
def BetAccounted (machine : BettingStateMachine) : Prop :=
  accountedFlags machine.state machine.context.betFlags = true

/-- Every rule of the table leads from admitted flags to admitted flags, given that no bet
is open when it enters an entry state. Checked on the table for all flags.
-/
theorem transitionRules_accounted
    : ∀ rule ∈ transitionRules, ∀ openBetExists hasBetId : Bool,
        accountedFlags rule.fromState ⟨openBetExists, hasBetId⟩ = true
        → (rule.toState.isEntry = true → openBetExists = false)
        → accountedFlags rule.toState
            (betFlagsAfter rule.event ⟨openBetExists, hasBetId⟩) = true := by
  decide

/-- Every send keeps the accounting, by the ways it can go. -/
theorem BetAccounted.send {machine : BettingStateMachine} (accounted : BetAccounted machine)
    (now : Int) (event : StateMachineEvent)
    : BetAccounted (StateMachine.send machine now event).machine := by
  have sends := send_sends machine now event
  generalize (StateMachine.send machine now event).machine = after at *
  generalize (StateMachine.send machine now event).accepted = flag at *
  cases sends with
  | ignored => simpa only [BetAccounted, preload_betFlags] using accounted
  | escalated => rfl
  | taken rule listed fromState kind passed =>
      have noOpenBet : rule.toState.isEntry = true
          → machine.context.openBetExists = false :=
        noOpenBet_of_taken listed fromState kind passed
      have start : accountedFlags rule.fromState machine.context.betFlags = true := by
        rw [fromState]
        exact accounted
      have next : accountedFlags rule.toState
          (betFlagsAfter rule.event machine.context.betFlags) = true :=
        transitionRules_accounted rule listed _ _ start noOpenBet
      simpa only [BetAccounted, applySideEffects_betFlags, preload_betFlags, ← kind]
        using next

theorem BetAccounted.run {machine : BettingStateMachine} (accounted : BetAccounted machine)
    (inputs : List (Int × StateMachineEvent))
    : BetAccounted (Runs.run sendStep machine inputs) :=
  run_invariant (fun _ input inv => inv.send input.1 input.2) inputs accounted

/-- In every context reached by sends from the default initial context, under any overrides
that leave the open-bet flag off, `openBetExists` and `currentBetId` are set while a
bet is in play and `openBetExists` is off in the states that hold no bet.
-/
theorem reachable_bet_accounting (sessionId : String) (overrides : ContextOverrides)
    (noOpenBet : overrides.openBetExists ≠ some true)
    (inputs : List (Int × StateMachineEvent))
    : let machine := run sendStep (createStateMachine sessionId .idle overrides) inputs
      (machine.state ∈ [.betActive, .cashOutArmed, .cashOutRequested]
        → machine.context.openBetExists = true ∧ machine.context.currentBetId ≠ none)
      ∧ (machine.state ∈ [.idle, .readyToObserve, .entryEvaluating, .entryApproved,
            .betPlacing, .roundComplete, .resultRecorded, .cooldown]
        → machine.context.openBetExists = false) := by
  intro machine
  have initial : BetAccounted (createStateMachine sessionId .idle overrides) := by
    have off : overrides.openBetExists.getD false = false := by
      cases flag : overrides.openBetExists with
      | none => rfl
      | some value => simpa [flag] using noOpenBet
    simp [BetAccounted, accountedFlags, createStateMachine, BettingState.holdsBet,
      StateMachineContext.betFlags, createDefaultContext, StateMachineContext.override, off]
  have accounted : BetAccounted machine := initial.run inputs
  simp only [BetAccounted, accountedFlags, decide_eq_true_eq] at accounted
  constructor
  · intro inPlay
    have holds : machine.state.holdsBet = true := by
      simp only [List.mem_cons, List.not_mem_nil, or_false] at inPlay
      rcases inPlay with state | state | state <;> rw [state] <;> rfl
    obtain ⟨openBet, betId⟩ := accounted.1 holds
    exact ⟨openBet, Option.isSome_iff_ne_none.mp betId⟩
  · intro settled
    have holds : machine.state.holdsNoBet = true := by
      simp only [List.mem_cons, List.not_mem_nil, or_false] at settled
      rcases settled with state | state | state | state | state | state | state | state <;>
        rw [state] <;> rfl
    exact accounted.2 holds

/-- A fresh machine that knows its balance. -/
def fundedMachine : BettingStateMachine :=
  createStateMachine "s1" .idle { currentBalance := some (some 100) }

/-- The events of a round that is entered and whose bet is confirmed. -/
def confirmedEntry : List (Int × StateMachineEvent) :=
  [(0, .browserReady), (1, .gameLoaded), (2, .roundStarted "r1" startingRound),
    (3, .riskApproved), (4, .entryChecksPassed), (5, .betConfirmed "b1")]

/-- A machine with a known balance reaches `BET_ACTIVE`, and its bet is on record there. -/
theorem betActive_accounted
    : let machine := run sendStep fundedMachine confirmedEntry
      machine.state = .betActive
      ∧ machine.context.openBetExists = true ∧ machine.context.currentBetId ≠ none := by
  intro machine
  have active : machine.state = .betActive := by decide +kernel
  have listed : machine.state ∈ [.betActive, .cashOutArmed, .cashOutRequested] := by
    rw [active]
    exact List.mem_cons_self
  have accounting := reachable_bet_accounting "s1" { currentBalance := some (some 100) }
    (by decide) confirmedEntry
  exact ⟨active, accounting.1 listed⟩

end CrashWave.StateMachine
