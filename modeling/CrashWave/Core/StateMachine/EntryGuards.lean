import CrashWave.Core.StateMachine.Machine
import CrashWave.Runs.Basic

/-! What the side effects of an accepted transition do to the fields that guards and invariants
read; then entry guard coverage and error lockout: `BET_PLACING` is entered through all entry
guards only, and an exhausted counter keeps it closed.
-/

namespace CrashWave.StateMachine

open JavaScript Runs

/-- The two facts a context records about an open bet. -/
structure BetFlags where
  openBetExists : Bool
  hasBetId : Bool
  deriving DecidableEq

/-- The bet flags of a context. -/
def StateMachineContext.betFlags (context : StateMachineContext) : BetFlags where
  openBetExists := context.openBetExists
  hasBetId := context.currentBetId.isSome

/-- The bet flags after an accepted event. -/
def betFlagsAfter : EventType → BetFlags → BetFlags
  | .betConfirmed, _ => ⟨true, true⟩
  | .betSubmitted, flags => { flags with hasBetId := true }
  | .cashOutConfirmed, _ | .roundCrashed, _ | .reset, _ | .reconciliationComplete, _ =>
      ⟨false, false⟩
  | _, flags => flags

@[simp] theorem preload_betFlags (event : StateMachineEvent) (context : StateMachineContext)
    : (preloadContextFromEvent event context).betFlags = context.betFlags := by
  cases event <;> rfl

theorem preload_openBetExists (event : StateMachineEvent) (context : StateMachineContext)
    : (preloadContextFromEvent event context).openBetExists = context.openBetExists :=
  congrArg BetFlags.openBetExists (preload_betFlags event context)

theorem applySideEffects_betFlags (now : Int) (event : StateMachineEvent)
    (toState : BettingState) (context : StateMachineContext)
    : (applySideEffects now event toState context).betFlags
      = betFlagsAfter event.type context.betFlags := by
  simp only [applySideEffects, trackCooldown, trackErrors]
  split <;> split <;> cases event <;> rfl

theorem applySideEffects_maxima (now : Int) (event : StateMachineEvent)
    (toState : BettingState) (context : StateMachineContext)
    : (applySideEffects now event toState context).maxConsecutiveErrors
        = context.maxConsecutiveErrors
      ∧ (applySideEffects now event toState context).maxCashOutFailures
        = context.maxCashOutFailures := by
  simp only [applySideEffects, trackCooldown, trackErrors]
  split <;> split <;> cases event <;> exact ⟨rfl, rfl⟩

/-- Only a confirmed bet and a reset lower the error counter: any other event leaves it
or counts one more.
-/
theorem applySideEffects_consecutiveErrors (now : Int) (event : StateMachineEvent)
    (toState : BettingState) (context : StateMachineContext)
    (notConfirmed : event.type ≠ .betConfirmed) (notReset : event.type ≠ .reset)
    : (applySideEffects now event toState context).consecutiveErrors
        = context.consecutiveErrors
      ∨ (applySideEffects now event toState context).consecutiveErrors
        = context.consecutiveErrors + 1 := by
  simp only [applySideEffects, trackCooldown, trackErrors]
  split <;> split <;> cases event <;>
    first
    | exact absurd rfl notConfirmed
    | exact absurd rfl notReset
    | exact .inl rfl
    | exact .inr rfl

/-- Only a confirmed cash-out and a reset lower the cash-out failure counter. -/
theorem applySideEffects_cashOutFailures (now : Int) (event : StateMachineEvent)
    (toState : BettingState) (context : StateMachineContext)
    (notConfirmed : event.type ≠ .cashOutConfirmed) (notReset : event.type ≠ .reset)
    : (applySideEffects now event toState context).cashOutFailures
        = context.cashOutFailures
      ∨ (applySideEffects now event toState context).cashOutFailures
        = context.cashOutFailures + 1 := by
  simp only [applySideEffects, trackCooldown, trackErrors]
  split <;> split <;> cases event <;>
    first
    | exact absurd rfl notConfirmed
    | exact absurd rfl notReset
    | exact .inl rfl
    | exact .inr rfl

theorem preload_counters (event : StateMachineEvent) (context : StateMachineContext)
    : (preloadContextFromEvent event context).consecutiveErrors = context.consecutiveErrors
      ∧ (preloadContextFromEvent event context).maxConsecutiveErrors
        = context.maxConsecutiveErrors
      ∧ (preloadContextFromEvent event context).cashOutFailures = context.cashOutFailures
      ∧ (preloadContextFromEvent event context).maxCashOutFailures
        = context.maxCashOutFailures := by
  cases event <;> exact ⟨rfl, rfl, rfl, rfl⟩

-----------------------------------------------------------------------------------------
-- Entry guards
-----------------------------------------------------------------------------------------

/-- A call made on the machine from outside. -/
inductive Call where
  | send (now : Int) (event : StateMachineEvent)
  | updateContext (overrides : ContextOverrides)

/-- The machine after a call. -/
def call (machine : BettingStateMachine) : Call → BettingStateMachine
  | .send now event => (send machine now event).machine
  | .updateContext overrides => updateContext machine overrides

/-- A call enters `BET_PLACING`: it is an accepted send whose new state is that one. -/
def entersBetPlacing (machine : BettingStateMachine) : Call → Prop
  | .send now event =>
      (send machine now event).accepted = true
      ∧ (send machine now event).newState = .betPlacing
  | .updateContext _ => False

instance (machine : BettingStateMachine)
    : (next : Call) → Decidable (entersBetPlacing machine next)
  | .send _ _ => inferInstanceAs (Decidable (_ ∧ _))
  | .updateContext _ => .isFalse not_false

/-- The call is a send of an event of this type, and it is accepted. -/
def accepts (eventType : EventType) (machine : BettingStateMachine) : Call → Prop
  | .send now event => (send machine now event).accepted = true ∧ event.type = eventType
  | .updateContext _ => False

-----------------------------------------------------------------------------------------
-- The rules that lead into an entry state
-----------------------------------------------------------------------------------------

/-- The states between the start of a round and the placement of a bet. -/
def BettingState.isEntry : BettingState → Bool
  | .entryEvaluating | .entryApproved | .betPlacing => true
  | _ => false

/-- The combinations of state and event that `evaluateGuard` sends through all entry
guards.
-/
def checksEntry (state : BettingState) (eventType : EventType) : Bool :=
  ((state = .observing ∨ state = .cooldown) ∧ eventType = .roundStarted)
  ∨ (state = .entryEvaluating ∧ eventType = .riskApproved)
  ∨ (state = .entryApproved ∧ (eventType = .entryChecksPassed ∨ eventType = .betSubmitted))

/-- Every rule into an entry state requires the guard of a combination that checks the
entry, by inspection of the table.
-/
theorem entryRules_guarded
    : ∀ rule ∈ transitionRules, rule.toState.isEntry = true →
        rule.requiresGuard = true ∧ checksEntry rule.fromState rule.event = true := by
  decide

/-- A permitted guard of an entry combination means that every entry condition holds. -/
theorem entryOpen_of_evaluateGuard {now : Int} {state : BettingState}
    {context : StateMachineContext} {event : StateMachineEvent}
    (checks : checksEntry state event.type = true)
    (passed : evaluateGuard now state context event = .permitted)
    : EntryOpen now context event := by
  rw [← guardAllEntryConditions_eq_permitted]
  simp only [checksEntry, decide_eq_true_eq] at checks
  rcases checks with ⟨place, started⟩ | ⟨rfl, approved⟩ | ⟨rfl, placement⟩
  · have evaluates : guardCanEvaluateEntry now context event = .permitted := by
      rcases place with rfl | rfl <;> simpa [evaluateGuard, started] using passed
    unfold guardCanEvaluateEntry at evaluates
    split at evaluates
    · split at evaluates
      · exact absurd evaluates (by simp)
      · exact evaluates
    · exact absurd evaluates (by simp)
  · simpa [evaluateGuard, guardCanApproveEntry, approved] using passed
  · simp only [evaluateGuard, placement, if_true] at passed
    rcases placement with placement | placement <;>
      simpa [guardCanPlaceBet, placement] using passed

/-- A rule taken into an entry state was taken with every entry condition holding. -/
theorem entryOpen_of_taken {machine : BettingStateMachine} {now : Int}
    {event : StateMachineEvent} {rule : TransitionRule}
    (listed : rule ∈ transitionRules) (fromState : rule.fromState = machine.state)
    (kind : rule.event = event.type)
    (passed : rule.requiresGuard = true
      → evaluateGuard now machine.state
          (preloadContextFromEvent event machine.context) event = .permitted)
    (entry : rule.toState.isEntry = true)
    : EntryOpen now (preloadContextFromEvent event machine.context) event := by
  obtain ⟨required, checks⟩ := entryRules_guarded rule listed entry
  rw [fromState, kind] at checks
  exact entryOpen_of_evaluateGuard checks (passed required)

/-- A rule taken into an entry state was taken with no open bet on record. -/
theorem noOpenBet_of_taken {machine : BettingStateMachine} {now : Int}
    {event : StateMachineEvent} {rule : TransitionRule}
    (listed : rule ∈ transitionRules) (fromState : rule.fromState = machine.state)
    (kind : rule.event = event.type)
    (passed : rule.requiresGuard = true
      → evaluateGuard now machine.state
          (preloadContextFromEvent event machine.context) event = .permitted)
    (isEntry : rule.toState.isEntry = true)
    : machine.context.openBetExists = false := by
  have entry := entryOpen_of_taken listed fromState kind passed isEntry
  exact (preload_openBetExists event machine.context).symm.trans entry.noOpenBet

theorem placementRules_event
    : ∀ rule ∈ transitionRules, rule.toState = .betPlacing →
        rule.fromState = .entryApproved
        ∧ (rule.event = .entryChecksPassed ∨ rule.event = .betSubmitted) := by
  decide

/-- An accepted send into `BET_PLACING` comes from `ENTRY_APPROVED` and finds every entry
condition holding in the machine's own context.
-/
theorem entryOpen_of_entersBetPlacing {machine : BettingStateMachine} {now : Int}
    {event : StateMachineEvent} (enters : entersBetPlacing machine (.send now event))
    : machine.state = .entryApproved ∧ EntryOpen now machine.context event := by
  obtain ⟨accepted, placing⟩ := enters
  have sends := send_sends machine now event
  rw [SendOutcome.newState] at placing
  generalize (send machine now event).machine = after at *
  generalize (send machine now event).accepted = flag at *
  cases sends with
  | ignored => exact absurd accepted Bool.false_ne_true
  | escalated => exact absurd placing (by simp)
  | taken rule listed fromState kind passed =>
      obtain ⟨approved, placement⟩ := placementRules_event rule listed placing
      have isEntry : rule.toState.isEntry = true := by
        rw [show rule.toState = .betPlacing from placing]
        rfl
      have entry := entryOpen_of_taken listed fromState kind passed isEntry
      have untouched : preloadContextFromEvent event machine.context = machine.context := by
        rw [kind] at placement
        cases event <;> first | rfl | simp [StateMachineEvent.type] at placement
      rw [untouched] at entry
      exact ⟨fromState.symm.trans approved, entry⟩

-----------------------------------------------------------------------------------------
-- Exhausted counters keep the entry closed
-----------------------------------------------------------------------------------------

/-- A call leaves both counters and both maxima to the machine. -/
def Call.leavesCounters : Call → Prop
  | .send _ _ => True
  | .updateContext overrides =>
      overrides.consecutiveErrors = none ∧ overrides.maxConsecutiveErrors = none
      ∧ overrides.cashOutFailures = none ∧ overrides.maxCashOutFailures = none

/-- A counter of failures with the maximum it is compared to, the event that clears it
(besides a reset), and how the steps of the machine may move the two.
-/
structure FailureCounter where
  count : StateMachineContext → Number
  maximum : StateMachineContext → Number
  clearedBy : EventType
  overridden
    : ∀ context overrides,
        (Call.updateContext overrides).leavesCounters
        → count (context.override overrides) = count context
          ∧ maximum (context.override overrides) = maximum context
  preloaded
    : ∀ event context,
        count (preloadContextFromEvent event context) = count context
        ∧ maximum (preloadContextFromEvent event context) = maximum context
  escalated
    : ∀ context : StateMachineContext,
        let escalated :=
          { context with consecutiveErrors := context.consecutiveErrors + 1 }
        (count escalated = count context ∨ count escalated = count context + 1)
        ∧ maximum escalated = maximum context
  applied
    : ∀ now event toState context,
        event.type ≠ clearedBy
        → event.type ≠ .reset
        → (count (applySideEffects now event toState context) = count context
            ∨ count (applySideEffects now event toState context) = count context + 1)
          ∧ maximum (applySideEffects now event toState context) = maximum context

/-- `consecutiveErrors` and `maxConsecutiveErrors`, cleared by `BET_CONFIRMED`. -/
def errorCounter : FailureCounter where
  count := (·.consecutiveErrors)
  maximum := (·.maxConsecutiveErrors)
  clearedBy := .betConfirmed
  overridden := by
    intro context overrides leaves
    simp [StateMachineContext.override, leaves.1, leaves.2.1]
  preloaded event context :=
    ⟨(preload_counters event context).1, (preload_counters event context).2.1⟩
  escalated _ := ⟨.inr rfl, rfl⟩
  applied now event toState context notConfirmed notReset :=
    ⟨applySideEffects_consecutiveErrors now event toState context notConfirmed notReset,
      (applySideEffects_maxima now event toState context).1⟩

/-- `cashOutFailures` and `maxCashOutFailures`, cleared by `CASH_OUT_CONFIRMED`. -/
def cashOutFailureCounter : FailureCounter where
  count := (·.cashOutFailures)
  maximum := (·.maxCashOutFailures)
  clearedBy := .cashOutConfirmed
  overridden := by
    intro context overrides leaves
    simp [StateMachineContext.override, leaves.2.2.1, leaves.2.2.2]
  preloaded event context := (preload_counters event context).2.2
  escalated _ := ⟨.inl rfl, rfl⟩
  applied now event toState context notConfirmed notReset :=
    ⟨applySideEffects_cashOutFailures now event toState context notConfirmed notReset,
      (applySideEffects_maxima now event toState context).2⟩

/-- The counter has reached its maximum. -/
def FailureCounter.Exhausted (counter : FailureCounter) (machine : BettingStateMachine)
    : Prop :=
  counter.maximum machine.context ≤ counter.count machine.context

instance (counter : FailureCounter) (machine : BettingStateMachine)
    : Decidable (counter.Exhausted machine) :=
  inferInstanceAs (Decidable (counter.maximum _ ≤ counter.count _))

/-- The call is accepted and clears the counter. -/
def FailureCounter.cleared (counter : FailureCounter) (machine : BettingStateMachine)
    (next : Call) : Prop :=
  accepts counter.clearedBy machine next ∨ accepts .reset machine next

/-- An exhausted counter stays exhausted when it stays or counts one more. -/
theorem FailureCounter.reached_of_moved {counter : FailureCounter}
    {context next : StateMachineContext}
    (reached : counter.maximum context ≤ counter.count context)
    (count : counter.count next = counter.count context
      ∨ counter.count next = counter.count context + 1)
    (maximum : counter.maximum next = counter.maximum context)
    : counter.maximum next ≤ counter.count next := by
  rw [maximum]
  rcases count with count | count
  · rw [count]
    exact reached
  · rw [count]
    exact Number.le_add_one reached

/-- Every call keeps an exhausted counter exhausted or clears it, by the ways a send can
go.
-/
theorem FailureCounter.Exhausted.call {counter : FailureCounter}
    {machine : BettingStateMachine} {next : Call} (exhausted : counter.Exhausted machine)
    (leaves : next.leavesCounters)
    : counter.cleared machine next
      ∨ counter.Exhausted (StateMachine.call machine next) := by
  cases next with
  | updateContext overrides =>
      obtain ⟨count, maximum⟩ := counter.overridden machine.context overrides leaves
      exact .inr (FailureCounter.reached_of_moved exhausted (.inl count) maximum)
  | send now event =>
      obtain ⟨count, maximum⟩ := counter.preloaded event machine.context
      have preloaded : counter.maximum (preloadContextFromEvent event machine.context)
          ≤ counter.count (preloadContextFromEvent event machine.context) :=
        FailureCounter.reached_of_moved exhausted (.inl count) maximum
      have sends := send_sends machine now event
      simp only [StateMachine.call, FailureCounter.cleared, accepts]
      generalize (send machine now event).machine = after at *
      generalize (send machine now event).accepted = flag at *
      cases sends with
      | ignored => exact .inr preloaded
      | escalated =>
          obtain ⟨counted, unchanged⟩ :=
            counter.escalated (preloadContextFromEvent event machine.context)
          rw [← preload_consecutiveErrors event machine.context]
          exact .inr (FailureCounter.reached_of_moved preloaded counted unchanged)
      | taken rule =>
          by_cases clears : event.type = counter.clearedBy
          · exact .inl (.inl ⟨rfl, clears⟩)
          by_cases reset : event.type = .reset
          · exact .inl (.inr ⟨rfl, reset⟩)
          obtain ⟨counted, unchanged⟩ := counter.applied now event rule.toState
            (preloadContextFromEvent event machine.context) clears reset
          exact .inr (FailureCounter.reached_of_moved preloaded counted unchanged)

/-- An exhausted counter keeps `BET_PLACING` closed until it is cleared, provided that
exhaustion is one of the entry conditions. Witness: exhaustion is the invariant.
-/
theorem FailureCounter.Exhausted.locksOut {counter : FailureCounter}
    (guarded : ∀ {now machine event},
      EntryOpen now machine.context event → ¬ counter.Exhausted machine)
    {machine : BettingStateMachine} {calls : List Call}
    (leaves : ∀ next ∈ calls, next.leavesCounters) (exhausted : counter.Exhausted machine)
    : Unless StateMachine.call counter.cleared entersBetPlacing machine calls := by
  have lawful : Always StateMachine.call (fun _ next => next.leavesCounters) machine calls :=
    Always.of_forall_mem fun next member _ => leaves next member
  refine Unless.of_invariant ?_ (fun _ _ inv leaves => inv.call leaves) lawful exhausted
  intro state next inv _ enters
  cases next with
  | updateContext overrides => exact enters
  | send now event => exact guarded (entryOpen_of_entersBetPlacing enters).2 inv

-----------------------------------------------------------------------------------------
-- Guard coverage and lockout of a whole run
-----------------------------------------------------------------------------------------

/-- When the call enters `BET_PLACING`, the composite guard and each of its conditions
hold in the context the call finds.
-/
def EntersThroughGuards (machine : BettingStateMachine) (next : Call) : Prop :=
  entersBetPlacing machine next
  → ∃ now event, next = .send now event
    ∧ guardAllEntryConditions now machine.context event = .permitted
    ∧ EntryOpen now machine.context event

/-- Along every run of sends and context updates `BET_PLACING` is entered through the
entry guards, and as long as no update writes a counter or a maximum, an exhausted
counter keeps it closed until an accepted event clears that counter.
-/
theorem betPlacing_guarded_and_lockedOut (machine : BettingStateMachine)
    (calls : List Call)
    : Always call EntersThroughGuards machine calls
      ∧ ((∀ next ∈ calls, next.leavesCounters)
        → ∀ before after, calls = before ++ after
        → (errorCounter.Exhausted (run call machine before)
            → Unless call errorCounter.cleared entersBetPlacing
                (run call machine before) after)
          ∧ (cashOutFailureCounter.Exhausted (run call machine before)
            → Unless call cashOutFailureCounter.cleared entersBetPlacing
                (run call machine before) after)) := by
  constructor
  · apply Always.of_forall_mem
    intro next _ state enters
    cases next with
    | updateContext overrides => exact absurd enters not_false
    | send now event =>
        have entry := (entryOpen_of_entersBetPlacing enters).2
        exact ⟨now, event, rfl, guardAllEntryConditions_eq_permitted.mpr entry, entry⟩
  · rintro leaves before after rfl
    have rest : ∀ next ∈ after, next.leavesCounters :=
      fun next member => leaves next (List.mem_append_right _ member)
    refine ⟨fun exhausted => exhausted.locksOut ?_ rest,
      fun exhausted => exhausted.locksOut ?_ rest⟩
    · exact fun entry => entry.errorThreshold
    · exact fun entry => entry.cashOutFailureThreshold

/-- A round that is starting, seen with full confidence. -/
def startingRound : RoundState := .starting "r1" .high

/-- A machine with a known balance walks through one failed placement with a maximum of one
error: the next entry is refused from then on.
-/
theorem betPlacing_lockedOut_after_failure
    : let machine := createStateMachine "s1" .idle
        { currentBalance := some (some 100), maxConsecutiveErrors := some 1 }
      let before : List Call :=
        [.send 0 .browserReady, .send 1 .gameLoaded, .send 2 (.roundStarted "r1" startingRound),
          .send 3 .riskApproved, .send 4 .entryChecksPassed, .send 5 .betPlacementTimeout,
          .send 6 (.reconcile none), .send 7 .recoveryComplete]
      let after : List Call := [.send 8 (.roundStarted "r2" startingRound)]
      entersBetPlacing (run call machine (before.take 4)) (.send 4 .entryChecksPassed)
      ∧ errorCounter.Exhausted (run call machine before)
      ∧ Unless call errorCounter.cleared entersBetPlacing (run call machine before) after := by
  intro machine before after
  have exhausted : errorCounter.Exhausted (run call machine before) := by decide +kernel
  refine ⟨by decide, exhausted, ?_⟩
  have leaves : ∀ next ∈ before ++ after, next.leavesCounters := by
    simp [before, after, Call.leavesCounters]
  exact ((betPlacing_guarded_and_lockedOut machine (before ++ after)).2
    leaves before after rfl).1 exhausted

end CrashWave.StateMachine
