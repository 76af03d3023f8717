import CrashWave.Game.Types
import CrashWave.Runs.Basic

/-! The round observer: the state that it keeps of the current round, and what it tells its
listeners about it; and which completions it tells. A tick of another round is ignored; the crash
of another round, or one without a round, is not.
-/

namespace CrashWave.Game

open JavaScript

/-- What is told to every listener of a kind. -/
inductive RoundNotification where
  | stateChanged (state : RoundState)
  | roundStarted (roundId : String)
  | roundCompleted (roundId : String) (crashPoint : Number)
  deriving DecidableEq

/-- A tick as the observer remembers it. -/
structure ObservedTick where
  multiplier : Number
  timestamp : String
  latencyMs : Number
  deriving DecidableEq

/-- The observer, with all that it has told its listeners. -/
structure RoundObserver where
  currentState : RoundState :=
    { roundId := none
      phase := .idle
      confidence := .low
      currentMultiplier := some 1
      startedAt := none
      crashedAt := none
      crashPoint := none
      lastTickAt := none
      source := "unknown" }
  tickHistory : List ObservedTick := []
  roundCount : Nat := 0
  notified : List RoundNotification := []
  deriving DecidableEq

/-- The known sources, and `unknown` for every other one. -/
def asSource (source : String) : String :=
  if source ∈ ["websocket", "dom", "api", "unknown"] then source else "unknown"

/-- The confidence comes from the source, not from the event's own field. -/
def calculateConfidence (event : NormalizedGameEvent) : ObservationConfidence :=
  let source := asSource event.source
  if source = "websocket" then .high
  else if source = "api" ∨ source = "dom" then .medium
  else .low

namespace RoundObserver

def notify (observer : RoundObserver) (notification : RoundNotification) : RoundObserver :=
  { observer with notified := observer.notified ++ [notification] }

def updateState (observer : RoundObserver) (state : RoundState) : RoundObserver :=
  { observer with currentState := state }.notify (.stateChanged state)

def handleRoundStarted (observer : RoundObserver) (event : NormalizedGameEvent)
    : RoundObserver :=
  ({ observer with
      tickHistory := []
      roundCount := observer.roundCount + 1 }.updateState
    { phase := .running
      roundId := event.roundId
      currentMultiplier := some 1
      crashPoint := none
      startedAt := some event.timestamp
      lastTickAt := some event.timestamp
      crashedAt := none
      confidence := calculateConfidence event
      source := asSource event.source }).notify
    (.roundStarted (event.roundId.getD ""))

/-- A tick is for another round when both rounds have an id and these differ. -/
def handleMultiplierTick (observer : RoundObserver) (event : NormalizedGameEvent)
    : RoundObserver :=
  let state := observer.currentState
  if state.phase ≠ .running then observer
  else if truthy event.roundId ∧ truthy state.roundId ∧ event.roundId ≠ state.roundId then
    observer
  else
    let tick : ObservedTick :=
      { multiplier := (truthyNumber event.multiplier).getD 1
        timestamp := event.timestamp
        latencyMs := event.latencyMs }
    let ticked := { observer with tickHistory := observer.tickHistory ++ [tick] }
    ticked.updateState
      { state with
        currentMultiplier := (truthyNumber event.multiplier).or state.currentMultiplier
        lastTickAt := some event.timestamp
        source := asSource event.source
        confidence := calculateConfidence event }

/-- The round whose completion a crash tells. -/
def completedRound (observer : RoundObserver) (event : NormalizedGameEvent) : String :=
  ((truthyText event.roundId).or (truthyText observer.currentState.roundId)).getD "unknown"

/-- A crash is handled in every phase but `crashed`, whatever its round. -/
def handleRoundCrashed (observer : RoundObserver) (event : NormalizedGameEvent)
    : RoundObserver :=
  let state := observer.currentState
  if state.phase = .crashed then observer
  else
    let crashPoint :=
      ((truthyNumber event.crashPoint).or (truthyNumber state.currentMultiplier)).getD 1
    (observer.updateState
      { state with
        phase := .crashed
        crashPoint := some crashPoint
        currentMultiplier := some crashPoint
        lastTickAt := some event.timestamp
        crashedAt := some event.timestamp
        source := asSource event.source
        confidence := calculateConfidence event }).notify
      (.roundCompleted (observer.completedRound event) crashPoint)

def handleEvent (observer : RoundObserver) (event : NormalizedGameEvent) : RoundObserver :=
  match event.type with
  | .roundStarted => observer.handleRoundStarted event
  | .multiplierTick => observer.handleMultiplierTick event
  | .roundCrashed | .roundEnded => observer.handleRoundCrashed event
  | .gameStateChange | .balanceUpdate | .error => observer

end RoundObserver

-----------------------------------------------------------------------------------------
-- Completions
-----------------------------------------------------------------------------------------

-----------------------------------------------------------------------------------------
-- What was told
-----------------------------------------------------------------------------------------

/-- The round that was started last. -/
def startedRound (notified : List RoundNotification) : Option String :=
  notified.foldl (fun started notification =>
    match notification with
    | .roundStarted roundId => some roundId
    | _ => started) none

/-- How many completions were told since the last start. -/
def completionsSinceStart (notified : List RoundNotification) : Nat :=
  notified.foldl (fun count notification =>
    match notification with
    | .roundStarted _ => 0
    | .roundCompleted _ _ => count + 1
    | .stateChanged _ => count) 0

variable {notified : List RoundNotification} {state : RoundState} {roundId : String}
  {crashPoint : Number}

@[simp] theorem startedRound_started
    : startedRound (notified ++ [.roundStarted roundId]) = some roundId := by
  simp [startedRound]

@[simp] theorem startedRound_stateChanged
    : startedRound (notified ++ [.stateChanged state]) = startedRound notified := by
  simp [startedRound]

@[simp] theorem completionsSinceStart_started
    : completionsSinceStart (notified ++ [.roundStarted roundId]) = 0 := by
  simp [completionsSinceStart]

@[simp] theorem completionsSinceStart_completed
    : completionsSinceStart (notified ++ [.roundCompleted roundId crashPoint])
      = completionsSinceStart notified + 1 := by
  simp [completionsSinceStart]

@[simp] theorem completionsSinceStart_stateChanged
    : completionsSinceStart (notified ++ [.stateChanged state])
      = completionsSinceStart notified := by
  simp [completionsSinceStart]

-----------------------------------------------------------------------------------------
-- What a step tells
-----------------------------------------------------------------------------------------

/-- An event that ends a round. -/
def EndsRound (event : NormalizedGameEvent) : Prop :=
  event.type = .roundCrashed ∨ event.type = .roundEnded

/-- An event ends a round while none is in progress, or another one than the current. -/
def Misplaced (observer : RoundObserver) (event : NormalizedGameEvent) : Prop :=
  EndsRound event
  ∧ (observer.currentState.phase ≠ .running
    ∨ truthy event.roundId ∧ event.roundId ≠ observer.currentState.roundId)

/-- What is wanted of a step: a start is completed once, a completion is told for the round that
was started, and a misplaced end changes nothing and tells nobody.
-/
def CompletesStarted (observer : RoundObserver) (event : NormalizedGameEvent) : Prop :=
  completionsSinceStart (observer.handleEvent event).notified ≤ 1
  ∧ (∀ roundId crashPoint,
      .roundCompleted roundId crashPoint
        ∈ (observer.handleEvent event).notified.drop observer.notified.length →
      startedRound observer.notified = some roundId)
  ∧ (Misplaced observer event → observer.handleEvent event = observer)

/-- An event that ends a round comes after a crash, or while a round with an id is in progress
and without another id.
-/
def EndsCurrent (observer : RoundObserver) (event : NormalizedGameEvent) : Prop :=
  EndsRound event →
    observer.currentState.phase = .crashed
    ∨ observer.currentState.phase = .running ∧ truthy observer.currentState.roundId
      ∧ (truthy event.roundId → event.roundId = observer.currentState.roundId)

/-- A start has been completed once at most, and not yet when its round is in progress. -/
structure CompletedOnce (observer : RoundObserver) : Prop where
  once : completionsSinceStart observer.notified ≤ 1
  started : observer.currentState.phase = .running →
    startedRound observer.notified = some (observer.currentState.roundId.getD "")
  uncompleted : observer.currentState.phase = .running →
    completionsSinceStart observer.notified = 0

variable {observer : RoundObserver} {event : NormalizedGameEvent}

/-- What the observer does with an event, and what it tells. -/
inductive ObserverEffect (observer : RoundObserver) (event : NormalizedGameEvent) : Prop where
  | ignored (effect : observer.handleEvent event = observer)
      (ends : EndsRound event → observer.currentState.phase = .crashed)
  | ticked (state : RoundState) (ends : ¬ EndsRound event)
      (phase : (observer.handleEvent event).currentState.phase = observer.currentState.phase)
      (roundId : (observer.handleEvent event).currentState.roundId
        = observer.currentState.roundId)
      (told : (observer.handleEvent event).notified
        = observer.notified ++ [.stateChanged state])
  | started (state : RoundState) (ends : ¬ EndsRound event)
      (roundId : (observer.handleEvent event).currentState.roundId = event.roundId)
      (told : (observer.handleEvent event).notified
        = observer.notified ++ [.stateChanged state]
          ++ [.roundStarted (event.roundId.getD "")])
  | completed (state : RoundState) (crashPoint : Number) (ends : EndsRound event)
      (uncrashed : observer.currentState.phase ≠ .crashed)
      (phase : (observer.handleEvent event).currentState.phase = .crashed)
      (told : (observer.handleEvent event).notified
        = observer.notified ++ [.stateChanged state]
          ++ [.roundCompleted (observer.completedRound event) crashPoint])

theorem tick_effect (type : event.type = .multiplierTick) : ObserverEffect observer event := by
  have handled : observer.handleEvent event = observer.handleMultiplierTick event := by
    simp [RoundObserver.handleEvent, type]
  have ends : ¬ EndsRound event := by simp [EndsRound, type]
  unfold RoundObserver.handleMultiplierTick at handled
  extract_lets state at handled
  split at handled
  · exact .ignored handled fun ended => absurd ended ends
  · split at handled
    · exact .ignored handled fun ended => absurd ended ends
    · exact .ticked _ ends (by rw [handled]; rfl) (by rw [handled]; rfl) (by rw [handled]; rfl)

theorem crash_effect (ends : EndsRound event) : ObserverEffect observer event := by
  have handled : observer.handleEvent event = observer.handleRoundCrashed event := by
    rcases ends with type | type <;> simp [RoundObserver.handleEvent, type]
  by_cases crashed : observer.currentState.phase = .crashed
  · rw [RoundObserver.handleRoundCrashed, if_pos crashed] at handled
    exact .ignored handled fun _ => crashed
  · rw [RoundObserver.handleRoundCrashed, if_neg crashed] at handled
    exact .completed _ _ ends crashed (by rw [handled]; rfl) (by rw [handled]; rfl)

theorem handleEvent_effect (observer : RoundObserver) (event : NormalizedGameEvent)
    : ObserverEffect observer event := by
  cases type : event.type with
  | roundStarted =>
      have handled : observer.handleEvent event = observer.handleRoundStarted event := by
        simp [RoundObserver.handleEvent, type]
      have ends : ¬ EndsRound event := by simp [EndsRound, type]
      exact .started _ ends (by rw [handled]; rfl) (by rw [handled]; rfl)
  | multiplierTick => exact tick_effect type
  | roundCrashed => exact crash_effect (.inl type)
  | roundEnded => exact crash_effect (.inr type)
  | gameStateChange | balanceUpdate | error =>
      exact .ignored (by simp [RoundObserver.handleEvent, type]) (by simp [EndsRound, type])

-----------------------------------------------------------------------------------------
-- Completions along a run
-----------------------------------------------------------------------------------------

theorem truthyText_eq_none {value : Option String} (falsy : ¬ truthy value)
    : truthyText value = none := by
  cases value with
  | none => rfl
  | some text => simpa [truthy, truthyText] using falsy

theorem truthyText_eq_self {value : Option String} (holds : truthy value)
    : truthyText value = value := by
  cases value with
  | none => rfl
  | some text => simpa [truthy, truthyText, Option.filter_eq_some_iff] using holds

theorem getD_of_truthy {value : Option String} (holds : truthy value) {first second : String}
    : value.getD first = value.getD second := by
  cases value with
  | none => simp [truthy] at holds
  | some text => rfl

theorem getD_of_falsy {value : Option String} (falsy : ¬ truthy value)
    : value.getD "" = "" := by
  cases value with
  | none => rfl
  | some text => simpa [truthy] using falsy

/-- The end of a round in progress, without the id of another one, completes that round. -/
theorem completedRound_eq (named : truthy observer.currentState.roundId)
    (same : truthy event.roundId → event.roundId = observer.currentState.roundId)
    : observer.completedRound event = observer.currentState.roundId.getD "" := by
  have kept := truthyText_eq_self named
  by_cases told : truthy event.roundId
  · rw [RoundObserver.completedRound, same told, kept, Option.or_self]
    exact getD_of_truthy named
  · rw [RoundObserver.completedRound, truthyText_eq_none told, Option.none_or, kept]
    exact getD_of_truthy named

/-- The end of a round in progress that has no id completes no round that was started. -/
theorem completedRound_unknown (unnamed : ¬ truthy observer.currentState.roundId)
    (same : truthy event.roundId → event.roundId = observer.currentState.roundId)
    : observer.completedRound event = "unknown" := by
  have untold : ¬ truthy event.roundId := fun told => unnamed (same told ▸ told)
  simp [RoundObserver.completedRound, truthyText_eq_none untold, truthyText_eq_none unnamed]

theorem EndsCurrent.keeps (once : CompletedOnce observer) (current : EndsCurrent observer event)
    : CompletedOnce (observer.handleEvent event) := by
  cases handleEvent_effect observer event with
  | ignored effect ends => rwa [effect]
  | ticked state ends phase roundId told =>
      refine ⟨?_, ?_, ?_⟩
      · simpa [told] using once.once
      · simpa [told, phase, roundId] using once.started
      · simpa [told, phase] using once.uncompleted
  | started state ends roundId told =>
      rw [← roundId] at told
      refine ⟨?_, fun _ => ?_, fun _ => ?_⟩
      · rw [told, completionsSinceStart_started]
        exact Nat.zero_le 1
      · rw [told, startedRound_started]
      · rw [told, completionsSinceStart_started]
  | completed state crashPoint ends uncrashed phase told =>
      have running : observer.currentState.phase = .running :=
        ((current ends).resolve_left uncrashed).1
      refine ⟨?_, ?_, ?_⟩
      · rw [told, completionsSinceStart_completed, completionsSinceStart_stateChanged,
          once.uncompleted running]
      · simp [phase]
      · simp [phase]

theorem completesStarted_iff (once : CompletedOnce observer)
    : CompletesStarted observer event ↔ EndsCurrent observer event := by
  constructor
  · rintro ⟨_, carries, misplaced⟩ ends
    by_cases crashed : observer.currentState.phase = .crashed
    · exact .inl crashed
    · right
      cases handleEvent_effect observer event with
      | ignored _ ignores => exact absurd (ignores ends) crashed
      | ticked _ noEnd => exact absurd ends noEnd
      | started _ noEnd => exact absurd ends noEnd
      | completed state crashPoint _ _ phase told =>
          have placed : ¬ Misplaced observer event := by
            intro wrong
            rw [misplaced wrong] at phase
            exact crashed phase
          simp only [Misplaced, ends, true_and, not_or, not_not, not_and] at placed
          obtain ⟨running, same⟩ := placed
          refine ⟨running, ?_, same⟩
          by_contra unnamed
          have carried := carries (observer.completedRound event) crashPoint (by simp [told])
          rw [once.started running, getD_of_falsy unnamed, completedRound_unknown unnamed same]
            at carried
          simp at carried
  · intro current
    refine ⟨(current.keeps once).once, ?_, ?_⟩
    · intro roundId crashPoint member
      cases handleEvent_effect observer event with
      | ignored effect _ => simp [effect] at member
      | ticked _ _ _ _ told => simp [told] at member
      | started _ _ _ told => simp [told] at member
      | completed state _ ends uncrashed _ told =>
          obtain ⟨running, named, same⟩ := (current ends).resolve_left uncrashed
          simp only [told, List.append_assoc, List.drop_left] at member
          simp at member
          rw [member.1, once.started running, completedRound_eq named same]
    · rintro ⟨ends, wrong⟩
      cases handleEvent_effect observer event with
      | ignored effect _ => exact effect
      | ticked _ noEnd => exact absurd ends noEnd
      | started _ noEnd => exact absurd ends noEnd
      | completed _ _ _ uncrashed =>
          obtain ⟨running, named, same⟩ := (current ends).resolve_left uncrashed
          rcases wrong with idle | ⟨other, differs⟩
          · exact absurd running idle
          · exact absurd (same other) differs

/-- Along every run, every start is completed once at most and for its own round, and misplaced
ends are ignored, exactly when every end comes after a crash or for the current round.
-/
theorem completions_iff (events : List NormalizedGameEvent)
    : Runs.Always RoundObserver.handleEvent CompletesStarted {} events
      ↔ Runs.Always RoundObserver.handleEvent EndsCurrent {} events := by
  have initial : CompletedOnce {} := by
    refine ⟨?_, ?_, ?_⟩ <;> simp [completionsSinceStart]
  apply Runs.always_iff_of_invariant _ _ events initial
  · intro observer event once
    exact completesStarted_iff once
  · intro observer event once current
    exact current.keeps once

def observed (type : GameEventType) (roundId : Option String) : NormalizedGameEvent :=
  { type
    roundId
    multiplier := none
    crashPoint := some 2
    phase := none
    source := "dom"
    confidence := .high
    timestamp := "2024-01-01T00:00:00.000Z"
    latencyMs := 0 }

/-- A crash before any start, a late crash of the last round, and a round without an id. -/
theorem wrong_completions
    : ¬ Runs.Always RoundObserver.handleEvent CompletesStarted {}
        [observed .roundCrashed (some "4711")]
      ∧ ¬ Runs.Always RoundObserver.handleEvent CompletesStarted {}
        [observed .roundStarted (some "4712"), observed .roundEnded (some "4711")]
      ∧ ¬ Runs.Always RoundObserver.handleEvent CompletesStarted {}
        [observed .roundStarted none, observed .roundCrashed none] := by
  refine ⟨?_, ?_, ?_⟩
  · intro ⟨⟨_, carries, _⟩, _⟩
    exact absurd (carries "4711" 2 (by decide)) (by decide)
  · intro ⟨_, ⟨_, carries, _⟩, _⟩
    exact absurd (carries "4711" 2 (by decide)) (by decide)
  · intro ⟨_, ⟨_, carries, _⟩, _⟩
    exact absurd (carries "unknown" 2 (by decide)) (by decide)

end CrashWave.Game
