import CrashWave.Game.Types

/-! The game adapter: `processStateChange`, cut where it awaits. Between two awaits nothing
else runs; while a call waits, further snapshots of both sources are processed.
-/

namespace CrashWave.Game

open JavaScript

/-- Where a call of `processStateChange` waits: for the listeners of an event, or for the crash
point on the page, which is then written over a copy of the state from before.
-/
inductive AwaitPoint where
  | started
  | ticked
  | crashing (spread : RoundState)
  | crashed
  | changed
  deriving DecidableEq

/-- A call of `processStateChange` with its locals. -/
structure StateChange where
  prev : RoundState
  snapshot : SourceSnapshot
  stateChanged : Bool := false
  eventEmitted : Bool := false
  deriving DecidableEq

/-- The adapter, with the calls that wait and all events that it has emitted. -/
structure GameAdapter where
  currentState : RoundState :=
    { roundId := none
      phase := .idle
      confidence := .low
      currentMultiplier := none
      startedAt := none
      crashedAt := none
      crashPoint := none
      lastTickAt := none
      source := "unknown" }
  tickCount : Nat := 0
  errorCount : Nat := 0
  consecutiveErrors : Nat := 0
  lastEventAt : Option String := none
  calls : List (AwaitPoint × StateChange) := []
  emitted : List NormalizedGameEvent := []

/-- How an awaited call is settled; the crash point counts where one was awaited. -/
inductive AdapterAnswer where
  | rejected
  | fulfilled (crashPoint : Option Number)
  deriving DecidableEq

/-- What happens to the adapter: a source shows a snapshot, or an awaited call is settled. -/
inductive AdapterInput where
  | snapshot (snapshot : SourceSnapshot)
  | settle (index : Nat) (answer : AdapterAnswer)
  deriving DecidableEq

/-- A snapshot shows the start of a round. -/
def startsRound (prev : RoundState) (snapshot : SourceSnapshot) : Bool :=
  (prev.phase = .idle ∨ prev.phase = .starting ∨ prev.phase = .crashed)
  ∧ snapshot.phase = some .running ∧ truthy snapshot.roundId

/-- A snapshot shows another multiplier. -/
def ticks (state : RoundState) (snapshot : SourceSnapshot) : Bool :=
  snapshot.phase = some .running
  && match snapshot.multiplier, state.currentMultiplier with
    | none, _ => false
    | some _, none => true
    | some multiplier, some current => .finite (1 / 1000) < (current - multiplier).abs

/-- A snapshot shows a crash. -/
def crashesRound (prev : RoundState) (snapshot : SourceSnapshot) : Bool :=
  (prev.phase = .running ∨ prev.phase = .starting) ∧ snapshot.phase = some .crashed

namespace GameAdapter

/-- `emitGameEvent` up to its first listener. -/
def emit (adapter : GameAdapter) (event : NormalizedGameEvent) : GameAdapter :=
  { adapter with
    lastEventAt := some event.timestamp
    emitted := adapter.emitted ++ [event] }

/-- Leaves a call waiting. -/
def await (adapter : GameAdapter) (point : AwaitPoint) (call : StateChange) : GameAdapter :=
  { adapter with calls := adapter.calls ++ [(point, call)] }

/-- The end of `processStateChange`. -/
def afterCrash (adapter : GameAdapter) (call : StateChange) : GameAdapter :=
  let snapshot := call.snapshot
  let restarts : Bool :=
    call.prev.phase = .crashed
    ∧ (snapshot.phase = some .idle ∨ snapshot.phase = some .starting)
  let stateChanged := call.stateChanged || restarts
  let state := adapter.currentState
  let phase := snapshot.phase.getD state.phase
  let next :=
    if restarts then
      { state with
        phase, currentMultiplier := none, source := snapshot.source, confidence := .medium }
    else if !stateChanged ∧ snapshot.phase.isSome ∧ snapshot.phase ≠ some call.prev.phase then
      { state with phase, source := snapshot.source }
    else state
  let written := { adapter with currentState := next, consecutiveErrors := 0 }
  if stateChanged ∧ !call.eventEmitted then
    (written.emit
      { type := .gameStateChange
        roundId := next.roundId
        multiplier := next.currentMultiplier
        crashPoint := next.crashPoint
        phase := some next.phase
        source := snapshot.source
        confidence := next.confidence
        timestamp := snapshot.timestamp
        latencyMs := snapshot.latencyMs }).await
      .changed { call with stateChanged }
  else written

/-- A crash is written over a copy of the state, with the crash point of the snapshot or the
one that was found on the page.
-/
def crash (adapter : GameAdapter) (call : StateChange) (spread : RoundState)
    (crashPoint : Option Number) : GameAdapter :=
  let snapshot := call.snapshot
  let confidence :=
    if (truthyNumber snapshot.crashPoint).isSome then ObservationConfidence.high else .medium
  let next :=
    { spread with
      phase := .crashed
      crashedAt := some snapshot.timestamp
      crashPoint := crashPoint.or call.prev.currentMultiplier
      currentMultiplier :=
        (truthyNumber snapshot.crashPoint).or call.prev.currentMultiplier
      lastTickAt := some snapshot.timestamp
      source := snapshot.source
      confidence }
  ({ adapter with currentState := next }.emit
    { type := .roundCrashed
      roundId := next.roundId
      multiplier := next.crashPoint
      crashPoint := next.crashPoint
      phase := some .crashed
      source := snapshot.source
      confidence
      timestamp := snapshot.timestamp
      latencyMs := snapshot.latencyMs }).await
    .crashed { call with stateChanged := true, eventEmitted := true }

/-- `processStateChange` from the detection of a crash on. -/
def afterTick (adapter : GameAdapter) (call : StateChange) : GameAdapter :=
  if crashesRound call.prev call.snapshot then
    match call.snapshot.crashPoint with
    | some crashPoint => adapter.crash call adapter.currentState (some crashPoint)
    | none => adapter.await (.crashing adapter.currentState) call
  else adapter.afterCrash call

/-- `processStateChange` from the detection of a tick on. -/
def afterStart (adapter : GameAdapter) (call : StateChange) : GameAdapter :=
  let snapshot := call.snapshot
  if ticks adapter.currentState snapshot then
    let ticked :=
      { adapter with
        currentState :=
          { adapter.currentState with
            currentMultiplier := snapshot.multiplier
            lastTickAt := some snapshot.timestamp
            source := snapshot.source
            confidence := .high }
        tickCount := adapter.tickCount + 1 }
    if call.eventEmitted then ticked.afterTick call
    else
      (ticked.emit
        { type := .multiplierTick
          roundId := ticked.currentState.roundId
          multiplier := snapshot.multiplier
          crashPoint := none
          phase := some .running
          source := snapshot.source
          confidence := .high
          timestamp := snapshot.timestamp
          latencyMs := snapshot.latencyMs }).await
        .ticked { call with eventEmitted := true }
  else adapter.afterTick call

/-- `processStateChange`. -/
def processStateChange (adapter : GameAdapter) (snapshot : SourceSnapshot) : GameAdapter :=
  let call : StateChange := { prev := adapter.currentState, snapshot }
  if startsRound call.prev snapshot then
    let multiplier := (truthyNumber snapshot.multiplier).getD 1
    ({ adapter with
        currentState :=
          { roundId := snapshot.roundId
            phase := .running
            currentMultiplier := some multiplier
            startedAt := some snapshot.timestamp
            crashedAt := none
            crashPoint := none
            lastTickAt := some snapshot.timestamp
            source := snapshot.source
            confidence := .high }
        tickCount := 0 }.emit
      { type := .roundStarted
        roundId := snapshot.roundId
        multiplier := some multiplier
        crashPoint := none
        phase := some .running
        source := snapshot.source
        confidence := .high
        timestamp := snapshot.timestamp
        latencyMs := snapshot.latencyMs }).await
      .started { call with stateChanged := true, eventEmitted := true }
  else adapter.afterStart call

/-- A call goes on after what it waited for. -/
def resume (adapter : GameAdapter) (call : StateChange) (crashPoint : Option Number)
    : AwaitPoint → GameAdapter
  | .started => adapter.afterStart call
  | .ticked => adapter.afterTick call
  | .crashing spread => adapter.crash call spread crashPoint
  | .crashed => adapter.afterCrash call
  | .changed => adapter

/-- A call ends where what it waited for is rejected. The poll of the DOM counts that as an
error.
-/
def abandon (adapter : GameAdapter) (call : StateChange) : GameAdapter :=
  if call.snapshot.source = "dom" then
    { adapter with
      errorCount := adapter.errorCount + 1
      consecutiveErrors := adapter.consecutiveErrors + 1 }
  else adapter

/-- The adapter after what happens. -/
def next (adapter : GameAdapter) : AdapterInput → GameAdapter
  | .snapshot snapshot => adapter.processStateChange snapshot
  | .settle index answer =>
      match adapter.calls[index]? with
      | none => adapter
      | some (point, call) =>
          let rest := { adapter with calls := adapter.calls.eraseIdx index }
          match answer with
          | .rejected => rest.abandon call
          | .fulfilled crashPoint => rest.resume call crashPoint point

end GameAdapter

end CrashWave.Game
