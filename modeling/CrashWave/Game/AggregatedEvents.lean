import CrashWave.Game.Aggregator

/-! Whether an aggregated event says the same as its type. The type is that of the adapter that
told last, and all else is from the adapter that leads, so that they agree exactly when the
leading one shows what the type says.
-/

namespace CrashWave.Game.Aggregator

open JavaScript

variable {aggregator : Aggregator} {input : SourceEvent} {now : Int} {timestamp : String}

/-- The aggregator with the snapshot of an event, before it is aggregated. -/
def received (aggregator : Aggregator) (input : SourceEvent) : Aggregator :=
  aggregator.receive input.source input.event input.receivedAt

/-- An aggregated crash is in phase `crashed` and has the crash point of a fresh source; an
aggregated start has the id of a round that was not observed before.
-/
structure Coherent (aggregator : Aggregator) (input : SourceEvent) : Prop where
  crashed : ∀ event ∈ (aggregator.handleSourceEvent input).2, event.type = .roundCrashed
    → event.phase = some .crashed
      ∧ ∃ source snapshot point,
        (aggregator.received input).freshSnapshot input.now source = some snapshot
        ∧ snapshot.crashPoint = some point ∧ event.crashPoint = some point
  started : ∀ event ∈ (aggregator.handleSourceEvent input).2, event.type = .roundStarted
    → ∃ roundId, event.roundId = some roundId
      ∧ aggregator.currentObservation.roundId ≠ some roundId

/-- The leading source shows what the type of an event says. -/
structure LeaderShows (leader : Option AdapterSnapshot) (previous : Option String)
    (type : GameEventType) : Prop where
  crashed : type = .roundCrashed
    → ∃ snapshot ∈ leader, snapshot.phase = some .crashed ∧ snapshot.crashPoint ≠ none
  started : type = .roundStarted
    → ∃ snapshot ∈ leader, ∃ roundId, snapshot.roundId = some roundId
      ∧ previous ≠ some roundId

/-- The leading snapshot is fresh. -/
theorem fresh_of_leading {snapshot : AdapterSnapshot}
    (leads : aggregator.leading now = some snapshot)
    : ∃ source, aggregator.freshSnapshot now source = some snapshot := by
  obtain ⟨source, -, fresh⟩ := List.exists_of_findSome?_eq_some leads
  exact ⟨source, fresh⟩

/-- Where none leads, none is fresh. -/
theorem stale_of_no_leading (none : aggregator.leading now = none) (source : AdapterSource)
    : aggregator.freshSnapshot now source = .none := by
  refine List.findSome?_eq_none_iff.mp none source ?_
  cases source <;> decide

/-- An observation without a fresh source keeps what was observed before. -/
theorem observation_of_no_leading (none : aggregator.leading now = none)
    : (aggregator.aggregateObservations now timestamp).1
      = { aggregator.currentObservation with
          confidence := .low
          sources := []
          timestamp } := by
  simp only [aggregateObservations, head_sorted_eq_leading, none]

/-- Every other observation shows the leading snapshot. -/
theorem observation_of_leading (aggregator : Aggregator) (timestamp : String)
    {snapshot : AdapterSnapshot} (leads : aggregator.leading now = some snapshot)
    : let observation := (aggregator.aggregateObservations now timestamp).1
      observation.roundId = snapshot.roundId
      ∧ observation.phase = snapshot.phase.getD .idle
      ∧ observation.crashPoint = snapshot.crashPoint := by
  simp only [aggregateObservations, head_sorted_eq_leading, leads, and_self]

/-- The event that a started aggregator emits. -/
theorem emitted_eq (started : aggregator.started = true) (input : SourceEvent)
    : (aggregator.handleSourceEvent input).2
      = some
          (aggregatedEvent input.event.type
            ((aggregator.received input).aggregateObservations input.now
              input.timestamp).1) := by
  simp only [handleSourceEvent, started, if_true]
  rfl

/-- What the observation shows of the type of an event. -/
structure ObservationShows (received : Aggregator) (now : Int)
    (observation : AggregatedObservation) (previous : Option String) (type : GameEventType)
    : Prop where
  crashed : type = .roundCrashed
    → observation.phase = .crashed
      ∧ ∃ source snapshot point, received.freshSnapshot now source = some snapshot
        ∧ snapshot.crashPoint = some point ∧ observation.crashPoint = some point
  started : type = .roundStarted
    → ∃ roundId, observation.roundId = some roundId ∧ previous ≠ some roundId

/-- The event of a started aggregator is coherent as far as its observation is. -/
theorem coherent_iff_observation (started : aggregator.started = true) (input : SourceEvent)
    : Coherent aggregator input
      ↔ ObservationShows (aggregator.received input) input.now
        ((aggregator.received input).aggregateObservations input.now input.timestamp).1
        aggregator.currentObservation.roundId input.event.type := by
  have emitted := emitted_eq started input
  constructor
  · rintro ⟨crashed, first⟩
    constructor
    · intro type
      obtain ⟨phase, point⟩ := crashed _ emitted type
      exact ⟨Option.some.inj phase, point⟩
    · exact fun type => first _ emitted type
  · rintro ⟨crashed, first⟩
    constructor
    · intro event told type
      obtain rfl := Option.some.inj (emitted.symm.trans told)
      obtain ⟨phase, point⟩ := crashed type
      exact ⟨congrArg some phase, point⟩
    · intro event told type
      obtain rfl := Option.some.inj (emitted.symm.trans told)
      exact first type

/-- The observation shows what a leading source shows, and nothing new without one. -/
theorem observationShows_iff (received : Aggregator) (now : Int) (timestamp : String)
    (type : GameEventType)
    : ObservationShows received now (received.aggregateObservations now timestamp).1
        received.currentObservation.roundId type
      ↔ LeaderShows (received.leading now) received.currentObservation.roundId type := by
  cases leader : received.leading now with
  | none =>
      constructor
      · rintro ⟨crashed, first⟩
        constructor
        · intro crash
          obtain ⟨-, source, snapshot, point, fresh, -⟩ := crashed crash
          rw [stale_of_no_leading leader source] at fresh
          cases fresh
        · intro start
          obtain ⟨roundId, observed, new⟩ := first start
          rw [observation_of_no_leading leader] at observed
          exact absurd observed new
      · rintro ⟨crashed, first⟩
        constructor
        · intro crash
          obtain ⟨snapshot, leads, -⟩ := crashed crash
          cases leads
        · intro start
          obtain ⟨snapshot, leads, -⟩ := first start
          cases leads
  | some snapshot =>
      have observed := observation_of_leading received timestamp leader
      obtain ⟨source, fresh⟩ := fresh_of_leading leader
      constructor
      · rintro ⟨crashed, first⟩
        constructor
        · intro crash
          obtain ⟨phase, -, -, point, -, -, shown⟩ := crashed crash
          rw [observed.2.1] at phase
          rw [observed.2.2] at shown
          refine ⟨snapshot, rfl, ?_, by simp [shown]⟩
          cases stated : snapshot.phase with
          | none =>
              rw [stated] at phase
              cases phase
          | some shownPhase =>
              rw [stated] at phase
              exact congrArg some phase
        · intro start
          obtain ⟨roundId, shown, new⟩ := first start
          rw [observed.1] at shown
          exact ⟨snapshot, rfl, roundId, shown, new⟩
      · rintro ⟨crashed, first⟩
        constructor
        · intro crash
          obtain ⟨own, leads, phase, known⟩ := crashed crash
          obtain rfl : snapshot = own := Option.some.inj leads
          obtain ⟨point, shown⟩ := Option.ne_none_iff_exists'.mp known
          refine ⟨?_, source, snapshot, point, fresh, shown, observed.2.2.trans shown⟩
          rw [observed.2.1, phase, Option.getD_some]
        · intro start
          obtain ⟨own, leads, roundId, shown, new⟩ := first start
          obtain rfl : snapshot = own := Option.some.inj leads
          exact ⟨roundId, observed.1.trans shown, new⟩

/-- An aggregated event is coherent exactly when the leading source, after the event was stored,
shows what its type says.
-/
theorem coherent_iff (aggregator : Aggregator) (input : SourceEvent)
    : Coherent aggregator input
      ↔ (aggregator.started = true
        → LeaderShows ((aggregator.received input).leading input.now)
          aggregator.currentObservation.roundId input.event.type) := by
  cases started : aggregator.started with
  | false =>
      have silent : (aggregator.handleSourceEvent input).2 = none := by
        simp [handleSourceEvent, started]
      refine iff_of_true ⟨?_, ?_⟩ (fun now => by cases now) <;>
      · intro event emitted
        rw [silent] at emitted
        cases emitted
  | true =>
      have shows := observationShows_iff (aggregator.received input) input.now input.timestamp
        input.event.type
      refine (coherent_iff_observation started input).trans (shows.trans ?_)
      exact ⟨fun shows _ => shows, fun shows => shows rfl⟩

/-- An adapter's event, a millisecond after the start of the epoch. -/
def sourceEvent (source : AdapterSource) (type : GameEventType) (phase : RoundPhase)
    (crashPoint : Option Number) : SourceEvent where
  source
  event :=
    { type
      roundId := some "round-1"
      multiplier := some 2
      crashPoint
      phase := some phase
      source := source.text
      confidence := .high
      timestamp := "1970-01-01T00:00:00.001Z"
      latencyMs := 50 }
  receivedAt := 1
  now := 1
  timestamp := "1970-01-01T00:00:00.001Z"

/-- A started aggregator that observed nothing. -/
def startedAggregator : Aggregator where
  started := true
  currentObservation := { timestamp := "1970-01-01T00:00:00.000Z" }

/-- A crash that the page shows is aggregated as a crash in phase `running` without a crash point,
while the socket's last event was a tick; and the socket's start of the round that ticks is an
aggregated start of no new round.
-/
theorem crash_of_running_round
    : let ticked :=
        (startedAggregator.handleSourceEvent
          (sourceEvent .websocket .multiplierTick .running none)).1
      let crash := sourceEvent .dom .roundCrashed .crashed (some 2)
      let start := sourceEvent .websocket .roundStarted .running none
      ((ticked.handleSourceEvent crash).2.map fun event =>
          (event.type, event.phase, event.crashPoint))
        = some (.roundCrashed, some .running, none)
      ∧ ((ticked.handleSourceEvent start).2.map fun event => (event.type, event.roundId))
        = some (.roundStarted, ticked.currentObservation.roundId)
      ∧ ¬ Coherent ticked crash ∧ ¬ Coherent ticked start := by
  intro ticked crash start
  have crashed : (ticked.handleSourceEvent crash).2.map
      (fun event => (event.type, event.phase, event.crashPoint))
      = some (.roundCrashed, some .running, none) := by decide +kernel
  have started : (ticked.handleSourceEvent start).2.map
      (fun event => (event.type, event.roundId))
      = some (.roundStarted, ticked.currentObservation.roundId) := by decide +kernel
  refine ⟨crashed, started, ?_, ?_⟩
  · intro law
    obtain ⟨event, emitted, shown⟩ := Option.map_eq_some_iff.mp crashed
    simp only [Prod.mk.injEq] at shown
    have phase := (law.crashed event emitted shown.1).1
    rw [shown.2.1] at phase
    cases phase
  · intro law
    obtain ⟨event, emitted, shown⟩ := Option.map_eq_some_iff.mp started
    simp only [Prod.mk.injEq] at shown
    obtain ⟨roundId, named, new⟩ := law.started event emitted shown.1
    exact new (shown.2.symm.trans named)

end CrashWave.Game.Aggregator
