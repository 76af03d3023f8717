import CrashWave.Game.Types
import Mathlib.Data.List.Sort

/-! The aggregator of what the adapters observe. An event of one adapter makes an event of the
same type, filled with the observation of the most trusted adapter that is fresh; how far it is
trusted follows from how many adapters are fresh, how slow they are and where they differ.
-/

namespace CrashWave.Game

open JavaScript

/-- The adapters that the aggregator listens to. -/
inductive AdapterSource where
  | dom
  | websocket
  | api
  deriving DecidableEq

namespace AdapterSource

def text : AdapterSource → String
  | .dom => "dom"
  | .websocket => "websocket"
  | .api => "api"

/-- In the order of `sourceStates`. -/
def all : List AdapterSource := [.dom, .websocket, .api]

/-- The most trusted first. -/
def priority : List AdapterSource := [.websocket, .dom, .api]

end AdapterSource

/-- A `SourceSnapshot` of the aggregator. -/
structure AdapterSnapshot where
  source : AdapterSource
  roundId : Option String
  multiplier : Option Number
  phase : Option RoundPhase
  crashPoint : Option Number
  timestamp : String
  latencyMs : Number
  healthy : Bool
  deriving DecidableEq

/-- What is kept of a source; its snapshot is its own. -/
structure SourceState (source : AdapterSource) where
  lastEventAt : Int := 0
  lastSnapshot : Option { snapshot : AdapterSnapshot // snapshot.source = source } := none
  healthy : Bool := false
  errorCount : Nat := 0

/-- Values that two sources differ in; which field they are of follows from their kind. -/
inductive ConflictValues where
  | roundId (first second : String)
  | multiplier (first second : Number)
  | phase (first second : RoundPhase)
  | crashPoint (first second : Number)
  deriving DecidableEq

structure SourceConflict where
  sources : AdapterSource × AdapterSource
  values : ConflictValues
  deriving DecidableEq

structure AggregatedObservation where
  roundId : Option String := none
  multiplier : Option Number := none
  phase : RoundPhase := .idle
  crashPoint : Option Number := none
  confidence : ObservationConfidence := .low
  sources : List AdapterSource := []
  timestamp : String
  latencyMs : Number := 0
  conflicts : List SourceConflict := []
  deriving DecidableEq

structure Aggregator where
  staleThresholdMs : Number := 2000
  started : Bool := false
  sourceStates : (source : AdapterSource) → SourceState source := fun _ => {}
  currentObservation : AggregatedObservation
  conflictHistory : List SourceConflict := []
  eventCount : Nat := 0

-----------------------------------------------------------------------------------------
-- Conflicts and confidence
-----------------------------------------------------------------------------------------

/-- `Math.abs(a - b) > 0.01`. -/
def apart (a b : Number) : Bool := (.finite (1 / 100) : Number) < (a - b).abs

/-- The conflict of two values of a field, where both are there and differ. -/
def conflictIn {α : Type} (sources : AdapterSource × AdapterSource) (first second : Option α)
    (differ : α → α → Bool) (values : α → α → ConflictValues) : List SourceConflict :=
  match first, second with
  | some first, some second =>
      if differ first second then [{ sources, values := values first second }] else []
  | _, _ => []

theorem conflictIn_eq_nil_iff {α : Type} {sources : AdapterSource × AdapterSource}
    {first second : Option α} {differ : α → α → Bool} {values : α → α → ConflictValues}
    : conflictIn sources first second differ values = []
      ↔ ∀ one ∈ first, ∀ other ∈ second, differ one other = false := by
  cases first <;> cases second <;> simp [conflictIn]

/-- The conflicts of two snapshots, field by field. A field that one of them lacks is in no
conflict, and neither are an empty round id and an unknown phase.
-/
def conflictsOf (a b : AdapterSnapshot) : List SourceConflict :=
  let sources := (a.source, b.source)
  conflictIn sources (truthyText a.roundId) (truthyText b.roundId)
    (fun first second => first ≠ second) .roundId
  ++ conflictIn sources a.multiplier b.multiplier apart .multiplier
  ++ conflictIn sources a.phase b.phase
    (fun first second => first ≠ second ∧ first ≠ .unknown ∧ second ≠ .unknown) .phase
  ++ conflictIn sources a.crashPoint b.crashPoint apart .crashPoint

/-- The conflicts of each snapshot with the later ones. -/
def detectConflicts : List AdapterSnapshot → List SourceConflict
  | [] => []
  | snapshot :: rest => rest.flatMap (conflictsOf snapshot) ++ detectConflicts rest

/-- The mean latency; the start of the sum is zero. -/
def averageLatency (snapshots : List AdapterSnapshot) : Number :=
  ((snapshots.map AdapterSnapshot.latencyMs).foldl (· + ·) 0).divide snapshots.length

/-- An entry of `CONFIDENCE_THRESHOLDS`. -/
structure ConfidenceThreshold where
  minAgreeingSources : Nat
  maxLatencyMs : Number
  maxConflictScore : Nat

namespace ConfidenceThreshold

def high : ConfidenceThreshold where
  minAgreeingSources := 2
  maxLatencyMs := 500
  maxConflictScore := 0

def medium : ConfidenceThreshold where
  minAgreeingSources := 1
  maxLatencyMs := 1000
  maxConflictScore := 1

/-- As many sources, as fast and with as few conflicts. -/
def reachedBy (threshold : ConfidenceThreshold) (healthySources : Nat) (avgLatency : Number)
    (conflicts : Nat) : Bool :=
  threshold.minAgreeingSources ≤ healthySources ∧ avgLatency < threshold.maxLatencyMs
    ∧ conflicts ≤ threshold.maxConflictScore

end ConfidenceThreshold

namespace Aggregator

/-- The snapshots are counted; nothing says that they agree. -/
def calculateConfidence (snapshots : List AdapterSnapshot) (conflicts : List SourceConflict)
    : ObservationConfidence :=
  let healthySources := (snapshots.filter (·.healthy)).length
  let avgLatency : Number :=
    if snapshots = [] then .infinity false else averageLatency snapshots
  if ConfidenceThreshold.high.reachedBy healthySources avgLatency conflicts.length then .high
  else if ConfidenceThreshold.medium.reachedBy healthySources avgLatency conflicts.length then
    .medium
  else .low

-----------------------------------------------------------------------------------------
-- The observation
-----------------------------------------------------------------------------------------

/-- The snapshot of a source, while it is fresh. -/
def freshSnapshot (aggregator : Aggregator) (now : Int) (source : AdapterSource)
    : Option AdapterSnapshot :=
  let state := aggregator.sourceStates source
  let age : Number := .finite (now - state.lastEventAt : Int)
  if age < aggregator.staleThresholdMs * 2 then state.lastSnapshot.map Subtype.val else none

def freshSnapshots (aggregator : Aggregator) (now : Int) : List AdapterSnapshot :=
  AdapterSource.all.filterMap (aggregator.freshSnapshot now)

/-- By the priority of the source, then by latency. -/
def sortsBefore (a b : AdapterSnapshot) : Prop :=
  let first := AdapterSource.priority.idxOf a.source
  let second := AdapterSource.priority.idxOf b.source
  first < second ∨ first = second ∧ ¬ b.latencyMs < a.latencyMs

instance (a b : AdapterSnapshot) : Decidable (sortsBefore a b) :=
  inferInstanceAs (Decidable (_ ∨ _ ∧ _))

/-- The conflicts that are remembered: the last fifty. -/
def rememberConflicts (history conflicts : List SourceConflict) : List SourceConflict :=
  let all := history ++ conflicts
  if conflicts.length = 0 then history else all.drop (all.length - 50)

/-- `aggregateObservations`, with the conflicts that it remembers. -/
def aggregateObservations (aggregator : Aggregator) (now : Int) (timestamp : String)
    : AggregatedObservation × List SourceConflict :=
  let snapshots := aggregator.freshSnapshots now
  let sortedSnapshots := snapshots.insertionSort sortsBefore
  match sortedSnapshots.head? with
  | none =>
      ({ aggregator.currentObservation with confidence := .low, sources := [], timestamp },
        aggregator.conflictHistory)
  | some primary =>
      let conflicts := detectConflicts snapshots
      ({ roundId := primary.roundId
         multiplier := primary.multiplier
         phase := primary.phase.getD .idle
         crashPoint := primary.crashPoint
         confidence := calculateConfidence sortedSnapshots conflicts
         sources := snapshots.map (·.source)
         timestamp
         latencyMs := (averageLatency snapshots).round
         conflicts },
        rememberConflicts aggregator.conflictHistory conflicts)

/-- Stores what an adapter tells. -/
def receive (aggregator : Aggregator) (source : AdapterSource) (event : NormalizedGameEvent)
    (receivedAt : Int) : Aggregator :=
  let snapshot : AdapterSnapshot :=
    { source
      roundId := event.roundId
      multiplier := event.multiplier
      phase := event.phase
      crashPoint := event.crashPoint
      timestamp := event.timestamp
      latencyMs := event.latencyMs
      healthy := true }
  { aggregator with
    eventCount := aggregator.eventCount + 1
    sourceStates :=
      Function.update aggregator.sourceStates source
        { aggregator.sourceStates source with
          lastEventAt := receivedAt
          healthy := true
          lastSnapshot := some ⟨snapshot, rfl⟩ } }

/-- An event of an adapter, with the readings of the clock: when it is stored, when the snapshots
are aged, and the time of the observation.
-/
structure SourceEvent where
  source : AdapterSource
  event : NormalizedGameEvent
  receivedAt : Int
  now : Int
  timestamp : String

/-- The event that is emitted for an observation. -/
def aggregatedEvent (type : GameEventType) (observation : AggregatedObservation)
    : NormalizedGameEvent where
  type
  roundId := observation.roundId
  multiplier := observation.multiplier
  crashPoint := observation.crashPoint
  phase := some observation.phase
  source := (observation.sources.head?.map AdapterSource.text).getD "unknown"
  confidence := observation.confidence
  timestamp := observation.timestamp
  latencyMs := observation.latencyMs

/-- `handleSourceEvent`: the aggregator afterwards, and the event that is emitted. -/
def handleSourceEvent (aggregator : Aggregator) (input : SourceEvent)
    : Aggregator × Option NormalizedGameEvent :=
  if aggregator.started then
    let received := aggregator.receive input.source input.event input.receivedAt
    let (observation, conflictHistory) :=
      received.aggregateObservations input.now input.timestamp
    ({ received with currentObservation := observation, conflictHistory },
      some (aggregatedEvent input.event.type observation))
  else (aggregator, none)

-----------------------------------------------------------------------------------------
-- The leading snapshot
-----------------------------------------------------------------------------------------

/-- The fresh snapshot of the most trusted source that has one. -/
def leading (aggregator : Aggregator) (now : Int) : Option AdapterSnapshot :=
  AdapterSource.priority.findSome? (aggregator.freshSnapshot now)

variable {aggregator : Aggregator} {now : Int} {source : AdapterSource}
  {snapshot : AdapterSnapshot}

theorem freshSnapshot_source (fresh : aggregator.freshSnapshot now source = some snapshot)
    : snapshot.source = source := by
  simp only [freshSnapshot, Option.ite_none_right_eq_some, Option.map_eq_some_iff] at fresh
  obtain ⟨-, own, -, rfl⟩ := fresh
  exact own.property

/-- The snapshots are sorted by their sources, which differ, so the first one leads. -/
theorem head_sorted_eq_leading (aggregator : Aggregator) (now : Int)
    : ((aggregator.freshSnapshots now).insertionSort sortsBefore).head?
      = aggregator.leading now := by
  have ofDom : ∀ snapshot ∈ aggregator.freshSnapshot now .dom, snapshot.source = .dom :=
    fun _ => freshSnapshot_source
  have ofWebsocket : ∀ snapshot ∈ aggregator.freshSnapshot now .websocket,
      snapshot.source = .websocket :=
    fun _ => freshSnapshot_source
  have ofApi : ∀ snapshot ∈ aggregator.freshSnapshot now .api, snapshot.source = .api :=
    fun _ => freshSnapshot_source
  simp only [freshSnapshots, leading, AdapterSource.all, AdapterSource.priority,
    List.filterMap_cons, List.filterMap_nil, List.findSome?_cons, List.findSome?_nil]
  generalize aggregator.freshSnapshot now .dom = dom at ofDom
  generalize aggregator.freshSnapshot now .websocket = websocket at ofWebsocket
  generalize aggregator.freshSnapshot now .api = api at ofApi
  -- whichever of the three are there, the sources alone decide the order
  cases dom <;> cases websocket <;> cases api <;>
  simp_all [sortsBefore, AdapterSource.priority]

end Aggregator

end CrashWave.Game
